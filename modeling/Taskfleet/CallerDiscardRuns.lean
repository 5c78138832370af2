import Taskfleet.Audits
import Taskfleet.CallerDiscard
import Taskfleet.Housed
import Taskfleet.Lasting
import Taskfleet.Reducer.Rewrites

/-
  Discards of what a caller's run has left, any number of
  them at once, and their acknowledgements, among other
  writers of the run and whatever happens to git, the kernel
  and the lock files.

  Each call relies on others for what its lease protects. The
  receipts of the run are written under the lease alone, and
  nothing but a call that has it destroys anything.

  Main declarations:
    * `setting`, `Leased`, `contract`
    * `Discards`, `compatible`
    * `discard_under_sole_receipt`
    * `ended_discard_left_nothing`
-/

------------------------------------------------------------
-- The Setting
------------------------------------------------------------

namespace Taskfleet

open Checkouts Fallible Threads

namespace CallerDiscard

variable {tool : Git}

/-
  What happens beside the calls: the sections of writers that
  record no receipt, moves of git and the kernel, and all the
  rest, but for the leases that calls have.
-/
inductive Moves
    (env : RunEnv) (sites : Site → Site → Prop)
    (w : CallerHost) : CallerHost → Prop where
| writes (writer : Writer) (d : Disk)
    (hOther : ∀ r, writer.Asks r → r.kind ≠ discardAuthorized)
    (hLeaves : (writer.run env).Leaves w.disk d) :
    Moves env sites w { w with disk := d }
| site (s : Site)
    (hSite : sites w.site s) :
    Moves env sites w { w with site := s }
| rest (w' : CallerHost)
    (hDisk : w'.disk = w.disk)
    (hSite : w'.site = w.site)
    (hLeases : ∀ inode i, w.leases inode = some (.call i) ↔
      w'.leases inode = some (.call i)) :
    Moves env sites w w'

/- The kernel releases what a process has held. -/
def release (i : Nat) (w : CallerHost) : CallerHost :=
  { w with
    leases := fun inode =>
      if w.leases inode = some (.call i) then none
      else w.leases inode }

def setting
    (env : RunEnv) (tool : Git) (errands : Nat → Errand)
    (sites : Site → Site → Prop) :
    Setting (callerInterface env tool) CliError Reply where
  moves := Moves env sites
  starts := fun i x => x = (errands i).run env
  ends := fun i w w' => w' = release i w

/- A created run that no call is at work on. -/
structure Initial
    (env : RunEnv)
    (C : Crowd (callerInterface env tool) CliError Reply) :
    Prop where
  booted : Booted env C.world.disk
  idle : ∀ i, C.threads i = none

------------------------------------------------------------
-- Contracts
------------------------------------------------------------

/- What endures of the run has endured. -/
structure Follows (env : RunEnv) (d d' : Disk) : Prop where
  backed : Backed env d → Backed env d'
  lasts : ∀ P, Enduring env P → Backed env d → P d → P d'

/- The call has the lease that the intent of the run names. -/
structure Leased
    (env : RunEnv) (i : Nat) (intent : CallerSettlementIntent)
    (w : CallerHost) : Prop where
  backed : Backed env w.disk
  intends : w.disk.Intends intent
  lease : w.leases (writerOf intent) = some (.call i)

def receipts (env : RunEnv) (w : CallerHost) : List Event :=
  receiptsOf env w.disk.events

/- What one call may rely on. -/
structure Rely
    (env : RunEnv) (sites : Site → Site → Prop) (i : Nat)
    (w w' : CallerHost) : Prop where
  follows : Follows env w.disk w'.disk
  leases : ∀ inode, w.leases inode = some (.call i) →
    w'.leases inode = some (.call i)
  receipts : ∀ intent, Leased env i intent w →
    receipts env w' = receipts env w
  site : ∀ intent, Leased env i intent w →
    Relation.ReflTransGen sites w.site w'.site

section Follows

variable {env : RunEnv} {d d' d'' : Disk}
variable {sites : Site → Site → Prop} {i j : Nat}
variable {intent : CallerSettlementIntent}
variable {w w' w'' : CallerHost}

theorem Follows.refl (env : RunEnv) (d : Disk) :
    Follows env d d :=
  ⟨id, fun _ _ _ => id⟩

theorem Follows.trans
    (hFirst : Follows env d d')
    (hSecond : Follows env d' d'') : Follows env d d'' where
  backed := fun h => hSecond.backed (hFirst.backed h)
  lasts := fun P hEnduring hBacked hHere =>
    hSecond.lasts P hEnduring (hFirst.backed hBacked)
      (hFirst.lasts P hEnduring hBacked hHere)

theorem follows_of_keeps
    {α : Type} {x : Locked α}
    (hBacked : Durable.Keeps (Backed env) x)
    (hKeeps : ∀ P, Enduring env P →
      Durable.Keeps (Legibly env P) x)
    (hLeaves : x.Leaves d d') : Follows env d d' where
  backed := fun h => Durable.wp_leaves (hBacked d h) hLeaves
  lasts := fun P hEnduring h hHere =>
    (Durable.wp_leaves
      (hKeeps P hEnduring d ⟨h.readable, hHere⟩) hLeaves).2

theorem Leased.later
    (hLeased : Leased env i intent w)
    (hFollows : Follows env w.disk w'.disk)
    (hLease : w'.leases (writerOf intent) = some (.call i)) :
    Leased env i intent w' where
  backed := hFollows.backed hLeased.backed
  intends :=
    hFollows.lasts (fun d => d.Intends intent)
      (intends_lasting env intent).enduring hLeased.backed
      hLeased.intends
  lease := hLease

theorem Rely.leased
    (hRely : Rely env sites i w w')
    (hLeased : Leased env i intent w) :
    Leased env i intent w' :=
  hLeased.later hRely.follows (hRely.leases _ hLeased.lease)

/- No two calls have the lease at once. -/
theorem Leased.sole
    {other : CallerSettlementIntent}
    (hLeft : Leased env i intent w)
    (hRight : Leased env j other w) : i = j := by
  obtain rfl := hLeft.intends.unique hRight.intends
  have hLease := hLeft.lease.symm.trans hRight.lease
  rw [Option.some.injEq, Holder.call.injEq] at hLease
  exact hLease

theorem Rely.refl (w : CallerHost) : Rely env sites i w w where
  follows := .refl env w.disk
  leases := fun _ h => h
  receipts := fun _ _ => rfl
  site := fun _ _ => .refl

theorem Rely.trans
    (hFirst : Rely env sites i w w')
    (hSecond : Rely env sites i w' w'') :
    Rely env sites i w w'' where
  follows := hFirst.follows.trans hSecond.follows
  leases := fun inode h =>
    hSecond.leases inode (hFirst.leases inode h)
  receipts := fun intent h =>
    (hSecond.receipts intent (hFirst.leased h)).trans
      (hFirst.receipts intent h)
  site := fun intent h =>
    (hFirst.site intent h).trans
      (hSecond.site intent (hFirst.leased h))

end Follows

------------------------------------------------------------
-- Guarantees
------------------------------------------------------------

/- There is one receipt, and this is what it says. -/
def Sole
    (r : Receipt) (seq : Nat) (logged : List Event) : Prop :=
  ∃ ev, logged = [ev] ∧ ev.seq = seq ∧
    ev.nodeId = some r.nodeId ∧
    ev.idempotencyKey = some r.settlementKey ∧
    asReceipt ev.data = some r

/- What a run that is over has recorded of its node. -/
def Recorded (target : Target) (d : Disk) : Prop :=
  (∃ m, d.manifest = some m ∧
    m.sourceRepo = some target.repo ∧
    m.sourceBranch = some target.source) ∧
  ∃ n, d.nodes.lookup .first = some n ∧
    n.status.isTerminal = true ∧
    n.worktreePath = some target.checkout ∧
    n.branch = some target.branch

/- Git is asked for the checkout, or for the branch. -/
inductive Asks
    (tool : Git) (target : Target) (oid : String)
    (s t : Site) : Prop where
| checkout (ok : Bool)
    (hRemove :
      tool.worktreeRemove s target.repo target.checkout true ok
        t)
| branch (ok : Bool)
    (hDelete :
      tool.BranchDeleteOid s target.repo target.branch oid ok
        t)

/- The checkout goes, or the branch from the commit. -/
inductive Destroys
    (target : Target) (oid : String) (s t : Site) : Prop where
| checkout (hOnly : s.OnlyAt target.checkout t)
| branch
    (hAt : s.refs target.repo (branchRef target.branch) =
      some oid)
    (hGone :
      s.RefGone target.repo (branchRef target.branch) t)

/-
  A discard takes what the run has recorded, under the lease
  and the one receipt that its own call has written.
-/
def Discards
    (env : RunEnv)
    (takes : Target → String → Site → Site → Prop)
    (errand : Errand) (i : Nat) (w w' : CallerHost) : Prop :=
  ∃ args intent target oid git seq,
    errand = .discard args intent ∧
    args.settlementKey = intent.key ∧
    Leased env i intent w ∧
    Sole (receipt env args intent target oid git) seq
      (receipts env w) ∧
    Recorded target w.disk ∧
    takes target oid w.site w'.site

/- What one command of a call does at most. -/
structure Guar
    (env : RunEnv) (tool : Git) (errand : Errand) (i : Nat)
    (w w' : CallerHost) : Prop where
  follows : Follows env w.disk w'.disk
  leases : ∀ inode h, w.leases inode = some h →
    w'.leases inode = some h
  receipts : receipts env w' = receipts env w ∨
    ∃ intent, Leased env i intent w
  sole : (CallerDiscard.receipts env w).length ≤ 1 →
    (CallerDiscard.receipts env w').length ≤ 1
  site : w'.site = w.site ∨
    Discards env (Asks tool) errand i w w'

abbrev contract
    (env : RunEnv) (tool : Git) (errands : Nat → Errand)
    (sites : Site → Site → Prop) (i : Nat) :
    Contract (callerInterface env tool) where
  who := i
  rely := Rely env sites i
  guar := fun _ => Guar env tool (errands i) i
  refl := .refl
  trans := .trans

/- What holds between any two steps. -/
structure Sane (env : RunEnv) (w : CallerHost) : Prop where
  backed : Backed env w.disk
  sole : (receipts env w).length ≤ 1

section Guarantees

variable {env : RunEnv} {errands : Nat → Errand}
variable {sites : Site → Site → Prop} {i j : Nat}
variable {errand : Errand} {intent : CallerSettlementIntent}
variable {w w' : CallerHost} {d d' : Disk}

theorem Guar.refl (w : CallerHost) :
    Guar env tool errand i w w where
  follows := .refl env w.disk
  leases := fun _ _ h => h
  receipts := .inl rfl
  sole := id
  site := .inl rfl

/- One call may rely on what another one guarantees. -/
theorem Guar.rely
    (hGuar : Guar env tool errand i w w')
    (hOther : i ≠ j) : Rely env sites j w w' where
  follows := hGuar.follows
  leases := fun inode h => hGuar.leases inode _ h
  receipts := by
    intro intent hLeased
    rcases hGuar.receipts with hSame | ⟨other, hOwn⟩
    · exact hSame
    · exact absurd (hOwn.sole hLeased) hOther
  site := by
    intro intent hLeased
    rcases hGuar.site with hSame | hDiscards
    · rw [hSame]
    · rcases hDiscards with ⟨_, _, _, _, _, _, _, _, hOwn, _⟩
      exact absurd (hOwn.sole hLeased) hOther

theorem receiptsOf_log
    {ev : Event}
    (hKind : ev.kind ≠ discardAuthorized) :
    receiptsOf env (d.log ev).events =
      receiptsOf env d.events := by
  rw [receiptsOf, receiptsOf, Disk.log_events,
    List.filter_append]
  simp [hKind]

/- Other writers record no receipt. -/
theorem receipts_of_writer
    {writer : Writer}
    (hOther : ∀ r, writer.Asks r → r.kind ≠ discardAuthorized)
    (hBacked : Backed env d)
    (hLeaves : (writer.run env).Leaves d d') :
    receiptsOf env d'.events = receiptsOf env d.events := by
  have hKept : Kept env (fun s => Backed env s ∧
      receiptsOf env s.events = receiptsOf env d.events) := by
    refine (kept_backed env).and (fun _ _ h => h) ?_ ?_
    · intro s ev ops k _ hHere _ _
      rwa [Disk.applyOps_events]
    · intro s ev hHere _
      rwa [Disk.advance_events]
  refine (Durable.wp_leaves
    (hKept.wp_writer writer ?_ ⟨hBacked, rfl⟩) hLeaves).2
  rintro s r ops hAsks ⟨hHere, hSame⟩ hAbreast _ hPlan
  exact ⟨hHere.log hAbreast.1 hAbreast.2 rfl hPlan,
    (receiptsOf_log (hOther r hAsks)).trans hSame⟩

theorem follows_of_writer
    {writer : Writer}
    (hLeaves : (writer.run env).Leaves d d') :
    Follows env d d' :=
  follows_of_keeps (Backed.keeps_writer env writer)
    (fun _ hEnduring => hEnduring.keeps_writer writer) hLeaves

theorem Moves.rely
    (hMoves : Moves env sites w w') :
    Rely env sites i w w' := by
  cases hMoves with
  | writes writer d hOther hLeaves =>
      exact {
        follows := follows_of_writer hLeaves
        leases := fun _ h => h
        receipts := fun _ hLeased =>
          receipts_of_writer hOther hLeased.backed hLeaves
        site := fun _ _ => .refl }
  | site s hSite =>
      exact {
        follows := .refl env w.disk
        leases := fun _ h => h
        receipts := fun _ _ => rfl
        site := fun _ _ => .single hSite }
  | rest _ hDisk hSite hLeases =>
      exact {
        follows := by
          rw [hDisk]
          exact .refl env w.disk
        leases := fun inode h => (hLeases inode i).mp h
        receipts := fun _ _ => by
          unfold receipts
          rw [hDisk]
        site := fun _ _ => by rw [hSite] }

theorem Sane.moves
    (hSane : Sane env w)
    (hMoves : Moves env sites w w') : Sane env w' := by
  cases hMoves with
  | writes writer d hOther hLeaves =>
      refine ⟨(follows_of_writer hLeaves).backed hSane.backed,
        ?_⟩
      unfold receipts
      rw [receipts_of_writer hOther hSane.backed hLeaves]
      exact hSane.sole
  | site s hSite => exact ⟨hSane.backed, hSane.sole⟩
  | rest _ hDisk hSite hLeases =>
      constructor
      · rw [hDisk]
        exact hSane.backed
      · unfold receipts
        rw [hDisk]
        exact hSane.sole

/- A process that is gone takes nothing but its own leases. -/
theorem rely_release
    (w : CallerHost) (hOther : i ≠ j) :
    Rely env sites j w (release i w) where
  follows := .refl env w.disk
  leases := by
    intro inode h
    change (if w.leases inode = some (.call i) then none
      else w.leases inode) = some (.call j)
    rw [h, if_neg (by simp [hOther.symm])]
  receipts := fun _ _ => rfl
  site := fun _ _ => .refl

end Guarantees

------------------------------------------------------------
-- Rules
------------------------------------------------------------

/- Commands that ask. -/
def Question : HostCmd → Prop
| .look | .guess => True
| .flock _ | .append _ | .worktreeRemove _ _
| .branchDelete _ _ _ => False

/- A call that keeps its contract, to this end. -/
abbrev Goes
    {α : Type}
    (env : RunEnv) (errands : Nat → Errand)
    (sites : Site → Site → Prop) (i : Nat)
    (x : Discarding env tool α) (Q : α → CallerHost → Prop)
    (w : CallerHost) : Prop :=
  x.wp (contract env tool errands sites i) Q (fun _ _ => True) w

section Rules

variable {α β : Type}
variable {env : RunEnv} {errands : Nat → Errand}
variable {sites : Site → Site → Prop} {i : Nat}
variable {intent : CallerSettlementIntent}
variable {P : CallerHost → Prop} {R : β → CallerHost → Prop}
variable {g : α → Discarding env tool β} {w : CallerHost}

theorem idles_question :
    (contract env tool errands sites i).Idles Question := by
  intro c hQuestion s a s' hPerform
  cases c with
  | look => exact ⟨hPerform.1, Guar.refl s⟩
  | guess => exact ⟨hPerform, Guar.refl s⟩
  | flock | append | worktreeRemove | branchDelete =>
      exact absurd hQuestion id

theorem goes_ask
    {f : CallerHost → Except CliError α}
    (hStable : (contract env tool errands sites i).Stable P)
    (hHere : P w)
    (hRun : ∀ w a, P w → f w = .ok a →
      Goes env errands sites i (g a) R w) :
    Goes env errands sites i (ask f >>= g) R w := by
  unfold Goes ask command
  rw [Thread.bind_assoc]
  apply Thread.wp_command_bind hStable hHere
  rintro w' a w'' hP ⟨rfl, rfl⟩
  exact ⟨Guar.refl _, Thread.wp_lift_bind
    (fun a hOk => hRun _ a hP hOk)⟩

theorem goes_survey
    {f : Site → (String → Option String) → Except CliError α}
    (hStable : (contract env tool errands sites i).Stable P)
    (hHere : P w)
    (hRun : ∀ w s heads a, P w → f s heads = .ok a →
      Goes env errands sites i (g a) R w) :
    Goes env errands sites i (survey f >>= g) R w := by
  unfold Goes survey command
  rw [Thread.bind_assoc]
  apply Thread.wp_command_bind hStable hHere
  rintro w' ⟨s, heads⟩ w'' hP hSame
  obtain rfl : w'' = w' := hSame
  exact ⟨Guar.refl _, Thread.wp_lift_bind
    (fun a hOk => hRun _ s heads a hP hOk)⟩

/- Questions whose answers do not matter. -/
theorem goes_idle
    {x : Discarding env tool α}
    (hOnly : x.Only Question)
    (hStable : (contract env tool errands sites i).Stable P)
    (hHere : P w)
    (hRun : ∀ a w, P w → Goes env errands sites i (g a) R w) :
    Goes env errands sites i (x >>= g) R w :=
  Thread.wp_idle_bind hOnly idles_question hStable hHere hRun

theorem only_ask (f : CallerHost → Except CliError α) :
    (ask f : Discarding env tool α).Only Question :=
  Thread.Only.bind ⟨trivial, fun _ => trivial⟩
    (fun w => .lift (f w))

theorem only_survey
    (f : Site → (String → Option String) → Except CliError α) :
    (survey f : Discarding env tool α).Only Question :=
  Thread.Only.bind ⟨trivial, fun _ => trivial⟩
    (fun a => .lift (f a.1 a.2))

end Rules

------------------------------------------------------------
-- What Is Recorded
------------------------------------------------------------

section Recorded

variable {env : RunEnv} {s d d' : Disk} {ev : Event}
variable {ops : List ProjectionOp} {m m' : Manifest}
variable {n : Node} {target : Target}

/- No event moves the source of a run. -/
theorem planned_source
    {repo branch : String}
    (hPlanned : Planned env s ev ops)
    (hManifest : s.manifest = some m)
    (hMem : .manifest m' ∈ ops)
    (hSource : m.sourceRepo = some repo ∧
      m.sourceBranch = some branch) :
    m'.sourceRepo = some repo ∧
      m'.sourceBranch = some branch := by
  cases hPlanned with
  | nothing => simp at hMem
  | runCreated _ _ hNone =>
      rw [hNone] at hManifest
      cases hManifest
  | nodeAlone => simp at hMem
  | stepped => simp at hMem
  | runStatus m₀ st hKind hSome =>
      rw [hSome, Option.some.injEq] at hManifest
      subst hManifest
      simp only [List.mem_singleton,
        ProjectionOp.manifest.injEq] at hMem
      subst hMem
      exact hSource
  | nodeCreated id n m₀ _ _ _ _ hSome =>
      rw [hSome, Option.some.injEq] at hManifest
      subst hManifest
      simp only [List.mem_cons, reduceCtorEq,
        ProjectionOp.manifest.injEq, List.not_mem_nil,
        or_false, false_or] at hMem
      subst hMem
      refine ⟨hSource.1, ?_⟩
      unfold Manifest.materialize
      simp [hSource.2]
  | settlementIntent id n m₀ intent _ _ hSome =>
      rw [hSome, Option.some.injEq] at hManifest
      subst hManifest
      simp only [List.mem_singleton,
        ProjectionOp.manifest.injEq] at hMem
      subst hMem
      exact hSource

/- Nor does one move what a terminal node has. -/
theorem enduring_recorded (env : RunEnv) (target : Target) :
    Enduring env (Recorded target) := by
  apply Enduring.and
  · apply (lasting_of_manifest _ _).enduring
    · intro s ev ops m m' hPlanned hSome hMem hSource
      exact planned_source hPlanned hSome hMem hSource
    · exact fun _ _ _ hSource => hSource
  · apply (lasting_of_node _).enduring
    rintro s ev n n' hRewrite ⟨hTerminal, hPath, hBranch⟩
    cases hRewrite with
    | status _ _ _ hLive => simp [hTerminal] at hLive
    | retried _ _ hLive => simp [hTerminal] at hLive
    | resumed _ _ _ _ _ _ hLive => simp [hTerminal] at hLive
    | reported _ _ hSettled => exact ⟨hSettled, hPath, hBranch⟩
    | _ => exact ⟨hTerminal, hPath, hBranch⟩

/- Both projections, told apart from what they say. -/
def Seen (m : Manifest) (n : Node) (d : Disk) : Prop :=
  ∀ target, n.status.isTerminal = true →
    targetOf m n = .ok target → Recorded target d

theorem enduring_seen (env : RunEnv) (m : Manifest) (n : Node) :
    Enduring env (Seen m n) where
  logged := fun s s' hSeen hManifest hNodes hEvents target
      hOver hTarget =>
    (enduring_recorded env target).logged s s'
      (hSeen target hOver hTarget) hManifest hNodes hEvents
  folded := fun s ev ops j hSeen hPlan target hOver hTarget =>
    (enduring_recorded env target).folded s ev ops j
      (hSeen target hOver hTarget) hPlan
  advanced := fun s seq hSeen target hOver hTarget =>
    (enduring_recorded env target).advanced s seq
      (hSeen target hOver hTarget)

theorem seen_of_state
    (hState : stateAt env d = .ok (m, n)) : Seen m n d := by
  intro target hTerminal hTarget
  simp only [stateAt, bind_eq_ok, mapError_eq_ok, orError_eq_ok,
    pure_eq, Except.ok.injEq, Prod.mk.injEq] at hState
  simp only [targetOf, bind_eq_ok, orError_eq_ok, pure_eq,
    Except.ok.injEq] at hTarget
  rcases hState with
    ⟨_, hManifest, _, hNode, _, rfl, _, rfl, rfl, rfl⟩
  rcases hTarget with
    ⟨repo, hRepo, source, hSource, path, hPath, branch, hBranch,
      rfl⟩
  exact ⟨⟨_, (readManifestOpt_eq_some.mp hManifest).1, hRepo,
      hSource⟩,
    _, (readNodeOpt_eq_some.mp hNode).1, hTerminal, hPath,
      hBranch⟩

end Recorded

------------------------------------------------------------
-- What Is Stable
------------------------------------------------------------

/-
  The lease, what endures of the run meanwhile, and what the
  lease keeps of the receipts.
-/
structure Held
    (env : RunEnv) (i : Nat) (intent : CallerSettlementIntent)
    (P : Disk → Prop) (X : List Event → Prop)
    (w : CallerHost) : Prop where
  leased : Leased env i intent w
  disk : P w.disk
  receipts : X (receipts env w)

section Stable

variable {α β : Type}
variable {env : RunEnv} {errands : Nat → Errand}
variable {sites : Site → Site → Prop} {i : Nat}
variable {intent : CallerSettlementIntent} {held : Identity}
variable {P : Disk → Prop} {X : List Event → Prop}
variable {R : β → CallerHost → Prop} {w : CallerHost}

theorem stable_held (hEnduring : Enduring env P) :
    (contract env tool errands sites i).Stable
      (Held env i intent P X) := by
  intro w w' hRely hHeld
  refine ⟨hRely.leased hHeld.leased,
    hRely.follows.lasts P hEnduring hHeld.leased.backed
      hHeld.disk, ?_⟩
  rw [hRely.receipts intent hHeld.leased]
  exact hHeld.receipts

theorem stable_leased (intent : CallerSettlementIntent) :
    (contract env tool errands sites i).Stable
      (Leased env i intent) :=
  fun _ _ hRely hLeased => hRely.leased hLeased

theorem stable_backed :
    (contract env tool errands sites i).Stable
      (fun w => Backed env w.disk) :=
  fun _ _ hRely hBacked => hRely.follows.backed hBacked

theorem stable_locked (inode : Identity) :
    (contract env tool errands sites i).Stable (fun w =>
      Backed env w.disk ∧
        w.leases inode = some (.call i)) :=
  stable_backed.and
    (fun _ _ hRely hLease => hRely.leases inode hLease)

theorem enduring_true (env : RunEnv) :
    Enduring env (fun _ => True) :=
  ⟨fun _ _ _ _ _ _ => trivial, fun _ _ _ _ _ _ => trivial,
    fun _ _ _ => trivial⟩

------------------------------------------------------------
-- The Lease
------------------------------------------------------------

theorem writer_of_revalidated
    (hOk : revalidateAt env held intent w = .ok ()) :
    held = writerOf intent ∧ w.disk.Intends intent := by
  simp only [revalidateAt, bind_eq_ok, mapError_eq_ok,
    orError_eq_ok, refuseIf_eq_ok, not_or, not_not] at hOk
  rcases hOk with
    ⟨fence, _, _, _, m, hManifest, hHeld, hWriter, _, hIntent⟩
  refine ⟨hHeld.trans hWriter.symm, ?_⟩
  cases m with
  | none => cases hIntent
  | some m =>
      exact ⟨m, (readManifestOpt_eq_some.mp hManifest).1,
        hIntent⟩

/- One that takes the lock checks what it has. -/
theorem goes_try
    {g : Option Identity → Discarding env tool β}
    (hBacked : Backed env w.disk)
    (hHeld : ∀ w inode, Leased env i intent w →
      Goes env errands sites i (g (some inode)) R w)
    (hBusy : ∀ w, Backed env w.disk →
      Goes env errands sites i (g none) R w) :
    Goes env errands sites i (tryExclusive env intent >>= g)
      R w := by
  unfold tryExclusive
  rw [Thread.bind_assoc]
  apply goes_ask stable_backed hBacked
  intro w fence hBacked _
  rw [Thread.bind_assoc]
  apply goes_ask stable_backed hBacked
  intro w inode hBacked _
  rw [Thread.bind_assoc]
  apply Thread.wp_command_bind stable_backed hBacked
  intro w' ok w'' hBacked hPerform
  cases ok with
  | false =>
      obtain rfl : w'' = w' := hPerform
      exact ⟨.refl _, hBusy _ hBacked⟩
  | true =>
      obtain ⟨hFree, rfl⟩ := hPerform
      constructor
      · refine ⟨.refl env w'.disk, ?_, .inl rfl, id, .inl rfl⟩
        intro other h hLease
        have hNe : other ≠ inode := by
          rintro rfl
          rw [hFree] at hLease
          cases hLease
        exact (Function.update_of_ne hNe _ _).trans hLease
      rw [if_pos rfl, Thread.bind_assoc]
      refine goes_ask (stable_locked inode) ⟨hBacked, ?_⟩ ?_
      · exact Function.update_self inode _ _
      rintro w _ ⟨hBacked, hLease⟩ hOk
      rcases writer_of_revalidated hOk with ⟨rfl, hIntends⟩
      rw [Thread.bind_assoc]
      refine goes_ask (stable_leased intent)
        ⟨hBacked, hIntends, hLease⟩ ?_
      intro w again hLeased _
      rw [Thread.bind_assoc]
      exact Thread.wp_lift_bind
        (fun _ _ => hHeld w _ hLeased)

theorem goes_acquire
    {g : Identity → Discarding env tool β}
    (turns : Nat)
    (hBacked : Backed env w.disk)
    (hHeld : ∀ w inode, Leased env i intent w →
      Goes env errands sites i (g inode) R w) :
    Goes env errands sites i
      (acquireExclusive env intent turns >>= g) R w := by
  induction turns generalizing w with
  | zero =>
      unfold acquireExclusive
      rw [Thread.bind_assoc]
      exact goes_try hBacked hHeld
        (fun w _ => Thread.wp_fail _)
  | succ turns ih =>
      unfold acquireExclusive
      rw [Thread.bind_assoc]
      exact goes_try hBacked hHeld (fun w hBacked => ih hBacked)

end Stable

------------------------------------------------------------
-- Receipts
------------------------------------------------------------

section Receipts

variable {α β : Type}
variable {env : RunEnv} {errands : Nat → Errand}
variable {sites : Site → Site → Prop} {i seq : Nat}
variable {intent : CallerSettlementIntent} {held : Identity}
variable {expected : Receipt} {target : Target}
variable {w : CallerHost} {d d' : Disk}

theorem auditStep_eq_ok
    {found found' : Option Nat} {ev : Event}
    (hOk : auditStep intent expected found ev = .ok found') :
    found = none ∧ found' = some ev.seq ∧
      ev.nodeId = some intent.nodeId ∧
      ev.idempotencyKey = some expected.settlementKey ∧
      asReceipt ev.data = some expected := by
  simp only [auditStep, bind_eq_ok, orError_eq_ok,
    refuseIf_eq_ok, not_or, not_not, pure_eq, Except.ok.injEq,
    Bool.not_eq_true, Option.isSome_eq_false_iff,
    Option.isNone_iff_eq_none] at hOk
  rcases hOk with
    ⟨_, hParsed, _, ⟨hNode, hKey, rfl, hFirst⟩, hFound⟩
  exact ⟨hFirst, hFound.symm, hNode, hKey, hParsed⟩

/- An audit finds no receipt, or the one that is expected. -/
theorem auditAt_eq_ok
    {found : Option Nat}
    (hNode : expected.nodeId = intent.nodeId)
    (hOk : auditAt env intent expected w.disk = .ok found) :
    (found = none ∧ receipts env w = []) ∨
      ∃ seq, found = some seq ∧
        Sole expected seq (receipts env w) := by
  simp only [auditAt, bind_eq_ok, mapError_eq_ok] at hOk
  rcases hOk with ⟨events, hEvents, hFold⟩
  obtain rfl := readAllEvents_events hEvents
  change List.foldlM _ _ (receipts env w) = _ at hFold
  unfold Sole
  generalize receipts env w = logged at hFold ⊢
  cases logged with
  | nil =>
      cases hFold
      exact .inl ⟨rfl, rfl⟩
  | cons ev rest =>
      rw [List.foldlM_cons, bind_eq_ok] at hFold
      rcases hFold with ⟨found', hStep, hFold⟩
      have hOne := auditStep_eq_ok hStep
      cases rest with
      | nil =>
          cases hFold
          rw [← hNode] at hOne
          exact .inr ⟨ev.seq, hOne.2.1, ev, rfl, rfl, hOne.2.2⟩
      | cons ev' rest =>
          rw [List.foldlM_cons, bind_eq_ok] at hFold
          rcases hFold with ⟨_, hAgain, _⟩
          rw [(auditStep_eq_ok hAgain).1] at hOne
          cases hOne.2.1

theorem follows_of_append
    {r : Request} {a : Except Error AppendResult}
    (hRuns : AppendRuns env r d a d') : Follows env d d' := by
  have hLeaves : ∀ (r : Request) (d' : Disk),
      (appendAndApplyEvent env r).Leaves d d' →
      Follows env d d' := fun r d' =>
    follows_of_keeps (Backed.keeps_event env r)
      (fun _ hEnduring =>
        (hEnduring.sparing.keeps_event r).keeps allows_any)
  cases hRuns with
  | done now res hOk => exact hLeaves _ _ (.inl rfl)
  | refused => exact .refl env d
  | failed now e _ hCut => exact hLeaves _ _ hCut

/- An append writes one line at most. -/
theorem events_of_append
    {r : Request} {a : Except Error AppendResult}
    (hBacked : Backed env d)
    (hRuns : AppendRuns env r d a d') :
    d'.events = d.events ∨
      ∃ ev, d'.events = d.events ++ [ev] := by
  let Once := fun s : Disk =>
    s.lines = d.lines ∨ ∃ ev, s.lines = d.lines ++ [.event ev]
  have hOnce : ∀ r : Request,
      Durable.wp (appendAndApplyEvent env r) (fun _ => Once)
        (fun _ => Once) (fun _ => Once) d := by
    intro r
    have hKept := kept_backed env
    apply wp_appendAndApplyEvent
      (R := fun s => Backed env s ∧ s.lines = d.lines)
    · exact Durable.wp_mono (hKept.wp_catchUp hBacked)
        (fun _ _ h => ⟨h.1, h.2.1⟩) (fun _ _ h => .inl h.2)
        (fun _ _ h => .inl h.2)
    · exact fun _ _ _ hR _ _ => .inl hR.2
    · exact fun _ _ _ hR _ _ => .inl hR.2
    · rintro s ⟨hHere, hLines⟩ _
      have hAppend := hKept.wp_append (r := r)
        (fun s ops hHere _ hAbreast hPlan =>
          hHere.log hAbreast.1 hAbreast.2 rfl hPlan) hHere
      unfold appendAndApplyUnlocked at hAppend
      rw [Durable.wp_bind, hLines] at hAppend
      simp only [Durable.wp_pure] at hAppend
      exact Durable.wp_mono hAppend
        (fun _ _ h => .inr ⟨_, h.2.2⟩) (fun _ _ h => .inl h.2)
        (fun _ _ h => h.2.imp id (fun h => ⟨_, h⟩))
  have hEvents : Once d' → d'.events = d.events ∨
      ∃ ev, d'.events = d.events ++ [ev] := by
    rintro (hSame | ⟨ev, hLines⟩)
    · exact .inl (Disk.events_congr hSame)
    · right
      refine ⟨ev, ?_⟩
      rw [Disk.events, hLines, List.filterMap_append]
      rfl
  apply hEvents
  cases hRuns with
  | done now res hOk => exact Durable.wp_final (hOnce _)
  | refused => exact .inl rfl
  | failed now e _ hCut => exact Durable.wp_leaves (hOnce _) hCut

theorem sole_of_append
    {r : Request} {a : Except Error AppendResult}
    (hBacked : Backed env d)
    (hNone : receiptsOf env d.events = [])
    (hRuns : AppendRuns env r d a d') :
    (receiptsOf env d'.events).length ≤ 1 := by
  rcases events_of_append hBacked hRuns with hSame | ⟨ev, hMore⟩
  · rw [hSame, hNone]
    exact Nat.zero_le 1
  · rw [hMore, receiptsOf, List.filter_append]
    change (receiptsOf env d.events ++ _).length ≤ 1
    rw [hNone, List.nil_append]
    exact List.length_filter_le _ [ev]

/- A receipt is written where there is none. -/
theorem goes_append
    {r : Request}
    {g : Except Error AppendResult → Discarding env tool β}
    {R : β → CallerHost → Prop}
    (hHere : Held env i intent (fun _ => True)
      (fun logged => logged = []) w)
    (hRun : ∀ w a, Leased env i intent w →
      Goes env errands sites i (g a) R w) :
    Goes env errands sites i (command (.append r) >>= g)
      R w := by
  apply Thread.wp_command_bind
    (stable_held (enduring_true env)) hHere
  rintro w a _ ⟨hLeased, _, hNone⟩ ⟨d, hRuns, rfl⟩
  have hFollows := follows_of_append hRuns
  have hLater : Leased env i intent { w with disk := d } :=
    hLeased.later hFollows hLeased.lease
  exact ⟨⟨hFollows, fun _ _ h => h, .inr ⟨intent, hLeased⟩,
    fun _ => sole_of_append hLeased.backed hNone hRuns,
    .inl rfl⟩, hRun _ a hLater⟩

end Receipts

------------------------------------------------------------
-- Checks
------------------------------------------------------------

/- All that a call knows right after its checks. -/
def Checked
    (env : RunEnv) (i : Nat) (intent : CallerSettlementIntent)
    (target : Target) (r : Receipt) (seq : Nat) :
    CallerHost → Prop :=
  Held env i intent (Recorded target) (Sole r seq)

section Checks

variable {α β : Type}
variable {env : RunEnv} {errands : Nat → Errand}
variable {sites : Site → Site → Prop} {i seq : Nat}
variable {intent : CallerSettlementIntent} {held : Identity}
variable {expected : Receipt} {target : Target}
variable {m : Manifest} {n : Node}
variable {P : Disk → Prop} {X : List Event → Prop}
variable {R : β → CallerHost → Prop} {w : CallerHost}

theorem stable_checked :
    (contract env tool errands sites i).Stable
      (Checked env i intent target expected seq) :=
  stable_held (enduring_recorded env target)

theorem terminal_of_over
    (hOver : overAt env m n = .ok ()) :
    n.status.isTerminal = true := by
  simp only [overAt, refuseIf_eq_ok, not_or, not_not,
    Bool.not_eq_false] at hOver
  rcases hOver with ⟨_, _, _, _, _, hDiscardable, hSame, _⟩
  rw [hSame]
  unfold Status.discardable at hDiscardable
  rcases of_decide_eq_true hDiscardable with h | h <;>
    simp [h, Status.isTerminal]

theorem goes_state
    {g : Manifest × Node → Discarding env tool β}
    (hHere : Held env i intent (fun _ => True) X w)
    (hRun : ∀ w m n, Held env i intent (Seen m n) X w →
      Goes env errands sites i (g (m, n)) R w) :
    Goes env errands sites i (state env >>= g) R w := by
  refine goes_ask (stable_held (enduring_true env)) hHere ?_
  rintro w ⟨m, n⟩ hHeld hState
  exact hRun w m n
    ⟨hHeld.leased, seen_of_state hState, hHeld.receipts⟩

theorem goes_terminal
    {g : Unit → Discarding env tool β}
    (hEnduring : Enduring env P)
    (hHere : Held env i intent P X w)
    (hRun : ∀ w, Held env i intent P X w →
      overAt env m n = .ok () →
      Goes env errands sites i (g ()) R w) :
    Goes env errands sites i (terminal env m n >>= g) R w := by
  unfold terminal
  rw [Thread.bind_assoc]
  apply Thread.wp_lift_bind
  intro _ hOver
  refine goes_ask (stable_held hEnduring) hHere ?_
  exact fun w _ hHeld _ => hRun w hHeld hOver

/- The target is what a run that is over has recorded. -/
theorem goes_identities
    {g : Target → Discarding env tool β}
    (hTerminal : n.status.isTerminal = true)
    (hHere : Held env i intent (Seen m n) X w)
    (hRun : ∀ w target,
      Held env i intent (Recorded target) X w →
      Goes env errands sites i (g target) R w) :
    Goes env errands sites i (identities env m n >>= g)
      R w := by
  unfold identities
  rw [Thread.bind_assoc]
  apply Thread.wp_lift_bind
  intro target hTarget
  rw [Thread.bind_assoc]
  refine goes_survey (stable_held (enduring_seen env m n)) hHere
    ?_
  intro w _ _ _ hHeld _
  exact hRun w target ⟨hHeld.leased,
    hHeld.disk target hTerminal hTarget, hHeld.receipts⟩

theorem only_history (n : Node) (checkout : String) :
    (history env n checkout :
      Discarding env tool Unit).Only Question :=
  only_ask _

theorem only_sourceChecked (target : Target) :
    (sourceChecked env target :
      Discarding env tool Unit).Only Question :=
  only_survey _

theorem only_observeChecked (m : Manifest) (n : Node) :
    (observeChecked env m n :
      Discarding env tool (Option RetainedObservation)).Only
      Question :=
  only_survey _

theorem only_sourceGitIdentity (repo : String) :
    (sourceGitIdentity env repo :
      Discarding env tool Identity).Only Question :=
  only_survey _

theorem only_verify (n : Node) (repo source : String) :
    (verify env held intent n repo source :
      Discarding env tool Unit).Only Question :=
  (only_ask _).bind fun _ => (Thread.Only.lift _).bind fun _ =>
    (Thread.Only.lift _).bind fun _ =>
      (only_survey _).bind fun _ => only_ask _

/- What a call has checked is so, and stays so. -/
theorem goes_check
    {g : Unit → Discarding env tool β}
    (hNode : expected.nodeId = intent.nodeId)
    (hLeased : Leased env i intent w)
    (hRun : ∀ w, Checked env i intent target expected seq w →
      Goes env errands sites i (g ()) R w) :
    Goes env errands sites i
      (check env held intent target expected seq >>= g)
      R w := by
  unfold check
  rw [Thread.bind_assoc]
  refine goes_ask (stable_leased intent) hLeased ?_
  intro w _ hLeased _
  rw [Thread.bind_assoc]
  refine goes_ask (stable_leased intent) hLeased ?_
  intro w recorded hLeased hAudit
  rw [Thread.bind_assoc]
  apply Thread.wp_lift_bind
  intro _ hSeq
  rw [refuseIf_eq_ok, not_not] at hSeq
  subst hSeq
  rcases auditAt_eq_ok hNode hAudit with
    ⟨hNone, _⟩ | ⟨seq', hSeq, hFound⟩
  · cases hNone
  obtain rfl := Option.some.inj hSeq
  rw [Thread.bind_assoc]
  apply goes_state (X := Sole expected seq)
    ⟨hLeased, trivial, hFound⟩
  intro w m n hHeld
  dsimp only
  rw [Thread.bind_assoc]
  apply goes_terminal (enduring_seen env m n) hHeld
  intro w hHeld hOver
  rw [Thread.bind_assoc]
  apply goes_identities (terminal_of_over hOver) hHeld
  intro w current hHeld
  rw [Thread.bind_assoc]
  apply Thread.wp_lift_bind
  intro _ hCurrent
  simp only [refuseIf_eq_ok, not_or, not_not] at hCurrent
  obtain rfl := hCurrent.2
  rw [Thread.bind_assoc]
  refine goes_idle (only_history n _) stable_checked hHeld ?_
  intro _ w hHeld
  rw [Thread.bind_assoc]
  refine goes_idle (only_sourceChecked _) stable_checked hHeld
    ?_
  intro _ w hHeld
  rw [Thread.bind_assoc]
  refine goes_idle (only_observeChecked m n) stable_checked
    hHeld ?_
  intro _ w hHeld
  rw [Thread.bind_assoc]
  refine goes_idle (only_sourceGitIdentity _) stable_checked
    hHeld ?_
  intro _ w hHeld
  rw [Thread.bind_assoc]
  apply Thread.wp_lift_bind
  intro _ _
  exact goes_survey stable_checked hHeld
    (fun w _ _ _ hHeld _ => hRun w hHeld)

end Checks

------------------------------------------------------------
-- Calls
------------------------------------------------------------

/- What the receipt is about. -/
def Receipt.target (r : Receipt) : Target where
  repo := r.sourceRepo
  source := r.sourceBranch
  checkout := r.worktreePath
  branch := r.branch

structure Absent (target : Target) (s : Site) : Prop where
  path : s.entries target.checkout = none
  rows : ∀ row ∈ s.worktrees target.repo,
    row.path ≠ target.checkout
  branch : s.refs target.repo (branchRef target.branch) = none

/- What is gone is not put back by others. -/
structure NothingBack
    (sites : Site → Site → Prop) (target : Target) : Prop where
  path : ∀ s t, sites s t →
    s.entries target.checkout = none →
    t.entries target.checkout = none
  rows : ∀ s t, sites s t →
    (∀ row ∈ s.worktrees target.repo,
      row.path ≠ target.checkout) →
    ∀ row ∈ t.worktrees target.repo,
      row.path ≠ target.checkout
  branch : ∀ s t, sites s t →
    s.refs target.repo (branchRef target.branch) = none →
    t.refs target.repo (branchRef target.branch) = none

def PathGone
    (sites : Site → Site → Prop) (target : Target) (s : Site) :
    Prop :=
  NothingBack sites target → s.entries target.checkout = none

def RowsGone
    (sites : Site → Site → Prop) (target : Target) (s : Site) :
    Prop :=
  NothingBack sites target →
    ∀ row ∈ s.worktrees target.repo,
      row.path ≠ target.checkout

def BranchGone
    (sites : Site → Site → Prop) (target : Target) (s : Site) :
    Prop :=
  NothingBack sites target →
    s.refs target.repo (branchRef target.branch) = none

/- How a call finds the run when it has come to its end. -/
structure Over
    (env : RunEnv) (sites : Site → Site → Prop) (i : Nat)
    (intent : CallerSettlementIntent) (target : Target)
    (r : Receipt) (seq : Nat) (w : CallerHost) : Prop where
  checked : Checked env i intent target r seq w
  names : r.target = target
  key : r.settlementKey = intent.key
  gone : NothingBack sites target → Absent target w.site

/- The reply is about the receipt. -/
def Told (r : Receipt) (seq : Nat) : Errand → Reply → Prop
| .discard args _, .discarded view =>
    r.reason = args.reason ∧ r.actor = args.actor ∧
      view.seq = seq ∧ view.reason = r.reason ∧
      view.actor = r.actor
| .acknowledge uid _ _, .acknowledged =>
    r.force = true ∧ r.actor = "uid:" ++ toString uid
| .discard _ _, .acknowledged
| .acknowledge _ _ _, .discarded _ => False

def Answers
    (env : RunEnv) (errands : Nat → Errand)
    (sites : Site → Site → Prop) (i : Nat)
    (reply : Reply) (w : CallerHost) : Prop :=
  ∃ intent target r seq,
    Over env sites i intent target r seq w ∧
      Told r seq (errands i) reply

section Calls

variable {β : Type}
variable {env : RunEnv} {errands : Nat → Errand}
variable {sites : Site → Site → Prop} {i seq : Nat}
variable {intent : CallerSettlementIntent} {held : Identity}
variable {args : CallArgs} {target : Target} {oid : String}
variable {git : Identity} {r : Receipt} {n : Node}
variable {R : β → CallerHost → Prop} {w : CallerHost}

/- What is asked of git, is asked under the receipt. -/
theorem guar_of_asks
    {t : Site}
    (hErrand : errands i = .discard args intent)
    (hKey : args.settlementKey = intent.key)
    (hChecked : Checked env i intent target
      (receipt env args intent target oid git) seq w)
    (hAsks : Asks tool target oid w.site t) :
    Guar env tool (errands i) i w { w with site := t } where
  follows := .refl env w.disk
  leases := fun _ _ h => h
  receipts := .inl rfl
  sole := id
  site := .inr
    ⟨args, intent, target, oid, git, seq, hErrand, hKey,
      hChecked.leased, hChecked.receipts, hChecked.disk, hAsks⟩

theorem Leased.site
    (hLeased : Leased env i intent w) (t : Site) :
    Leased env i intent { w with site := t } :=
  ⟨hLeased.backed, hLeased.intends, hLeased.lease⟩

theorem goes_removeCheckout
    {present : Bool}
    {g : Unit → Discarding env tool β}
    (hErrand : errands i = .discard args intent)
    (hKey : args.settlementKey = intent.key)
    (hLeased : Leased env i intent w)
    (hRun : ∀ w, Leased env i intent w →
      Goes env errands sites i (g ()) R w) :
    Goes env errands sites i
      (removeCheckout env held intent n target
          (receipt env args intent target oid git) seq present >>=
        g) R w := by
  unfold removeCheckout
  cases present with
  | false => exact hRun w hLeased
  | true =>
      rw [if_pos rfl, Thread.bind_assoc]
      refine goes_idle (only_verify n _ _)
        (stable_leased intent) hLeased ?_
      intro _ w hLeased
      rw [Thread.bind_assoc]
      apply goes_check rfl hLeased
      intro w hChecked
      rw [Thread.bind_assoc]
      refine Thread.wp_command_bind stable_checked hChecked ?_
      rintro w ok _ hChecked ⟨t, hRemove, rfl⟩
      refine ⟨guar_of_asks hErrand hKey hChecked
        (.checkout ok hRemove), ?_⟩
      exact Thread.wp_lift_bind
        (fun _ _ => hRun _ (hChecked.leased.site t))

theorem goes_removeBranch
    {g : Unit → Discarding env tool β}
    (hErrand : errands i = .discard args intent)
    (hKey : args.settlementKey = intent.key)
    (hChecked : Checked env i intent target
      (receipt env args intent target oid git) seq w)
    (hRun : ∀ w, Leased env i intent w →
      Goes env errands sites i (g ()) R w) :
    Goes env errands sites i
      (removeBranch env target
          (receipt env args intent target oid git) >>= g)
      R w := by
  unfold removeBranch
  rw [Thread.bind_assoc]
  refine goes_ask stable_checked hChecked ?_
  intro w there hChecked _
  by_cases hThere : there ≠ some false
  · rw [if_pos hThere, Thread.bind_assoc]
    refine goes_ask stable_checked hChecked ?_
    intro w _ hChecked _
    rw [Thread.bind_assoc]
    refine goes_ask stable_checked hChecked ?_
    intro w _ hChecked _
    rw [Thread.bind_assoc]
    refine Thread.wp_command_bind stable_checked hChecked ?_
    rintro w ok _ hChecked ⟨t, hDelete, rfl⟩
    refine ⟨guar_of_asks hErrand hKey hChecked
      (.branch ok hDelete), ?_⟩
    exact Thread.wp_lift_bind
      (fun _ _ => hRun _ (hChecked.leased.site t))
  · rw [if_neg hThere]
    exact hRun w hChecked.leased

end Calls

section Ends

variable {β : Type}
variable {env : RunEnv} {errands : Nat → Errand}
variable {sites : Site → Site → Prop} {i seq : Nat}
variable {intent : CallerSettlementIntent} {held : Identity}
variable {args : CallArgs} {target : Target} {e : CliError}
variable {r : Receipt} {n : Node} {Y : Site → Prop}
variable {R : β → CallerHost → Prop} {w : CallerHost}

/- What the lease protects of the site, where others let it. -/
theorem stable_gone
    (hKept : ∀ s t, sites s t → Y s → Y t) :
    (contract env tool errands sites i).Stable (fun w =>
      Checked env i intent target r seq w ∧ Y w.site) := by
  rintro w w' hRely ⟨hChecked, hY⟩
  refine ⟨stable_checked w w' hRely hChecked, ?_⟩
  have hAll : ∀ t, Relation.ReflTransGen sites w.site t →
      Y t := by
    intro t hSites
    induction hSites with
    | refl => exact hY
    | tail _ hSite ih => exact hKept _ _ hSite ih
  exact hAll w'.site (hRely.site intent hChecked.leased)

theorem absent_path
    (hOk : refuseIf (w.site.notFound target.checkout = false) e =
      .ok ()) :
    w.site.entries target.checkout = none := by
  rw [refuseIf_eq_ok, Bool.not_eq_false] at hOk
  exact Site.entries_of_notFound hOk

theorem absent_rows
    (hOk :
      refuseIf
        ((w.site.worktreeRegistrations target.repo).all
          (fun rows =>
            rows.any (fun row =>
              row.path = target.checkout)) = true) e =
        .ok ()) :
    ∀ row ∈ w.site.worktrees target.repo,
      row.path ≠ target.checkout := by
  rw [refuseIf_eq_ok] at hOk
  cases hRows : w.site.worktreeRegistrations target.repo with
  | none => simp [hRows] at hOk
  | some rows =>
      obtain rfl := Site.worktreeRegistrations_some hRows
      simpa [hRows] using hOk

theorem absent_branch
    (hOk :
      refuseIf
        (w.site.branchExists target.repo target.branch ≠
          some false) e = .ok ()) :
    w.site.refs target.repo (branchRef target.branch) =
      none := by
  rw [refuseIf_eq_ok, not_not] at hOk
  unfold Site.branchExists at hOk
  split at hOk
  · cases hOk
  · simpa using Site.ask_eq_some hOk

------------------------------------------------------------
-- The End of a Call
------------------------------------------------------------

theorem kept_path :
    ∀ s t, sites s t → PathGone sites target s →
      PathGone sites target t :=
  fun s t hSites hGone hNothing =>
    hNothing.path s t hSites (hGone hNothing)

theorem kept_rows :
    ∀ s t, sites s t → RowsGone sites target s →
      RowsGone sites target t :=
  fun s t hSites hGone hNothing =>
    hNothing.rows s t hSites (hGone hNothing)

theorem kept_branch :
    ∀ s t, sites s t → BranchGone sites target s →
      BranchGone sites target t :=
  fun s t hSites hGone hNothing =>
    hNothing.branch s t hSites (hGone hNothing)

theorem kept_both
    {Y' : Site → Prop}
    (hLeft : ∀ s t, sites s t → Y s → Y t)
    (hRight : ∀ s t, sites s t → Y' s → Y' t) :
    ∀ s t, sites s t → Y s ∧ Y' s → Y t ∧ Y' t :=
  fun s t hSites hGone =>
    ⟨hLeft s t hSites hGone.1, hRight s t hSites hGone.2⟩

theorem stable_over :
    (contract env tool errands sites i).Stable
      (Over env sites i intent target r seq) := by
  intro w w' hRely hOver
  have hBoth := stable_gone
    (Y := fun s => NothingBack sites target → Absent target s)
    (fun s t hSites hGone hNothing =>
      ⟨hNothing.path s t hSites (hGone hNothing).path,
        hNothing.rows s t hSites (hGone hNothing).rows,
        hNothing.branch s t hSites (hGone hNothing).branch⟩)
    w w' hRely ⟨hOver.checked, hOver.gone⟩
  exact ⟨hBoth.1, hOver.names, hOver.key, hBoth.2⟩

theorem stable_answers (reply : Reply) :
    (contract env tool errands sites i).Stable
      (Answers env errands sites i reply) := by
  rintro w w' hRely ⟨intent, target, r, seq, hOver, hTold⟩
  exact ⟨intent, target, r, seq, stable_over w w' hRely hOver,
    hTold⟩

end Ends

section Ends

variable {β : Type}
variable {env : RunEnv} {errands : Nat → Errand}
variable {sites : Site → Site → Prop} {i seq : Nat}
variable {intent : CallerSettlementIntent} {held : Identity}
variable {args : CallArgs} {target : Target} {oid : String}
variable {git : Identity} {r : Receipt} {m : Manifest} {n : Node}
variable {R : β → CallerHost → Prop} {w : CallerHost}

theorem only_stillOwned (due : Bool) :
    (stillOwned env held intent n target due :
      Discarding env tool Unit).Only Question := by
  cases due with
  | true => exact only_verify n _ _
  | false => exact only_history n _

theorem goes_authorize
    {prior : Option Nat} {g : Nat → Discarding env tool β}
    (hHere : Held env i intent (fun _ => True)
      (fun logged => prior = none → logged = []) w)
    (hRun : ∀ w seq, Leased env i intent w →
      Goes env errands sites i (g seq) R w) :
    Goes env errands sites i
      (authorize env held intent n r prior >>= g) R w := by
  cases prior with
  | some seq => exact hRun w seq hHere.leased
  | none =>
      unfold authorize
      rw [Thread.bind_assoc]
      refine goes_ask (stable_held (enduring_true env)) hHere ?_
      intro w _ hHeld _
      rw [Thread.bind_assoc]
      apply goes_append
        ⟨hHeld.leased, trivial, hHeld.receipts rfl⟩
      intro w answer hLeased
      rw [Thread.bind_assoc]
      exact Thread.wp_lift_bind (fun _ _ => hRun w _ hLeased)

theorem goes_cleanUp
    {present : Bool} {g : Unit → Discarding env tool β}
    (hErrand : errands i = .discard args intent)
    (hKey : args.settlementKey = intent.key)
    (hLeased : Leased env i intent w)
    (hRun : ∀ w,
      Over env sites i intent target
        (receipt env args intent target oid git) seq w →
      Goes env errands sites i (g ()) R w) :
    Goes env errands sites i
      (cleanUp env held intent n target
          (receipt env args intent target oid git) seq present >>=
        g) R w := by
  unfold cleanUp
  rw [Thread.bind_assoc]
  apply goes_check rfl hLeased
  intro w hChecked
  rw [Thread.bind_assoc]
  apply goes_removeCheckout hErrand hKey hChecked.leased
  intro w hLeased
  rw [Thread.bind_assoc]
  apply goes_check rfl hLeased
  intro w hChecked
  rw [Thread.bind_assoc]
  apply goes_removeBranch hErrand hKey hChecked
  intro w hLeased
  rw [Thread.bind_assoc]
  apply goes_check rfl hLeased
  intro w hChecked
  rw [Thread.bind_assoc]
  refine goes_idle (only_ask _) stable_checked hChecked ?_
  intro _ w hChecked
  rw [Thread.bind_assoc]
  refine goes_idle (only_observeChecked _ _) stable_checked
    hChecked ?_
  intro _ w hChecked
  rw [Thread.bind_assoc]
  apply Thread.wp_lift_bind
  intro _ _
  rw [Thread.bind_assoc]
  refine goes_ask stable_checked hChecked ?_
  intro w _ hChecked hPath
  rw [Thread.bind_assoc]
  refine goes_ask (stable_gone kept_path)
    ⟨hChecked, fun _ => absent_path hPath⟩ ?_
  rintro w _ ⟨hChecked, hPath⟩ hRows
  refine goes_ask (stable_gone (kept_both kept_path kept_rows))
    ⟨hChecked, hPath, fun _ => absent_rows hRows⟩ ?_
  rintro w _ ⟨hChecked, hPath, hRows⟩ hBranch
  exact hRun w ⟨hChecked, rfl, rfl, fun hNothing =>
    ⟨hPath hNothing, hRows hNothing, absent_branch hBranch⟩⟩

end Ends

section Errands

variable {env : RunEnv} {errands : Nat → Errand}
variable {sites : Site → Site → Prop} {i : Nat}
variable {intent : CallerSettlementIntent} {held : Identity}
variable {args : CallArgs} {uid turns : Nat} {w : CallerHost}

/- A discard keeps its contract, from anywhere. -/
theorem goes_execute
    (hErrand : errands i = .discard args intent)
    (hBacked : Backed env w.disk) :
    Goes env errands sites i
      ((execute env args intent :
          Discarding env tool DiscardedView) >>= fun view =>
        pure (.discarded view))
      (Answers env errands sites i) w := by
  unfold execute
  rw [Thread.bind_assoc]
  apply goes_acquire args.turns hBacked
  intro w held hLeased
  rw [Thread.bind_assoc]
  apply goes_state (X := fun _ => True)
    ⟨hLeased, trivial, trivial⟩
  intro w m n hHeld
  dsimp only
  rw [Thread.bind_assoc]
  apply goes_terminal (enduring_seen env m n) hHeld
  intro w hHeld hOver
  rw [Thread.bind_assoc]
  apply Thread.wp_lift_bind
  intro _ hFits
  simp only [intentFits, refuseIf_eq_ok, not_or, not_not]
    at hFits
  have hKey : args.settlementKey = intent.key := by
    exact hFits.2.2.2.2.1.symm
  rw [Thread.bind_assoc]
  refine goes_ask (stable_held (enduring_seen env m n)) hHeld ?_
  intro w _ hHeld _
  rw [Thread.bind_assoc]
  apply goes_identities (terminal_of_over hOver) hHeld
  intro w target hHeld
  have hEnduring := enduring_recorded env target
  rw [Thread.bind_assoc]
  refine goes_idle (only_history n _)
    (stable_held hEnduring) hHeld ?_
  intro _ w hHeld
  rw [Thread.bind_assoc]
  refine goes_idle (only_sourceChecked _)
    (stable_held hEnduring) hHeld ?_
  intro _ w hHeld
  rw [Thread.bind_assoc]
  refine goes_idle (only_observeChecked m n)
    (stable_held hEnduring) hHeld ?_
  intro observation w hHeld
  rw [Thread.bind_assoc]
  refine goes_ask (stable_held hEnduring) hHeld ?_
  intro w found hHeld _
  rw [Thread.bind_assoc]
  refine goes_idle (only_ask _) (stable_held hEnduring) hHeld ?_
  intro old w hHeld
  rw [Thread.bind_assoc]
  apply Thread.wp_lift_bind
  intro oid _
  rw [Thread.bind_assoc]
  refine goes_idle (only_sourceGitIdentity _)
    (stable_held hEnduring) hHeld ?_
  intro git w hHeld
  rw [Thread.bind_assoc]
  refine goes_ask (stable_held hEnduring) hHeld ?_
  intro w prior hHeld hAudit
  rw [Thread.bind_assoc]
  apply Thread.wp_lift_bind
  intro _ _
  rw [Thread.bind_assoc]
  refine goes_idle (only_stillOwned _)
    (stable_held (X := fun logged => prior = none → logged = [])
      (enduring_true env)) ⟨hHeld.leased, trivial, ?_⟩ ?_
  · rintro rfl
    rcases auditAt_eq_ok rfl hAudit with
      ⟨_, hNone⟩ | ⟨_, hSome, _⟩
    · exact hNone
    · cases hSome
  intro _ w hHeld
  rw [Thread.bind_assoc]
  apply goes_authorize hHeld
  intro w seq hLeased
  rw [Thread.bind_assoc]
  apply goes_cleanUp hErrand hKey hLeased
  intro w hOver
  exact Thread.wp_ret (stable_answers _)
    ⟨intent, target, _, seq, hOver, by simp [Told, hErrand,
      receipt]⟩

theorem soleReceipt_eq_ok
    {events : List Event} {ev : Event}
    (hOk : soleReceipt env events = .ok ev) :
    receiptsOf env events = [ev] := by
  unfold soleReceipt at hOk
  split at hOk
  next hOne => rwa [← Except.ok.inj hOk]
  next => cases hOk

/- What the acknowledged receipt is about. -/
theorem receipt_of_stands
    {n : Node} {target : Target} {ev : Event} {r : Receipt}
    (hParsed : asReceipt ev.data = some r)
    (hStands :
      receiptStands env uid intent n target ev r = .ok ()) :
    Sole r ev.seq [ev] ∧ r.target = target ∧
      r.settlementKey = intent.key ∧ r.force = true ∧
      r.actor = "uid:" ++ toString uid := by
  simp only [receiptStands, refuseIf_eq_ok, not_or, not_not,
    Bool.not_eq_false] at hStands
  obtain ⟨hForce, hActor, -, -, hKey, -, -, -, -, hNode, hRepo,
    hSource, hPath, hBranch, hEventNode, hEventKey⟩ := hStands
  refine ⟨⟨ev, rfl, rfl, ?_, ?_, hParsed⟩, ?_, hKey, hForce,
    hActor⟩
  · rw [hEventNode, hNode]
  · rw [hEventKey, hKey]
  · unfold Receipt.target
    rw [hRepo, hSource, hPath, hBranch]

/- An acknowledgement destroys nothing, and keeps as much. -/
theorem goes_acknowledge
    (hErrand : errands i = .acknowledge uid turns intent)
    (hBacked : Backed env w.disk) :
    Goes env errands sites i
      ((acquireExclusive env intent turns :
          Discarding env tool Identity) >>= fun held =>
        completed env uid held intent >>= fun _ =>
          pure .acknowledged)
      (Answers env errands sites i) w := by
  apply goes_acquire turns hBacked
  intro w held hLeased
  unfold completed
  rw [Thread.bind_assoc]
  refine goes_ask (stable_leased intent) hLeased ?_
  intro w _ hLeased _
  rw [Thread.bind_assoc]
  apply goes_state (X := fun _ => True)
    ⟨hLeased, trivial, trivial⟩
  intro w m n hHeld
  dsimp only
  rw [Thread.bind_assoc]
  apply goes_terminal (enduring_seen env m n) hHeld
  intro w hHeld hOver
  rw [Thread.bind_assoc]
  apply Thread.wp_lift_bind
  intro _ _
  rw [Thread.bind_assoc]
  apply goes_identities (terminal_of_over hOver) hHeld
  intro w target hHeld
  have hEnduring := enduring_recorded env target
  rw [Thread.bind_assoc]
  refine goes_idle (only_sourceChecked _)
    (stable_held hEnduring) hHeld ?_
  intro _ w hHeld
  rw [Thread.bind_assoc]
  refine goes_ask (stable_held hEnduring) hHeld ?_
  intro w ev hHeld hRead
  simp only [bind_eq_ok, mapError_eq_ok] at hRead
  rcases hRead with ⟨events, hEvents, hSole⟩
  obtain rfl := readAllEvents_events hEvents
  have hOne : Held env i intent (Recorded target)
      (fun logged => logged = [ev]) w :=
    ⟨hHeld.leased, hHeld.disk, soleReceipt_eq_ok hSole⟩
  rw [Thread.bind_assoc]
  apply Thread.wp_lift_bind
  intro r hParsed
  rw [orError_eq_ok] at hParsed
  rw [Thread.bind_assoc]
  apply Thread.wp_lift_bind
  intro _ hStands
  rcases receipt_of_stands hParsed hStands with
    ⟨hSays, hNames, hKey, hForce, hActor⟩
  have hChecked : Checked env i intent target r ev.seq w := by
    refine ⟨hOne.leased, hOne.disk, ?_⟩
    rw [hOne.receipts]
    exact hSays
  rw [Thread.bind_assoc]
  refine goes_idle (only_sourceGitIdentity _) stable_checked
    hChecked ?_
  intro _ w hChecked
  rw [Thread.bind_assoc]
  apply Thread.wp_lift_bind
  intro _ _
  rw [Thread.bind_assoc]
  refine goes_idle (only_history n _) stable_checked hChecked ?_
  intro _ w hChecked
  rw [Thread.bind_assoc]
  refine goes_idle (only_observeChecked _ _) stable_checked
    hChecked ?_
  intro _ w hChecked
  rw [Thread.bind_assoc]
  apply Thread.wp_lift_bind
  intro _ _
  rw [Thread.bind_assoc]
  refine goes_ask stable_checked hChecked ?_
  intro w _ hChecked hPath
  rw [Thread.bind_assoc]
  refine goes_ask (stable_gone kept_path)
    ⟨hChecked, fun _ => absent_path hPath⟩ ?_
  rintro w _ ⟨hChecked, hPath⟩ hBranch
  rw [Thread.bind_assoc]
  refine goes_ask
    (stable_gone (kept_both kept_path kept_branch))
    ⟨hChecked, hPath, fun _ => absent_branch hBranch⟩ ?_
  rintro w _ ⟨hChecked, hPath, hBranch⟩ hRows
  refine goes_ask stable_over ⟨hChecked, hNames, hKey,
    fun hNothing => ⟨hPath hNothing, absent_rows hRows,
      hBranch hNothing⟩⟩ ?_
  intro w _ hOver _
  exact Thread.wp_ret (stable_answers _)
    ⟨intent, target, r, ev.seq, hOver, by
      rw [hErrand]
      exact ⟨hForce, hActor⟩⟩

/- Every errand keeps its contract beside all the others. -/
theorem compatible
    (env : RunEnv) (tool : Git) (errands : Nat → Errand)
    (sites : Site → Site → Prop) :
    Compatible (setting env tool errands sites)
      (contract env tool errands sites) (Sane env)
      (Answers env errands sites) where
  who := fun _ => rfl
  moves := fun _ _ _ hMoves => hMoves.rely
  guar := fun _ _ _ _ _ hOther hGuar => hGuar.rely hOther
  ends := by
    rintro i j w _ hOther rfl
    exact rely_release w hOther
  starts := by
    rintro i _ w rfl hSane
    cases hErrand : errands i with
    | discard args intent =>
        exact goes_execute hErrand hSane.backed
    | acknowledge uid turns intent =>
        exact goes_acknowledge hErrand hSane.backed
  keptMoves := fun _ _ hMoves hSane => hSane.moves hMoves
  keptGuar := fun _ _ _ _ hGuar hSane =>
    ⟨hGuar.follows.backed hSane.backed, hGuar.sole hSane.sole⟩
  keptEnds := by
    rintro i w _ rfl hSane
    exact ⟨hSane.backed, hSane.sole⟩

end Errands

------------------------------------------------------------
-- All Runs
------------------------------------------------------------

section Runs

variable {env : RunEnv} {errands : Nat → Errand}
variable {sites : Site → Site → Prop}
variable {C : Crowd (callerInterface env tool) CliError Reply}

theorem receipts_of_booted
    {d : Disk} (hBooted : Booted env d) :
    receiptsOf env d.events = [] := by
  have hFirst : ∀ r : Request, r.kind = .runCreated →
      receiptsOf env (Disk.empty.log (r.event env 1)).events =
        [] := by
    intro r hKind
    have hOther : (r.event env 1).kind ≠ discardAuthorized := by
      change r.kind ≠ discardAuthorized
      rw [hKind]
      nofun
    rw [receiptsOf_log hOther]
    rfl
  change (fun s : Disk => receiptsOf env s.events = []) d
  apply hBooted.rule
  · intro r ops j hKind _ _
    rw [Disk.applyOps_events]
    exact hFirst r hKind
  · intro r ops hKind _ _
    rw [Disk.advance_events, Disk.applyOps_events]
    exact hFirst r hKind

theorem Initial.sound (hInitial : Initial env C) :
    C.Sound (contract env tool errands sites) (Sane env)
      (Answers env errands sites) := by
  refine Crowd.sound_of_empty ⟨hInitial.booted.backed, ?_⟩
    hInitial.idle
  unfold receipts
  rw [receipts_of_booted hInitial.booted]
  exact Nat.zero_le 1

end Runs

end CallerDiscard

/-
  Whatever a call destroys beside any number of others, the
  log has one receipt: its own, of what the run has recorded.
  The branch that it has recorded is no symbolic ref.
-/
theorem discard_under_sole_receipt
    (env : RunEnv)
    (tool : Git)
    (errands : Nat → CallerDiscard.Errand)
    (sites : Site → Site → Prop)
    (C₀ C C' : Crowd (CallerDiscard.callerInterface env tool)
      CliError CallerDiscard.Reply)
    (i : Nat)
    (c : CallerDiscard.HostCmd)
    (hTool : tool.Documented)
    (hInitial : CallerDiscard.Initial env C₀)
    (hRun : Steps.Run
      (CrowdStep
        (CallerDiscard.setting env tool errands sites)) C₀ C)
    (hStep :
      CrowdStep (CallerDiscard.setting env tool errands sites)
        (.calls i c) C C')
    (hDirect : ∀ target,
      CallerDiscard.Recorded target C.world.disk →
      C.world.site.symbolic target.repo
        (branchRef target.branch) = none)
    (hChanged : C'.world.site ≠ C.world.site) :
    CallerDiscard.Discards env CallerDiscard.Destroys
      (errands i) i C.world C'.world := by
  have hCompatible :=
    CallerDiscard.compatible env tool errands sites
  have hSound := hInitial.sound.run hCompatible hRun
  have hGuar := hSound.guarantees hCompatible hStep
  rcases hGuar.site.resolve_left hChanged with
    ⟨args, intent, target, oid, git, seq, hErrand, hKey,
      hLeased, hSole, hRecorded, hAsks⟩
  refine ⟨args, intent, target, oid, git, seq, hErrand, hKey,
    hLeased, hSole, hRecorded, ?_⟩
  cases hAsks with
  | checkout ok hRemove =>
      exact .checkout (hTool.removes _ _ _ _ _ _ hRemove)
  | branch ok hDelete =>
      rcases hTool.swapped hDelete hChanged
          (hDirect target hRecorded) with ⟨hAt, hGone⟩
      exact .branch hAt hGone

namespace Sample

open CallerDiscard

def callerFence : Fence := ⟨⟨1, 1⟩, ⟨1, 2⟩⟩

def createFenced : Call :=
  .append (request .runCreated none
    (.obj
      [("agent_owner", .str "caller"),
        ("kind", .str "spinoff"),
        ("lifecycle", .str "autonomous"),
        ("source_branch", .str "main"),
        ("source_repo", .str "/r"), ("title", .str "t"),
        ("writer_fence", callerFence.toJson)]))

/- The node fails, and its discard is intended. -/
def fencedCalls : List Call :=
  [.append (request .nodeCreated (some .first)
      (.obj
        [("branch", .str "work"), ("kind", .str "spinoff"),
          ("worktree_path", .str "/w")])),
    .append (request .nodeReport (some .first)
      (.obj [("success", .bool false)])),
    .append (request .runStatus none
      (.obj [("status", .str "failed")])),
    .append
      { now := 0
        kind := .callerSettlementIntent
        nodeId := some .first
        key := some "k"
        data :=
          .obj
            [("actor", .str "a"), ("gate_dev", .int 1),
              ("gate_ino", .int 2), ("generation", .int 0),
              ("key", .str "k"), ("node_id", .str "n-0001"),
              ("operation", .str "discard"),
              ("reason", .str "r"),
              ("run_id", .str env.runId.val), ("seq", .int 0),
              ("writer_dev", .int 1),
              ("writer_ino", .int 1)] }]

def fencedTip : String := String.ofList (List.replicate 40 'a')

def fencedPaths : List String :=
  ["/r", "/r/.git", "/w", "/w/.git"]

/- A source and the checkout of a branch. -/
def fencedSite : Site where
  entries := fun path =>
    if fencedPaths.contains path then
      some ⟨true, false, 0, 1, 1, none⟩
    else none
  texts := fun _ => none
  resolves := fun path =>
    if fencedPaths.contains path then some path else none
  common := fun _ => some "/r/.git"
  worktrees := fun _ =>
    [⟨"/r", some "main"⟩, ⟨"/w", some "work"⟩]
  refs := fun _ ref =>
    if ref = branchRef "work" then some fencedTip else none
  symbolic := fun _ _ => none
  trees := fun _ => ⟨false, false, false, some fencedTip⟩
  ahead := fun _ _ _ => some 1
  fails := fun _ => false

def fencedHost (calls : List Call) : CallerHost where
  disk := after (createFenced :: calls)
  site := fencedSite
  files := ⟨fun _ _ _ => none⟩
  heads := fun path =>
    if path = "/r" then some "main" else some "work"
  fence := some callerFence
  opened := some callerFence.writer
  leases := fun _ => none

/- The answers where all goes well. -/
def wellAnswered (i : Nat) :
    (c : HostCmd) → CallerHost → Option (c.Ans × CallerHost)
| .look, w => some (w, w)
| .guess, w => some ((w.site, w.heads), w)
| .flock inode, w =>
    if w.leases inode = none then
      some (true, { w with
        leases :=
          Function.update w.leases inode (some (.call i)) })
    else none
| .append r, w =>
    match (appendAndApplyEvent env { r with now := 0 }).result
        w.disk with
    | .ok res => some (.ok res, { w with
        disk :=
          (appendAndApplyEvent env { r with now := 0 }).final
            w.disk })
    | .error _ => none
| .worktreeRemove repo path, w =>
    some (true, { w with
      site := w.site.withoutCheckout repo path })
| .branchDelete repo branch oid, w =>
    if branch ≠ "" ∧ Checkouts.isOid oid = true ∧
        w.site.refs repo (branchRef branch) = some oid then
      some (true, { w with
        site := w.site.withoutRef repo
          ((w.site.symbolic repo (branchRef branch)).getD
            (branchRef branch)) })
    else none

theorem perform_wellAnswered
    (i : Nat) (c : HostCmd) (w : CallerHost) (a : c.Ans)
    (w' : CallerHost)
    (hAnswer : wellAnswered i c w = some (a, w')) :
    hostPerform env .direct i c w a w' := by
  cases c with
  | look =>
      cases hAnswer
      exact ⟨rfl, rfl⟩
  | guess =>
      cases hAnswer
      exact rfl
  | flock inode =>
      simp only [wellAnswered] at hAnswer
      split at hAnswer
      next hFree =>
        cases hAnswer
        exact ⟨hFree, rfl⟩
      next => cases hAnswer
  | append r =>
      simp only [wellAnswered] at hAnswer
      split at hAnswer
      next res hOk =>
        cases hAnswer
        exact ⟨_, .done 0 res hOk, rfl⟩
      next => cases hAnswer
  | worktreeRemove repo path =>
      cases hAnswer
      exact ⟨_, Git.direct_removes (.inl rfl), rfl⟩
  | branchDelete repo branch oid =>
      simp only [wellAnswered] at hAnswer
      split at hAnswer
      next hAt =>
        cases hAnswer
        exact ⟨_, .asked true _ hAt.1 hAt.2.1
          (Git.direct_deletes hAt.2.2), rfl⟩
      next => cases hAnswer

def fencedIntent : CallerSettlementIntent where
  runId := env.runId
  nodeId := .first
  key := "k"
  operation := .discard
  actor := "a"
  reason := some "r"
  writerDev := 1
  writerIno := 1
  gateDev := 1
  gateIno := 2
  generation := 0
  seq := 5

def fencedErrands : Nat → Errand := fun _ =>
  .discard ⟨0, "k", "obsolete", 0⟩ fencedIntent

/- The call, so many commands on. -/
def fencedCall (n : Nat) :
    Discarding env .direct Reply × CallerHost :=
  ((fencedErrands 0).run env).play (wellAnswered 0) n
    (fencedHost fencedCalls)

/- One call is under way, and no other. -/
def alone (x : Discarding env .direct Reply) (w : CallerHost) :
    Crowd (callerInterface env .direct) CliError Reply where
  world := w
  threads := Function.update (fun _ => none) 0 (some x)

theorem alone_threads
    (x : Discarding env .direct Reply) (w : CallerHost) :
    (alone x w).threads 0 = some x := by
  simp [alone]

def removesNext : Discarding env .direct Reply → Bool
| .call (.worktreeRemove "/r" "/w") _ => true
| _ => false

def hasReturned : Discarding env .direct Reply → Bool
| .ret _ => true
| _ => false

theorem run_fenced
    (calls : List Call)
    (hOther : ∀ call ∈ calls, ∀ r, call.Asks r →
      r.kind ≠ discardAuthorized) :
    Steps.Run
      (CrowdStep
        (setting env .direct fencedErrands
          (fun _ _ => False)))
      ⟨fencedHost [], fun _ => none⟩
      ⟨fencedHost calls, fun _ => none⟩ := by
  induction calls using List.reverseRecOn with
  | nil => exact .refl
  | append_singleton calls call ih =>
      have hLast := hOther call (by simp)
      refine Steps.Run.next
        (ih (fun c hMem => hOther c (by simp [hMem])))
        (.moves _ _ (.writes (.call call) _ hLast (.inl ?_)))
      exact after_concat (createFenced :: calls) call

theorem initial_fenced :
    Initial env
      (⟨fencedHost [], fun _ => none⟩ :
        Crowd (callerInterface env .direct) CliError Reply) :=
  ⟨⟨createFenced, rfl, .inl rfl, by decide +kernel⟩,
    fun _ => rfl⟩

theorem run_fencedCall (n : Nat) :
    Steps.Run
      (CrowdStep
        (setting env .direct fencedErrands
          (fun _ _ => False)))
      ⟨fencedHost [], fun _ => none⟩
      (alone (fencedCall n).1 (fencedCall n).2) := by
  have hCalls : ∀ call ∈ fencedCalls, ∀ r, call.Asks r →
      r.kind ≠ discardAuthorized := by
    intro call hMem r hAsks
    simp only [fencedCalls, List.mem_cons, List.not_mem_nil,
      or_false] at hMem
    rcases hMem with rfl | rfl | rfl | rfl <;> cases hAsks <;>
      nofun
  have hStarted := (run_fenced fencedCalls hCalls).next
    (.starts _ 0 ((fencedErrands 0).run env) rfl rfl)
  have hPlayed := CrowdStep.play
    (X := setting env .direct fencedErrands (fun _ _ => False))
    (perform_wellAnswered 0) n
    (alone_threads ((fencedErrands 0).run env)
      (fencedHost fencedCalls))
  unfold alone at hPlayed
  rw [Function.update_idem] at hPlayed
  exact Steps.RunWhen.trans hStarted hPlayed

/- No ref of the source is a symbolic one. -/
theorem direct_fencedCall (n : Nat) :
    ∀ repo ref,
      (fencedCall n).2.site.symbolic repo ref = none := by
  refine Thread.play_keeps
    (P := fun w : CallerHost =>
      ∀ repo ref, w.site.symbolic repo ref = none)
    ?_ n (fun _ _ => rfl)
  intro c w a w' hAnswer hDirect
  cases c with
  | look | guess =>
      cases hAnswer
      exact hDirect
  | flock | append | branchDelete =>
      simp only [wellAnswered] at hAnswer
      split at hAnswer <;> cases hAnswer
      exact hDirect
  | worktreeRemove =>
      cases hAnswer
      exact hDirect

theorem fencedCall_removes :
    removesNext (fencedCall 44).1 = true := by
  decide +kernel

theorem fencedCall_returned :
    hasReturned (fencedCall 100).1 = true := by
  decide +kernel

end Sample

/- A checkout goes, under the receipt of its discard. -/
theorem checkout_goes_under_receipt :
    ∃ C C' : Crowd
        (CallerDiscard.callerInterface Sample.env .direct)
        CliError CallerDiscard.Reply,
      C.world.site.entries "/w" ≠ none ∧
      C'.world.site.entries "/w" = none ∧
      CallerDiscard.Discards Sample.env
        CallerDiscard.Destroys (Sample.fencedErrands 0) 0
        C.world C'.world := by
  have hRun := Sample.run_fencedCall 44
  have hRemoves := Sample.fencedCall_removes
  have hThere : (Sample.fencedCall 44).2.site.entries "/w" ≠
      none := by
    decide +kernel
  have hDirect := Sample.direct_fencedCall 44
  generalize Sample.fencedCall 44 = call
    at hRun hRemoves hThere hDirect
  rcases call with ⟨x, w⟩
  dsimp only at hRun hRemoves hThere hDirect
  unfold Sample.removesNext at hRemoves
  split at hRemoves
  next k =>
    have hStep : CrowdStep
        (CallerDiscard.setting Sample.env .direct
          Sample.fencedErrands (fun _ _ => False))
        (.calls 0 (CallerDiscard.HostCmd.worktreeRemove "/r"
          "/w")) (Sample.alone _ w) _ :=
      .calls _ 0 _ k true
        { w with site := w.site.withoutCheckout "/r" "/w" }
        (Sample.alone_threads _ w)
        ⟨_, Git.direct_removes (.inl rfl), rfl⟩
    have hGone :
        (w.site.withoutCheckout "/r" "/w").entries "/w" =
          none := by
      simp [Site.withoutCheckout, Within]
    have hChanged :
        w.site.withoutCheckout "/r" "/w" ≠ w.site := by
      intro hSame
      rw [hSame] at hGone
      exact hThere hGone
    exact ⟨_, _, hThere, hGone,
      discard_under_sole_receipt Sample.env .direct
        Sample.fencedErrands (fun _ _ => False) _ _ _ 0 _
        Git.documented_direct Sample.initial_fenced hRun hStep
        (fun _ _ => hDirect _ _) hChanged⟩
  next => cases hRemoves

/-
  A call that has come to its end has left nothing, where
  nobody puts it back, and the log has the one receipt that it
  tells of.
-/
theorem ended_discard_left_nothing
    (env : RunEnv)
    (tool : Git)
    (errands : Nat → CallerDiscard.Errand)
    (sites : Site → Site → Prop)
    (C₀ C : Crowd (CallerDiscard.callerInterface env tool)
      CliError CallerDiscard.Reply)
    (i : Nat)
    (reply : CallerDiscard.Reply)
    (hInitial : CallerDiscard.Initial env C₀)
    (hRun : Steps.Run
      (CrowdStep
        (CallerDiscard.setting env tool errands sites)) C₀ C)
    (hEnded : C.threads i = some (.ret reply)) :
    CallerDiscard.Answers env errands sites i reply C.world :=
  (hInitial.sound.run
    (CallerDiscard.compatible env tool errands sites)
    hRun).returns hEnded

/- A discard comes to its end, and has left nothing. -/
theorem fenced_discard_ends :
    ∃ (C : Crowd
        (CallerDiscard.callerInterface Sample.env .direct)
        CliError CallerDiscard.Reply)
      (reply : CallerDiscard.Reply),
      C.threads 0 = some (.ret reply) ∧
      CallerDiscard.Answers Sample.env Sample.fencedErrands
        (fun _ _ => False) 0 reply C.world := by
  have hRun := Sample.run_fencedCall 100
  have hReturned := Sample.fencedCall_returned
  generalize Sample.fencedCall 100 = call at hRun hReturned
  rcases call with ⟨x, w⟩
  dsimp only at hRun hReturned
  unfold Sample.hasReturned at hReturned
  split at hReturned
  next reply =>
    have hEnded := Sample.alone_threads (.ret reply) w
    exact ⟨_, reply, hEnded,
      ended_discard_left_nothing Sample.env .direct
        Sample.fencedErrands (fun _ _ => False) _ _ 0 reply
        Sample.initial_fenced hRun hEnded⟩
  next => cases hReturned

end Taskfleet
