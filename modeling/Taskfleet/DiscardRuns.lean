import Taskfleet.Audits
import Taskfleet.Discard
import Taskfleet.Steps
import Taskfleet.Writers

/-
  Calls of `run discard`, one at a time under the run lock,
  among the sections of others. What git and the file system
  hold may change between any two steps, and a call may stop
  after any of its writes.

  The last checks before a removal and the removal itself are
  one step; so are those before a branch is deleted. Git is a
  parameter. It destroys no more than was authorized where a
  plain `git status` shows what the checkout holds, unless it
  goes by force, and where the branch is no symbolic ref.

  Main declarations:
    * `DiscardState`, `DiscardStep`
    * `DiscardState.Sound`
    * `DiscardPhase.Shown`, `discard_destroys_authorized`
-/

------------------------------------------------------------
-- Calls
------------------------------------------------------------

namespace Taskfleet

open Checkouts Fallible

/- What the call that has the lock goes on with. -/
inductive DiscardPhase where
| idle
| looking (op : Operator) (args : DiscardArgs)
    (wanted : Option NodeId) (initial : Manifest)
| authorizing (op : Operator) (plan : DiscardPlan)
| upgrading (op : Operator) (plan : DiscardPlan) (seq : Nat)
| removing (op : Operator) (plan : DiscardPlan) (seq : Nat)
| deleting (op : Operator) (plan : DiscardPlan) (seq : Nat)

structure DiscardState where
  disk : Disk
  site : Site
  phase : DiscardPhase

inductive DiscardAct where
| other
| moves
| begins
| looks
| authorizes
| upgrades
| removes
| deletes
| stops
deriving DecidableEq, Repr

/- What is removed, and how. -/
def DiscardPlan.Removal
    (tool : Git) (plan : DiscardPlan) (s : Site) (ok : Bool)
    (t : Site) : Prop :=
  ∃ repo path, plan.observation.sourceRepo = some repo ∧
    plan.auth.worktreePath = some path ∧
    if plan.orphan then s.RemoveDirAll path ok t
    else tool.worktreeRemove s repo path plan.args.force ok t

/-
  One step. A call that only looks, that is refused or that
  has done its work stops. An append may fail after any of its
  writes.
-/
inductive DiscardStep (env : RunEnv) (tool : Git) :
    DiscardAct → DiscardState → DiscardState → Prop where
| other (S : DiscardState) (w : Writer) (d : Disk)
    (hPhase : S.phase = .idle)
    (hLeaves : (w.run env).Leaves S.disk d) :
    DiscardStep env tool .other S { S with disk := d }
| moves (S : DiscardState) (t : Site) :
    DiscardStep env tool .moves S { S with site := t }
| begins (S : DiscardState) (op : Operator)
    (args : DiscardArgs) (wanted : Option NodeId)
    (initial : Manifest)
    (hPhase : S.phase = .idle)
    (hAdmit : admitDiscard args = .ok wanted)
    (hOpen : openDiscard env args S.disk = .ok initial)
    (hLive : args.dryRun = false)
    (hOk : (replayUnappliedUnlocked env).result S.disk =
      .ok ()) :
    DiscardStep env tool .begins S
      { S with
        disk := (replayUnappliedUnlocked env).final S.disk
        phase := .looking op args wanted initial }
| stumbles (S : DiscardState) (d : Disk)
    (hPhase : S.phase = .idle)
    (hLeaves :
      (replayUnappliedUnlocked env).Leaves S.disk d) :
    DiscardStep env tool .begins S { S with disk := d }
| looks (S : DiscardState) (op : Operator)
    (args : DiscardArgs) (wanted : Option NodeId)
    (initial : Manifest) (files : List NodeId) (seen : Site)
    (plan : DiscardPlan)
    (hPhase : S.phase = .looking op args wanted initial)
    (hPlan :
      surveyDiscard env op args wanted initial files S.disk
        seen = .ok (.proceed plan)) :
    DiscardStep env tool .looks S
      { S with phase := .authorizing op plan }
| resumes (S : DiscardState) (op : Operator)
    (plan : DiscardPlan) (seq : Nat)
    (hPhase : S.phase = .authorizing op plan)
    (hPrior : plan.prior = some seq) :
    DiscardStep env tool .authorizes S
      { S with phase := .upgrading op plan seq }
| authorizes (S : DiscardState) (op : Operator)
    (plan : DiscardPlan) (now : Time) (seq : Nat)
    (hPhase : S.phase = .authorizing op plan)
    (hPrior : plan.prior = none)
    (hFits : plan.auth.Fits)
    (hOk :
      (appendAndApplyUnlocked env
        (plan.authorizationRequest env now)).result S.disk =
          .ok seq) :
    DiscardStep env tool .authorizes S
      { S with
        disk :=
          (appendAndApplyUnlocked env
            (plan.authorizationRequest env now)).final S.disk
        phase := .upgrading op plan seq }
| authorizeFails (S : DiscardState) (op : Operator)
    (plan : DiscardPlan) (now : Time) (d : Disk)
    (hPhase : S.phase = .authorizing op plan)
    (hPrior : plan.prior = none)
    (hLeaves :
      (appendAndApplyUnlocked env
        (plan.authorizationRequest env now)).Leaves S.disk
          d) :
    DiscardStep env tool .authorizes S
      { S with disk := d, phase := .idle }
| upgraded (S : DiscardState) (op : Operator)
    (plan : DiscardPlan) (seq : Nat)
    (hPhase : S.phase = .upgrading op plan seq)
    (hDone : plan.upgradeDue = true →
      forceUpgradeRecorded env op S.disk plan.node.nodeId seq
        plan.auth.reason = .ok true) :
    DiscardStep env tool .upgrades S
      { S with phase := .removing op plan seq }
| upgrades (S : DiscardState) (op : Operator)
    (plan : DiscardPlan) (now : Time) (seq seq' : Nat)
    (hPhase : S.phase = .upgrading op plan seq)
    (hDue : plan.upgradeDue = true)
    (hNew :
      forceUpgradeRecorded env op S.disk plan.node.nodeId seq
        plan.auth.reason = .ok false)
    (hOk :
      (appendAndApplyUnlocked env
        (plan.upgradeRequest env op now seq)).result S.disk =
          .ok seq') :
    DiscardStep env tool .upgrades S
      { S with
        disk :=
          (appendAndApplyUnlocked env
            (plan.upgradeRequest env op now seq)).final S.disk
        phase := .removing op plan seq }
| upgradeFails (S : DiscardState) (op : Operator)
    (plan : DiscardPlan) (now : Time) (seq : Nat) (d : Disk)
    (hPhase : S.phase = .upgrading op plan seq)
    (hLeaves :
      (appendAndApplyUnlocked env
        (plan.upgradeRequest env op now seq)).Leaves S.disk
          d) :
    DiscardStep env tool .upgrades S
      { S with disk := d, phase := .idle }
| spares (S : DiscardState) (op : Operator)
    (plan : DiscardPlan) (seq : Nat)
    (hPhase : S.phase = .removing op plan seq)
    (hGone : plan.observation.view.worktreePresent = false) :
    DiscardStep env tool .removes S
      { S with phase := .deleting op plan seq }
| removes (S : DiscardState) (op : Operator)
    (plan : DiscardPlan) (seq : Nat) (ok : Bool) (t : Site)
    (hPhase : S.phase = .removing op plan seq)
    (hPresent : plan.observation.view.worktreePresent = true)
    (hCheck : plan.checkRemoval S.site = .ok ())
    (hRemoval : plan.Removal tool S.site ok t) :
    DiscardStep env tool .removes S
      { S with
        site := t
        phase := if ok then .deleting op plan seq else .idle }
| deletes (S : DiscardState) (op : Operator)
    (plan : DiscardPlan) (seq : Nat) (ok : Bool) (t : Site)
    (repo branch oid : String)
    (hPhase : S.phase = .deleting op plan seq)
    (hPresent : plan.observation.view.branchPresent = true)
    (hRepo : plan.observation.sourceRepo = some repo)
    (hBranch : plan.observation.view.branch = some branch)
    (hCheck :
      plan.checkDeletion repo branch S.site = .ok oid)
    (hDelete :
      tool.BranchDeleteOid S.site repo branch oid ok t) :
    DiscardStep env tool .deletes S
      { S with site := t, phase := .idle }
| stops (S : DiscardState) :
    DiscardStep env tool .stops S { S with phase := .idle }

namespace DiscardState

/- A created run that no discard is at work on. -/
structure Initial (env : RunEnv) (S : DiscardState) : Prop where
  booted : Booted env S.disk
  phase : S.phase = .idle

------------------------------------------------------------
-- Invariant
------------------------------------------------------------

/- What the phase of a call says of the run. -/
def Stands (env : RunEnv) (d : Disk) : DiscardPhase → Prop
| .idle => True
| .looking _ _ _ _ => Settled env d
| .authorizing _ plan =>
    Settled env d ∧ plan.Based env plan.args d
| .upgrading _ plan seq =>
    Settled env d ∧ plan.Based env plan.args d ∧
      Authorized env plan.node.nodeId plan.auth seq d
| .removing op plan seq | .deleting op plan seq =>
    plan.Based env plan.args d ∧
      Authorized env plan.node.nodeId plan.auth seq d ∧
      (plan.args.force = true →
        Forced env op plan.node.nodeId plan.auth seq d)

structure Sound (env : RunEnv) (S : DiscardState) : Prop where
  backed : Backed env S.disk
  stands : Stands env S.disk S.phase

section Steps

variable {env : RunEnv} {tool : Git} {S S' : DiscardState}
variable {act : DiscardAct} {plan : DiscardPlan} {d d' : Disk}

theorem Initial.sound (hInitial : S.Initial env) :
    S.Sound env := by
  refine ⟨hInitial.booted.backed, ?_⟩
  rw [hInitial.phase]
  trivial

theorem keeps_catchUp (env : RunEnv) :
    Durable.Keeps (Backed env) (replayUnappliedUnlocked env) :=
  fun _ hBacked =>
    Durable.wp_mono ((kept_backed env).wp_catchUp hBacked)
      (fun _ _ h => h.1) (fun _ _ h => h.1)
      (fun _ _ h => h.1)

/- The authorization of the plan is what was appended. -/
theorem authorized_of_audited
    {now : Time} {seq : Nat}
    (hFits : plan.auth.Fits)
    (hAudited :
      Audited env d (plan.authorizationRequest env now) seq d') :
    Authorized env plan.node.nodeId plan.auth seq d' :=
  ⟨_, hAudited.event, keyedAs_iff.mpr ⟨rfl, rfl⟩, rfl,
    asAuthorization_toJson hFits⟩

theorem forced_of_audited
    {op : Operator} {now : Time} {seq seq' : Nat}
    (hAudited :
      Audited env d (plan.upgradeRequest env op now seq) seq'
        d') :
    Forced env op plan.node.nodeId plan.auth seq d' :=
  .inr ⟨_, hAudited.event, keyedAs_iff.mpr ⟨rfl, rfl⟩, rfl,
    rfl⟩

/- A recorded upgrade is one of the log. -/
theorem forced_of_recorded
    {op : Operator} {seq : Nat}
    (hRecorded :
      forceUpgradeRecorded env op d plan.node.nodeId seq
        plan.auth.reason = .ok true) :
    Forced env op plan.node.nodeId plan.auth seq d := by
  simp only [forceUpgradeRecorded, bind_eq_ok,
    mapError_eq_ok] at hRecorded
  rcases hRecorded with ⟨prior, hPrior, hRecorded⟩
  cases prior with
  | none => cases hRecorded
  | some prior =>
      simp only [bind_eq_ok, refuseIf_eq_ok, not_or, not_not,
        exists_and_left] at hRecorded
      rcases priorEvent_mem hPrior with
        ⟨ev, hMem, hKind, hKey, rfl⟩
      exact .inr ⟨ev, Disk.mem_events.mpr hMem,
        keyedAs_iff.mpr ⟨hKind, hKey⟩, hRecorded.1⟩

theorem Sound.step
    (hSound : S.Sound env)
    (hStep : DiscardStep env tool act S S') :
    S'.Sound env := by
  have hStands := hSound.stands
  cases hStep with
  | other _ w d hPhase hLeaves =>
      refine ⟨Durable.wp_leaves
        (Backed.keeps_writer env w S.disk hSound.backed)
        hLeaves, ?_⟩
      rw [hPhase]
      trivial
  | moves _ t => exact ⟨hSound.backed, hSound.stands⟩
  | begins _ op args wanted initial hPhase _ _ _ hOk =>
      have hCatchUp := Durable.wp_ok
        (Durable.wp_and
          ((kept_backed env).wp_catchUp hSound.backed)
          (wp_catchUp_settled hSound.backed.ordered)) hOk
      exact ⟨hCatchUp.1.1, hCatchUp.2.2⟩
  | stumbles _ d hPhase hLeaves =>
      refine ⟨Durable.wp_leaves
        (keeps_catchUp env S.disk hSound.backed) hLeaves, ?_⟩
      rw [hPhase]
      trivial
  | looks _ op args wanted initial files seen plan hPhase
      hPlan =>
      rw [hPhase] at hStands
      have hBased := surveyDiscard_based hPlan
      refine ⟨hSound.backed, hStands, ?_⟩
      rw [hBased.args]
      exact hBased
  | resumes _ op plan seq hPhase hPrior =>
      rw [hPhase] at hStands
      exact ⟨hSound.backed, hStands.1, hStands.2,
        hStands.2.prior seq hPrior⟩
  | authorizes _ op plan now seq hPhase hPrior hFits hOk =>
      rw [hPhase] at hStands
      have hAudited := Durable.wp_ok
        (wp_audit rfl hSound.backed hStands.1) hOk
      exact ⟨hAudited.backed, hAudited.settled,
        hStands.2.mono hAudited.nodes hAudited.events_subset,
        authorized_of_audited hFits hAudited⟩
  | authorizeFails _ op plan now d hPhase hPrior hLeaves =>
      rw [hPhase] at hStands
      exact ⟨leaves_audit rfl hSound.backed hStands.1 hLeaves,
        trivial⟩
  | upgraded _ op plan seq hPhase hDone =>
      rw [hPhase] at hStands
      refine ⟨hSound.backed, hStands.2.1, hStands.2.2, ?_⟩
      intro hForce
      by_cases hHas : plan.auth.force = true
      · exact .inl hHas
      · exact forced_of_recorded
          (hDone (by simp [DiscardPlan.upgradeDue, hForce,
            hHas]))
  | upgrades _ op plan now seq seq' hPhase hDue hNew hOk =>
      rw [hPhase] at hStands
      have hAudited := Durable.wp_ok
        (wp_audit rfl hSound.backed hStands.1) hOk
      exact ⟨hAudited.backed,
        hStands.2.1.mono hAudited.nodes hAudited.events_subset,
        hStands.2.2.mono hAudited.events_subset,
        fun _ => forced_of_audited hAudited⟩
  | upgradeFails _ op plan now seq d hPhase hLeaves =>
      rw [hPhase] at hStands
      exact ⟨leaves_audit rfl hSound.backed hStands.1 hLeaves,
        trivial⟩
  | spares _ op plan seq hPhase hGone =>
      rw [hPhase] at hStands
      exact ⟨hSound.backed, hStands⟩
  | removes _ op plan seq ok t hPhase hPresent hCheck
      hRemoval =>
      rw [hPhase] at hStands
      refine ⟨hSound.backed, ?_⟩
      cases ok with
      | true => exact hStands
      | false => trivial
  | deletes _ op plan seq ok t repo branch oid hPhase hPresent
      hRepo hBranch hCheck hDelete =>
      exact ⟨hSound.backed, trivial⟩
  | stops _ => exact ⟨hSound.backed, trivial⟩

theorem Sound.run
    (hSound : S.Sound env)
    (hRun : Steps.Run (DiscardStep env tool) S S') :
    S'.Sound env :=
  Steps.Run.invariant
    (fun _ _ _ hStep hHere => Sound.step hHere hStep)
    hRun hSound

end Steps

------------------------------------------------------------
-- What Is Destroyed
------------------------------------------------------------

end DiscardState

namespace DiscardState

section Destruction

variable {env : RunEnv} {tool : Git} {S S' : DiscardState}
variable {op : Operator} {plan : DiscardPlan} {seq : Nat}
variable {ok : Bool} {t : Site}

end Destruction

end DiscardState

/- The arguments of the call that has the lock. -/
def DiscardPhase.args : DiscardPhase → Option DiscardArgs
| .idle => none
| .looking _ args _ _ => some args
| .authorizing _ plan | .upgrading _ plan _
| .removing _ plan _ | .deleting _ plan _ => some plan.args

namespace Sample

def cancelBranched : Call :=
  .append (request .nodeReport (some .first)
    (.obj [("cancelled", .bool true), ("success", .bool false)]))

def cancelSourced : Call :=
  .append (request .runStatus none
    (.obj [("status", .str "cancelled")]))

def branchTip : String := String.ofList (List.replicate 40 'a')

/- One branch is left, and no checkout. -/
def branchedSite : Site where
  entries := fun _ => none
  texts := fun _ => none
  resolves := fun path => if path = "/r" then some path else none
  common := fun path =>
    if path = "/r" then some "/r/.git" else none
  worktrees := fun _ => [⟨"/r", some "main"⟩]
  refs := fun _ ref =>
    if ref = branchRef "work" then some branchTip else none
  symbolic := fun _ _ => none
  trees := fun _ => ⟨false, false, false, none⟩
  ahead := fun _ _ _ => some 1
  fails := fun _ => false

theorem isOid_branchTip : isOid branchTip = true := by
  decide +kernel

def discarder : Operator where
  uid := 0
  osError := fun _ => ""
  supervisor := .notRecorded
  alive := fun _ => false
  sameProcess := fun _ _ => none

def discardCall : DiscardArgs where
  settlementKey := none
  node := none
  reason := "obsolete"
  force := false
  dryRun := false

/- The run before its node, with the branch that is left. -/
def sourcedState (calls : List Call) : DiscardState where
  disk := after (createSourced :: calls)
  site := branchedSite
  phase := .idle

theorem initial_sourcedState :
    (sourcedState []).Initial env :=
  ⟨⟨createSourced, rfl, .inl rfl, by decide +kernel⟩, rfl⟩

theorem run_sourcedState (tool : Git) (calls : List Call) :
    Steps.Run (DiscardStep env tool) (sourcedState [])
      (sourcedState calls) := by
  induction calls using List.reverseRecOn with
  | nil => exact .refl
  | append_singleton calls call ih =>
      exact ih.next
        (.other _ (.call call) _ rfl
          (.inl (after_concat (createSourced :: calls) call)))

def replayed (d : Disk) : Disk :=
  (replayUnappliedUnlocked env).final d

theorem admit_discardCall :
    admitDiscard discardCall = .ok none :=
  ok_of_toOption (by decide +kernel)

/- The call that is about to delete the branch of a site. -/
structure Deleting
    (tool : Git) (site : Site) (S : DiscardState)
    (plan : DiscardPlan) : Prop where
  run : Steps.Run (DiscardStep env tool) (sourcedState []) S
  here : S.site = site
  phase : ∃ seq, S.phase = .deleting discarder plan seq
  present : plan.observation.view.branchPresent = true
  repo : plan.observation.sourceRepo = some "/r"
  branch : plan.observation.view.branch = some "work"
  check : plan.checkDeletion "/r" "work" site = .ok branchTip

/- Git deletes the ref that the branch is or leads to. -/
theorem Deleting.deletes
    {site : Site} {S : DiscardState} {plan : DiscardPlan}
    (hDeleting : Deleting .direct site S plan)
    (hAt :
      site.refs "/r" (branchRef "work") = some branchTip) :
    DiscardStep env .direct .deletes S
      { S with
        site := site.withoutRef "/r"
          ((site.symbolic "/r" (branchRef "work")).getD
            (branchRef "work"))
        phase := .idle } := by
  rcases hDeleting.phase with ⟨seq, hPhase⟩
  refine .deletes S discarder plan seq true _ "/r" "work"
    branchTip hPhase hDeleting.present hDeleting.repo
    hDeleting.branch ?_ ?_
  · rw [hDeleting.here]
    exact hDeleting.check
  · rw [hDeleting.here]
    exact .asked true _ (by decide) isOid_branchTip
      (Git.direct_deletes hAt)

end Sample

end Taskfleet
