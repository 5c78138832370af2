import Taskfleet.Lasting

/-
  The authority of a caller over its own run.

  A caller-owned run carries at most one settlement intent,
  for good. A merge of such a run starts only under that
  intent, a merge of an ordinary run only without any, and a
  pending merge with caller authority is backed by the very
  intent that its link names.

  Main declarations:
    * `Disk.Intends`, `intends_lasting`
    * `MergeTxn.Authorized`, `MergeAccepted`
    * `settlement_authority`
-/

------------------------------------------------------------
-- Intents and Links
------------------------------------------------------------

namespace Taskfleet

open Fallible

/- The settlement intent the run carries. -/
def Disk.Intends
    (d : Disk) (intent : CallerSettlementIntent) : Prop :=
  ∃ m, d.manifest = some m ∧
    m.callerSettlementIntent = some intent

/- The run belongs to its caller. -/
def Disk.CallerOwned (d : Disk) : Prop :=
  ∃ m, d.manifest = some m ∧ m.agentOwner = .caller

/- The link of a transaction names this merge intent. -/
structure CallerMergeLink.Names
    (link : CallerMergeLink)
    (env : RunEnv)
    (id : NodeId)
    (intent : CallerSettlementIntent) : Prop where
  operation : intent.operation = .merge
  runId : intent.runId = env.runId
  nodeId : intent.nodeId = id
  seq : link.intentSeq = intent.seq
  key : link.intentKey = intent.key
  writer : link.writerDev = intent.writerDev ∧
    link.writerIno = intent.writerIno

/-
  A transaction against the owner of the run: the caller's
  intent behind the link, or no link at all.
-/
inductive MergeTxn.Authorized
    (env : RunEnv)
    (d : Disk)
    (id : NodeId)
    (txn : MergeTxn) : Prop where
| caller
    (intent : CallerSettlementIntent) (link : CallerMergeLink)
    (hOwned : d.CallerOwned)
    (hIntends : d.Intends intent)
    (hLink : txn.callerAuthority = some link)
    (hNames : link.Names env id intent)
| ordinary (m : Manifest)
    (hManifest : d.manifest = some m)
    (hOwner : m.agentOwner = .taskfleet)
    (hLink : txn.callerAuthority = none)

/- Every pending transaction is authorized. -/
def Backings (env : RunEnv) (d : Disk) : Prop :=
  ∀ id n txn, d.nodes.lookup id = some n →
    n.pendingMerge = some txn → txn.Authorized env d id

/- An intent is a caller's, and its node is there. -/
def IntentNodes (d : Disk) : Prop :=
  ∀ intent, d.Intends intent →
    d.CallerOwned ∧ d.nodes.lookup intent.nodeId ≠ none

------------------------------------------------------------
-- One Write
------------------------------------------------------------

section Step

variable {env : RunEnv} {s : Disk} {ev : Event}
variable {id : NodeId} {intent : CallerSettlementIntent}
variable {m m' : Manifest} {txn : MergeTxn}

/- An intent is never replaced. -/
theorem Disk.Intends.put
    (hPut : ManifestPut s m')
    (hIntends : s.Intends intent) :
    (s.putManifest m').Intends intent := by
  rcases hIntends with ⟨m, hManifest, hIntent⟩
  cases hPut with
  | created hNone =>
      rw [hNone] at hManifest
      cases hManifest
  | kept m₀ hWas _ hIntent' =>
      rw [hWas, Option.some.injEq] at hManifest
      subst hManifest
      exact ⟨m', rfl, hIntent'.trans hIntent⟩
  | intended m₀ _ hWas hFirst =>
      rw [hWas, Option.some.injEq] at hManifest
      subst hManifest
      rw [hFirst] at hIntent
      cases hIntent

/- Nor does a run change its owner. -/
theorem Disk.CallerOwned.put
    (hPut : ManifestPut s m')
    (hOwned : s.CallerOwned) :
    (s.putManifest m').CallerOwned := by
  rcases hOwned with ⟨m, hManifest, hOwner⟩
  refine ⟨m', rfl, ?_⟩
  cases hPut with
  | created hNone =>
      rw [hNone] at hManifest
      cases hManifest
  | kept m₀ hWas hOwner' =>
      rw [hWas, Option.some.injEq] at hManifest
      exact hOwner'.trans (hManifest ▸ hOwner)
  | intended m₀ _ hWas _ _ hOwner' =>
      rw [hWas, Option.some.injEq] at hManifest
      exact hOwner'.trans (hManifest ▸ hOwner)

/- A written intent was there before or is a caller's. -/
theorem ManifestPut.intends
    (hPut : ManifestPut s m')
    (hIntends : (s.putManifest m').Intends intent) :
    s.Intends intent ∨
      s.CallerOwned ∧
        s.nodes.lookup intent.nodeId ≠ none := by
  rcases hIntends with ⟨_, ⟨⟩, hIntent⟩
  cases hPut with
  | created _ hFresh =>
      rw [hFresh] at hIntent
      cases hIntent
  | kept m hWas _ hIntent' =>
      exact .inl ⟨m, hWas, hIntent'.symm.trans hIntent⟩
  | intended m intent' hWas _ hCaller _ hNow hNode =>
      rw [hNow, Option.some.injEq] at hIntent
      exact .inr ⟨⟨m, hWas, hCaller⟩, hIntent ▸ hNode⟩

theorem MergeTxn.Authorized.put
    (hPut : ManifestPut s m')
    (hTxn : txn.Authorized env s id) :
    txn.Authorized env (s.putManifest m') id := by
  cases hTxn with
  | caller intent link hOwned hIntends hLink hNames =>
      exact .caller intent link (hOwned.put hPut)
        (hIntends.put hPut) hLink hNames
  | ordinary m hManifest hOwner hLink =>
      refine .ordinary m' rfl ?_ hLink
      cases hPut with
      | created hNone =>
          rw [hNone] at hManifest
          cases hManifest
      | kept m₀ hWas hOwner' =>
          rw [hWas, Option.some.injEq] at hManifest
          subst hManifest
          exact hOwner'.trans hOwner
      | intended m₀ _ hWas _ hCaller =>
          rw [hWas, Option.some.injEq] at hManifest
          subst hManifest
          rw [hCaller] at hOwner
          cases hOwner

theorem Disk.Intends.unique
    {other : CallerSettlementIntent}
    (hOther : s.Intends other)
    (hIntends : s.Intends intent) : other = intent := by
  rcases hOther with ⟨m, hSome, hOther⟩
  rcases hIntends with ⟨m', hSome', hIntent⟩
  rw [hSome, Option.some.injEq] at hSome'
  subst hSome'
  rw [hOther, Option.some.injEq] at hIntent
  exact hIntent

theorem Disk.Intends.congr
    {s' : Disk}
    (hManifest : s'.manifest = s.manifest)
    (hIntends : s.Intends intent) : s'.Intends intent := by
  rcases hIntends with ⟨m, hSome, hIntent⟩
  exact ⟨m, hManifest.trans hSome, hIntent⟩

theorem Disk.CallerOwned.congr
    {s' : Disk}
    (hManifest : s'.manifest = s.manifest)
    (hOwned : s.CallerOwned) : s'.CallerOwned := by
  rcases hOwned with ⟨m, hSome, hOwner⟩
  exact ⟨m, hManifest.trans hSome, hOwner⟩

theorem MergeTxn.Authorized.congr
    {s' : Disk}
    (hManifest : s'.manifest = s.manifest)
    (hTxn : txn.Authorized env s id) :
    txn.Authorized env s' id := by
  cases hTxn with
  | caller intent link hOwned hIntends hLink hNames =>
      exact .caller intent link (hOwned.congr hManifest)
        (hIntends.congr hManifest) hLink hNames
  | ordinary m hSome hOwner hLink =>
      exact .ordinary m (hManifest.trans hSome) hOwner hLink

/- What the authority check of a merge establishes. -/
theorem authorized_of_check
    (hRun : ev.runId = env.runId)
    (hManifest : s.manifest = some m)
    (hCheck : checkMergeAuthority m ev id txn = .ok ()) :
    txn.Authorized env s id := by
  unfold checkMergeAuthority at hCheck
  cases hOwner : m.agentOwner with
  | taskfleet =>
      rw [hOwner] at hCheck
      dsimp only at hCheck
      rw [refuseIf_eq_ok, Bool.not_eq_true,
        Option.isSome_eq_false_iff,
        Option.isNone_iff_eq_none] at hCheck
      exact .ordinary m hManifest hOwner hCheck
  | caller =>
      rw [hOwner] at hCheck
      simp only [bind_eq_ok, orError_eq_ok, refuseIf_eq_ok,
        not_not] at hCheck
      rcases hCheck with
        ⟨intent, hIntent, link, hLink, hAuthorized⟩
      unfold MergeTxn.authorizedBy at hAuthorized
      rw [decide_eq_true_eq] at hAuthorized
      rcases hAuthorized with
        ⟨hMerge, hRun', hNode, hSeq, hKey, hDev, hIno, _⟩
      exact .caller intent link ⟨m, hManifest, hOwner⟩
        ⟨m, hManifest, hIntent⟩ hLink
        ⟨hMerge, hRun'.trans hRun, hNode, hSeq, hKey, hDev,
          hIno⟩

end Step

------------------------------------------------------------
-- Lasting Authority
------------------------------------------------------------

theorem intends_lasting
    (env : RunEnv) (intent : CallerSettlementIntent) :
    Lasting env (fun s => s.Intends intent) := by
  apply lasting_of_puts
  · intro s s' hHere hManifest _
    exact hHere.congr hManifest
  · intro s m' hHere hPut
    exact hHere.put hPut
  · intro s n hHere _ _
    exact hHere
  · intro s ev n n' hHere _ _ _
    exact hHere

theorem intentNodes_lasting (env : RunEnv) :
    Lasting env IntentNodes := by
  have hPutNode : ∀ (s : Disk) (n : Node), IntentNodes s →
      IntentNodes (s.putNode n) := by
    intro s n hHere intent hIntends
    rcases hHere intent hIntends with ⟨hOwned, hNode⟩
    refine ⟨hOwned, ?_⟩
    rw [Disk.putNode_nodes]
    by_cases hId : intent.nodeId = n.nodeId
    · rw [hId, Finmap.lookup_insert]
      exact Option.some_ne_none n
    · rw [Finmap.lookup_insert_of_ne _ hId]
      exact hNode
  apply lasting_of_puts
  · intro s s' hHere hManifest hNodes intent hIntends
    rw [hNodes]
    rcases hHere intent (hIntends.congr hManifest.symm) with
      ⟨hOwned, hNode⟩
    exact ⟨hOwned.congr hManifest, hNode⟩
  · intro s m' hHere hPut intent hIntends
    rcases hPut.intends hIntends with hBefore | hNow
    · rcases hHere intent hBefore with ⟨hOwned, hNode⟩
      exact ⟨hOwned.put hPut, hNode⟩
    · exact ⟨hNow.1.put hPut, hNow.2⟩
  · intro s n hHere _ _
    exact hPutNode s n hHere
  · intro s ev n n' hHere _ _ _
    exact hPutNode s n' hHere

/- A step keeps its transaction, drops it, or checks it. -/
theorem pendingMerge_of_dues
    {env : RunEnv} {s : Disk} {ev : Event} {id : NodeId}
    {n n' : Node} {txn : MergeTxn}
    (hRun : ev.runId = env.runId)
    (hMove : DuesMove env s ev id n n')
    (hPending : n'.pendingMerge = some txn) :
    n.pendingMerge = some txn ∨ txn.Authorized env s id := by
  cases hMove with
  | kept hSame =>
      exact .inl (hSame.pendingMerge.symm.trans hPending)
  | moved _ _ _ hMerge => exact .inl (hMerge.symm.trans hPending)
  | exited _ _ _ _ _ _ hMerge =>
      exact .inl (hMerge.symm.trans hPending)
  | asked _ _ _ hMerge => exact .inl (hMerge.symm.trans hPending)
  | answered _ _ hMerge =>
      exact .inl (hMerge.symm.trans hPending)
  | settled _ _ hMerge =>
      rw [hMerge] at hPending
      cases hPending
  | rewired _ _ _ hMerge =>
      rw [hMerge] at hPending
      cases hPending
  | unmerged _ _ _ _ _ _ hMerge =>
      rw [hMerge] at hPending
      cases hPending
  | merging m txn' _ _ hManifest hCheck _ _ _ hMerge =>
      rw [hMerge, Option.some.injEq] at hPending
      exact .inr (hPending ▸
        authorized_of_check hRun hManifest hCheck)

theorem backings_lasting (env : RunEnv) :
    Lasting env (Backings env) := by
  apply lasting_of_puts
  · intro s s' hHere hManifest hNodes id n txn hLookup hPending
    rw [hNodes] at hLookup
    exact (hHere id n txn hLookup hPending).congr hManifest
  · intro s m' hHere hPut id n txn hLookup hPending
    exact (hHere id n txn hLookup hPending).put hPut
  · intro s n hHere _ hBare id k txn hLookup hPending
    rw [Disk.putNode_nodes] at hLookup
    by_cases hId : id = n.nodeId
    · subst hId
      rw [Finmap.lookup_insert, Option.some.injEq] at hLookup
      rw [← hLookup, hBare.pendingMerge] at hPending
      cases hPending
    · rw [Finmap.lookup_insert_of_ne _ hId] at hLookup
      exact .congr (s := s) rfl (hHere id k txn hLookup hPending)
  · intro s ev n n' hHere hRun hWas hMove id k txn hLookup
      hPending
    rw [Disk.putNode_nodes] at hLookup
    by_cases hId : id = n'.nodeId
    · subst hId
      rw [Finmap.lookup_insert, Option.some.injEq] at hLookup
      subst hLookup
      rcases pendingMerge_of_dues hRun hMove hPending with
        hOld | hNew
      · exact .congr (s := s) rfl (hHere _ n txn hWas hOld)
      · exact .congr (s := s) rfl hNew
    · rw [Finmap.lookup_insert_of_ne _ hId] at hLookup
      exact .congr (s := s) rfl (hHere id k txn hLookup hPending)

------------------------------------------------------------
-- Accepted Merges
------------------------------------------------------------

/-
  What an accepted start of a merge has shown: its payload
  is authorized, and under a caller its node is on the
  worker's branch and at the generation of the intent.
-/
structure MergeAccepted
    (env : RunEnv)
    (d : Disk)
    (ev : Event)
    (id : NodeId)
    (txn : MergeTxn) : Prop where
  nodeId : ev.nodeId = some id
  payload : ev.data.asMergeTxn env = some txn
  authorized : txn.Authorized env d id
  generation : ∀ intent, d.Intends intent →
    ∃ n, d.nodes.lookup id = some n ∧
      n.branch = some txn.workerBranch ∧
      n.piGeneration = intent.generation

theorem mergeAccepted_of_reduce
    {env : RunEnv} {d : Disk} {ev : Event}
    {ops : List ProjectionOp}
    (hNodes : IntentNodes d)
    (hKind : ev.kind = .mergeStarted)
    (hPlan : reduceEventToOps env d ev = .ok ops) :
    ∃ id txn, MergeAccepted env d ev id txn := by
  rcases reduce_eq_ok.mp hPlan with ⟨hRun, hReduce⟩
  rcases nodeId_of_reduceKind (by rw [hKind]; rfl) hReduce with
    ⟨id, hNode⟩
  have hArm : nodeArm env d ev id =
      some (mergeStartedArm env d ev id) := by
    simp only [nodeArm, hKind]
  rw [reduceKind_eq_arm hArm hNode, bind_eq_ok] at hReduce
  rcases hReduce with ⟨step, hStep, hOn⟩
  unfold mergeStartedArm at hStep
  simp only [bind_eq_ok, orError_eq_ok, requireManifest_eq_ok,
    pure_eq, Except.ok.injEq] at hStep
  rcases hStep with
    ⟨txn, hTxn, m, ⟨hManifest, _⟩, _, hCheck, rfl⟩
  have hAuthorized := authorized_of_check hRun hManifest hCheck
  refine ⟨id, txn, hNode, hTxn, hAuthorized, ?_⟩
  intro intent hIntends
  rcases hNodes intent hIntends with
    ⟨⟨m₀, hSome, hOwner⟩, hThere⟩
  rw [hManifest, Option.some.injEq] at hSome
  subst hSome
  have hIntent : m.callerSettlementIntent = some intent := by
    rcases hIntends with ⟨m₁, hSame, hIntent⟩
    rw [hManifest, Option.some.injEq] at hSame
    exact hSame ▸ hIntent
  -- the intent is on this node, so the node is there
  have hHere : intent.nodeId = id := by
    cases hAuthorized with
    | caller intent' _ _ hIntends' _ hNames =>
        exact hIntends'.unique hIntends ▸ hNames.nodeId
    | ordinary m' hSome' hOrdinary =>
        rw [hManifest, Option.some.injEq] at hSome'
        subst hSome'
        rw [hOwner] at hOrdinary
        cases hOrdinary
  rw [hHere] at hThere
  rcases onNode_eq_ok hOn with
    ⟨hMissing, _⟩ | ⟨n, hLookup, _, hCase⟩
  · exact absurd hMissing hThere
  · have hGuard : ∃ r, mergeStartedStep ev m id txn n = .ok r := by
      rcases hCase with ⟨hRest, _⟩ | ⟨n', hRest, _⟩
      · exact ⟨_, hRest⟩
      · exact ⟨_, hRest⟩
    rcases hGuard with ⟨r, hGuard⟩
    unfold mergeStartedStep at hGuard
    simp only [bind_eq_ok, refuseIf_eq_ok, hOwner, true_and,
      not_or, not_not, hIntent, Option.map_some,
      Option.some.injEq, ne_eq] at hGuard
    rcases hGuard with ⟨_, ⟨hBranch, hGeneration⟩, _⟩
    exact ⟨n, hLookup, hBranch, hGeneration⟩

------------------------------------------------------------
-- All Runs
------------------------------------------------------------

/- A link is carried only under the intent it names. -/
theorem MergeTxn.Authorized.names
    {env : RunEnv} {d : Disk} {id : NodeId} {txn : MergeTxn}
    {link : CallerMergeLink}
    (hTxn : txn.Authorized env d id)
    (hLink : txn.callerAuthority = some link) :
    ∃ intent, d.Intends intent ∧ link.Names env id intent := by
  cases hTxn with
  | caller intent link' _ hIntends hLink' hNames =>
      rw [hLink, Option.some.injEq] at hLink'
      exact ⟨intent, hIntends, hLink' ▸ hNames⟩
  | ordinary _ _ _ hNone =>
      rw [hLink] at hNone
      cases hNone

/-
  In every state of every run, cut anywhere: the intent it
  carries is the only one and stays through whatever follows,
  a merge that starts is authorized, and a pending merge with
  a link is backed by the intent that the link names.
-/
theorem settlement_authority
    (env : RunEnv)
    (d : Disk)
    (hRun : ActRun env d) :
    (∀ intent d', d.Intends intent →
      ActsFrom env (fun s => s = d) d' →
      d'.Intends intent ∧
        ∀ other, d'.Intends other → other = intent) ∧
    (∀ ev ops, ev.kind = .mergeStarted →
      reduceEventToOps env d ev = .ok ops →
      ∃ id txn, MergeAccepted env d ev id txn) ∧
    (∀ id n txn, d.nodes.lookup id = some n →
      n.pendingMerge = some txn →
      txn.Authorized env d id ∧
        ∀ link, txn.callerAuthority = some link →
          ∃ intent, d.Intends intent ∧
            link.Names env id intent) := by
  have hNone : ∀ intent, ¬ Disk.empty.Intends intent := by
    rintro intent ⟨m, ⟨⟩, _⟩
  have hNodes :=
    (intentNodes_lasting env).actRun
      (fun intent hIntends => absurd hIntends (hNone intent))
      hRun
  have hBackings :=
    (backings_lasting env).actRun
      (fun id n txn hLookup => by cases hLookup) hRun
  refine ⟨?_, ?_, ?_⟩
  · intro intent d' hIntends hLater
    have hStays : d'.Intends intent := by
      refine ((intends_lasting env intent).actsFrom ?_ hLater).2
      rintro s rfl
      exact ⟨hNodes.1, hIntends⟩
    exact ⟨hStays, fun other hOther => hOther.unique hStays⟩
  · intro ev ops hKind hPlan
    exact mergeAccepted_of_reduce hNodes.2 hKind hPlan
  · intro id n txn hLookup hPending
    have hTxn := hBackings.2 id n txn hLookup hPending
    exact ⟨hTxn, fun link hLink => hTxn.names hLink⟩

/- The merge of a failed caller run, under its intent. -/
theorem settlement_authority_callerMerge :
    ((Sample.acted Sample.mergingActs).nodes.lookup .first).any
        (fun n => n.pendingMerge.any (fun txn =>
          txn.callerAuthority.isSome)) = true ∧
      Backings Sample.clockEnv
        (Sample.acted Sample.mergingActs) := by
  refine ⟨by decide +kernel, ?_⟩
  intro id n txn hLookup hPending
  exact ((settlement_authority Sample.clockEnv _
    (Sample.actRun_acted Sample.mergingActs)).2.2 id n txn
    hLookup hPending).1

end Taskfleet
