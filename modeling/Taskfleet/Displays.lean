import Taskfleet.Ranks
import Taskfleet.Schema
import Mathlib.Data.List.Sort

/-
  The retained displays of a state root: which of them the
  maintenance takes down because there are too many of their
  kind.

  The candidates are grouped by the tmux server and session
  that show them. A group keeps as many of its newest as the
  least of its members allows.

  Main declarations:
    * `Candidate`, `Candidate.group`, `markCountExpiry`
    * `markCountExpiry_eq`
    * `marks_beyond_newest`
-/

------------------------------------------------------------
-- Candidates
------------------------------------------------------------

namespace Taskfleet

open Ranks

namespace Displays

/- Where a display is shown. -/
structure DisplayGroup where
  socket : String
  session : String
  serverPid : Nat
  serverPidStartSecs : Nat
  serverMarker : String
deriving DecidableEq, Repr

structure Candidate where
  runId : RunId
  nodeId : NodeId
  display : RetainedDisplay
  max : Nat
  countExpired : Bool
deriving DecidableEq

namespace Candidate

def group (c : Candidate) : DisplayGroup where
  socket := c.display.socket
  session := c.display.session
  serverPid := c.display.serverPid
  serverPidStartSecs := c.display.serverPidStartSecs
  serverMarker := c.display.serverMarker

def retainedAt (c : Candidate) : Time :=
  c.display.retainedAt

def expireByCount (c : Candidate) : Candidate :=
  { c with countExpired := true }

end Candidate

/- The candidates under their groups, each by its index. -/
def displayGroups (cs : List Candidate) :
    List (DisplayGroup × List Nat) :=
  filed (cs.zipIdx.map (fun entry => (entry.1.group, entry.2)))

/- An index of a group is never out of range. -/
def retainedAtIndex (cs : List Candidate) (i : Nat) : Time :=
  (cs[i]?.map Candidate.retainedAt).getD 0

def maxAtIndex (cs : List Candidate) (i : Nat) : Nat :=
  (cs[i]?.map Candidate.max).getD 0

/- The newest first; equal times keep their order. -/
def newestFirst
    (cs : List Candidate) (indices : List Nat) : List Nat :=
  indices.insertionSort
    (fun i j => retainedAtIndex cs j ≤ retainedAtIndex cs i)

def beyondKept
    (cs : List Candidate) (indices : List Nat) : List Nat :=
  let sorted := newestFirst cs indices
  sorted.drop (lowest (sorted.map (maxAtIndex cs)))

def expireAll
    (cs : List Candidate) (indices : List Nat) :
    List Candidate :=
  indices.foldl
    (fun cs i => cs.modify i Candidate.expireByCount) cs

/-
  The groups are visited in the order of their first members
  and not of their keys, which no group can tell.
-/
def markCountExpiry (cs : List Candidate) : List Candidate :=
  (displayGroups cs).foldl
    (fun cs file => expireAll cs (beyondKept cs file.2)) cs

------------------------------------------------------------
-- Marking
------------------------------------------------------------

section Marking

variable {cs cs' : List Candidate} {i : Nat}

/- The lists differ in marks only. -/
def SameDisplays (cs cs' : List Candidate) : Prop :=
  cs'.map (fun c => (c.group, c.retainedAt, c.max)) =
    cs.map (fun c => (c.group, c.retainedAt, c.max))

theorem SameDisplays.at
    (hSame : SameDisplays cs cs') (i : Nat) :
    cs'[i]?.map (fun c => (c.group, c.retainedAt, c.max)) =
      cs[i]?.map (fun c => (c.group, c.retainedAt, c.max)) := by
  rw [← List.getElem?_map, hSame, List.getElem?_map]

theorem SameDisplays.retainedAtIndex
    (hSame : SameDisplays cs cs') :
    retainedAtIndex cs' = retainedAtIndex cs := by
  funext i
  have hHere := congrArg (Option.map (fun t => t.2.1)) (hSame.at i)
  simp only [Option.map_map] at hHere
  unfold Displays.retainedAtIndex
  exact congrArg (fun found => found.getD 0) hHere

theorem SameDisplays.maxAtIndex
    (hSame : SameDisplays cs cs') :
    maxAtIndex cs' = maxAtIndex cs := by
  funext i
  have hHere := congrArg (Option.map (fun t => t.2.2)) (hSame.at i)
  simp only [Option.map_map] at hHere
  unfold Displays.maxAtIndex
  exact congrArg (fun found => found.getD 0) hHere

theorem SameDisplays.beyondKept
    (hSame : SameDisplays cs cs') (indices : List Nat) :
    beyondKept cs' indices = beyondKept cs indices := by
  unfold Displays.beyondKept newestFirst
  rw [hSame.retainedAtIndex, hSame.maxAtIndex]

theorem sameDisplays_modify (i : Nat) :
    SameDisplays cs (cs.modify i Candidate.expireByCount) := by
  apply List.ext_getElem?
  intro j
  rw [List.getElem?_map, List.getElem?_map,
    List.getElem?_modify]
  by_cases hHere : i = j
  · simp [hHere, Candidate.expireByCount, Candidate.group,
      Candidate.retainedAt, Function.comp_def]
  · simp [hHere]

theorem sameDisplays_expireAll (indices : List Nat) :
    SameDisplays cs (expireAll cs indices) := by
  induction indices generalizing cs with
  | nil => rfl
  | cons j rest ih =>
      have hRest :
          SameDisplays (cs.modify j Candidate.expireByCount)
            (expireAll
              (cs.modify j Candidate.expireByCount) rest) := ih
      exact hRest.trans (sameDisplays_modify j)

theorem expireAll_at (indices : List Nat) :
    (expireAll cs indices)[i]? =
      cs[i]?.map (fun c =>
        if i ∈ indices then c.expireByCount else c) := by
  induction indices generalizing cs with
  | nil => simp [expireAll]
  | cons j rest ih =>
      have hRest := @ih (cs.modify j Candidate.expireByCount)
      unfold expireAll at hRest ⊢
      rw [List.foldl_cons, hRest, List.getElem?_modify,
        Option.map_eq_map, Option.map_map]
      congr 1
      funext c
      by_cases hHere : j = i
      · by_cases hLater : i ∈ rest
        · simp [hHere, hLater, Candidate.expireByCount]
        · simp [hHere, hLater]
      · have hOther : ¬ i = j := fun hSame => hHere hSame.symm
        simp [hHere, hOther]

/- Each group is marked as the first list has it. -/
theorem marked_at
    (files : List (DisplayGroup × List Nat))
    (hSame : SameDisplays cs cs') :
    (files.foldl
      (fun cs file =>
        expireAll cs (beyondKept cs file.2)) cs')[i]? =
      cs'[i]?.map (fun c =>
        if ∃ file ∈ files, i ∈ beyondKept cs file.2 then
          c.expireByCount
        else c) := by
  induction files generalizing cs' with
  | nil => simp
  | cons file rest ih =>
      rw [List.foldl_cons, hSame.beyondKept,
        ih ((sameDisplays_expireAll _).trans hSame),
        expireAll_at, Option.map_map]
      congr 1
      funext c
      by_cases hHere : i ∈ beyondKept cs file.2
      · by_cases hLater :
            ∃ other ∈ rest, i ∈ beyondKept cs other.2
        · simp [hHere, hLater, Candidate.expireByCount]
        · simp [hHere, hLater]
      · simp only [List.exists_mem_cons_iff, hHere, false_or]
        rfl

end Marking

------------------------------------------------------------
-- The Members of a Group
------------------------------------------------------------

def members (g : DisplayGroup) (cs : List Candidate) :
    List Candidate :=
  cs.filter (fun c => c.group = g)

/- How many of its group were retained after a candidate. -/
def newer (cs : List Candidate) (c : Candidate) : Nat :=
  above Candidate.retainedAt (members c.group cs) c

/- How many of a group are kept. -/
def kept (cs : List Candidate) (g : DisplayGroup) : Nat :=
  lowest ((members g cs).map Candidate.max)

def DistinctTimes (cs : List Candidate) : Prop :=
  cs.Pairwise (fun a b =>
    a.group = b.group → a.retainedAt ≠ b.retainedAt)

def indicesOf (g : DisplayGroup) (cs : List Candidate) :
    List Nat :=
  under g (cs.zipIdx.map (fun entry => (entry.1.group, entry.2)))

section Members

variable {cs cs' : List Candidate} {c : Candidate}
variable {g : DisplayGroup} {i : Nat}

theorem mem_members :
    c ∈ members g cs ↔ c ∈ cs ∧ c.group = g := by
  simp [members]

theorem mem_indicesOf :
    i ∈ indicesOf g cs ↔
      ∃ c, cs[i]? = some c ∧ c.group = g := by
  rw [indicesOf, mem_under, List.mem_map]
  constructor
  · intro hEntry
    rcases hEntry with ⟨entry, hMem, hSame⟩
    rw [Prod.mk.injEq] at hSame
    rw [List.mem_zipIdx_iff_getElem?] at hMem
    rw [← hSame.2]
    exact ⟨entry.1, hMem, hSame.1⟩
  · intro hHere
    rcases hHere with ⟨c, hAt, hGroup⟩
    refine ⟨(c, i), ?_, by rw [hGroup]⟩
    rw [List.mem_zipIdx_iff_getElem?]
    exact hAt

/- What is read at the indices is read of the members. -/
theorem map_indicesOf
    {β : Type} {atIndex : Nat → β} {read : Candidate → β}
    (hRead : ∀ i c, cs[i]? = some c → atIndex i = read c) :
    (indicesOf g cs).map atIndex = (members g cs).map read := by
  have hMembers :
      members g cs =
        (cs.zipIdx.filter
          (fun entry => entry.1.group = g)).map Prod.fst := by
    conv_lhs =>
      rw [← List.zipIdx_map_fst (l := cs) (i := 0)]
    rw [members, List.filter_map]
    rfl
  rw [hMembers, indicesOf, under, List.filter_map, List.map_map,
    List.map_map, List.map_map]
  apply List.map_congr_left
  intro entry hMem
  exact hRead entry.2 entry.1
    (List.mem_zipIdx_iff_getElem?.mp (List.mem_of_mem_filter hMem))

theorem retainedAtIndex_of_at (hAt : cs[i]? = some c) :
    retainedAtIndex cs i = c.retainedAt := by
  simp [retainedAtIndex, hAt]

theorem maxAtIndex_of_at (hAt : cs[i]? = some c) :
    maxAtIndex cs i = c.max := by
  simp [maxAtIndex, hAt]

theorem DistinctTimes.nodup (hDistinct : DistinctTimes cs) :
    ((members g cs).map Candidate.retainedAt).Nodup := by
  rw [List.Nodup, List.pairwise_map, members,
    List.pairwise_filter]
  refine hDistinct.imp ?_
  intro a b hApart hA hB
  simp only [decide_eq_true_eq] at hA hB
  exact hApart (hA.trans hB.symm)

theorem newestFirst_perm (indices : List Nat) :
    (newestFirst cs indices).Perm indices :=
  List.perm_insertionSort _ _

theorem newestFirst_falls
    {indices : List Nat}
    (hTimes : (indices.map (retainedAtIndex cs)).Nodup) :
    Falls (retainedAtIndex cs) (newestFirst cs indices) :=
  falls_sort hTimes

theorem above_indicesOf (hAt : cs[i]? = some c) :
    above (retainedAtIndex cs) (indicesOf c.group cs) i =
      newer cs c := by
  have hTimes :
      (indicesOf c.group cs).map (retainedAtIndex cs) =
        (members c.group cs).map Candidate.retainedAt :=
    map_indicesOf (fun j d => retainedAtIndex_of_at)
  have hCount := congrArg
    (List.countP (fun t => c.retainedAt < t)) hTimes
  rw [List.countP_map, List.countP_map] at hCount
  unfold newer above
  rw [retainedAtIndex_of_at hAt]
  exact hCount

theorem lowest_indicesOf :
    lowest ((newestFirst cs (indicesOf g cs)).map
      (maxAtIndex cs)) = kept cs g := by
  rw [lowest_perm ((newestFirst_perm _).map _),
    map_indicesOf (fun j d => maxAtIndex_of_at), kept]

theorem mem_beyondKept
    (hDistinct : DistinctTimes cs)
    (hAt : cs[i]? = some c) :
    i ∈ beyondKept cs (indicesOf c.group cs) ↔
      kept cs c.group ≤ newer cs c := by
  have hHere : i ∈ indicesOf c.group cs :=
    mem_indicesOf.mpr ⟨c, hAt, rfl⟩
  have hTimes :
      ((indicesOf c.group cs).map
        (retainedAtIndex cs)).Nodup := by
    rw [map_indicesOf (fun j d => retainedAtIndex_of_at)]
    exact hDistinct.nodup
  have hPerm :
      (newestFirst cs (indicesOf c.group cs)).Perm
        (indicesOf c.group cs) := newestFirst_perm _
  unfold beyondKept
  dsimp only
  rw [lowest_indicesOf,
    mem_drop_iff (newestFirst_falls hTimes)
      (hPerm.mem_iff.mpr hHere),
    above_perm hPerm, above_indicesOf hAt]

theorem beyondKept_of_file
    (hDistinct : DistinctTimes cs)
    (hAt : cs[i]? = some c) :
    (∃ file ∈ displayGroups cs, i ∈ beyondKept cs file.2) ↔
      kept cs c.group ≤ newer cs c := by
  have hFiled := filed_filed
    (cs.zipIdx.map (fun entry => (entry.1.group, entry.2)))
  rw [← mem_beyondKept hDistinct hAt]
  constructor
  · intro hFile
    rcases hFile with ⟨file, hMem, hBeyond⟩
    have hValues : file.2 = indicesOf file.1 cs :=
      hFiled.values file hMem
    have hIndex : i ∈ indicesOf file.1 cs := by
      rw [← hValues]
      exact (newestFirst_perm _).mem_iff.mp
        (List.mem_of_mem_drop hBeyond)
    rcases mem_indicesOf.mp hIndex with ⟨d, hSame, hGroup⟩
    rw [hAt, Option.some.injEq] at hSame
    rw [hSame, hGroup, ← hValues]
    exact hBeyond
  · intro hBeyond
    have hEntry :
        (c.group, i) ∈
          cs.zipIdx.map (fun entry => (entry.1.group, entry.2)) :=
      mem_under.mp (mem_indicesOf.mpr ⟨c, hAt, rfl⟩)
    rcases List.mem_map.mp (hFiled.covers _ hEntry) with
      ⟨file, hMem, hKey⟩
    refine ⟨file, hMem, ?_⟩
    have hValues : file.2 = indicesOf file.1 cs :=
      hFiled.values file hMem
    rw [hValues, hKey]
    exact hBeyond

/- A candidate after the count. -/
def settled (cs : List Candidate) (c : Candidate) : Candidate :=
  if kept cs c.group ≤ newer cs c then c.expireByCount else c

theorem markCountExpiry_eq (hDistinct : DistinctTimes cs) :
    markCountExpiry cs = cs.map (settled cs) := by
  apply List.ext_getElem?
  intro i
  rw [List.getElem?_map]
  have hSame : SameDisplays cs cs := rfl
  unfold markCountExpiry
  rw [marked_at (displayGroups cs) hSame]
  cases hAt : cs[i]? with
  | none => rfl
  | some c =>
      simp only [Option.map_some, settled,
        beyondKept_of_file hDistinct hAt]

/- What the count says of a group, its members alone decide. -/
theorem kept_of_perm
    (hPerm : (members g cs).Perm (members g cs')) :
    kept cs g = kept cs' g :=
  lowest_perm (hPerm.map _)

theorem newer_of_perm
    (hPerm :
      (members c.group cs).Perm (members c.group cs')) :
    newer cs c = newer cs' c :=
  above_perm hPerm c

theorem settled_of_perm
    (hPerm :
      (members c.group cs).Perm (members c.group cs')) :
    settled cs c = settled cs' c := by
  unfold settled
  rw [kept_of_perm hPerm, newer_of_perm hPerm]

/- A mark is all that the settling changes. -/
theorem settled_eq :
    settled cs c =
      { c with
        countExpired :=
          c.countExpired ||
            decide (kept cs c.group ≤ newer cs c) } := by
  unfold settled
  by_cases hBeyond : kept cs c.group ≤ newer cs c
  · rw [if_pos hBeyond, decide_eq_true hBeyond, Bool.or_true]
    rfl
  · rw [if_neg hBeyond, decide_eq_false hBeyond,
      Bool.or_false]

@[simp] theorem settled_group :
    (settled cs c).group = c.group := by
  rw [settled_eq]
  rfl

@[simp] theorem settled_retainedAt :
    (settled cs c).retainedAt = c.retainedAt := by
  rw [settled_eq]
  rfl

@[simp] theorem settled_max :
    (settled cs c).max = c.max := by
  rw [settled_eq]

theorem members_settled (g : DisplayGroup) :
    members g (cs.map (settled cs)) =
      (members g cs).map (settled cs) := by
  unfold members
  rw [List.filter_map]
  congr 1
  apply List.filter_congr
  intro c _
  simp only [Function.comp_apply, settled_group]

/- The settling reads no mark. -/
theorem settled_settled (c : Candidate) :
    settled (cs.map (settled cs)) (settled cs c) =
      settled cs c := by
  have hKept :
      kept (cs.map (settled cs)) c.group = kept cs c.group := by
    unfold kept
    rw [members_settled, List.map_map]
    simp only [Function.comp_def, settled_max]
  have hNewer :
      newer (cs.map (settled cs)) (settled cs c) =
        newer cs c := by
    unfold newer above
    rw [settled_group, members_settled, List.countP_map]
    simp only [Function.comp_def, settled_retainedAt]
  rw [settled_eq, settled_group, hKept, hNewer, settled_eq]
  simp

theorem DistinctTimes.settled (hDistinct : DistinctTimes cs) :
    DistinctTimes (cs.map (settled cs)) := by
  unfold DistinctTimes
  rw [List.pairwise_map]
  refine hDistinct.imp ?_
  intro a b hApart
  simpa using hApart

theorem isLeast_kept (hMem : c ∈ cs) :
    IsLeast {m | ∃ o ∈ cs, o.group = c.group ∧ o.max = m}
      (kept cs c.group) := by
  have hSome : c.max ∈ (members c.group cs).map Candidate.max :=
    List.mem_map_of_mem (mem_members.mpr ⟨hMem, rfl⟩)
  have hLeast := isLeast_lowest hSome
  simp only [List.mem_map, mem_members, and_assoc] at hLeast
  exact hLeast

/-
  The count marks the candidates with as many newer ones in
  their group as the least limit of the group, which leaves
  that many of the group. It takes back no mark, sees of a
  group nothing but its members, in any order, and marks
  nothing more when it comes again.
-/
theorem marks_beyond_newest
    (cs : List Candidate)
    (hDistinct : DistinctTimes cs) :
    (markCountExpiry cs).length = cs.length ∧
      (∀ (i : Nat) (c : Candidate), cs[i]? = some c →
        ∃ (k : Nat) (c' : Candidate),
          IsLeast
            {m | ∃ o ∈ cs, o.group = c.group ∧ o.max = m} k ∧
          (markCountExpiry cs)[i]? = some c' ∧
          c' = { c with countExpired := c'.countExpired } ∧
          (c'.countExpired = true ↔
            c.countExpired = true ∨ k ≤ newer cs c)) ∧
      (∀ g k, (members g cs).countP
          (fun c => newer cs c < k) =
        min k (members g cs).length) ∧
      (∀ cs', DistinctTimes cs' → ∀ g,
        (members g cs).Perm (members g cs') →
        (members g (markCountExpiry cs)).Perm
          (members g (markCountExpiry cs'))) ∧
      markCountExpiry (markCountExpiry cs) =
        markCountExpiry cs := by
  refine ⟨?_, ?_, ?_, ?_, ?_⟩
  · rw [markCountExpiry_eq hDistinct, List.length_map]
  · intro i c hAt
    refine ⟨kept cs c.group, settled cs c,
      isLeast_kept (List.mem_of_getElem? hAt), ?_, ?_, ?_⟩
    · rw [markCountExpiry_eq hDistinct, List.getElem?_map, hAt,
        Option.map_some]
    · rw [settled_eq]
    · rw [settled_eq]
      simp
  · intro g k
    rw [← countP_above hDistinct.nodup k]
    apply List.countP_congr
    intro c hMem
    rw [newer, (mem_members.mp hMem).2]
  · intro cs' hDistinct' g hPerm
    rw [markCountExpiry_eq hDistinct,
      markCountExpiry_eq hDistinct', members_settled,
      members_settled]
    have hSame :
        (members g cs).map (settled cs) =
          (members g cs).map (settled cs') := by
      apply List.map_congr_left
      intro c hMem
      apply settled_of_perm
      rw [(mem_members.mp hMem).2]
      exact hPerm
    rw [hSame]
    exact hPerm.map _
  · rw [markCountExpiry_eq hDistinct,
      markCountExpiry_eq hDistinct.settled, List.map_map]
    apply List.map_congr_left
    intro c _
    exact settled_settled c

end Members

namespace Sample

/- A display of one session, retained at a time. -/
def candidate (window : String) (t : Time) : Candidate where
  runId := ⟨"01jxsnap222222222222222220", by decide⟩
  nodeId := .first
  display := {
    attempt := 0
    socket := "/tmp/private.sock"
    session := "agents"
    windowId := window
    paneId := "%0"
    serverPid := 42
    serverPidStartSecs := 7
    serverMarker := "owner"
    ownershipMarker := "owned"
    retainedAt := t
    expiresAt := t + 3600
    expiredAt := none }
  max := 2
  countExpired := false

def candidates : List Candidate :=
  [candidate "@0" 3, candidate "@1" 1, candidate "@2" 2]

end Sample

instance (cs : List Candidate) : Decidable (DistinctTimes cs) :=
  inferInstanceAs (Decidable (List.Pairwise _ cs))

/- Of three displays and a limit of two the oldest goes. -/
theorem oldest_of_three :
    (markCountExpiry Sample.candidates).map
        Candidate.countExpired = [false, true, false] ∧
      markCountExpiry (markCountExpiry Sample.candidates) =
        markCountExpiry Sample.candidates :=
  ⟨by decide,
    (marks_beyond_newest Sample.candidates
      (by decide)).2.2.2.2⟩

end Displays

end Taskfleet
