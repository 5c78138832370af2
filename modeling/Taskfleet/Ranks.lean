import Mathlib.Data.List.Basic
import Mathlib.Data.List.Induction
import Mathlib.Data.List.Nodup
import Mathlib.Data.List.Sort
import Mathlib.Order.Bounds.Basic

/-
  Lists filed under keys, and ranks within a list.

  Filing keeps the order of the entries of one key, and has
  every key once. A list that falls strictly in a measure
  holds each member at the place that counts the members of
  larger measure, so that a suffix of it has those of large
  rank.

  Main declarations:
    * `Ranks.enter`, `Ranks.filed`, `Ranks.Filed`
    * `Ranks.above`, `Ranks.Falls`, `Ranks.falls_sort`
    * `Ranks.mem_drop_iff`, `Ranks.countP_above`
    * `Ranks.lowest`, `Ranks.lowest_perm`
-/

------------------------------------------------------------
-- Filing Under Keys
------------------------------------------------------------

namespace Ranks

section Filing

variable {K V : Type} [DecidableEq K]

/- File a value under its key; a new key comes last. -/
def enter (key : K) (v : V) :
    List (K × List V) → List (K × List V)
| [] => [(key, [v])]
| (k, vs) :: rest =>
    if k = key then (k, vs ++ [v]) :: rest
    else (k, vs) :: enter key v rest

def filed (entries : List (K × V)) : List (K × List V) :=
  entries.foldl (fun files e => enter e.1 e.2 files) []

/- The values of a key, in their order. -/
def under (key : K) (entries : List (K × V)) : List V :=
  (entries.filter (fun e => e.1 = key)).map Prod.snd

/- Each key once, with exactly its values. -/
structure Filed
    (entries : List (K × V))
    (files : List (K × List V)) : Prop where
  once : (files.map Prod.fst).Nodup
  values : ∀ file ∈ files, file.2 = under file.1 entries
  covers : ∀ e ∈ entries, e.1 ∈ files.map Prod.fst

variable {key : K} {v : V}
variable {files : List (K × List V)}
variable {entries : List (K × V)}

theorem keys_enter (k : K) :
    k ∈ (enter key v files).map Prod.fst ↔
      k = key ∨ k ∈ files.map Prod.fst := by
  induction files with
  | nil => simp [enter]
  | cons file rest ih =>
      by_cases hKey : file.1 = key
      · simp [enter, hKey]
      · simp only [enter, if_neg hKey, List.map_cons,
          List.mem_cons, ih]
        constructor
        · intro hCase
          rcases hCase with hHead | hNew | hRest
          · exact .inr (.inl hHead)
          · exact .inl hNew
          · exact .inr (.inr hRest)
        · intro hCase
          rcases hCase with hNew | hHead | hRest
          · exact .inr (.inl hNew)
          · exact .inl hHead
          · exact .inr (.inr hRest)

theorem nodup_enter
    (hOnce : (files.map Prod.fst).Nodup) :
    ((enter key v files).map Prod.fst).Nodup := by
  induction files with
  | nil => simp [enter]
  | cons file rest ih =>
      rw [List.map_cons, List.nodup_cons] at hOnce
      by_cases hKey : file.1 = key
      · simpa [enter, hKey] using hOnce
      · simp only [enter, if_neg hKey, List.map_cons,
          List.nodup_cons, keys_enter]
        refine ⟨?_, ih hOnce.2⟩
        intro hCase
        rcases hCase with hNew | hRest
        · exact hKey hNew
        · exact hOnce.1 hRest

/- Another file keeps its values, the file of the key grows. -/
theorem mem_enter
    {file : K × List V}
    (hOnce : (files.map Prod.fst).Nodup)
    (hMem : file ∈ enter key v files) :
    (file.1 ≠ key ∧ file ∈ files) ∨
      (file.1 = key ∧ ∃ vs, file.2 = vs ++ [v] ∧
        ((key, vs) ∈ files ∨
          vs = [] ∧ key ∉ files.map Prod.fst)) := by
  induction files with
  | nil =>
      rw [enter, List.mem_singleton] at hMem
      rw [hMem]
      exact .inr ⟨rfl, [], rfl, .inr ⟨rfl, List.not_mem_nil⟩⟩
  | cons head rest ih =>
      rw [List.map_cons, List.nodup_cons] at hOnce
      by_cases hKey : head.1 = key
      · rw [enter, if_pos hKey, List.mem_cons] at hMem
        rcases hMem with hHead | hRest
        · rw [hHead]
          refine .inr ⟨hKey, head.2, rfl, .inl ?_⟩
          rw [← hKey]
          exact List.mem_cons_self
        · refine .inl ⟨?_, List.mem_cons_of_mem _ hRest⟩
          intro hSame
          apply hOnce.1
          rw [hKey, ← hSame]
          exact List.mem_map_of_mem hRest
      · rw [enter, if_neg hKey, List.mem_cons] at hMem
        rcases hMem with hHead | hRest
        · rw [hHead]
          exact .inl ⟨hKey, List.mem_cons_self⟩
        · rcases ih hOnce.2 hRest with
            ⟨hOther, hOld⟩ | ⟨hSame, vs, hGrown, hCase⟩
          · exact .inl ⟨hOther, List.mem_cons_of_mem _ hOld⟩
          · refine .inr ⟨hSame, vs, hGrown, ?_⟩
            rcases hCase with hOld | ⟨hNil, hFresh⟩
            · exact .inl (List.mem_cons_of_mem _ hOld)
            · refine .inr ⟨hNil, ?_⟩
              rw [List.map_cons, List.mem_cons, not_or]
              exact ⟨fun hHead => hKey hHead.symm, hFresh⟩

theorem under_append_singleton (k : K) (e : K × V) :
    under k (entries ++ [e]) =
      under k entries ++ if e.1 = k then [e.2] else [] := by
  by_cases hKey : e.1 = k
  · simp [under, hKey]
  · simp [under, hKey]

theorem under_eq_nil
    (hNone : ∀ e ∈ entries, e.1 ≠ key) :
    under key entries = [] := by
  have hEmpty :
      entries.filter (fun e => e.1 = key) = [] := by
    rw [List.filter_eq_nil_iff]
    intro e hMem
    simpa using hNone e hMem
  rw [under, hEmpty, List.map_nil]

theorem mem_under :
    v ∈ under key entries ↔ (key, v) ∈ entries := by
  simp [under]

theorem Filed.enter
    {e : K × V}
    (hFiled : Filed entries files) :
    Filed (entries ++ [e]) (enter e.1 e.2 files) where
  once := nodup_enter hFiled.once
  values := by
    intro file hMem
    rw [under_append_singleton]
    rcases mem_enter hFiled.once hMem with
      ⟨hOther, hOld⟩ | ⟨hSame, vs, hGrown, hCase⟩
    · rw [if_neg (fun hKey => hOther hKey.symm),
        List.append_nil]
      exact hFiled.values file hOld
    · rw [if_pos hSame.symm, hGrown, hSame]
      congr 1
      rcases hCase with hOld | ⟨hNil, hFresh⟩
      · exact hFiled.values _ hOld
      · rw [hNil, under_eq_nil]
        intro other hOther hKey
        apply hFresh
        rw [← hKey]
        exact hFiled.covers other hOther
  covers := by
    intro other hMem
    rw [keys_enter]
    rcases List.mem_append.mp hMem with hOld | hNew
    · exact .inr (hFiled.covers other hOld)
    · rw [List.mem_singleton] at hNew
      rw [hNew]
      exact .inl rfl

theorem filed_filed (entries : List (K × V)) :
    Filed entries (filed entries) := by
  induction entries using List.reverseRecOn with
  | nil =>
      exact ⟨List.nodup_nil, by simp [filed], by simp⟩
  | append_singleton entries e ih =>
      rw [filed, List.foldl_append]
      exact ih.enter

end Filing

------------------------------------------------------------
-- Ranks
------------------------------------------------------------

section Rank

variable {α T : Type} [LinearOrder T]
variable {measure : α → T} {xs ys : List α} {x : α} {k : Nat}

/- How many members have a larger measure. -/
def above (measure : α → T) (xs : List α) (x : α) : Nat :=
  xs.countP (fun y => measure x < measure y)

/- The measure falls strictly along a list. -/
def Falls (measure : α → T) (xs : List α) : Prop :=
  xs.Pairwise (fun a b => measure b < measure a)

theorem above_perm (hPerm : xs.Perm ys) (x : α) :
    above measure xs x = above measure ys x :=
  hPerm.countP_eq _

/- Where no measures are equal, a downward sort is strict. -/
theorem falls_sort (hApart : (xs.map measure).Nodup) :
    Falls measure
      (xs.insertionSort
        (fun a b => measure b ≤ measure a)) := by
  have hTotal :
      Std.Total (fun a b : α => measure b ≤ measure a) :=
    ⟨fun a b => le_total _ _⟩
  have hTrans :
      IsTrans α (fun a b : α => measure b ≤ measure a) :=
    ⟨fun _ _ _ hFirst hSecond => hSecond.trans hFirst⟩
  have hPerm :=
    List.perm_insertionSort
      (fun a b => measure b ≤ measure a) xs
  have hNe :
      (xs.insertionSort
        (fun a b => measure b ≤ measure a)).Pairwise
          (fun a b => measure a ≠ measure b) := by
    rw [← List.pairwise_map (f := measure)
      (R := fun s t => s ≠ t)]
    exact (hPerm.map measure).nodup_iff.mpr hApart
  refine
    ((List.pairwise_insertionSort _ xs).and hNe).imp ?_
  intro a b hBoth
  exact lt_of_le_of_ne hBoth.1 hBoth.2.symm

section Falling

variable {a : α}

theorem above_head (hFalls : Falls measure (a :: xs)) :
    above measure (a :: xs) a = 0 := by
  rw [above, List.countP_eq_zero]
  intro y hMem
  rcases List.mem_cons.mp hMem with hSame | hLater
  · simp [hSame]
  · simpa using ((List.pairwise_cons.mp hFalls).1 y hLater).le

theorem above_tail
    (hFalls : Falls measure (a :: xs)) (hMem : x ∈ xs) :
    above measure (a :: xs) x = above measure xs x + 1 := by
  apply List.countP_cons_of_pos
  simpa using (List.pairwise_cons.mp hFalls).1 x hMem

theorem head_notMem (hFalls : Falls measure (a :: xs)) :
    a ∉ xs := by
  intro hMem
  exact lt_irrefl _ ((List.pairwise_cons.mp hFalls).1 a hMem)

end Falling

/- Behind the first places stand those of a large rank. -/
theorem mem_drop_iff
    (hFalls : Falls measure xs) (hMem : x ∈ xs) :
    x ∈ xs.drop k ↔ k ≤ above measure xs x := by
  induction xs generalizing k with
  | nil => exact absurd hMem List.not_mem_nil
  | cons a rest ih =>
      have hRest : Falls measure rest :=
        (List.pairwise_cons.mp hFalls).2
      cases k with
      | zero => simp [hMem]
      | succ k =>
          rw [List.drop_succ_cons]
          rcases List.mem_cons.mp hMem with hHead | hLater
          · rw [hHead, above_head hFalls]
            constructor
            · intro hDropped
              exact absurd (List.mem_of_mem_drop hDropped)
                (head_notMem hFalls)
            · intro hLe
              exact absurd hLe (Nat.not_succ_le_zero k)
          · rw [ih hRest hLater, above_tail hFalls hLater]
            exact Nat.succ_le_succ_iff.symm

theorem countP_above_of_falls (hFalls : Falls measure xs) :
    xs.countP (fun x => above measure xs x < k) =
      min k xs.length := by
  induction xs generalizing k with
  | nil => simp
  | cons a rest ih =>
      have hRest : Falls measure rest :=
        (List.pairwise_cons.mp hFalls).2
      cases k with
      | zero => simp
      | succ k =>
          have hTail :
              rest.countP (fun x =>
                above measure (a :: rest) x < k + 1) =
              rest.countP (fun x => above measure rest x < k) := by
            apply List.countP_congr
            intro x hMem
            rw [above_tail hFalls hMem]
            simp
          rw [List.countP_cons_of_pos
              (by simp [above_head hFalls]),
            hTail, ih hRest, List.length_cons]
          omega

/- As many have a rank below a bound as the bound says. -/
theorem countP_above
    (hApart : (xs.map measure).Nodup) (k : Nat) :
    xs.countP (fun x => above measure xs x < k) =
      min k xs.length := by
  have hPerm :=
    List.perm_insertionSort
      (fun a b => measure b ≤ measure a) xs
  have hCount :=
    countP_above_of_falls (k := k) (falls_sort hApart)
  rw [hPerm.length_eq, hPerm.countP_eq] at hCount
  rw [← hCount]
  apply List.countP_congr
  intro x hMem
  rw [above_perm hPerm]

end Rank

------------------------------------------------------------
-- The Lowest Limit
------------------------------------------------------------

section Lowest

variable {xs ys : List Nat} {k : Nat}

/- The least member, or nothing at all. -/
def lowest (xs : List Nat) : Nat := xs.min?.getD 0

theorem isLeast_lowest (hSome : k ∈ xs) :
    IsLeast {n | n ∈ xs} (lowest xs) := by
  cases hMin : xs.min? with
  | none =>
      rw [List.min?_eq_none_iff] at hMin
      rw [hMin] at hSome
      exact absurd hSome List.not_mem_nil
  | some least =>
      rw [List.min?_eq_some_iff] at hMin
      rw [lowest, List.min?_eq_some_iff.mpr hMin]
      exact ⟨hMin.1, fun n hMem => hMin.2 n hMem⟩

theorem lowest_perm (hPerm : xs.Perm ys) :
    lowest xs = lowest ys := by
  cases xs with
  | nil => rw [hPerm.symm.eq_nil]
  | cons n rest =>
      have hHere : n ∈ n :: rest := List.mem_cons_self
      apply (isLeast_lowest hHere).unique
      have hSame :
          {m | m ∈ n :: rest} = {m | m ∈ ys} :=
        Set.ext fun m => hPerm.mem_iff
      rw [hSame]
      exact isLeast_lowest (hPerm.mem_iff.mp hHere)

end Lowest

end Ranks
