import Taskfleet.Schema

/-
  The branch names of a worker's successive attempts.

  Main declarations:
    * `retryBranchName`, `attemptBranch`
    * `LooksRetried`
    * `attemptBranches_distinct_iff`
-/

------------------------------------------------------------
-- The Last Retry Mark
------------------------------------------------------------

namespace Taskfleet

/- What follows a mark that the text starts with. -/
def afterMark : List Char → Option (List Char)
| '-' :: 'r' :: after => some after
| _ => none

/- What stands before and after the last `-r`. -/
def splitLastMark :
    List Char → Option (List Char × List Char)
| [] => none
| c :: rest =>
    match splitLastMark rest with
    | some (before, after) => some (c :: before, after)
    | none =>
        (afterMark (c :: rest)).map (fun after => ([], after))

section Marks

variable {cs before after digits : List Char}

theorem afterMark_eq_some
    (hMark : afterMark cs = some after) :
    cs = '-' :: 'r' :: after := by
  unfold afterMark at hMark
  split at hMark
  · cases hMark
    rfl
  · cases hMark

theorem splitLastMark_eq_some
    (hSplit : splitLastMark cs = some (before, after)) :
    cs = before ++ '-' :: 'r' :: after := by
  induction cs generalizing before with
  | nil => simp [splitLastMark] at hSplit
  | cons c rest ih =>
      rw [splitLastMark] at hSplit
      cases hRest : splitLastMark rest with
      | some split =>
          rcases split with ⟨before', after'⟩
          rw [hRest] at hSplit
          simp only [Option.some.injEq, Prod.mk.injEq] at hSplit
          rcases hSplit with ⟨rfl, rfl⟩
          simp [ih hRest]
      | none =>
          rw [hRest] at hSplit
          simp only [Option.map_eq_some_iff,
            Prod.mk.injEq] at hSplit
          rcases hSplit with ⟨after', hMark, rfl, rfl⟩
          rw [afterMark_eq_some hMark, List.nil_append]

theorem splitLastMark_eq_none
    (hFree : '-' ∉ cs) : splitLastMark cs = none := by
  rw [Option.eq_none_iff_forall_ne_some]
  rintro ⟨before, after⟩ hSplit
  apply hFree
  rw [splitLastMark_eq_some hSplit]
  simp

/- Digits have no mark, so the one before them is the last. -/
theorem splitLastMark_append
    (hFree : '-' ∉ digits) :
    splitLastMark (before ++ '-' :: 'r' :: digits) =
      some (before, digits) := by
  induction before with
  | nil =>
      have hRest : splitLastMark ('r' :: digits) = none := by
        apply splitLastMark_eq_none
        simp [hFree]
      rw [List.nil_append, splitLastMark, hRest]
      rfl
  | cons c rest ih =>
      rw [List.cons_append, splitLastMark, ih]

end Marks

------------------------------------------------------------
-- Retry Branches
------------------------------------------------------------

def retryMark : String := "-r"

/- Drop a trailing `-r` and digits. -/
def stripRetrySuffix (branch : String) : String :=
  match splitLastMark branch.toList with
  | some (before, suffix) =>
      if suffix ≠ [] ∧ suffix.all Char.isDigit then
        String.ofList before
      else branch
  | none => branch

/- The name that is kept when a branch is retried. -/
def retryStem (prior : Option String) : String :=
  ((prior.map Text.trim).filter (fun s => s ≠ "")).getD
    "wt/retry"

def retryBranchName
    (prior : Option String) (attempt : Nat) : String :=
  stripRetrySuffix (retryStem prior) ++ retryMark ++
    toString attempt

/-
  The branches of the successive attempts: the original one,
  then that of each retry, derived from the one before.
-/
def attemptBranch (original : String) : Nat → String
| 0 => original
| n + 1 =>
    retryBranchName (some (attemptBranch original n)) (n + 1)

section Names

variable {s base original : String} {k : Nat}

/- A name with the mark of attempt `k`. -/
def marked (base : String) (k : Nat) : String :=
  base ++ retryMark ++ toString k

theorem toList_marked :
    (marked base k).toList =
      base.toList ++ '-' :: 'r' :: Nat.toDigits 10 k := by
  simp [marked, retryMark]

theorem marked_injective
    {k' : Nat} (hSame : marked base k = marked base k') :
    k = k' := by
  have hDigits := congrArg String.toList hSame
  rw [toList_marked, toList_marked] at hDigits
  simp only [List.append_cancel_left_eq, List.cons.injEq,
    true_and] at hDigits
  rw [← Nat.ofDigitChars_ten_toDigits (n := k), hDigits,
    Nat.ofDigitChars_ten_toDigits]

theorem digits_free : '-' ∉ Nat.toDigits 10 k := by
  intro hMem
  have hDigit := Nat.isDigit_of_mem_toDigits (by decide)
    (by decide) hMem
  exact absurd hDigit (by decide)

/- The mark of an attempt is what is stripped. -/
theorem strip_marked : stripRetrySuffix (marked base k) = base := by
  have hDigits : (Nat.toDigits 10 k).all Char.isDigit = true := by
    rw [List.all_eq_true]
    intro c hMem
    exact Nat.isDigit_of_mem_toDigits (by decide) (by decide)
      hMem
  rw [stripRetrySuffix, toList_marked,
    splitLastMark_append digits_free]
  dsimp only
  rw [if_pos ⟨Nat.toDigits_ne_nil, hDigits⟩,
    String.ofList_toList]

/- What is left is an initial part of the name. -/
theorem strip_initial (s : String) :
    (stripRetrySuffix s).toList <+: s.toList := by
  unfold stripRetrySuffix
  cases hSplit : splitLastMark s.toList with
  | none => exact List.prefix_refl _
  | some split =>
      rcases split with ⟨before, suffix⟩
      dsimp only
      split
      · rw [String.toList_ofList, splitLastMark_eq_some hSplit]
        exact List.prefix_append _ _
      · exact List.prefix_refl _

/- Text that does not start with white space. -/
def Flush (cs : List Char) : Prop :=
  ∀ c ∈ cs.head?, Text.isWhitespace c = false

theorem Flush.of_initial
    {cs cs' : List Char}
    (hFlush : Flush cs') (hPrefix : cs <+: cs') : Flush cs := by
  intro c hMem
  cases cs with
  | nil => simp at hMem
  | cons c' rest =>
      rcases hPrefix with ⟨tail, rfl⟩
      exact hFlush c (by simpa using hMem)

theorem flush_dropWhile (cs : List Char) :
    Flush (cs.dropWhile Text.isWhitespace) := by
  intro c hMem
  have hHead := List.head?_dropWhile_not Text.isWhitespace cs
  rw [Option.mem_def] at hMem
  rw [hMem] at hHead
  exact hHead

theorem Flush.dropWhile
    {cs : List Char} (hFlush : Flush cs) :
    cs.dropWhile Text.isWhitespace = cs := by
  cases cs with
  | nil => rfl
  | cons c rest =>
      rw [List.dropWhile_cons_of_neg]
      simp [hFlush c rfl]

theorem flush_trim (s : String) : Flush (Text.trim s).toList := by
  unfold Text.trim
  rw [String.toList_ofList]
  have hSuffix := List.dropWhile_suffix Text.isWhitespace
    (l := (s.toList.dropWhile Text.isWhitespace).reverse)
  have hPrefix := List.reverse_prefix.mpr hSuffix
  rw [List.reverse_reverse] at hPrefix
  exact (flush_dropWhile s.toList).of_initial hPrefix

theorem flush_of_trim
    (hTrim : Text.trim s = s) : Flush s.toList := by
  rw [← hTrim]
  exact flush_trim s

/- A name that starts and ends flush is not trimmed. -/
theorem trim_of_flush
    (hFlush : Flush s.toList)
    (hEnd : Flush s.toList.reverse) : Text.trim s = s := by
  unfold Text.trim
  rw [hFlush.dropWhile, hEnd.dropWhile, List.reverse_reverse,
    String.ofList_toList]

theorem trim_trim (s : String) :
    Text.trim (Text.trim s) = Text.trim s := by
  apply trim_of_flush (flush_trim s)
  unfold Text.trim
  rw [String.toList_ofList, List.reverse_reverse]
  exact flush_dropWhile _

theorem digit_not_whitespace
    {c : Char} (hDigit : c.isDigit = true) :
    Text.isWhitespace c = false := by
  simp only [Char.isDigit, Bool.and_eq_true,
    decide_eq_true_eq] at hDigit
  have hLow : 48 ≤ c.toNat := hDigit.1
  have hHigh : c.toNat ≤ 57 := hDigit.2
  simp only [Text.isWhitespace, Bool.or_eq_false_iff,
    Bool.and_eq_false_iff, decide_eq_false_iff_not,
    beq_eq_false_iff_ne]
  omega

/- A marked name ends in a digit. -/
theorem trim_marked
    (hFlush : Flush base.toList) :
    Text.trim (marked base k) = marked base k := by
  apply trim_of_flush
  · rw [toList_marked]
    intro c hMem
    cases hBase : base.toList with
    | nil =>
        rw [hBase] at hMem
        simp only [List.nil_append, List.head?_cons,
          Option.mem_def, Option.some.injEq] at hMem
        subst hMem
        decide
    | cons c' rest =>
        rw [hBase] at hMem
        simp only [List.cons_append, List.head?_cons,
          Option.mem_def, Option.some.injEq] at hMem
        subst hMem
        exact hFlush c' (by simp [hBase])
  · intro c hMem
    apply digit_not_whitespace
    apply Nat.isDigit_of_mem_toDigits (b := 10) (n := k)
      (by decide) (by decide)
    rw [toList_marked, List.head?_reverse,
      List.getLast?_append] at hMem
    rw [List.getLast?_eq_some_getLast (by simp),
      Option.some_or, Option.mem_def, Option.some.injEq,
      List.getLast_cons (by simp),
      List.getLast_cons Nat.toDigits_ne_nil] at hMem
    rw [← hMem]
    exact List.getLast_mem _

end Names

------------------------------------------------------------
-- Successive Attempts
------------------------------------------------------------

/- The name is itself that of one of the first `n` retries. -/
def LooksRetried (original : String) (n : Nat) : Prop :=
  Text.trim original = original ∧
    ∃ stem k, 1 ≤ k ∧ k ≤ n ∧ original = marked stem k

section Attempts

variable {original base : String} {k n : Nat}

/- What the retries of a branch share. -/
def retryBase (original : String) : String :=
  stripRetrySuffix (retryStem (some original))

theorem flush_retryBase (original : String) :
    Flush (retryBase original).toList := by
  apply Flush.of_initial _ (strip_initial _)
  unfold retryStem
  by_cases hBlank : Text.trim original = ""
  · simp only [Option.map_some, hBlank, Option.filter_some]
    intro c hMem
    have hHead : c = 'w' := by
      simpa using hMem.symm
    subst hHead
    decide
  · simp only [Option.map_some, Option.filter_some]
    rw [if_pos (by simpa using hBlank), Option.getD_some]
    exact flush_trim original

theorem retryBase_marked
    (hFlush : Flush base.toList) :
    retryBase (marked base k) = base := by
  have hSome : marked base k ≠ "" := by
    intro hEmpty
    have hList := congrArg String.toList hEmpty
    rw [toList_marked] at hList
    simp at hList
  unfold retryBase retryStem
  rw [Option.map_some, trim_marked hFlush,
    Option.filter_some, if_pos (by simpa using hSome),
    Option.getD_some, strip_marked]

/- Every retry has the mark of its attempt on one base. -/
theorem attemptBranch_succ (original : String) (n : Nat) :
    attemptBranch original (n + 1) =
      marked (retryBase original) (n + 1) := by
  induction n with
  | zero => rfl
  | succ n ih =>
      rw [attemptBranch, ih]
      change marked (retryBase _) _ = _
      rw [retryBase_marked (flush_retryBase original)]

/- An original name that looks retried comes up again. -/
theorem LooksRetried.again
    (hLooks : LooksRetried original n) :
    ∃ k, 1 ≤ k ∧ k ≤ n ∧
      attemptBranch original k = original := by
  rcases hLooks with ⟨hTrim, stem, k, hOne, hLe, hName⟩
  refine ⟨k, hOne, hLe, ?_⟩
  rcases Nat.exists_eq_succ_of_ne_zero
    (Nat.one_le_iff_ne_zero.mp hOne) with ⟨j, rfl⟩
  have hFlush : Flush stem.toList := by
    apply (flush_of_trim hTrim).of_initial
    rw [hName, toList_marked]
    exact List.prefix_append _ _
  have hBase : retryBase original = stem := by
    rw [hName]
    exact retryBase_marked hFlush
  rw [Nat.succ_eq_add_one, attemptBranch_succ, hBase, hName]

/- The original name and those of `n` retries. -/
theorem attemptBranches_distinct_iff
    (original : String) (n : Nat) :
    (∀ i j, i < j → j ≤ n →
      attemptBranch original i ≠ attemptBranch original j) ↔
      ¬ LooksRetried original n := by
  constructor
  · intro hDistinct hLooks
    rcases hLooks.again with ⟨k, hOne, hLe, hSame⟩
    exact hDistinct 0 k hOne hLe hSame.symm
  · intro hNot i j hLt hLe hSame
    rcases Nat.exists_eq_succ_of_ne_zero
      (Nat.ne_zero_of_lt hLt) with ⟨j', rfl⟩
    rw [Nat.succ_eq_add_one, attemptBranch_succ] at hSame
    cases i with
    | zero =>
        apply hNot
        refine ⟨?_, retryBase original, j' + 1, by omega, hLe,
          hSame⟩
        change original = _ at hSame
        rw [hSame]
        exact trim_marked (flush_retryBase original)
    | succ i =>
        rw [attemptBranch_succ] at hSame
        have hIndex := marked_injective hSame
        omega

end Attempts

/- The first retry of a branch that ends in `-r1`. -/
theorem attemptBranches_collide :
    attemptBranch "wt/foo-r1" 0 = "wt/foo-r1" ∧
      attemptBranch "wt/foo-r1" 1 = "wt/foo-r1" := by
  decide

end Taskfleet
