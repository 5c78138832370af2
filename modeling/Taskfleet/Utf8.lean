import Mathlib.Data.List.Basic

/-
  Texts as UTF-8 bytes, and the lossy way back that puts a
  replacement character for every broken beginning of a
  character.

  Main declarations:
    * `Utf8.encode`, `Utf8.lossy`
    * `Utf8.lossy_encode`
    * `Utf8.isText`, `Utf8.isText_append`, `Utf8.isText_rest`
    * `Utf8.fromUtf8`, `Utf8.fromUtf8_eq_some`
    * `Utf8.mem_encode_of_ascii`, `Utf8.mem_bytes_iff`
-/

------------------------------------------------------------
-- Encoding
------------------------------------------------------------

namespace Utf8

def encode (cs : List Char) : List UInt8 :=
  cs.flatMap String.utf8EncodeChar

/- The bytes of a text. -/
def bytes (s : String) : List UInt8 := encode s.toList

@[simp] theorem encode_nil : encode [] = [] := rfl

@[simp] theorem encode_cons (c : Char) (cs : List Char) :
    encode (c :: cs) = String.utf8EncodeChar c ++ encode cs :=
  List.flatMap_cons

@[simp] theorem encode_append (cs ds : List Char) :
    encode (cs ++ ds) = encode cs ++ encode ds :=
  List.flatMap_append

theorem encodeChar_of_ascii
    {c : Char} (hAscii : c.toNat < 128) :
    String.utf8EncodeChar c = [UInt8.ofNat c.toNat] := by
  have hLe : c.val.toNat ≤ 0x7F := Nat.le_of_lt_succ hAscii
  unfold String.utf8EncodeChar
  exact if_pos hLe

theorem ofNat_ge
    {n : Nat} (hLow : 128 ≤ n) (hHigh : n < 256) :
    128 ≤ (UInt8.ofNat n).toNat := by
  rw [UInt8.toNat_ofNat', Nat.mod_eq_of_lt hHigh]
  exact hLow

/- A byte below 128 is a character of its own. -/
theorem mem_encodeChar_of_ascii
    {c : Char} {b : UInt8}
    (hAscii : b.toNat < 128)
    (hMem : b ∈ String.utf8EncodeChar c) :
    c.toNat = b.toNat := by
  by_cases hOne : c.val.toNat ≤ 0x7F
  · rw [encodeChar_of_ascii (Nat.lt_succ_of_le hOne),
      List.mem_singleton] at hMem
    rw [hMem, UInt8.toNat_ofNat']
    have hSmall : c.toNat < 256 :=
      Nat.lt_of_le_of_lt hOne (by decide)
    exact (Nat.mod_eq_of_lt hSmall).symm
  -- Every byte of a longer encoding has its top bit set.
  · have hTop : 128 ≤ b.toNat := by
      unfold String.utf8EncodeChar at hMem
      dsimp only at hMem
      rw [if_neg hOne] at hMem
      split at hMem
      · simp only [List.mem_cons, List.not_mem_nil, or_false]
          at hMem
        rcases hMem with hByte | hByte
        all_goals
          rw [hByte]
          exact ofNat_ge (by omega) (by omega)
      · split at hMem
        all_goals
          simp only [List.mem_cons, List.not_mem_nil, or_false]
            at hMem
        · rcases hMem with hByte | hByte | hByte
          all_goals
            rw [hByte]
            exact ofNat_ge (by omega) (by omega)
        · rcases hMem with hByte | hByte | hByte | hByte
          all_goals
            rw [hByte]
            exact ofNat_ge (by omega) (by omega)
    omega

theorem mem_encode_of_ascii
    {cs : List Char} {b : UInt8}
    (hAscii : b.toNat < 128)
    (hMem : b ∈ encode cs) :
    ∃ c ∈ cs, c.toNat = b.toNat := by
  rcases List.mem_flatMap.mp hMem with ⟨c, hHere, hByte⟩
  exact ⟨c, hHere, mem_encodeChar_of_ascii hAscii hByte⟩

/- An ASCII byte is there where its character is. -/
theorem mem_bytes_iff
    {s : String} {c : Char} {b : UInt8}
    (hAscii : b.toNat < 128)
    (hByte : b.toNat = c.toNat) :
    b ∈ bytes s ↔ c ∈ s.toList := by
  constructor
  · intro hMem
    rcases mem_encode_of_ascii hAscii hMem with
      ⟨d, hHere, hSame⟩
    have hChar : d = c := Char.toNat_inj.mp (hSame.trans hByte)
    rw [← hChar]
    exact hHere
  · intro hMem
    apply List.mem_flatMap.mpr
    refine ⟨c, hMem, ?_⟩
    rw [encodeChar_of_ascii (hByte ▸ hAscii),
      List.mem_singleton, ← hByte, UInt8.ofNat_toNat]

theorem encode_of_ascii
    {cs : List Char} (hAscii : ∀ c ∈ cs, c.toNat < 128) :
    encode cs = cs.map (fun c => UInt8.ofNat c.toNat) := by
  induction cs with
  | nil => rfl
  | cons c cs ih =>
      rw [List.forall_mem_cons] at hAscii
      rw [encode_cons, encodeChar_of_ascii hAscii.1,
        ih hAscii.2]
      rfl

------------------------------------------------------------
-- Lossy Decoding
------------------------------------------------------------

def isTail (b : UInt8) : Bool := 0x80 ≤ b && b ≤ 0xBF

/- Whether a second byte may follow a first one of a longer
   character. -/
def startsLong (first second : UInt8) : Bool :=
  (first == 0xE0 && 0xA0 ≤ second && second ≤ 0xBF) ||
    (0xE1 ≤ first && first ≤ 0xEC && isTail second) ||
    (first == 0xED && 0x80 ≤ second && second ≤ 0x9F) ||
    (0xEE ≤ first && first ≤ 0xEF && isTail second) ||
    (first == 0xF0 && 0x90 ≤ second && second ≤ 0xBF) ||
    (0xF1 ≤ first && first ≤ 0xF3 && isTail second) ||
    (first == 0xF4 && 0x80 ≤ second && second ≤ 0x8F)

/- How much of broken bytes one replacement stands for. -/
def brokenLength : List UInt8 → Nat
| first :: second :: third :: _ =>
    if startsLong first second then
      if 0xF0 ≤ first && isTail third then 3 else 2
    else 1
| [first, second] => if startsLong first second then 2 else 1
| _ => 1

def replacement : Char := '\uFFFD'

def decodeLossy : Nat → List UInt8 → List Char
| 0, _ => []
| _ + 1, [] => []
| fuel + 1, b :: bs =>
    match (b :: bs).toByteArray.utf8DecodeChar? 0 with
    | some c =>
        c :: decodeLossy fuel ((b :: bs).drop c.utf8Size)
    | none =>
        replacement ::
          decodeLossy fuel
            ((b :: bs).drop (brokenLength (b :: bs)))

/- `String::from_utf8_lossy` -/
def lossy (bs : List UInt8) : String :=
  String.ofList (decodeLossy bs.length bs)

theorem decodeLossy_encode
    {fuel : Nat} {cs : List Char}
    (hFuel : cs.length ≤ fuel) :
    decodeLossy fuel (encode cs) = cs := by
  induction cs generalizing fuel with
  | nil =>
      cases fuel with
      | zero => rfl
      | succ fuel => rfl
  | cons c cs ih =>
      cases fuel with
      | zero => exact absurd hFuel (Nat.not_succ_le_zero _)
      | succ fuel =>
          have hDecode :
              (encode (c :: cs)).toByteArray.utf8DecodeChar? 0 =
                some c := by
            rw [encode_cons, List.toByteArray_append]
            exact ByteArray.utf8DecodeChar?_utf8EncodeChar_append
          have hRest :
              (encode (c :: cs)).drop c.utf8Size = encode cs := by
            rw [encode_cons, ← String.length_utf8EncodeChar,
              List.drop_left]
          cases hBytes : encode (c :: cs) with
          | nil =>
              have hLength := congrArg List.length hBytes
              rw [encode_cons, List.length_append,
                String.length_utf8EncodeChar] at hLength
              have hPos := c.utf8Size_pos
              simp at hLength
              omega
          | cons b bs =>
              rw [hBytes] at hDecode hRest
              rw [decodeLossy, hDecode]
              dsimp only
              rw [hRest, ih (Nat.le_of_succ_le_succ hFuel)]

theorem length_le_encode (cs : List Char) :
    cs.length ≤ (encode cs).length := by
  induction cs with
  | nil => exact Nat.le_refl 0
  | cons c cs ih =>
      have hPos := c.utf8Size_pos
      rw [encode_cons, List.length_append,
        String.length_utf8EncodeChar, List.length_cons]
      omega

/- What was a text is read as that text. -/
theorem lossy_encode (s : String) : lossy (bytes s) = s := by
  unfold lossy bytes
  rw [decodeLossy_encode (length_le_encode _),
    String.ofList_toList]

------------------------------------------------------------
-- Texts
------------------------------------------------------------

/- Whether bytes are the bytes of some text. -/
def isText (bs : List UInt8) : Bool :=
  bytes (lossy bs) == bs

theorem isText_iff (bs : List UInt8) :
    isText bs = true ↔ ∃ cs, bs = encode cs := by
  unfold isText
  rw [beq_iff_eq]
  constructor
  · intro hSame
    exact ⟨(lossy bs).toList, hSame.symm⟩
  · intro hText
    rcases hText with ⟨cs, hBytes⟩
    have hString : bs = bytes (String.ofList cs) := by
      rw [hBytes, bytes, String.toList_ofList]
    rw [hString, lossy_encode]

theorem isText_append
    {as bs : List UInt8}
    (hFirst : isText as = true)
    (hSecond : isText bs = true) : isText (as ++ bs) = true := by
  rw [isText_iff] at hFirst hSecond ⊢
  rcases hFirst with ⟨cs, hCs⟩
  rcases hSecond with ⟨ds, hDs⟩
  exact ⟨cs ++ ds, by rw [hCs, hDs, encode_append]⟩

/- No character's bytes start those of another. -/
theorem first_char_eq
    {c d : Char} {as bs : List UInt8}
    (hSame :
      String.utf8EncodeChar c ++ as =
        String.utf8EncodeChar d ++ bs) : c = d := by
  have hDecode :
      ∀ (e : Char) (rest : List UInt8),
        (String.utf8EncodeChar e ++ rest).toByteArray.utf8DecodeChar?
          0 = some e := by
    intro e rest
    rw [List.toByteArray_append]
    exact ByteArray.utf8DecodeChar?_utf8EncodeChar_append
  have hFirst := hDecode c as
  rw [hSame, hDecode d bs] at hFirst
  exact (Option.some.inj hFirst).symm

/- What follows a text within a text is a text. -/
theorem isText_rest
    {as bs : List UInt8}
    (hFirst : isText as = true)
    (hWhole : isText (as ++ bs) = true) : isText bs = true := by
  rw [isText_iff] at hFirst hWhole ⊢
  rcases hFirst with ⟨cs, hCs⟩
  rcases hWhole with ⟨ds, hDs⟩
  rw [hCs] at hDs
  clear hCs
  induction cs generalizing ds with
  | nil => exact ⟨ds, hDs⟩
  | cons c cs ih =>
      rw [encode_cons, List.append_assoc] at hDs
      cases ds with
      | nil =>
          have hLength := congrArg List.length hDs
          rw [List.length_append,
            String.length_utf8EncodeChar] at hLength
          have hPos := c.utf8Size_pos
          simp at hLength
          omega
      | cons d ds =>
          rw [encode_cons] at hDs
          have hChar := first_char_eq hDs
          subst hChar
          exact ih ds (List.append_cancel_left hDs)

------------------------------------------------------------
-- Strict Decoding
------------------------------------------------------------

/- `std::str::from_utf8` -/
def fromUtf8 (bs : List UInt8) : Option String :=
  if isText bs then some (lossy bs) else none

@[simp] theorem bytes_empty : bytes "" = [] := rfl

@[simp] theorem bytes_append (s t : String) :
    bytes (s ++ t) = bytes s ++ bytes t := by
  unfold bytes
  rw [String.toList_append, encode_append]

theorem bytes_injective : Function.Injective bytes := by
  intro s t hSame
  rw [← lossy_encode s, hSame, lossy_encode]

theorem isText_bytes (s : String) : isText (bytes s) = true := by
  rw [isText_iff]
  exact ⟨s.toList, rfl⟩

@[simp] theorem fromUtf8_bytes (s : String) :
    fromUtf8 (bytes s) = some s := by
  unfold fromUtf8
  rw [if_pos (isText_bytes s), lossy_encode]

theorem fromUtf8_eq_some {bs : List UInt8} {s : String} :
    fromUtf8 bs = some s ↔ bs = bytes s := by
  constructor
  · intro hText
    unfold fromUtf8 at hText
    split at hText
    next hIs =>
      cases hText
      exact (beq_iff_eq.mp hIs).symm
    next => cases hText
  · intro hBytes
    rw [hBytes, fromUtf8_bytes]

theorem fromUtf8_eq_none {bs : List UInt8} :
    fromUtf8 bs = none ↔ isText bs = false := by
  unfold fromUtf8
  cases isText bs <;> simp

end Utf8
