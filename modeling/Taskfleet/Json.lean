import Mathlib.Algebra.Group.Int.Defs
import Mathlib.Algebra.Group.Nat.Defs
import Mathlib.Data.List.Basic

/-
  JSON values as the repository's parser yields them, their
  accessors, and the rules by which derived decoders read
  records and unit enumerations from them.

  Objects list their members in key order, as the ordered
  map behind them does, so equality of values is equality of
  lists. Integers and floating-point numbers are separate
  values; a float is carried by its bit pattern and never
  looked into.

  Main declarations:
    * `Json`, `Json.get`, `Json.asU64`, `Json.asStr`
    * `Json.insertField`, `Json.lookup_insertField_self`,
      `Json.lookup_insertField_ne`
    * `Json.Fields`, `Json.variantName`
-/

------------------------------------------------------------
-- Values
------------------------------------------------------------

namespace Taskfleet

inductive Json where
| null : Json
| bool : Bool → Json
| int : Int → Json
| float : Nat → Json
| str : String → Json
| arr : List Json → Json
| obj : List (String × Json) → Json
deriving Repr, Inhabited

namespace Json

mutual

/- Structural equality test on values. -/
def same : Json → Json → Bool
| .null, .null => true
| .bool a, .bool b => a == b
| .int a, .int b => a == b
| .float a, .float b => a == b
| .str a, .str b => a == b
| .arr xs, .arr ys => sameList xs ys
| .obj xs, .obj ys => sameFields xs ys
| _, _ => false

def sameList : List Json → List Json → Bool
| [], [] => true
| x :: xs, y :: ys => same x y && sameList xs ys
| _, _ => false

def sameFields :
    List (String × Json) → List (String × Json) → Bool
| [], [] => true
| (k, x) :: xs, (l, y) :: ys =>
    k == l && same x y && sameFields xs ys
| _, _ => false

end

mutual

theorem same_iff_eq : ∀ x y : Json, same x y = true ↔ x = y
| .null, y => by cases y <;> simp [same]
| .bool _, y => by cases y <;> simp [same]
| .int _, y => by cases y <;> simp [same]
| .float _, y => by cases y <;> simp [same]
| .str _, y => by cases y <;> simp [same]
| .arr xs, y => by
    cases y <;> simp [same, sameList_iff_eq xs]
| .obj xs, y => by
    cases y <;> simp [same, sameFields_iff_eq xs]

theorem sameList_iff_eq :
    ∀ xs ys : List Json, sameList xs ys = true ↔ xs = ys
| [], ys => by cases ys <;> simp [sameList]
| x :: xs, ys => by
    cases ys <;>
      simp [sameList, same_iff_eq x, sameList_iff_eq xs]

theorem sameFields_iff_eq :
    ∀ xs ys : List (String × Json),
      sameFields xs ys = true ↔ xs = ys
| [], ys => by cases ys <;> simp [sameFields]
| (k, x) :: xs, ys => by
    rcases ys with _ | ⟨⟨l, y⟩, ys⟩ <;>
      simp [sameFields, same_iff_eq x,
        sameFields_iff_eq xs, and_assoc]

end

instance : DecidableEq Json :=
  fun x y => decidable_of_iff _ (same_iff_eq x y)

------------------------------------------------------------
-- Accessors
------------------------------------------------------------

/- The member of an object under a key. -/
def get (d : Json) (field : String) : Option Json :=
  match d with
  | .obj kvs => kvs.lookup field
  | _ => none

def asStr : Json → Option String
| .str s => some s
| _ => none

def asBool : Json → Option Bool
| .bool b => some b
| _ => none

theorem asStr_eq_some {v : Json} {s : String} :
    v.asStr = some s ↔ v = .str s := by
  cases v <;> simp [asStr]

theorem asBool_eq_some {v : Json} {b : Bool} :
    v.asBool = some b ↔ v = .bool b := by
  cases v <;> simp [asBool]

def asArray : Json → Option (List Json)
| .arr xs => some xs
| _ => none

/- An integer that fits an unsigned 64-bit number. -/
def asU64 : Json → Option Nat
| .int n => if 0 ≤ n ∧ n < 2 ^ 64 then some n.toNat else none
| _ => none

theorem asU64_natCast
    {n : Nat} (hFits : n < 2 ^ 64) :
    (Json.int n).asU64 = some n := by
  have hRange : 0 ≤ (n : Int) ∧ (n : Int) < 2 ^ 64 := by
    constructor <;> omega
  simp only [asU64, if_pos hRange, Int.toNat_natCast]

theorem lt_of_asU64
    {v : Json} {n : Nat} (hRead : v.asU64 = some n) :
    n < 2 ^ 64 := by
  cases v with
  | int i =>
      simp only [asU64, Option.ite_none_right_eq_some,
        Option.some.injEq] at hRead
      omega
  | _ => cases hRead

/- An integer that fits a signed 64-bit number. -/
def asI64 : Json → Option Int
| .int n =>
    if -(2 ^ 63) ≤ n ∧ n < 2 ^ 63 then some n else none
| _ => none

def isNull : Json → Bool
| .null => true
| _ => false

/- The string member of an object under a key. -/
def getStr (d : Json) (field : String) : Option String :=
  (d.get field).bind asStr

/- Insert into an ordered member list, replacing the key. -/
def insertField
    (key : String)
    (value : Json) :
    List (String × Json) → List (String × Json)
| [] => [(key, value)]
| (k, v) :: rest =>
    if key = k then (key, value) :: rest
    else if key < k then (key, value) :: (k, v) :: rest
    else (k, v) :: insertField key value rest

@[simp] theorem lookup_insertField_self
    (key : String)
    (value : Json)
    (kvs : List (String × Json)) :
    (insertField key value kvs).lookup key =
      some value := by
  induction kvs with
  | nil => simp [insertField]
  | cons entry rest ih =>
      rcases entry with ⟨k, v⟩
      unfold insertField
      by_cases hEq : key = k
      · simp [hEq]
      · by_cases hLt : key < k
        · simp [hEq, hLt]
        · have hNe : (key == k) = false := by
            simpa using hEq
          simp [hEq, hLt, List.lookup_cons, hNe, ih]

theorem lookup_insertField_ne
    {key other : String}
    (value : Json)
    (kvs : List (String × Json))
    (hNe : other ≠ key) :
    (insertField key value kvs).lookup other =
      kvs.lookup other := by
  have hFresh : (other == key) = false := by
    simpa using hNe
  induction kvs with
  | nil => simp [insertField, List.lookup_cons, hFresh]
  | cons entry rest ih =>
      rcases entry with ⟨k, v⟩
      unfold insertField
      by_cases hEq : key = k
      · subst hEq
        simp [List.lookup_cons, hFresh]
      · by_cases hLt : key < k
        · simp [hEq, hLt, List.lookup_cons, hFresh]
        · simp [hEq, hLt, List.lookup_cons, ih]

------------------------------------------------------------
-- Derived Decoders
------------------------------------------------------------

/-
  A derived record decoder reads its fields by name from an
  object, or by position from an array that is no longer
  than the record has fields.
-/
inductive Fields where
| named : List (String × Json) → Fields
| positional : List Json → Fields

def fields (width : Nat) : Json → Option Fields
| .obj kvs => some (.named kvs)
| .arr xs =>
    if xs.length ≤ width then some (.positional xs) else none
| _ => none

/- An optional value: null is absence. -/
def option
    {α : Type}
    (decode : Json → Option α) : Json → Option (Option α)
| .null => some none
| v => (decode v).map some

namespace Fields

variable {α : Type}

def raw (f : Fields) (name : String) (i : Nat) :
    Option Json :=
  match f with
  | .named kvs => kvs.lookup name
  | .positional xs => xs[i]?

/- A field that must be there. -/
def required
    (f : Fields)
    (name : String)
    (i : Nat)
    (decode : Json → Option α) : Option α :=
  (f.raw name i).bind decode

/-
  A field of optional type without a declared default: a
  missing name is absence, a missing position is an error.
-/
def optional
    (f : Fields)
    (name : String)
    (i : Nat)
    (decode : Json → Option α) : Option (Option α) :=
  match f.raw name i, f with
  | some v, _ => option decode v
  | none, .named _ => some none
  | none, .positional _ => none

/- A field with a declared default. -/
def defaulted
    (f : Fields)
    (name : String)
    (i : Nat)
    (default : α)
    (decode : Json → Option α) : Option α :=
  match f.raw name i with
  | some v => decode v
  | none => some default

end Fields

/-
  The name of a unit variant: a string, or an object whose
  only member maps the name to null.
-/
def variantName : Json → Option String
| .str s => some s
| .obj [(name, .null)] => some name
| _ => none

/- An unsigned integer below a bound. -/
def asUnsigned (bound : Nat) (v : Json) : Option Nat :=
  v.asU64.filter (fun n => n < bound)

/- A signed 32-bit integer. -/
def asI32 (v : Json) : Option Int :=
  v.asI64.filter (fun n => -(2 ^ 31) ≤ n ∧ n < 2 ^ 31)

/- A list whose every element decodes. -/
def listOf
    {α : Type}
    (decode : Json → Option α)
    (v : Json) : Option (List α) :=
  v.asArray.bind (fun xs => xs.mapM decode)

end Json

end Taskfleet
