/-
Java's `int` and its decimal text.

The type is the fixed-width `Int32`, whose addition wraps around.  The printer and
the parser follow `Integer.toString` and `Integer.parseInt` of Java 6: an optional
minus sign, at least one decimal digit, and a value that fits 32 bits.  Digits of
other scripts are left out.  Sums are compared in the residues modulo `2 ^ 32`,
where wrapping is invisible, and carried back to the integers inside the range.
-/

import Mathlib.Data.ZMod.Basic
import Mathlib.Tactic.Ring

set_option autoImplicit false

namespace SpringExamples.JavaInteger

/-- `value + ""` for an `int` value. -/
def print (value : Int32) : String := value.toInt.repr

def InRange (value : Int) : Prop := -2 ^ 31 ≤ value ∧ value < 2 ^ 31

instance (value : Int) : Decidable (InRange value) := by
  unfold InRange
  infer_instance

def parseDigits (digits : List Char) : Option Nat :=
  if digits ≠ [] ∧ digits.all Char.isDigit then some (Nat.ofDigitChars 10 digits 0) else none

def parseSigned : List Char → Option Int
  | '-' :: digits => (parseDigits digits).map fun magnitude : Nat => -(magnitude : Int)
  | digits => (parseDigits digits).map fun magnitude : Nat => (magnitude : Int)

/-- `none` is the `NumberFormatException`. -/
def parseInt (text : String) : Option Int32 :=
  (parseSigned text.toList).bind fun value =>
    if InRange value then some (Int32.ofInt value) else none

theorem toInt_inRange (value : Int32) : InRange value.toInt :=
  ⟨Int32.le_toInt value, Int32.toInt_lt value⟩

theorem parseDigits_toDigits (magnitude : Nat) :
    parseDigits (Nat.toDigits 10 magnitude) = some magnitude := by
  have digits : (Nat.toDigits 10 magnitude).all Char.isDigit = true := by
    rw [List.all_eq_true]
    intro digit member
    exact Nat.isDigit_of_mem_toDigits (by decide) (by decide) member
  unfold parseDigits
  rw [if_pos ⟨Nat.toDigits_ne_nil, digits⟩, Nat.ofDigitChars_ten_toDigits]

theorem head_toDigits_ne_minus (magnitude : Nat) (rest : List Char) :
    Nat.toDigits 10 magnitude ≠ '-' :: rest := by
  intro same
  have digit : Char.isDigit '-' = true := by
    apply Nat.isDigit_of_mem_toDigits (b := 10) (n := magnitude) (by decide) (by decide)
    rw [same]
    exact List.mem_cons_self
  exact absurd digit (by decide)

theorem parseSigned_toDigits (magnitude : Nat) :
    parseSigned (Nat.toDigits 10 magnitude) = some (magnitude : Int) := by
  unfold parseSigned
  split
  · rename_i digits same
    exact absurd same (head_toDigits_ne_minus magnitude digits)
  · rw [parseDigits_toDigits]
    rfl

theorem parseSigned_repr (value : Int) : parseSigned value.repr.toList = some value := by
  rw [Int.repr_eq_if]
  split
  · rename_i nonnegative
    rw [Nat.toList_repr, parseSigned_toDigits, Int.toNat_of_nonneg nonnegative]
  · rename_i negative
    have opposite : ((-value).toNat : Int) = -value := Int.toNat_of_nonneg (by omega)
    have minus : "-".toList = ['-'] := by decide
    rw [String.toList_append, Nat.toList_repr, minus, List.singleton_append, parseSigned,
      parseDigits_toDigits, Option.map_some, opposite, Int.neg_neg]

/-- Parsing undoes printing, for every 32-bit value. -/
@[simp] theorem parseInt_print (value : Int32) : parseInt (print value) = some value := by
  unfold parseInt print
  rw [parseSigned_repr, Option.bind_some, if_pos (toInt_inRange value), Int32.ofInt_toInt]

def residue (value : Int32) : ZMod (2 ^ 32) := (value.toInt : ZMod (2 ^ 32))

theorem bmod_residue (value : Int) :
    ((value.bmod (2 ^ 32) : Int) : ZMod (2 ^ 32)) = (value : ZMod (2 ^ 32)) := by
  rw [ZMod.intCast_eq_intCast_iff]
  exact Int.bmod_emod

theorem residue_add (left right : Int32) :
    residue (left + right) = residue left + residue right := by
  unfold residue
  rw [Int32.toInt_add, bmod_residue, Int.cast_add]

theorem residue_ofInt (value : Int) : residue (Int32.ofInt value) = (value : ZMod (2 ^ 32)) := by
  unfold residue
  rw [Int32.toInt_ofInt]
  exact bmod_residue value

theorem residue_zero : residue 0 = 0 := by
  have zero := residue_ofInt 0
  rw [Int.cast_zero] at zero
  exact zero

theorem toInt_eq_of_residue {value : Int32} {total : Int} (fits : InRange total)
    (same : residue value = (total : ZMod (2 ^ 32))) : value.toInt = total := by
  unfold residue at same
  rw [ZMod.intCast_eq_intCast_iff] at same
  have bounds := toInt_inRange value
  unfold InRange at fits bounds
  unfold Int.ModEq at same
  norm_num at same
  omega

theorem residue_injective {left right : Int32} (same : residue left = residue right) :
    left = right := by
  rw [← Int32.toInt_inj]
  exact toInt_eq_of_residue (toInt_inRange right) same

end SpringExamples.JavaInteger
