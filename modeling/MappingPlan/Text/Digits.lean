/-!
# Decimal and hexadecimal digits

Numbers are written by `Nat.toDigits` and read back by `Nat.ofDigitChars`; this
file adds the tests and the paddings that the formats of this library share.
Only the ten ASCII digits count as digits.
-/

-- A power is the same term whatever else a module imports.
attribute [default_instance 20000] instPowNat

namespace MappingPlan

instance (priority := 20000) natPow : Pow Nat Nat :=
  instPowNat

end MappingPlan

namespace MappingPlan.Text

def digits (n : Nat) : List Char :=
  Nat.toDigits 10 n

def readDigits? (text : List Char) : Option Nat :=
  if text ≠ [] ∧ text.all Char.isDigit then some (Nat.ofDigitChars 10 text 0)
  else none

def padLeft (width : Nat) (fill : Char) (text : List Char) : List Char :=
  List.replicate (width - text.length) fill ++ text

def digitsPadded (width n : Nat) : List Char :=
  padLeft width '0' (digits n)

def hexDigits (n : Nat) : List Char :=
  Nat.toDigits 16 n

def hexValue? (c : Char) : Option Nat :=
  if '0' ≤ c ∧ c ≤ '9' then some (c.toNat - '0'.toNat)
  else if 'a' ≤ c ∧ c ≤ 'f' then some (c.toNat - 'a'.toNat + 10)
  else if 'A' ≤ c ∧ c ≤ 'F' then some (c.toNat - 'A'.toNat + 10)
  else none

@[simp] theorem readDigits?_digits (n : Nat) : readDigits? (digits n) = some n := by
  have hall : (digits n).all Char.isDigit := by
    rw [List.all_eq_true]
    intro c hc
    exact Nat.isDigit_of_mem_toDigits (by omega) (by omega) hc
  have hne : digits n ≠ [] := Nat.toDigits_ne_nil
  have hvalue : Nat.ofDigitChars 10 (digits n) 0 = n :=
    Nat.ofDigitChars_toDigits (by omega) (by omega)
  rw [readDigits?, if_pos ⟨hne, hall⟩, hvalue]

end MappingPlan.Text
