import MappingPlan.Proofs.NumberReading
import MappingPlan.Value.Decimal

/-!
# Reading a displayed decimal

The display text of a decimal has as many digits after the point as its scale.  Read digit by
digit, the numbers it passes through only grow, and the last of them is the mantissa, which has
room.  So no digit of a display text is ever rounded: its mantissa and its scale come back.

The sign comes back with them unless the mantissa is zero.  A literal that is not in scientific
notation never gives a zero with a sign, and a display text is such a literal.
-/

namespace MappingPlan

namespace Text

/-! ## Digits -/

theorem length_digitsPadded {width n : Nat} (hwidth : 0 < width) (hn : n < 10 ^ width) :
    (digitsPadded width n).length = width := by
  have hlength : (digits n).length ≤ width :=
    (Nat.length_toDigits_le_iff (by omega) hwidth).mpr hn
  rw [digitsPadded, padLeft, List.length_append, List.length_replicate]
  omega

theorem digitsPadded_ne_nil (width n : Nat) : digitsPadded width n ≠ [] := by
  simp [digitsPadded, padLeft, digits, Nat.toDigits_ne_nil]

theorem ofDigitChars_digitsPadded (width n : Nat) :
    Nat.ofDigitChars 10 (digitsPadded width n) 0 = n := by
  rw [digitsPadded, padLeft, Nat.ofDigitChars_append, Nat.ofDigitChars_replicate_zero,
    Nat.mul_zero]
  exact Nat.ofDigitChars_toDigits (by omega) (by omega)

theorem all_isDigit_digitsPadded (width n : Nat) :
    (digitsPadded width n).all Char.isDigit = true :=
  List.all_eq_true.mpr fun _ => Json.NumberText.isDigit_of_mem_digitsPadded

theorem readDigits?_digitsPadded (width n : Nat) : readDigits? (digitsPadded width n) = some n := by
  rw [readDigits?, if_pos ⟨digitsPadded_ne_nil width n, all_isDigit_digitsPadded width n⟩,
    ofDigitChars_digitsPadded]

theorem le_ofDigitChars (text : List Char) (initial : Nat) :
    initial ≤ Nat.ofDigitChars 10 text initial := by
  have hpower : 1 * initial ≤ 10 ^ text.length * initial :=
    Nat.mul_le_mul_right initial (Nat.one_le_pow _ _ (by omega))
  rw [Nat.ofDigitChars_eq_ofDigitChars_zero]
  omega

end Text

namespace Decimal

/-! ## Digits with room -/

section Room

variable {text : List Char} {mantissa scale : Nat}

/-- Digits before the point only grow the mantissa. -/
theorem readMagnitude_whole (rest : List Char) {started : Bool}
    (hdigits : ∀ c ∈ text, c.isDigit = true)
    (hroom : Nat.ofDigitChars 10 text mantissa < mantissaLimit) :
    readMagnitude ⟨mantissa, scale, false, started⟩ (text ++ rest) =
      readMagnitude
        ⟨Nat.ofDigitChars 10 text mantissa, scale, false, started || !text.isEmpty⟩ rest := by
  induction text generalizing mantissa started with
  | nil => simp
  | cons c text ih =>
      obtain ⟨hdigit, htext⟩ := List.forall_mem_cons.mp hdigits
      rw [Nat.ofDigitChars_cons] at hroom ⊢
      have hgrown : 10 * mantissa + (c.toNat - '0'.toNat) < mantissaLimit :=
        Nat.lt_of_le_of_lt (Text.le_ofDigitChars _ _) hroom
      rw [List.cons_append, readMagnitude, if_pos hdigit]
      simp only [Nat.mul_comm mantissa, Bool.false_eq_true, false_and, if_false, hgrown,
        Bool.not_false, true_or, and_true, if_true, ih htext hroom]
      simp

/-- Digits after the point grow the mantissa and the scale up to the last place. -/
theorem readMagnitude_fraction (hdigits : ∀ c ∈ text, c.isDigit = true)
    (hplaces : scale + text.length ≤ maxScale)
    (hroom : Nat.ofDigitChars 10 text mantissa < mantissaLimit) :
    readMagnitude ⟨mantissa, scale, true, true⟩ text =
      some (Nat.ofDigitChars 10 text mantissa, scale + text.length) := by
  induction text generalizing mantissa scale with
  | nil => simp [readMagnitude]
  | cons c text ih =>
      obtain ⟨hdigit, htext⟩ := List.forall_mem_cons.mp hdigits
      rw [List.length_cons] at hplaces ⊢
      rw [Nat.ofDigitChars_cons] at hroom ⊢
      have hgrown : 10 * mantissa + (c.toNat - '0'.toNat) < mantissaLimit :=
        Nat.lt_of_le_of_lt (Text.le_ofDigitChars _ _) hroom
      have hscale : scale < maxScale := by omega
      rw [readMagnitude, if_pos hdigit]
      simp only [Nat.mul_comm mantissa, true_and]
      split
      · -- The place of this digit is the last one, so no other follows it.
        rename_i hshort
        obtain rfl : text = [] := List.length_eq_zero_iff.mp (by omega)
        simp [closeShort, hshort.1]
      · simp only [hgrown, hscale, Bool.not_true, or_true, and_true, if_true]
        rw [ih htext (by omega) hroom]
        simp only [Option.some.injEq, Prod.mk.injEq, true_and]
        omega

end Room

/-! ## The display text -/

theorem readMagnitude_magnitude {mantissa scale : Nat} (hmantissa : mantissa < mantissaLimit)
    (hscale : scale ≤ maxScale) :
    readMagnitude ⟨0, 0, false, false⟩ (magnitude mantissa scale) = some (mantissa, scale) := by
  have hwhole (n : Nat) (rest : List Char) (hn : n < mantissaLimit) :
      readMagnitude ⟨0, 0, false, false⟩ (Text.digits n ++ rest) =
        readMagnitude ⟨n, 0, false, true⟩ rest := by
    have hvalue : Nat.ofDigitChars 10 (Text.digits n) 0 = n :=
      Nat.ofDigitChars_toDigits (by omega) (by omega)
    rw [readMagnitude_whole rest (fun _ => Json.NumberText.isDigit_of_mem_digits)
      (by rwa [hvalue]), hvalue, Text.digits, List.isEmpty_eq_false_iff.mpr Nat.toDigits_ne_nil]
    rfl
  by_cases hzero : scale = 0
  · have hread := hwhole mantissa [] hmantissa
    rw [List.append_nil] at hread
    rw [magnitude, if_pos hzero, hread, hzero]
    rfl
  · have hpower : 0 < 10 ^ scale := Nat.pow_pos (by omega)
    have hlength : (Text.digitsPadded scale (mantissa % 10 ^ scale)).length = scale :=
      Text.length_digitsPadded (by omega) (Nat.mod_lt _ hpower)
    have hvalue : Nat.ofDigitChars 10 (Text.digitsPadded scale (mantissa % 10 ^ scale))
        (mantissa / 10 ^ scale) = mantissa := by
      rw [Nat.ofDigitChars_eq_ofDigitChars_zero, hlength, Text.ofDigitChars_digitsPadded]
      exact Nat.div_add_mod mantissa (10 ^ scale)
    have hquotient : mantissa / 10 ^ scale < mantissaLimit :=
      Nat.lt_of_le_of_lt (Nat.div_le_self _ _) hmantissa
    have hpoint (text : List Char) :
        readMagnitude ⟨mantissa / 10 ^ scale, 0, false, true⟩ ('.' :: text) =
          readMagnitude ⟨mantissa / 10 ^ scale, 0, true, true⟩ text := by
      rw [readMagnitude]
      rfl
    rw [magnitude, if_neg hzero, hwhole _ _ hquotient, hpoint,
      readMagnitude_fraction (fun _ => Json.NumberText.isDigit_of_mem_digitsPadded)
        (by omega) (by rwa [hvalue]), hvalue, hlength, Nat.zero_add]

theorem takeSign_digits (n : Nat) (rest : List Char) :
    takeSign (Text.digits n ++ rest) = (false, Text.digits n ++ rest) := by
  have hne : Text.digits n ≠ [] := Nat.toDigits_ne_nil
  obtain ⟨first, others, hcons⟩ := List.exists_cons_of_ne_nil hne
  have hdigit : first.isDigit = true :=
    Json.NumberText.isDigit_of_mem_digits (hcons ▸ List.mem_cons_self)
  rw [hcons, List.cons_append]
  unfold takeSign
  split
  · simp_all
  · simp_all
  · rfl

theorem takeSign_magnitude (mantissa scale : Nat) :
    takeSign (magnitude mantissa scale) = (false, magnitude mantissa scale) := by
  unfold magnitude
  split
  · simpa using takeSign_digits mantissa []
  · exact takeSign_digits _ _

/-- The same number, with no sign if it is zero. -/
def unsignedZero (value : Decimal) : Decimal :=
  { value with negative := value.negative && value.mantissa != 0 }

theorem readPlain?_display (value : Decimal) :
    readPlain? value.display.toList = some value.unsignedZero := by
  have hread := readMagnitude_magnitude value.mantissa_lt value.scale_le
  have hsign : takeSign value.display.toList =
      (value.negative, magnitude value.mantissa value.scale) := by
    rw [display, String.toList_ofList]
    cases value.negative
    · exact takeSign_magnitude _ _
    · rfl
  rw [readPlain?, hsign]
  simp only [hread, Option.bind_eq_bind, Option.bind_some]
  rw [make?, dif_pos value.mantissa_lt, dif_pos value.scale_le]
  rfl

theorem ofLiteral?_display (value : Decimal) :
    ofLiteral? value.display = some value.unsignedZero := by
  simp only [ofLiteral?, readPlain?_display]

/-- A zero with a sign needs an exponent. -/
theorem unsignedZero_eq_of_readPlain? {text : List Char} {value : Decimal}
    (hread : readPlain? text = some value) : value.unsignedZero = value := by
  unfold readPlain? make? at hread
  simp only [Option.bind_eq_bind, Option.bind_eq_some_iff] at hread
  obtain ⟨⟨mantissa, scale⟩, -, hmake⟩ := hread
  split at hmake
  · split at hmake
    · cases hmake
      simp [unsignedZero]
    · cases hmake
  · cases hmake

theorem unsignedZero_eq_iff (value : Decimal) :
    value.unsignedZero = value ↔ ¬ (value.negative = true ∧ value.mantissa = 0) := by
  cases value with
  | mk negative mantissa scale hmantissa hscale =>
      cases negative <;> simp [unsignedZero]

end Decimal

end MappingPlan
