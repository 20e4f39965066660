import MappingPlan.Json.NumberText
import MappingPlan.Text.Digits
import MappingPlan.Value.Basic

/-!
# Reading written numbers

A document writes integers and decimals as their display text, with nothing around it.
The reader takes such a text character by character and ends it at the comma or bracket
that follows.  An integer is read back as itself.  A decimal is read back as a number: a
whole one that fits 64 bits with its value, any other as a fraction.

The digits before the point are read from the left, so the induction splits the last digit
off a number.  A mantissa may have more digits than the reader keeps.  The digits that it
drops make no number infinite, because a mantissa has at most 96 bits.
-/

namespace MappingPlan.Json.NumberText

def next? (number : NumberText) (c : Char) : Option NumberText :=
  match number.step c with
  | .more next => some next
  | _ => none

def take? (number : NumberText) (chars : List Char) : Option NumberText :=
  chars.foldlM next? number

/-- The number is complete, and what follows a value in an array or an object ends it. -/
structure Ends (number : NumberText) (node : Json) : Prop where
  finish : number.finish = .ok node
  step : ∀ c, c = ',' ∨ c = ']' ∨ c = '\x7d' → number.step c = .finished

/-- What the digits of a natural number leave the reader with, after a sign. -/
inductive Whole (negative : Bool) (value : Nat) : NumberText → Prop
  | zero (hvalue : value = 0) : Whole negative value ⟨negative, 0, 0, .leadingZero⟩
  | kept (hpositive : 0 < value) (hfits : value ≤ significandLimit) :
      Whole negative value ⟨negative, value, 0, .whole⟩
  | dropped {significand places : Nat} (hlarge : significandLimit < value)
      (hpositive : 0 < significand) (hfits : significand ≤ significandLimit)
      (hplaces : significand * 10 ^ places ≤ value) :
      Whole negative value ⟨negative, significand, places, .wholeDropped⟩

/-- A whole number in the forms in which a document keeps it. -/
def wholeTree (negative : Bool) (value : Nat) : Json :=
  if negative then
    if 0 < value ∧ value ≤ 2 ^ 63 then .integer (-value) else .fraction
  else if value ≤ significandLimit then .integer value
  else .fraction

/-- A number that its digits after the point cannot make infinite. -/
def Moderate (number : NumberText) : Prop :=
  number.significand ≤ significandLimit ∧ number.scale ≤ 28

def InDecimals (number : NumberText) : Prop :=
  (number.part = .decimals ∨ number.part = .decimalsDropped) ∧ number.Moderate

theorem next?_eq_some_iff {number next : NumberText} {c : Char} :
    number.next? c = some next ↔ number.step c = .more next := by
  unfold next?
  cases number.step c <;> simp

theorem take?_cons (number : NumberText) (c : Char) (rest : List Char) :
    number.take? (c :: rest) = (number.next? c).bind (take? · rest) := by
  rw [take?, List.foldlM_cons]
  rfl

theorem take?_append (number : NumberText) (before after : List Char) :
    number.take? (before ++ after) = (number.take? before).bind (take? · after) := by
  simp only [take?, List.foldlM_append]
  rfl

/-! ## Digits before the point -/

theorem digitChar_value {digit : Nat} (hdigit : digit < 10) :
    digit.digitChar.isDigit = true ∧ digit.digitChar.toNat - 48 = digit := by
  revert digit
  decide

variable {negative : Bool} {value digit : Nat} {number : NumberText}

theorem Whole.push (hwhole : Whole negative value number) (hvalue : 0 < value)
    (hdigit : digit < 10) :
    ∃ next, number.next? digit.digitChar = some next ∧
      Whole negative (value * 10 + digit) next := by
  obtain ⟨hisDigit, htoNat⟩ := digitChar_value hdigit
  cases hwhole with
  | zero hzero => omega
  | kept hpositive hfits =>
      by_cases hgrown : value * 10 + digit ≤ significandLimit
      · refine ⟨_, ?_, .kept (by omega) hgrown⟩
        simp [next?, step, hisDigit, htoNat, pushDigit?, hgrown]
      · refine ⟨_, ?_, .dropped (by omega) hpositive hfits (by omega : value * 10 ^ 1 ≤ _)⟩
        simp [next?, step, hisDigit, htoNat, pushDigit?, hgrown]
  | @dropped significand places hlarge hpositive hfits hplaces =>
      have hpower : significand * 10 ^ (places + 1) ≤ value * 10 + digit := by
        rw [Nat.pow_succ, ← Nat.mul_assoc]
        omega
      refine ⟨_, ?_, .dropped (by omega) hpositive hfits hpower⟩
      simp [next?, step, hisDigit]

/-- Ways to read the first digit of a number: with no sign before it, or after one. -/
structure Starts (negative : Bool) (start : Char → Option NumberText) : Prop where
  zero : start '0' = some ⟨negative, 0, 0, .leadingZero⟩
  digit : ∀ digit, 0 < digit → digit < 10 →
    start digit.digitChar = some ⟨negative, digit, 0, .whole⟩

theorem starts_begin? : Starts false begin? := by
  refine ⟨rfl, ?_⟩
  intro digit hpositive hdigit
  revert hpositive
  revert digit
  decide

theorem starts_afterSign : Starts true (next? ⟨true, 0, 0, .sign⟩) := by
  refine ⟨rfl, ?_⟩
  intro digit hpositive hdigit
  revert hpositive
  revert digit
  decide

theorem Starts.exists_whole {start : Char → Option NumberText} (hstart : Starts negative start)
    (value : Nat) :
    ∃ first rest begun number, Text.digits value = first :: rest ∧
      start first = some begun ∧ begun.take? rest = some number ∧
      Whole negative value number := by
  induction value using Nat.strongRecOn with
  | ind value ih =>
      by_cases hsmall : value < 10
      · have hdigits : Text.digits value = [value.digitChar] := Nat.toDigits_of_lt_base hsmall
        by_cases hzero : value = 0
        · subst hzero
          exact ⟨'0', [], _, _, hdigits, hstart.zero, rfl, .zero rfl⟩
        · have hfits : value ≤ significandLimit := by
            unfold significandLimit
            omega
          have hpositive : 0 < value := by omega
          exact ⟨_, [], _, _, hdigits, hstart.digit value hpositive hsmall, rfl,
            .kept hpositive hfits⟩
      · obtain ⟨first, rest, begun, number, hdigits, hfirst, hrest, hwhole⟩ :=
          ih (value / 10) (by omega)
        obtain ⟨next, hnext, hwhole⟩ :=
          hwhole.push (by omega : 0 < value / 10) (Nat.mod_lt value (by omega : 0 < 10))
        refine ⟨first, rest ++ [(value % 10).digitChar], begun, next, ?_, hfirst, ?_, ?_⟩
        · have hsplit := Nat.toDigits_of_base_le (by omega : 1 < 10) (by omega : 10 ≤ value)
          rw [Text.digits, hsplit, ← Text.digits, hdigits, List.cons_append]
        · rw [take?_append, hrest, Option.bind_some, take?_cons, hnext]
          rfl
        · rwa [Nat.div_add_mod' value 10] at hwhole

/-! ## Finite numbers -/

theorem roundToDouble_le (n : Nat) : roundToDouble n ≤ 2 * n := by
  unfold roundToDouble
  by_cases hsmall : n < 2 ^ 53
  · rw [if_pos hsmall]
    omega
  · rw [if_neg hsmall]
    have hne : n ≠ 0 := by omega
    have hlog : 2 ^ n.log2 ≤ n := Nat.log2_self_le hne
    have hunit : 2 ^ (n.log2 - 52) ≤ n :=
      Nat.le_trans (Nat.pow_le_pow_right (by omega) (by omega)) hlog
    have hkept : 1 ≤ n / 2 ^ (n.log2 - 52) :=
      (Nat.one_le_div_iff (Nat.two_pow_pos _)).mpr hunit
    have hfloor : n / 2 ^ (n.log2 - 52) * 2 ^ (n.log2 - 52) ≤ n := Nat.div_mul_le_self _ _
    dsimp only
    generalize 2 ^ (n.log2 - 52) = unit at *
    generalize n / unit = kept at *
    have hgrown : (kept + 1) * unit ≤ 2 * (kept * unit) := by
      rw [← Nat.mul_assoc]
      exact Nat.mul_le_mul_right unit (by omega)
    split <;> omega

theorem Moderate.isFinite (hmoderate : number.Moderate) :
    isFinite number.significand number.scale = true := by
  obtain ⟨hsignificand, hscale⟩ := hmoderate
  unfold NumberText.isFinite
  cases hpower : number.scale with
  | negSucc power => rfl
  | ofNat power =>
      rw [hpower] at hscale
      have hsmall : power ≤ 28 := Int.ofNat_le.mp hscale
      have hten : 10 ^ power ≤ 10 ^ 28 := Nat.pow_le_pow_right (by omega) hsmall
      have hproduct : roundToDouble number.significand * roundToDouble (10 ^ power) ≤
          2 * significandLimit * (2 * 10 ^ 28) := by
        refine Nat.mul_le_mul ?_ ?_
        · exact Nat.le_trans (roundToDouble_le _) (by omega)
        · exact Nat.le_trans (roundToDouble_le _) (by omega)
      have hbound : 2 * significandLimit * (2 * 10 ^ 28) < 2 ^ 1024 - 2 ^ 970 := by
        decide +kernel
      have hfinite := Nat.lt_of_le_of_lt hproduct hbound
      simp only [Bool.or_eq_true, Bool.and_eq_true, decide_eq_true_eq]
      exact .inr ⟨by omega, hfinite⟩

theorem Whole.moderate (hwhole : Whole negative value number) (hvalue : value < 2 ^ 96) :
    number.Moderate := by
  cases hwhole with
  | zero hzero => exact ⟨Nat.zero_le _, (by decide : (0 : Int) ≤ 28)⟩
  | kept hpositive hfits => exact ⟨hfits, by simp⟩
  | @dropped significand places hlarge hpositive hfits hplaces =>
      refine ⟨hfits, ?_⟩
      have hpower : 10 ^ places < 10 ^ 29 := by
        have hone : 10 ^ places ≤ significand * 10 ^ places := Nat.le_mul_of_pos_left _ hpositive
        have hlimit : 2 ^ 96 < 10 ^ 29 := by decide
        omega
      have hplaces : places < 29 := (Nat.pow_lt_pow_iff_right (by omega)).mp hpower
      show (places : Int) ≤ 28
      omega

/-! ## The ends of numbers -/

theorem Whole.ends (hwhole : Whole negative value number) (hvalue : value < 2 ^ 96) :
    number.Ends (wholeTree negative value) := by
  have hfinite := (hwhole.moderate hvalue).isFinite
  constructor
  · cases hwhole with
    | zero hzero => subst hzero; cases negative <;> rfl
    | kept hpositive hfits =>
        cases negative with
        | false => simp [finish, wholeTree, hfits]
        | true =>
            by_cases hsigned : value ≤ 2 ^ 63 <;>
              simp [finish, wholeTree, hpositive, hsigned]
    | dropped hlarge hpositive hfits hplaces =>
        have hlargeValue : ¬ value ≤ 2 ^ 63 := by
          unfold significandLimit at hlarge
          omega
        have hkept : ¬ value ≤ significandLimit := by omega
        simp only [finish, fraction, hfinite, if_true, wholeTree, hlargeValue, hkept, and_false,
          if_false, ite_self]
  · rintro c (rfl | rfl | rfl) <;> cases hwhole <;> rfl

theorem InDecimals.ends (hdecimals : number.InDecimals) : number.Ends .fraction := by
  obtain ⟨hpart, hmoderate⟩ := hdecimals
  have hfinite := hmoderate.isFinite
  constructor
  · rcases hpart with hpart | hpart <;>
      simp only [finish, hpart, fraction, hfinite, if_true]
  · rintro c (rfl | rfl | rfl) <;> rcases hpart with hpart | hpart <;>
      simp [step, hpart, endDigits]

/-! ## Digits after the point -/

theorem Moderate.exists_next_decimal (hmoderate : number.Moderate)
    (hpart : number.part = .point ∨ number.part = .decimals ∨ number.part = .decimalsDropped)
    {c : Char} (hdigit : c.isDigit = true) :
    ∃ next, number.next? c = some next ∧ next.InDecimals := by
  obtain ⟨hsignificand, hscale⟩ := hmoderate
  by_cases hdropped : number.part = .decimalsDropped
  · exact ⟨number, by simp [next?, step, hdropped, hdigit], .inr hdropped, hsignificand, hscale⟩
  · have hkeeps : number.part = .point ∨ number.part = .decimals := by
      simpa [hdropped] using hpart
    by_cases hgrown : number.significand * 10 + (c.toNat - 48) ≤ significandLimit
    · refine ⟨⟨number.negative, _, number.scale - 1, .decimals⟩, ?_, .inl rfl, hgrown, ?_⟩
      · rcases hkeeps with hpart | hpart <;>
          simp [next?, step, hpart, hdigit, pushDigit?, hgrown]
      · show number.scale - 1 ≤ 28
        omega
    · refine ⟨{ number with part := .decimalsDropped }, ?_, .inr rfl, hsignificand, hscale⟩
      rcases hkeeps with hpart | hpart <;>
        simp [next?, step, hpart, hdigit, pushDigit?, hgrown]

theorem Moderate.exists_take_decimals (hmoderate : number.Moderate)
    (hpart : number.part = .point ∨ number.part = .decimals ∨ number.part = .decimalsDropped)
    {decimals : List Char} (hnonempty : decimals ≠ [])
    (hdigits : ∀ c ∈ decimals, c.isDigit = true) :
    ∃ last, number.take? decimals = some last ∧ last.InDecimals := by
  induction decimals generalizing number with
  | nil => exact absurd rfl hnonempty
  | cons c rest ih =>
      rw [List.forall_mem_cons] at hdigits
      obtain ⟨next, hnext, hdecimals⟩ := hmoderate.exists_next_decimal hpart hdigits.1
      rw [take?_cons, hnext, Option.bind_some]
      by_cases hrest : rest = []
      · subst hrest
        exact ⟨next, rfl, hdecimals⟩
      · exact ih hdecimals.2 (.inr hdecimals.1) hrest hdigits.2

/-! ## Whole texts -/

/-- The text is read to its end as a number, and then stands for the node. -/
def Reads (start : Char → Option NumberText) (text : List Char) (node : Json) : Prop :=
  ∃ first rest begun number, text = first :: rest ∧ start first = some begun ∧
    begun.take? rest = some number ∧ number.Ends node

namespace Starts

variable {start : Char → Option NumberText}

theorem reads_digits (hstart : Starts negative start) (hvalue : value < 2 ^ 96) :
    Reads start (Text.digits value) (wholeTree negative value) := by
  obtain ⟨first, rest, begun, number, hdigits, hfirst, hrest, hwhole⟩ :=
    hstart.exists_whole value
  exact ⟨first, rest, begun, number, hdigits, hfirst, hrest, hwhole.ends hvalue⟩

theorem reads_decimals (hstart : Starts negative start) (hvalue : value < 2 ^ 96)
    {decimals : List Char} (hnonempty : decimals ≠ [])
    (hdecimals : ∀ c ∈ decimals, c.isDigit = true) :
    Reads start (Text.digits value ++ '.' :: decimals) .fraction := by
  obtain ⟨first, rest, begun, number, hdigits, hfirst, hrest, hwhole⟩ :=
    hstart.exists_whole value
  have hpoint : number.next? '.' = some { number with part := .point } := by
    cases hwhole <;> rfl
  have hmoderate : Moderate { number with part := .point } := hwhole.moderate hvalue
  obtain ⟨last, hlast, hinDecimals⟩ :=
    hmoderate.exists_take_decimals (.inl rfl) hnonempty hdecimals
  refine ⟨first, rest ++ '.' :: decimals, begun, last, ?_, hfirst, ?_, hinDecimals.ends⟩
  · rw [hdigits, List.cons_append]
  · rw [take?_append, hrest, Option.bind_some, take?_cons, hpoint, Option.bind_some, hlast]

end Starts

theorem Reads.signed {text : List Char} {node : Json}
    (hreads : Reads (next? ⟨true, 0, 0, .sign⟩) text node) :
    Reads begin? ('-' :: text) node := by
  obtain ⟨first, rest, begun, number, rfl, hfirst, hrest, hends⟩ := hreads
  refine ⟨'-', first :: rest, ⟨true, 0, 0, .sign⟩, number, rfl, rfl, ?_, hends⟩
  rw [take?_cons, hfirst, Option.bind_some, hrest]

theorem isDigit_of_mem_digits {n : Nat} {c : Char} (hmem : c ∈ Text.digits n) :
    c.isDigit = true :=
  Nat.isDigit_of_mem_toDigits (by omega) (by omega) hmem

theorem isDigit_of_mem_digitsPadded {width n : Nat} {c : Char}
    (hmem : c ∈ Text.digitsPadded width n) : c.isDigit = true := by
  rcases List.mem_append.mp hmem with hpadding | hdigits
  · rw [List.eq_of_mem_replicate hpadding]
    rfl
  · exact isDigit_of_mem_digits hdigits

end MappingPlan.Json.NumberText

namespace MappingPlan

open Json NumberText

/-- A decimal as a document keeps it: a number, with its value if that is whole and fits 64
bits. -/
def Decimal.tree (value : Decimal) : Json :=
  if value.scale = 0 then wholeTree value.negative value.mantissa else .fraction

theorem Decimal.reads_magnitude {negative : Bool} {start : Char → Option NumberText}
    (hstart : Starts negative start) (value : Decimal) :
    Reads start (magnitude value.mantissa value.scale)
      (if value.scale = 0 then wholeTree negative value.mantissa else .fraction) := by
  unfold magnitude
  by_cases hscale : value.scale = 0
  · rw [if_pos hscale, if_pos hscale]
    exact hstart.reads_digits value.mantissa_lt
  · rw [if_neg hscale, if_neg hscale]
    have hwhole : value.mantissa / 10 ^ value.scale < 2 ^ 96 :=
      Nat.lt_of_le_of_lt (Nat.div_le_self _ _) value.mantissa_lt
    refine hstart.reads_decimals hwhole ?_ fun c => isDigit_of_mem_digitsPadded
    simp [Text.digitsPadded, Text.padLeft, Text.digits, Nat.toDigits_ne_nil]

/-- A decimal is written as a number. -/
theorem Decimal.reads_display (value : Decimal) :
    Reads begin? value.display.toList value.tree := by
  rw [display, String.toList_ofList, tree]
  cases hnegative : value.negative with
  | false => exact reads_magnitude starts_begin? value
  | true => exact (reads_magnitude starts_afterSign value).signed

/-- An integer is written as the number that it is. -/
theorem Value.reads_displayInt (value : Int64) :
    Reads begin? (displayInt value).toList (.integer value.toInt) := by
  have hlow := value.le_toInt
  have hhigh := value.toInt_lt
  have hmagnitude : value.toInt.natAbs < 2 ^ 96 := by omega
  rw [displayInt, String.toList_ofList]
  by_cases hsign : value.toInt < 0
  · have htree : wholeTree true value.toInt.natAbs = .integer value.toInt := by
      have hfits : 0 < value.toInt.natAbs ∧ value.toInt.natAbs ≤ 2 ^ 63 := by omega
      rw [wholeTree, if_pos rfl, if_pos hfits]
      congr 1
      omega
    rw [if_pos hsign, ← htree]
    exact (starts_afterSign.reads_digits hmagnitude).signed
  · have htree : wholeTree false value.toInt.natAbs = .integer value.toInt := by
      have hfits : value.toInt.natAbs ≤ significandLimit := by
        unfold significandLimit
        omega
      rw [wholeTree, if_neg Bool.false_ne_true, if_pos hfits]
      congr 1
      omega
    rw [if_neg hsign, ← htree]
    exact starts_begin?.reads_digits hmagnitude

end MappingPlan
