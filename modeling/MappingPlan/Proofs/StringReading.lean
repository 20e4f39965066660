import Mathlib.Tactic.SplitIfs
import MappingPlan.Json.StringText
import MappingPlan.Proofs.NumberReading
import MappingPlan.Value.Basic

/-!
# Reading quoted strings

Quoting escapes the quote, the backslash and the control characters, and reading takes
every escape back to its character.  So any text is read back as it was, character by
character.

Identifiers and timestamps are written between quotes with nothing escaped.  Their display
texts have no character that quoting would escape, so they are quoted strings as well.
-/

namespace MappingPlan.Json

namespace StringText

def next? (text : StringText) (c : Char) : Option StringText :=
  match text.step c with
  | .more next => some next
  | _ => none

def take? (text : StringText) (chars : List Char) : Option StringText :=
  chars.foldlM next? text

theorem next?_eq_some_iff {text next : StringText} {c : Char} :
    text.next? c = some next ↔ text.step c = .more next := by
  unfold next?
  cases text.step c <;> simp

theorem take?_cons (text : StringText) (c : Char) (rest : List Char) :
    text.take? (c :: rest) = (text.next? c).bind (take? · rest) := by
  rw [take?, List.foldlM_cons]
  rfl

theorem take?_append (text : StringText) (before after : List Char) :
    text.take? (before ++ after) = (text.take? before).bind (take? · after) := by
  simp only [take?, List.foldlM_append]
  rfl

end StringText

/-- Quoting leaves the character as it is. -/
def IsPlain (c : Char) : Prop :=
  c ≠ '"' ∧ c ≠ '\\' ∧ ¬ c < ' '

instance (c : Char) : Decidable (IsPlain c) :=
  inferInstanceAs (Decidable (_ ∧ _ ∧ _))

theorem IsPlain.stringChar_eq {c : Char} (hplain : IsPlain c) : stringChar c = [c] := by
  obtain ⟨hquote, hbackslash, hcontrol⟩ := hplain
  have hescape : ∀ control : Char, control < ' ' → c ≠ control := by
    rintro control hlow rfl
    exact hcontrol hlow
  simp only [stringChar, hquote, hbackslash, hcontrol, hescape '\x08' (by decide),
    hescape '\x0c' (by decide), hescape '\n' (by decide), hescape '\r' (by decide),
    hescape '\t' (by decide), if_false]

namespace StringText

variable {reversed : List Char}

theorem hexDigits_control {n : Nat} (hn : n < 32) :
    Text.padLeft 4 '0' (Text.hexDigits n) =
        ['0', '0', (n / 16).digitChar, (n % 16).digitChar] ∧
      Text.hexValue? (n / 16).digitChar = some (n / 16) ∧
      Text.hexValue? (n % 16).digitChar = some (n % 16) ∧
      (n / 16).digitChar.utf8Size = 1 ∧ (n % 16).digitChar.utf8Size = 1 := by
  revert n
  decide

/-- A control character without a short escape is written by its number. -/
theorem take?_hexEscape {n : Nat} (hn : n < 32) :
    take? ⟨reversed, .plain⟩ (['\\', 'u'] ++ Text.padLeft 4 '0' (Text.hexDigits n)) =
      some ⟨Char.ofNat n :: reversed, .plain⟩ := by
  obtain ⟨hdigits, hhigh, hlow, hhighSize, hlowSize⟩ := hexDigits_control hn
  have hzero : Text.hexValue? '0' = some 0 ∧ '0'.utf8Size = 1 := by decide
  have hfirst : isFirstHalf n = false := by
    simp [isFirstHalf]
    omega
  have hsecond : isSecondHalf n = false := by
    simp [isSecondHalf]
    omega
  have hvalue : n / 16 * 16 + n % 16 = n := Nat.div_add_mod' n 16
  rw [hdigits]
  simp [take?, next?, step, takeHex, takeUnit, push, hzero, hhigh, hlow, hhighSize, hlowSize,
    hvalue, hfirst, hsecond]

theorem take?_stringChar (c : Char) :
    take? ⟨reversed, .plain⟩ (stringChar c) = some ⟨c :: reversed, .plain⟩ := by
  by_cases hplain : IsPlain c
  · rw [hplain.stringChar_eq]
    obtain ⟨hquote, hbackslash, hcontrol⟩ := hplain
    simp [take?, next?, step, push, hquote, hbackslash, hcontrol]
  · unfold stringChar
    split_ifs with hquote hbackslash hbackspace hfeed hline hreturn htab hcontrol
    · subst hquote; rfl
    · subst hbackslash; rfl
    · subst hbackspace; rfl
    · subst hfeed; rfl
    · subst hline; rfl
    · subst hreturn; rfl
    · subst htab; rfl
    · have hsmall : c.toNat < 32 := hcontrol
      rw [take?_hexEscape hsmall, Char.ofNat_toNat]
    · exact absurd ⟨hquote, hbackslash, hcontrol⟩ hplain

theorem take?_flatMap (chars : List Char) :
    take? ⟨reversed, .plain⟩ (chars.flatMap stringChar) =
      some ⟨chars.reverse ++ reversed, .plain⟩ := by
  induction chars generalizing reversed with
  | nil => rfl
  | cons c rest ih =>
      rw [List.flatMap_cons, take?_append, take?_stringChar, Option.bind_some, ih,
        List.reverse_cons, List.append_assoc, List.singleton_append]

end StringText

/-! ## Texts that need no escapes -/

theorem quoteString_of_plain {text : String} (hplain : ∀ c ∈ text.toList, IsPlain c) :
    quoteString text = Value.enclose text := by
  have hchars : text.toList.flatMap stringChar = text.toList := by
    generalize text.toList = chars at hplain
    induction chars with
    | nil => rfl
    | cons c rest ih =>
        rw [List.forall_mem_cons] at hplain
        rw [List.flatMap_cons, hplain.1.stringChar_eq, ih hplain.2, List.singleton_append]
  rw [quoteString, hchars, ← String.toList_inj, String.toList_ofList, Value.enclose,
    String.toList_append, String.toList_append]
  rfl

theorem isPlain_of_isDigit {c : Char} (hdigit : c.isDigit = true) : IsPlain c := by
  refine ⟨?_, ?_, ?_⟩
  · rintro rfl
    cases hdigit
  · rintro rfl
    cases hdigit
  · intro hlow
    have hzero : '0'.toNat ≤ c.toNat := by
      simp only [Char.isDigit, Bool.and_eq_true, decide_eq_true_eq] at hdigit
      exact hdigit.1
    have hspace : c.toNat < ' '.toNat := hlow
    have hvalues : ' '.toNat < '0'.toNat := by decide
    omega

theorem isPlain_of_mem_digitsPadded {width n : Nat} :
    ∀ c ∈ Text.digitsPadded width n, IsPlain c :=
  fun _ hmem => isPlain_of_isDigit (NumberText.isDigit_of_mem_digitsPadded hmem)

end MappingPlan.Json

namespace MappingPlan

open Json

theorem Guid.mem_hyphenate {c : Char} {sizes : List Nat} {text : List Char}
    (hmem : c ∈ hyphenate sizes text) : c = '-' ∨ c ∈ text := by
  fun_induction hyphenate sizes text with
  | case1 text size next sizes ih =>
      rcases List.mem_append.mp hmem with htaken | hrest
      · exact .inr (List.mem_of_mem_take htaken)
      · rcases List.mem_cons.mp hrest with hhyphen | hrest
        · exact .inl hhyphen
        · exact (ih hrest).imp_right List.mem_of_mem_drop
  | case2 => exact .inr hmem

theorem Guid.isPlain_display (guid : Guid) : ∀ c ∈ guid.display.toList, IsPlain c := by
  intro c hmem
  rw [display, String.toList_ofList] at hmem
  rcases mem_hyphenate hmem with rfl | hdigit
  · decide
  · obtain ⟨nibble, _, rfl⟩ := List.mem_map.mp hdigit
    have hall : ∀ nibble : Fin 16, IsPlain (Nat.digitChar nibble.val) := by decide
    exact hall nibble

theorem CivilDate.isPlain_displayYear (year : Int) : ∀ c ∈ displayYear year, IsPlain c := by
  unfold displayYear
  dsimp only
  split_ifs
  · exact List.forall_mem_cons.mpr ⟨by decide, isPlain_of_mem_digitsPadded⟩
  · exact List.forall_mem_cons.mpr ⟨by decide, isPlain_of_mem_digitsPadded⟩
  · exact isPlain_of_mem_digitsPadded

theorem Instant.isPlain_displayFraction (nanosecond : Nat) :
    ∀ c ∈ displayFraction nanosecond, IsPlain c := by
  unfold displayFraction
  split_ifs
  · simp
  · exact List.forall_mem_cons.mpr ⟨by decide, isPlain_of_mem_digitsPadded⟩
  · exact List.forall_mem_cons.mpr ⟨by decide, isPlain_of_mem_digitsPadded⟩
  · exact List.forall_mem_cons.mpr ⟨by decide, isPlain_of_mem_digitsPadded⟩

theorem Instant.isPlain_display (instant : Instant) :
    ∀ c ∈ instant.display.toList, IsPlain c := by
  have hseparators : IsPlain '-' ∧ IsPlain 'T' ∧ IsPlain ':' ∧ IsPlain 'Z' := by decide
  obtain ⟨hhyphen, htime, hcolon, hzone⟩ := hseparators
  intro c hmem
  rw [display, String.toList_ofList] at hmem
  simp only [displayChars, CivilDate.display, List.append_assoc, List.cons_append,
    List.mem_append, List.mem_cons, List.not_mem_nil, or_false] at hmem
  rcases hmem with hyear | rfl | hdigit | rfl | hdigit | rfl | hdigit | rfl | hdigit | rfl |
    hdigit | hfraction | rfl
  · exact CivilDate.isPlain_displayYear _ c hyear
  · exact hhyphen
  · exact isPlain_of_mem_digitsPadded c hdigit
  · exact hhyphen
  · exact isPlain_of_mem_digitsPadded c hdigit
  · exact htime
  · exact isPlain_of_mem_digitsPadded c hdigit
  · exact hcolon
  · exact isPlain_of_mem_digitsPadded c hdigit
  · exact hcolon
  · exact isPlain_of_mem_digitsPadded c hdigit
  · exact isPlain_displayFraction _ c hfraction
  · exact hzone

/-! ## Values -/

/-- A value as a document keeps it. -/
def Value.tree : Value → Json
  | null => .null
  | string text => .string text
  | int value => .integer value.toInt
  | decimal value => value.tree
  | guid value => .string value.display
  | dateTime value => .string value.display

theorem Value.toJson_guid (value : Guid) : (guid value).toJson = quoteString value.display :=
  (quoteString_of_plain value.isPlain_display).symm

theorem Value.toJson_dateTime (value : Instant) :
    (dateTime value).toJson = quoteString value.display :=
  (quoteString_of_plain value.isPlain_display).symm

end MappingPlan
