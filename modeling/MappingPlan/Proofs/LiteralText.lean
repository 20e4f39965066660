import MappingPlan.Proofs.DecimalText
import MappingPlan.Proofs.RowTypes

/-!
# Literals and display texts

A value that is written as text can be written into a mapping again, as a literal of its type.
For each type, the display text is one of the literal forms, and each part of it has a fixed
place: the groups of a guid and the fields of an instant are padded to their width, so the
reader cuts the text where it was put together.

Two kinds of value have a display text that does not say what they are.  A zero may have lost
its digits to an exponent and kept its sign, and the sign of a zero is not read.  An offset may
carry an instant out of the years of four digits, and other years are not read at all.
-/

namespace MappingPlan

namespace Text

theorem ofDigitChars_lt {text : List Char} (hdigits : ∀ c ∈ text, c.isDigit = true) :
    Nat.ofDigitChars 10 text 0 < 10 ^ text.length := by
  induction text with
  | nil => decide
  | cons c text ih =>
      obtain ⟨hdigit, hrest⟩ := List.forall_mem_cons.mp hdigits
      have hvalue : c.toNat - '0'.toNat ≤ 9 := by
        simp only [Char.isDigit, Bool.and_eq_true, decide_eq_true_eq] at hdigit
        exact Nat.sub_le_of_le_add hdigit.2
      have hlower := Nat.mul_le_mul_left (10 ^ text.length) hvalue
      have hih := ih hrest
      rw [Nat.ofDigitChars_cons, Nat.ofDigitChars_eq_ofDigitChars_zero, List.length_cons,
        Nat.pow_succ, Nat.mul_zero, Nat.zero_add]
      omega

theorem readDigits?_lt {text : List Char} {value : Nat} (hread : readDigits? text = some value) :
    value < 10 ^ text.length := by
  unfold readDigits? at hread
  split at hread
  · rename_i htext
    cases hread
    exact ofDigitChars_lt (List.all_eq_true.mp htext.2)
  · cases hread

end Text

/-! ## Integers -/

namespace Value

theorem readInt64?_eq (literal : String) :
    readInt64? literal =
      let sign := Decimal.takeSign literal.toList
      (Text.readDigits? sign.2).bind fun magnitude =>
        let value : Int := if sign.1 then -magnitude else magnitude
        if -2 ^ 63 ≤ value ∧ value < 2 ^ 63 then some (Int64.ofInt value) else none :=
  rfl

theorem readInt64?_displayInt (value : Int64) : readInt64? (displayInt value) = some value := by
  have hsign : Decimal.takeSign (displayInt value).toList =
      (decide (value.toInt < 0), Text.digits value.toInt.natAbs) := by
    rw [displayInt, String.toList_ofList]
    by_cases hnegative : value.toInt < 0
    · simp only [if_pos hnegative, decide_eq_true hnegative]
      rfl
    · simpa [hnegative] using Decimal.takeSign_digits value.toInt.natAbs []
  have hvalue : (if decide (value.toInt < 0) = true then -(value.toInt.natAbs : Int)
      else value.toInt.natAbs) = value.toInt := by
    simp only [decide_eq_true_eq]
    split <;> omega
  rw [readInt64?_eq, hsign]
  dsimp only
  rw [Text.readDigits?_digits, Option.bind_some, hvalue,
    if_pos ⟨value.le_toInt, value.toInt_lt⟩, Int64.ofInt_toInt]

end Value

/-! ## Guids -/

namespace Guid

theorem unhyphenate?_hyphenate {sizes : List Nat} {text : List Char}
    (hlength : sizes.foldr (· + ·) 0 ≤ text.length) :
    unhyphenate? sizes (hyphenate sizes text) = some text := by
  induction sizes generalizing text with
  | nil => rfl
  | cons size sizes ih =>
      cases sizes with
      | nil => rfl
      | cons next sizes =>
          rw [List.foldr_cons] at hlength
          have htake : (text.take size).length = size := by
            rw [List.length_take]
            omega
          have hdrop : (next :: sizes).foldr (· + ·) 0 ≤ (text.drop size).length := by
            rw [List.length_drop]
            omega
          have hrest := ih hdrop
          rw [hyphenate, unhyphenate?, List.drop_left' htake, List.take_left' htake]
          simp only [hrest, Option.map_some, List.take_append_drop]

theorem nibble?_digitChar : ∀ nibble : Fin 16,
    nibble? (Nat.digitChar nibble.val) = some nibble := by
  decide

theorem mapM_nibble?_digitChar (nibbles : List (Fin 16)) :
    (nibbles.map fun nibble => Nat.digitChar nibble.val).mapM nibble? = some nibbles := by
  induction nibbles with
  | nil => rfl
  | cons nibble nibbles ih => simp [nibble?_digitChar, ih]

theorem ofHyphenated?_display (guid : Guid) :
    ofHyphenated? guid.display.toList = some guid := by
  have hsizes : groupSizes.foldr (· + ·) 0 ≤
      (guid.nibbles.map fun nibble => Nat.digitChar nibble.val).length := by
    rw [List.length_map, guid.length_eq]
    decide
  rw [ofHyphenated?, display, String.toList_ofList, unhyphenate?_hyphenate hsizes,
    Option.bind_some, ofDigits?, mapM_nibble?_digitChar]
  simp [guid.length_eq]

/-- A display text begins with a digit, so with none of the wrappings. -/
theorem ofLiteral?_display (guid : Guid) : ofLiteral? guid.display = some guid := by
  obtain ⟨first, rest, hnibbles⟩ : ∃ first rest, guid.nibbles = first :: rest :=
    List.exists_cons_of_length_pos (by rw [guid.length_eq]; decide)
  obtain ⟨others, hothers⟩ : ∃ others,
      guid.display.toList = Nat.digitChar first.val :: others := by
    rw [display, String.toList_ofList, hnibbles]
    exact ⟨_, rfl⟩
  have hbrace : unbraced? (Nat.digitChar first.val :: others) = none := by
    have hfirst : Nat.digitChar first.val ≠ '\x7b' := by
      clear * -
      revert first
      decide
    unfold unbraced?
    split
    · simp_all
    · rfl
  have hresource : afterResourcePrefix? (Nat.digitChar first.val :: others) = none := by
    have hfirst : (Nat.digitChar first.val).toLower ≠ 'u' := by
      clear * -
      revert first
      decide
    rw [afterResourcePrefix?, if_neg]
    intro hprefix
    exact hfirst (List.cons.inj hprefix).1
  have hread := ofHyphenated?_display guid
  simp only [ofLiteral?, hothers, hbrace, hresource] at hread ⊢
  simp [hread]

end Guid

/-! ## Instants -/

namespace Instant

theorem takeDigits?_digitsPadded {width n : Nat} (hwidth : 0 < width) (hn : n < 10 ^ width)
    (rest : List Char) :
    takeDigits? width (Text.digitsPadded width n ++ rest) = some (n, rest) := by
  have hlength := Text.length_digitsPadded hwidth hn
  simp only [takeDigits?, List.take_left' hlength, List.drop_left' hlength, hlength, if_true,
    Text.readDigits?_digitsPadded, Option.map_some]

theorem takeFraction?_digitsPadded {width n : Nat} (hwidth : 0 < width) (hplaces : width ≤ 9)
    (hn : n < 10 ^ width) :
    takeFraction? ('.' :: Text.digitsPadded width n ++ ['Z']) =
      some (n * 10 ^ (9 - width), ['Z']) := by
  have hlength := Text.length_digitsPadded hwidth hn
  have hdigits : (Text.digitsPadded width n ++ ['Z']).takeWhile Char.isDigit =
      Text.digitsPadded width n := by
    rw [List.takeWhile_append_of_pos
      (List.all_eq_true.mp (Text.all_isDigit_digitsPadded width n))]
    simp
  have hkept : (Text.digitsPadded width n).take 9 = Text.digitsPadded width n :=
    List.take_of_length_le (by omega)
  simp only [List.cons_append, takeFraction?, hdigits, hkept, Text.readDigits?_digitsPadded,
    hlength, List.drop_left' hlength]
  rfl

theorem takeFraction?_displayFraction {nanosecond : Nat} (hnanosecond : nanosecond < 10 ^ 9) :
    takeFraction? (displayFraction nanosecond ++ ['Z']) = some (nanosecond, ['Z']) := by
  unfold displayFraction
  split
  · simp_all [takeFraction?]
  · split
    · rw [takeFraction?_digitsPadded (by decide) (by decide) (by omega)]
      simp only [Option.some.injEq, Prod.mk.injEq, and_true]
      omega
    · split
      · rw [takeFraction?_digitsPadded (by decide) (by decide) (by omega)]
        simp only [Option.some.injEq, Prod.mk.injEq, and_true]
        omega
      · rw [takeFraction?_digitsPadded (by decide) (by decide) hnanosecond]
        simp

theorem daysInMonth_le (year : Int) (month : Nat) : daysInMonth year month ≤ 31 := by
  unfold daysInMonth
  split
  · split <;> omega
  · split <;> omega

theorem make?_date (date : CivilDate) :
    CivilDate.make? date.year date.month date.day = some date := by
  rw [CivilDate.make?, dif_pos date.month_valid, dif_pos date.day_valid]

/-- With no offset, no midnight is crossed. -/
theorem ofLocal?_universal (instant : Instant) :
    ofLocal? instant.date instant.hour instant.minute instant.second instant.nanosecond 0 =
      some instant := by
  have hhour := instant.hour_lt
  have hminute := instant.minute_lt
  have hsame : ¬ ((instant.hour * 60 + instant.minute : Nat) : Int) - 0 < 0 ∧
      ¬ (dayMinutes : Int) ≤ ((instant.hour * 60 + instant.minute : Nat) : Int) - 0 := by
    unfold dayMinutes
    omega
  have hminutes : ((((instant.hour * 60 + instant.minute : Nat) : Int) - 0) % dayMinutes).toNat =
      instant.hour * 60 + instant.minute := by
    unfold dayMinutes
    omega
  have hdiv : (instant.hour * 60 + instant.minute) / 60 = instant.hour := by omega
  have hmod : (instant.hour * 60 + instant.minute) % 60 = instant.minute := by omega
  rw [ofLocal?, dif_pos ⟨instant.second_le, instant.nanosecond_lt, hhour, hminute⟩]
  simp only [if_neg hsame.1, if_neg hsame.2, hminutes, hdiv, hmod]

/-- Years of four digits, the only ones that a literal can have. -/
def InFourDigits (instant : Instant) : Prop :=
  0 ≤ instant.date.year ∧ instant.date.year ≤ 9999

instance (instant : Instant) : Decidable instant.InFourDigits :=
  inferInstanceAs (Decidable (_ ∧ _))

theorem display_of_inFourDigits {instant : Instant} (hyear : instant.InFourDigits) :
    instant.display.toList = Text.digitsPadded 4 instant.date.year.natAbs ++
      '-' :: (Text.digitsPadded 2 instant.date.month ++
      '-' :: (Text.digitsPadded 2 instant.date.day ++
      'T' :: (Text.digitsPadded 2 instant.hour ++
      ':' :: (Text.digitsPadded 2 instant.minute ++
      ':' :: (Text.digitsPadded 2 instant.second ++
      (displayFraction instant.nanosecond ++ ['Z'])))))) := by
  obtain ⟨hlow, hhigh⟩ := hyear
  have hunsigned : CivilDate.displayYear instant.date.year =
      Text.digitsPadded 4 instant.date.year.natAbs := by
    rw [CivilDate.displayYear, if_neg (by omega), if_neg (by omega)]
  simp only [display, displayChars, CivilDate.display, hunsigned, String.toList_ofList,
    List.append_assoc, List.cons_append]

theorem ofLiteral?_display {instant : Instant} (hyear : instant.InFourDigits) :
    ofLiteral? instant.display = some instant := by
  have htext := display_of_inFourDigits hyear
  obtain ⟨hlow, hhigh⟩ := hyear
  have hmonth := instant.date.month_valid
  have hday := instant.date.day_valid
  have hdays := daysInMonth_le instant.date.year instant.date.month
  have hhour := instant.hour_lt
  have hminute := instant.minute_lt
  have hsecond := instant.second_le
  have habs : (instant.date.year.natAbs : Int) = instant.date.year := by omega
  have hfour (rest : List Char) : takeDigits? 4
      (Text.digitsPadded 4 instant.date.year.natAbs ++ rest) =
        some (instant.date.year.natAbs, rest) :=
    takeDigits?_digitsPadded (by decide) (by omega) rest
  have htwo {n : Nat} (hn : n < 100) (rest : List Char) :
      takeDigits? 2 (Text.digitsPadded 2 n ++ rest) = some (n, rest) :=
    takeDigits?_digitsPadded (by decide) hn rest
  have hoffset : readOffset? ['Z'] = some 0 := rfl
  rw [ofLiteral?, htext, hfour]
  simp only [Option.bind_eq_bind, Option.bind_some, skip?, beq_self_eq_true, if_true,
    Bool.true_or, htwo (by omega : instant.date.month < 100),
    htwo (by omega : instant.date.day < 100), htwo (by omega : instant.hour < 100),
    htwo (by omega : instant.minute < 100), htwo (by omega : instant.second < 100),
    takeFraction?_displayFraction instant.nanosecond_lt, hoffset, habs, make?_date,
    ofLocal?_universal]

theorem takeDigits?_of_not_isDigit {count : Nat} {c : Char} (hcount : 0 < count)
    (hc : c.isDigit = false) (rest : List Char) : takeDigits? count (c :: rest) = none := by
  obtain ⟨places, rfl⟩ : ∃ places, count = places + 1 := ⟨count - 1, by omega⟩
  have hread : Text.readDigits? ((c :: rest).take (places + 1)) = none := by
    rw [Text.readDigits?, if_neg]
    simp [hc]
  rw [takeDigits?]
  split
  · rw [hread, Option.map_none]
  · rfl

/-- Any other year is displayed with a sign. -/
theorem ofLiteral?_display_of_signed {instant : Instant} (hyear : ¬ instant.InFourDigits) :
    ofLiteral? instant.display = none := by
  obtain ⟨sign, rest, htext, hsign⟩ : ∃ sign rest,
      instant.display.toList = sign :: rest ∧ sign.isDigit = false := by
    rw [display, String.toList_ofList, displayChars, CivilDate.display, CivilDate.displayYear]
    split
    · exact ⟨'-', _, rfl, rfl⟩
    · rw [if_pos (by unfold InFourDigits at hyear; omega)]
      exact ⟨'+', _, rfl, rfl⟩
  rw [ofLiteral?, htext, takeDigits?_of_not_isDigit (by decide) hsign]
  rfl

theorem takeDigits?_lt {count value : Nat} {text rest : List Char}
    (htake : takeDigits? count text = some (value, rest)) : value < 10 ^ count := by
  simp only [takeDigits?] at htake
  split at htake
  · rename_i hlength
    obtain ⟨read, hread, hpair⟩ := Option.map_eq_some_iff.mp htake
    cases hpair
    simpa only [hlength] using Text.readDigits?_lt hread
  · cases htake

theorem year_next (date : CivilDate) :
    date.next.year = date.year ∨ date.next.year = date.year + 1 := by
  unfold CivilDate.next
  split
  · exact .inl rfl
  · split
    · exact .inl rfl
    · exact .inr rfl

theorem year_previous (date : CivilDate) :
    date.previous.year = date.year ∨ date.previous.year = date.year - 1 := by
  unfold CivilDate.previous
  split
  · exact .inl rfl
  · split
    · exact .inl rfl
    · exact .inr rfl

theorem year_of_ofLocal? {date : CivilDate} {hour minute second nanosecond : Nat} {offset : Int}
    {instant : Instant}
    (hlocal : ofLocal? date hour minute second nanosecond offset = some instant) :
    date.year - 1 ≤ instant.date.year ∧ instant.date.year ≤ date.year + 1 := by
  have hnext := year_next date
  have hprevious := year_previous date
  unfold ofLocal? at hlocal
  split at hlocal
  · cases hlocal
    dsimp only
    split
    · omega
    · split <;> omega
  · cases hlocal

theorem year_of_make? {year : Int} {month day : Nat} {date : CivilDate}
    (hdate : CivilDate.make? year month day = some date) : date.year = year := by
  unfold CivilDate.make? at hdate
  split at hdate
  · split at hdate
    · cases hdate
      rfl
    · cases hdate
  · cases hdate

theorem exists_local_of_ofLiteral? {literal : String} {instant : Instant}
    (hread : ofLiteral? literal = some instant) :
    ∃ year rest month day date hour minute second nanosecond offset,
      takeDigits? 4 literal.toList = some (year, rest) ∧
        CivilDate.make? year month day = some date ∧
        ofLocal? date hour minute second nanosecond offset = some instant := by
  unfold ofLiteral? at hread
  simp only [Option.bind_eq_bind, Option.bind_eq_some_iff] at hread
  obtain ⟨⟨year, rest⟩, hyear, _, _, ⟨month, _⟩, _, _, _, ⟨day, _⟩, _, _, _, ⟨hour, _⟩, _, _, _,
    ⟨minute, _⟩, _, _, _, ⟨second, _⟩, _, ⟨nanosecond, _⟩, _, offset, _, date, hdate,
    hlocal⟩ := hread
  exact ⟨year, rest, month, day, date, hour, minute, second, nanosecond, offset, hyear, hdate,
    hlocal⟩

/-- The year of a literal has four digits, and its offset is less than a day. -/
theorem year_of_ofLiteral? {literal : String} {instant : Instant}
    (hread : ofLiteral? literal = some instant) :
    -1 ≤ instant.date.year ∧ instant.date.year ≤ 10000 := by
  obtain ⟨year, rest, month, day, date, hour, minute, second, nanosecond, offset, hyear, hdate,
    hlocal⟩ := exists_local_of_ofLiteral? hread
  have hdigits : year < 10000 := takeDigits?_lt hyear
  have hgiven := year_of_make? hdate
  have hmoved := year_of_ofLocal? hlocal
  omega

end Instant

/-! ## Values -/

namespace Value

/-- What the display text of a value is as a literal of the type of the value. -/
def reread? : Value → Option Value
  | decimal value => some (decimal value.unsignedZero)
  | dateTime value => if value.InFourDigits then some (dateTime value) else none
  | other => some other

theorem ofLiteral?_display {type : ScalarType} {value : Value} (htype : value.type? = some type) :
    ofLiteral? type value.display = value.reread? := by
  cases value with
  | null => cases htype
  | string text =>
      cases htype
      rfl
  | int value =>
      cases htype
      simp only [ofLiteral?, display, readInt64?_displayInt, Option.map_some, reread?]
  | decimal value =>
      cases htype
      simp only [ofLiteral?, display, Decimal.ofLiteral?_display, Option.map_some, reread?]
  | guid value =>
      cases htype
      simp only [ofLiteral?, display, Guid.ofLiteral?_display, Option.map_some, reread?]
  | dateTime value =>
      cases htype
      by_cases hyear : value.InFourDigits
      · simp only [ofLiteral?, display, Instant.ofLiteral?_display hyear, Option.map_some,
          reread?, if_pos hyear]
      · simp only [ofLiteral?, display, Instant.ofLiteral?_display_of_signed hyear,
          Option.map_none, reread?, if_neg hyear]

/-- A value that a literal gives is its display text in a column of strings.  As a literal of
the same type, that text gives the value again, unless the value is a zero with a sign or an
instant of a year that has not four digits.  A zero with a sign comes from a literal in
scientific notation, and its display text gives the zero without the sign.  A year without
four digits is the one before or the one after all that have them, and its display text is
refused. -/
theorem literal_of_display {type : ScalarType} {literal : String} {value : Value}
    (hread : ofLiteral? type literal = some value) :
    value.coerce .string = .string value.display ∧
      (ofLiteral? type value.display = some value ↔
        (∀ number, value = decimal number →
          ¬ (number.negative = true ∧ number.mantissa = 0)) ∧
        ∀ instant, value = dateTime instant → instant.InFourDigits) ∧
      (∀ number : Decimal, value = decimal number →
        number.negative = true → number.mantissa = 0 →
          Decimal.readPlain? literal.toList = none ∧
            ofLiteral? type value.display = some (decimal { number with negative := false })) ∧
      ∀ instant, value = dateTime instant → ¬ instant.InFourDigits →
        (instant.date.year = -1 ∨ instant.date.year = 10000) ∧
          ofLiteral? type value.display = none := by
  have htype := type?_of_ofLiteral? hread
  rw [ofLiteral?_display htype]
  refine ⟨?_, ?_, ?_, ?_⟩
  · cases value with
    | null => cases htype
    | _ => rfl
  · cases value with
    | decimal number => simp [reread?, Decimal.unsignedZero_eq_iff]
    | dateTime instant => simp [reread?]
    | _ => simp [reread?]
  · rintro number rfl hnegative hzero
    cases htype
    obtain ⟨_, hnumber, hsame⟩ := Option.map_eq_some_iff.mp hread
    cases hsame
    constructor
    · rw [Option.eq_none_iff_forall_not_mem]
      intro plain hplain
      have hliteral : Decimal.ofLiteral? literal = some plain := by
        simp only [Decimal.ofLiteral?, Option.mem_def.mp hplain]
      obtain rfl : number = plain := Option.some.inj (hnumber.symm.trans hliteral)
      exact (Decimal.unsignedZero_eq_iff number).mp
        (Decimal.unsignedZero_eq_of_readPlain? hplain) ⟨hnegative, hzero⟩
    · simp [reread?, Decimal.unsignedZero, hzero]
  · rintro instant rfl hyear
    cases htype
    obtain ⟨_, hinstant, hsame⟩ := Option.map_eq_some_iff.mp hread
    cases hsame
    have hbounds := Instant.year_of_ofLiteral? hinstant
    refine ⟨?_, by rw [reread?, if_neg hyear]⟩
    unfold Instant.InFourDigits at hyear
    omega

/-- A leap second with a cut fraction is read again.  The sign of a zero is lost, and the year
after the last of four digits is refused. -/
theorem literal_of_display_limits :
    (∃ value, ofLiteral? .dateTime "2016-12-31T23:59:60.1234567899+00:00" = some value ∧
      ofLiteral? .dateTime value.display = some value) ∧
    (∃ number, ofLiteral? .decimal "-0.1e-28" = some (decimal number) ∧
      ofLiteral? .decimal number.display = some (decimal { number with negative := false })) ∧
    ∃ instant, ofLiteral? .dateTime "9999-12-31T23:59:59-00:01" = some (dateTime instant) ∧
      ofLiteral? .dateTime instant.display = none := by
  refine ⟨?_, ?_, ?_⟩
  · let leap : Instant := ⟨⟨2016, 12, 31, by decide, by decide⟩, 23, 59, 60, 123456789,
      by decide, by decide, by decide, by decide⟩
    have hread : ofLiteral? .dateTime "2016-12-31T23:59:60.1234567899+00:00" =
        some (dateTime leap) := by
      decide +kernel
    refine ⟨_, hread, (literal_of_display hread).2.1.mpr ⟨?_, ?_⟩⟩
    · rintro _ ⟨⟩
    · rintro _ ⟨⟩
      decide
  · have hread : ofLiteral? .decimal "-0.1e-28" =
        some (decimal ⟨true, 0, 28, by decide, by decide⟩) := by
      decide +kernel
    exact ⟨_, hread, ((literal_of_display hread).2.2.1 _ rfl rfl rfl).2⟩
  · let late : Instant := ⟨⟨10000, 1, 1, by decide, by decide⟩, 0, 0, 59, 0,
      by decide, by decide, by decide, by decide⟩
    have hread : ofLiteral? .dateTime "9999-12-31T23:59:59-00:01" = some (dateTime late) := by
      decide +kernel
    exact ⟨_, hread, ((literal_of_display hread).2.2.2 _ rfl (by decide)).2⟩

/-- Two literals whose values cannot be written as text and read again. -/
theorem display_loses_value :
    (∃ value, ofLiteral? .decimal "-0.1e-28" = some value ∧
      ofLiteral? .decimal value.display ≠ some value) ∧
    ∃ value, ofLiteral? .dateTime "9999-12-31T23:59:59-00:01" = some value ∧
      ofLiteral? .dateTime value.display ≠ some value := by
  constructor
  · exact ⟨decimal ⟨true, 0, 28, by decide, by decide⟩, by decide +kernel, by decide +kernel⟩
  · exact ⟨dateTime ⟨⟨10000, 1, 1, by decide, by decide⟩, 0, 0, 59, 0,
      by decide, by decide, by decide, by decide⟩, by decide +kernel, by decide +kernel⟩

end Value

end MappingPlan
