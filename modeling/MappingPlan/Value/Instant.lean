import MappingPlan.Text.Digits

/-!
# Dates and instants

An instant is a date of the Gregorian calendar, extended to all years, and a time
of that day in universal time, down to the nanosecond.  The second 60 of a leap
second is kept as such.

A literal names an instant by a local time and its offset.  An offset is less than
a day, so moving to universal time crosses at most one midnight: the date changes
by one day or not at all.
-/

namespace MappingPlan

def isLeapYear (year : Int) : Bool :=
  year % 4 == 0 && (year % 100 != 0 || year % 400 == 0)

def daysInMonth (year : Int) (month : Nat) : Nat :=
  if month = 2 then (if isLeapYear year then 29 else 28)
  else if month = 4 ∨ month = 6 ∨ month = 9 ∨ month = 11 then 30
  else 31

theorem one_le_daysInMonth (year : Int) (month : Nat) : 1 ≤ daysInMonth year month := by
  unfold daysInMonth
  split
  · split <;> omega
  · split <;> omega

structure CivilDate where
  year : Int
  month : Nat
  day : Nat
  month_valid : 1 ≤ month ∧ month ≤ 12
  day_valid : 1 ≤ day ∧ day ≤ daysInMonth year month
  deriving DecidableEq, Repr

namespace CivilDate

def make? (year : Int) (month day : Nat) : Option CivilDate :=
  if hmonth : 1 ≤ month ∧ month ≤ 12 then
    if hday : 1 ≤ day ∧ day ≤ daysInMonth year month then
      some ⟨year, month, day, hmonth, hday⟩
    else none
  else none

def next (date : CivilDate) : CivilDate :=
  if hday : date.day < daysInMonth date.year date.month then
    { date with
      day := date.day + 1
      day_valid := ⟨by omega, by omega⟩ }
  else if hmonth : date.month < 12 then
    { year := date.year
      month := date.month + 1
      day := 1
      month_valid := ⟨by omega, by omega⟩
      day_valid := ⟨by omega, one_le_daysInMonth ..⟩ }
  else
    { year := date.year + 1
      month := 1
      day := 1
      month_valid := by decide
      day_valid := ⟨by omega, one_le_daysInMonth ..⟩ }

def previous (date : CivilDate) : CivilDate :=
  if hday : 1 < date.day then
    { date with
      day := date.day - 1
      day_valid := ⟨by omega, by have := date.day_valid; omega⟩ }
  else if hmonth : 1 < date.month then
    { year := date.year
      month := date.month - 1
      day := daysInMonth date.year (date.month - 1)
      month_valid := ⟨by omega, by have := date.month_valid; omega⟩
      day_valid := ⟨one_le_daysInMonth .., by omega⟩ }
  else
    { year := date.year - 1
      month := 12
      day := 31
      month_valid := by decide
      day_valid := ⟨by omega, by simp [daysInMonth]⟩ }

/-- A year of four digits, or with a sign outside of those. -/
def displayYear (year : Int) : List Char :=
  let digits := Text.digitsPadded 4 year.natAbs
  if year < 0 then '-' :: digits
  else if 9999 < year then '+' :: digits
  else digits

def display (date : CivilDate) : List Char :=
  displayYear date.year ++ '-' :: Text.digitsPadded 2 date.month ++
    '-' :: Text.digitsPadded 2 date.day

end CivilDate

structure Instant where
  date : CivilDate
  hour : Nat
  minute : Nat
  second : Nat
  nanosecond : Nat
  hour_lt : hour < 24
  minute_lt : minute < 60
  second_le : second ≤ 60
  nanosecond_lt : nanosecond < 10 ^ 9
  deriving DecidableEq, Repr

namespace Instant

def epoch : Instant where
  date := ⟨1970, 1, 1, by decide, by decide⟩
  hour := 0
  minute := 0
  second := 0
  nanosecond := 0
  hour_lt := by decide
  minute_lt := by decide
  second_le := by decide
  nanosecond_lt := by decide

/-- The fraction of a second with 0, 3, 6 or 9 digits, the fewest that are exact. -/
def displayFraction (nanosecond : Nat) : List Char :=
  if nanosecond = 0 then []
  else if nanosecond % 1000000 = 0 then '.' :: Text.digitsPadded 3 (nanosecond / 1000000)
  else if nanosecond % 1000 = 0 then '.' :: Text.digitsPadded 6 (nanosecond / 1000)
  else '.' :: Text.digitsPadded 9 nanosecond

def displayChars (instant : Instant) : List Char :=
  instant.date.display ++
    'T' :: Text.digitsPadded 2 instant.hour ++
    ':' :: Text.digitsPadded 2 instant.minute ++
    ':' :: Text.digitsPadded 2 instant.second ++
    displayFraction instant.nanosecond ++ ['Z']

def display (instant : Instant) : String :=
  String.ofList instant.displayChars

def dayMinutes : Nat := 24 * 60

/-- The instant of a local time whose clock is `offset` minutes ahead of
universal time. -/
def ofLocal? (date : CivilDate) (hour minute second nanosecond : Nat) (offset : Int) :
    Option Instant :=
  if hvalid : second ≤ 60 ∧ nanosecond < 10 ^ 9 ∧ hour < 24 ∧ minute < 60 then
    let shifted := ((hour * 60 + minute : Nat) : Int) - offset
    let date :=
      if shifted < 0 then date.previous
      else if (dayMinutes : Int) ≤ shifted then date.next
      else date
    let minutes := (shifted % dayMinutes).toNat
    have hminutes : minutes < 24 * 60 := by
      simp only [minutes, dayMinutes]
      omega
    some {
      date := date
      hour := minutes / 60
      minute := minutes % 60
      second := second
      nanosecond := nanosecond
      hour_lt := by omega
      minute_lt := by omega
      second_le := hvalid.1
      nanosecond_lt := hvalid.2.1 }
  else none

def takeDigits? (count : Nat) (text : List Char) : Option (Nat × List Char) :=
  let digits := text.take count
  if digits.length = count then
    (Text.readDigits? digits).map fun value => (value, text.drop count)
  else none

def skip? (test : Char → Bool) : List Char → Option (List Char)
  | c :: rest => if test c then some rest else none
  | [] => none

/-- The nanoseconds of an optional fraction, and the text after it.  Digits past
the ninth are left out. -/
def takeFraction? : List Char → Option (Nat × List Char)
  | '.' :: rest => do
      let digits := rest.takeWhile Char.isDigit
      let kept := digits.take 9
      let value ← Text.readDigits? kept
      return (value * 10 ^ (9 - kept.length), rest.drop digits.length)
  | rest => some (0, rest)

def readOffset? (text : List Char) : Option Int :=
  match text with
  | ['Z'] | ['z'] => some 0
  | sign :: rest => do
      let direction ←
        if sign = '+' then some (1 : Int)
        else if sign = '-' ∨ sign = '−' then some (-1 : Int)
        else none
      let (hours, rest) ← takeDigits? 2 rest
      let rest ← skip? (· == ':') rest
      let (minutes, rest) ← takeDigits? 2 rest
      if rest.isEmpty ∧ minutes < 60 ∧ hours < 24 then
        some (direction * ((hours * 60 + minutes : Nat) : Int))
      else none
  | [] => none

def ofLiteral? (literal : String) : Option Instant := do
  let (year, rest) ← takeDigits? 4 literal.toList
  let rest ← skip? (· == '-') rest
  let (month, rest) ← takeDigits? 2 rest
  let rest ← skip? (· == '-') rest
  let (day, rest) ← takeDigits? 2 rest
  let rest ← skip? (fun c => c == 'T' || c == 't' || c == ' ') rest
  let (hour, rest) ← takeDigits? 2 rest
  let rest ← skip? (· == ':') rest
  let (minute, rest) ← takeDigits? 2 rest
  let rest ← skip? (· == ':') rest
  let (second, rest) ← takeDigits? 2 rest
  let (nanosecond, rest) ← takeFraction? rest
  let offset ← readOffset? rest
  let date ← CivilDate.make? year month day
  ofLocal? date hour minute second nanosecond offset

end Instant

end MappingPlan
