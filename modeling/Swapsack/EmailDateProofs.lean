import Swapsack.PyValueProofs

/-! # Dates in header fields

    `email.utils.parsedate_to_datetime`: a lenient reader of the dates that mail and
    HTTP headers carry.  What it cannot read is a `ValueError`, or so it seems: a
    number in a date may have any length, and a C integer may not.

    * `parsedateToDatetime_error` — a date that is not read is a `ValueError` or an
      `OverflowError`;
    * `parsedateToDatetime_overflow_iff` — and the latter for which dates. -/

namespace EmailDate

open ListKit PyText PyJson

/-- What the interpreter says of characters and of upper case. -/
class PyCharacters extends PyUnicode where
  isDigit : Char → Bool
  isWord : Char → Bool
  upper : String → String

/-- An interpreter that knows ASCII only. -/
@[reducible] def asciiCharacters : PyCharacters where
  toPyUnicode := asciiUnicode
  isDigit c := c.isDigit
  isWord c := c.isAlphanum || c == '_'
  upper s := String.ofList (s.toList.map Char.toUpper)

/-! ## Fields -/

def monthNames : List String :=
  ["jan", "feb", "mar", "apr", "may", "jun", "jul", "aug", "sep", "oct", "nov", "dec",
    "january", "february", "march", "april", "may", "june", "july", "august", "september",
    "october", "november", "december"]

def dayNames : List String := ["mon", "tue", "wed", "thu", "fri", "sat", "sun"]

/-- Hours and minutes from UTC, as they are written. -/
def timezones : List (String × ℤ) :=
  [("UT", 0), ("UTC", 0), ("GMT", 0), ("Z", 0), ("AST", -400), ("ADT", -300), ("EST", -500),
    ("EDT", -400), ("CST", -600), ("CDT", -500), ("MST", -700), ("MDT", -600), ("PST", -800),
    ("PDT", -700)]

/-- `s.split()`. -/
def words (s : String) : List String :=
  ((s.toList.splitOnP isSpace).filter (· != [])).map String.ofList

/-- `s.split(sep)`. -/
def split (sep : Char) (s : String) : List String := (s.toList.splitOn sep).map String.ofList

/-- `s[:-1] if s[-1] == "," else s`. -/
def dropComma (s : String) : String :=
  if s.toList.getLast? = some ',' then String.ofList s.toList.dropLast else s

/-- `s[s.rfind(",") + 1:]`. -/
def afterComma (s : String) : String :=
  String.ofList (s.toList.reverse.takeWhile (· != ',')).reverse

/-- The date as it is written; a zone is in seconds, and none where the text declines
    to name one. -/
structure DateFields where
  year : ℤ
  month : ℤ
  day : ℤ
  hour : ℤ
  minute : ℤ
  second : ℤ
  zone : Option ℤ

section Reading

variable [PyCharacters]

/-- The words after the day of the week; its comma may join it to the next one. -/
def skipDay : List String → List String
  | [] => []
  | first :: rest =>
      if first.toList.getLast? = some ',' || dayNames.contains (PyUnicode.lower first) then rest
      else afterComma first :: rest

omit [PyCharacters] in
/-- A date with dashes, in the old fashion. -/
def splitDashes : List String → List String
  | [date, time, zone] =>
      match split '-' date with
      | [day, month, year] => [day, month, year, time, zone]
      | _ => [date, time, zone]
  | data => data

omit [PyCharacters] in
/-- Where a zone begins behind a time; nowhere is as good as at the start. -/
def zoneStart (s : List Char) : ℕ :=
  if '+' ∈ s then s.idxOf '+' else if '-' ∈ s then s.idxOf '-' else 0

omit [PyCharacters] in
/-- A time and a zone in one word. -/
def splitZone : List String → List String
  | [day, month, year, time] =>
      let i := zoneStart time.toList
      if 0 < i then
        [day, month, year, String.ofList (time.toList.take i), String.ofList (time.toList.drop i)]
      else [day, month, year, time, ""]
  | data => data

/-- The day and the number of the month, which come in either order. -/
def readMonth (day month : String) : Option (String × ℤ) :=
  let number (name : String) : ℤ :=
    let n := monthNames.idxOf name + 1
    if 12 < n then n - 12 else n
  if monthNames.contains (PyUnicode.lower month) then some (day, number (PyUnicode.lower month))
  else if monthNames.contains (PyUnicode.lower day) then
    some (PyUnicode.lower month, number (PyUnicode.lower day))
  else none

omit [PyCharacters] in
/-- Hours, minutes and seconds. -/
def splitTime (time : String) : Option (String × String × String) :=
  match split ':' time with
  | [hours, minutes] => some (hours, minutes, "0")
  | [hours, minutes, seconds] => some (hours, minutes, seconds)
  | [whole] =>
      match split '.' whole with
      | [hours, minutes] => some (hours, minutes, "0")
      | [hours, minutes, seconds] => some (hours, minutes, seconds)
      | _ => none
  | _ => none

omit [PyCharacters] in
/-- A year of two digits is one of 1969 to 2068. -/
def fullYear (year : ℤ) : ℤ :=
  if year < 100 then if 68 < year then year + 1900 else year + 2000 else year

omit [PyCharacters] in
/-- Seconds of hours and minutes as they are written. -/
def zoneSeconds (n : ℤ) : ℤ := n.sign * (|n| / 100 * 3600 + |n| % 100 * 60)

/-- A zone that is not understood is none, and so is one of minus nothing. -/
def readZone (zone : String) : Option ℤ :=
  let zone := PyCharacters.upper zone
  let offset :=
    match timezones.lookup zone with
    | some n => some n
    | none => intOfText zone
  if offset = some 0 ∧ startsWith zone "-" then none else offset.map zoneSeconds

omit [PyCharacters] in
/-- Where the first colon is; nowhere is as good as at the start. -/
def colonAt (s : String) : ℕ := if ':' ∈ s.toList then s.toList.idxOf ':' else 0

/-- A date in five parts; the year and the time may change places, and so may the
    year and the zone. -/
def readFields (day month year time zone : String) : Option DateFields := do
  if day = "" ∨ month = "" ∨ year = "" then none
  else
    let (day, month) ← readMonth day month
    let day := dropComma day
    let (year, time) := if 0 < colonAt year then (time, year) else (year, time)
    let year := dropComma year
    if year = "" then none
    else
      let (year, zone) :=
        if year.toList.head?.any PyCharacters.isDigit then (year, zone) else (zone, year)
      let (hours, minutes, seconds) ← splitTime (dropComma time)
      let year ← intOfText year
      let day ← intOfText day
      let hour ← intOfText hours
      let minute ← intOfText minutes
      let second ← intOfText seconds
      some { year := fullYear year, month, day, hour, minute, second, zone := readZone zone }

/-- The fields of a date, of whatever magnitude. -/
def parsedateTz (s : String) : Option DateFields :=
  match (splitZone (splitDashes (skipDay (words s)))).take 5 with
  | [day, month, year, time, zone] => readFields day month year time zone
  | _ => none

end Reading

/-! ## Moments -/

def intMax : ℤ := 2 ^ 31 - 1

/-- A C integer holds the number. -/
def FitsInt (n : ℤ) : Prop := -intMax - 1 ≤ n ∧ n ≤ intMax

instance (n : ℤ) : Decidable (FitsInt n) := inferInstanceAs (Decidable (_ ∧ _))

def DateFields.numbers (t : DateFields) : List ℤ :=
  [t.year, t.month, t.day, t.hour, t.minute, t.second]

def isLeap (year : ℤ) : Bool := year % 4 = 0 && (year % 100 ≠ 0 || year % 400 = 0)

/-- The days of the months, the first one January. -/
def monthLengths (year : ℤ) : List ℤ :=
  [31, if isLeap year then 29 else 28, 31, 30, 31, 30, 31, 31, 30, 31, 30, 31]

/-- There is such a day and such a time. -/
def DateFields.Valid (t : DateFields) : Prop :=
  (1 ≤ t.year ∧ t.year ≤ 9999) ∧ (1 ≤ t.month ∧ t.month ≤ 12)
    ∧ (1 ≤ t.day ∧ t.day ≤ (monthLengths t.year).getD (t.month - 1).toNat 0)
    ∧ (0 ≤ t.hour ∧ t.hour ≤ 23) ∧ (0 ≤ t.minute ∧ t.minute ≤ 59)
    ∧ (0 ≤ t.second ∧ t.second ≤ 59)

instance (t : DateFields) : Decidable t.Valid := inferInstanceAs (Decidable (_ ∧ _))

/-- The days before a date, from the first day of the year 1 on. -/
def ordinal (year month day : ℤ) : ℤ :=
  let before := year - 1
  before * 365 + before / 4 - before / 100 + before / 400
    + ((monthLengths year).take (month - 1).toNat).sum + (day - 1)

/-- Microseconds from the start of 1970 to a time without a zone; a constructor
    converts its arguments before it looks at them. -/
def datetime (t : DateFields) : Except PyExc ℤ :=
  if ∀ n ∈ t.numbers, FitsInt n then
    if t.Valid then
      let days := ordinal t.year t.month t.day - ordinal 1970 1 1
      .ok ((days * 86400 + t.hour * 3600 + t.minute * 60 + t.second) * 10 ^ 6)
    else .error .valueError
  else .error .overflowError

/-- The days a `timedelta` holds. -/
def maxDeltaDays : ℤ := 999999999

/-- A `timedelta` holds the seconds. -/
def FitsDelta (seconds : ℤ) : Prop :=
  -maxDeltaDays ≤ seconds / 86400 ∧ seconds / 86400 ≤ maxDeltaDays

instance (seconds : ℤ) : Decidable (FitsDelta seconds) := inferInstanceAs (Decidable (_ ∧ _))

/-- A zone is less than a day from UTC, which is meant where none is named. -/
def zoneOffset : Option ℤ → Except PyExc ℤ
  | none => .ok 0
  | some seconds =>
      if FitsDelta seconds then
        if |seconds| < 86400 then .ok seconds else .error .valueError
      else .error .overflowError

/-- The moment of a date; the zone is converted before the rest. -/
def DateFields.moment (t : DateFields) : Except PyExc ℤ := do
  let offset ← zoneOffset t.zone
  let naive ← datetime t
  .ok (naive - offset * 10 ^ 6)

/-- In microseconds since the start of 1970. -/
def parsedateToDatetime [PyCharacters] (s : String) : Except PyExc ℤ :=
  match parsedateTz s with
  | none => .error .valueError
  | some t => t.moment

/-! ## What overflows -/

/-- A zone beyond a `timedelta`, or one that is fine and a number beyond a C integer. -/
def DateFields.Overlong (t : DateFields) : Prop :=
  (∃ seconds, t.zone = some seconds ∧ ¬ FitsDelta seconds)
    ∨ ((∀ seconds, t.zone = some seconds → |seconds| < 86400)
      ∧ ∃ n ∈ t.numbers, ¬ FitsInt n)

theorem zoneOffset_cases (zone : Option ℤ) :
    ((∃ offset, zoneOffset zone = .ok offset) ∧ ∀ seconds, zone = some seconds → |seconds| < 86400)
      ∨ (zoneOffset zone = .error .valueError
        ∧ ∃ seconds, zone = some seconds ∧ FitsDelta seconds ∧ ¬ |seconds| < 86400)
      ∨ (zoneOffset zone = .error .overflowError
        ∧ ∃ seconds, zone = some seconds ∧ ¬ FitsDelta seconds) := by
  cases zone with
  | none => exact Or.inl ⟨⟨0, rfl⟩, fun _ h => by cases h⟩
  | some seconds =>
      rw [zoneOffset]
      by_cases hfits : FitsDelta seconds
      · rw [if_pos hfits]
        by_cases hday : |seconds| < 86400
        · rw [if_pos hday]
          refine Or.inl ⟨⟨seconds, rfl⟩, fun found h => ?_⟩
          cases h
          exact hday
        · rw [if_neg hday]
          exact Or.inr (Or.inl ⟨rfl, seconds, rfl, hfits, hday⟩)
      · rw [if_neg hfits]
        exact Or.inr (Or.inr ⟨rfl, seconds, rfl, hfits⟩)

/-- A zone of less than a day fits. -/
theorem fitsDelta_of_day {seconds : ℤ} (h : |seconds| < 86400) : FitsDelta seconds := by
  obtain ⟨hlow, hhigh⟩ := abs_lt.mp h
  rw [FitsDelta, maxDeltaDays]
  omega

theorem datetime_cases (t : DateFields) :
    (∃ moment, datetime t = .ok moment ∧ ∀ n ∈ t.numbers, FitsInt n)
      ∨ (datetime t = .error .valueError ∧ ∀ n ∈ t.numbers, FitsInt n)
      ∨ (datetime t = .error .overflowError ∧ ∃ n ∈ t.numbers, ¬ FitsInt n) := by
  rw [datetime]
  by_cases hfit : ∀ n ∈ t.numbers, FitsInt n
  · rw [if_pos hfit]
    by_cases hvalid : t.Valid
    · rw [if_pos hvalid]
      exact Or.inl ⟨_, rfl, hfit⟩
    · rw [if_neg hvalid]
      exact Or.inr (Or.inl ⟨rfl, hfit⟩)
  · rw [if_neg hfit]
    refine Or.inr (Or.inr ⟨rfl, ?_⟩)
    push Not at hfit
    exact hfit

theorem moment_overflow_iff (t : DateFields) :
    t.moment = .error .overflowError ↔ t.Overlong := by
  rw [DateFields.moment]
  rcases zoneOffset_cases t.zone with ⟨⟨offset, hoffset⟩, hday⟩ | ⟨hoffset, seconds, hzone, hfits, hday⟩
    | ⟨hoffset, hzone⟩
  · rw [hoffset, ok_bind]
    have hzone : ¬ ∃ seconds, t.zone = some seconds ∧ ¬ FitsDelta seconds := by
      rintro ⟨seconds, hsome, hbeyond⟩
      exact hbeyond (fitsDelta_of_day (hday seconds hsome))
    rcases datetime_cases t with ⟨naive, hnaive, hfit⟩ | ⟨hnaive, hfit⟩ | ⟨hnaive, hbeyond⟩
    · rw [hnaive, ok_bind]
      refine iff_of_false (by rintro ⟨⟩) ?_
      rintro (hbad | ⟨-, n, hn, hbad⟩)
      · exact hzone hbad
      · exact hbad (hfit n hn)
    · rw [hnaive]
      refine iff_of_false (by rintro ⟨⟩) ?_
      rintro (hbad | ⟨-, n, hn, hbad⟩)
      · exact hzone hbad
      · exact hbad (hfit n hn)
    · rw [hnaive]
      exact iff_of_true rfl (Or.inr ⟨hday, hbeyond⟩)
  · rw [hoffset]
    refine iff_of_false (by rintro ⟨⟩) ?_
    rintro (⟨found, hsome, hbeyond⟩ | ⟨hall, -⟩)
    · cases hzone.symm.trans hsome
      exact hbeyond hfits
    · exact hday (hall seconds hzone)
  · rw [hoffset]
    exact iff_of_true rfl (Or.inl hzone)

theorem moment_error {t : DateFields} {e : PyExc} (h : t.moment = .error e) :
    e = .valueError ∨ e = .overflowError := by
  rw [DateFields.moment] at h
  rcases bind_eq_error h with hoffset | ⟨offset, -, h⟩
  · rcases zoneOffset_cases t.zone with ⟨⟨offset, hok⟩, -⟩ | ⟨hvalue, -⟩ | ⟨hover, -⟩
    · cases hok.symm.trans hoffset
    · cases hvalue.symm.trans hoffset
      exact Or.inl rfl
    · cases hover.symm.trans hoffset
      exact Or.inr rfl
  · rcases bind_eq_error h with hnaive | ⟨naive, -, hnever⟩
    · rcases datetime_cases t with ⟨naive, hok, -⟩ | ⟨hvalue, -⟩ | ⟨hover, -⟩
      · cases hok.symm.trans hnaive
      · cases hvalue.symm.trans hnaive
        exact Or.inl rfl
      · cases hover.symm.trans hnaive
        exact Or.inr rfl
    · cases hnever

section Overflow

variable [PyCharacters]

/-- **A date overflows** exactly for a zone beyond a `timedelta`, or beside a zone that
    is fine for a number beyond a C integer. -/
theorem parsedateToDatetime_overflow_iff {s : String} :
    parsedateToDatetime s = .error .overflowError
      ↔ ∃ t, parsedateTz s = some t ∧ t.Overlong := by
  rw [parsedateToDatetime]
  cases parsedateTz s with
  | none => exact iff_of_false (by rintro ⟨⟩) (by rintro ⟨t, ⟨⟩, -⟩)
  | some t =>
      refine (moment_overflow_iff t).trans ⟨fun h => ⟨t, rfl, h⟩, ?_⟩
      rintro ⟨found, hfound, h⟩
      cases hfound
      exact h

/-- What is not read raises one of two. -/
theorem parsedateToDatetime_error {s : String} {e : PyExc}
    (h : parsedateToDatetime s = .error e) : e = .valueError ∨ e = .overflowError := by
  rw [parsedateToDatetime] at h
  split at h
  · cases h
    exact Or.inl rfl
  · exact moment_error h

end Overflow

end EmailDate
