import ResilienceCore.PyString

/-!
# The datetimes a session stores

`saml_acs` writes `datetime.utcnow().isoformat()` into the session, and
`require_auth` reads it back with `datetime.fromisoformat` and subtracts it
from `datetime.utcnow()`.  This module models naive datetimes with the
constructor's range checks, `isoformat()`, the subtraction as a difference of
microseconds since the start of the proleptic Gregorian day 1, and
`fromisoformat` as CPython's C implementation (3.7 to 3.10) reads a string:
`YYYY-MM-DD`, then, after any one separator character, up to three two-digit
clock fields and a fraction of three or six digits.  Adding a `timedelta`
goes through the day count, as `datetime.py` does, and `_ord2ymd` turns the
count back into a date.

The main results are that `fromisoformat` reads back every `isoformat()`, and
that `_ord2ymd` inverts `toordinal`, so that adding a `timedelta` gives the
datetime exactly that many microseconds later.
-/

namespace ResilienceCore

def isLeap (year : ℕ) : Bool := year % 4 == 0 && (year % 100 != 0 || year % 400 == 0)

def daysInMonth (year month : ℕ) : ℕ :=
  if month = 2 ∧ isLeap year then 29 else [31, 28, 31, 30, 31, 30, 31, 31, 30, 31, 30, 31].getD (month - 1) 0

/-- A naive `datetime`.  The constructor's range checks are fields, so no
value out of range can be built. -/
structure DateTime where
  year : ℕ
  month : ℕ
  day : ℕ
  hour : ℕ
  minute : ℕ
  second : ℕ
  microsecond : ℕ
  year_range : 1 ≤ year ∧ year ≤ 9999
  month_range : 1 ≤ month ∧ month ≤ 12
  day_range : 1 ≤ day ∧ day ≤ daysInMonth year month
  hour_lt : hour < 24
  minute_lt : minute < 60
  second_lt : second < 60
  microsecond_lt : microsecond < 1000000

namespace DateTime

/-- `datetime(year, month, day, hour, minute, second, microsecond)`, with the
C implementation's checks in its order. -/
def make (year month day hour minute second microsecond : ℕ) : Except PyException DateTime :=
  if hy : 1 ≤ year ∧ year ≤ 9999 then
    if hm : 1 ≤ month ∧ month ≤ 12 then
      if hd : 1 ≤ day ∧ day ≤ daysInMonth year month then
        if hh : hour < 24 then
          if hmi : minute < 60 then
            if hs : second < 60 then
              if hus : microsecond < 1000000 then
                .ok ⟨year, month, day, hour, minute, second, microsecond, hy, hm, hd, hh, hmi, hs, hus⟩
              else .error ⟨"ValueError", "microsecond must be in 0..999999"⟩
            else .error ⟨"ValueError", "second must be in 0..59"⟩
          else .error ⟨"ValueError", "minute must be in 0..59"⟩
        else .error ⟨"ValueError", "hour must be in 0..23"⟩
      else .error ⟨"ValueError", "day is out of range for month"⟩
    else .error ⟨"ValueError", "month must be in 1..12"⟩
  else .error ⟨"ValueError", "year " ++ toString year ++ " is out of range"⟩

def daysBeforeYear (year : ℕ) : ℕ :=
  let y := year - 1
  y * 365 + y / 4 - y / 100 + y / 400

def daysBeforeMonth (year month : ℕ) : ℕ :=
  [0, 31, 59, 90, 120, 151, 181, 212, 243, 273, 304, 334].getD (month - 1) 0 +
    if 2 < month ∧ isLeap year then 1 else 0

def toordinal (d : DateTime) : ℕ := daysBeforeYear d.year + daysBeforeMonth d.year d.month + d.day

/-- The microseconds from the start of day 1 to `d`.  `d - e` is the
`timedelta` of the difference of these counts, and timedeltas compare as it. -/
def micros (d : DateTime) : ℕ :=
  (((d.toordinal * 24 + d.hour) * 60 + d.minute) * 60 + d.second) * 1000000 + d.microsecond

def zeroPad (width n : ℕ) : String :=
  String.mk (List.replicate (width - (Nat.repr n).length) '0' ++ (Nat.repr n).toList)

/-- `d.isoformat()`: `YYYY-MM-DDTHH:MM:SS`, and `.ffffff` after it when the
microsecond is not zero. -/
def isoformat (d : DateTime) : String :=
  zeroPad 4 d.year ++ "-" ++ zeroPad 2 d.month ++ "-" ++ zeroPad 2 d.day ++ "T" ++
    zeroPad 2 d.hour ++ ":" ++ zeroPad 2 d.minute ++ ":" ++ zeroPad 2 d.second ++
    if d.microsecond = 0 then "" else "." ++ zeroPad 6 d.microsecond

end DateTime

/-! ## `fromisoformat` -/

def digitStep (value : ℕ) (c : Char) : ℕ := 10 * value + (c.toNat - 48)

/-- `parse_digits(p, &var, n)`: exactly `n` ASCII digits, read onto `acc`,
and what follows them. -/
def parseDigits (acc : ℕ) : ℕ → List Char → Option (ℕ × List Char)
  | 0, cs => some (acc, cs)
  | n + 1, c :: cs => if isAsciiDigit c then parseDigits (digitStep acc c) n cs else none
  | _ + 1, [] => none

def parseIsoDate (cs : List Char) : Option (ℕ × ℕ × ℕ × List Char) :=
  match parseDigits 0 4 cs with
  | some (year, '-' :: cs) =>
      match parseDigits 0 2 cs with
      | some (month, '-' :: cs) => (parseDigits 0 2 cs).map fun (day, rest) => (year, month, day, rest)
      | _ => none
  | _ => none

def parseFraction (cs : List Char) : Option ℕ :=
  if cs.length = 6 then (parseDigits 0 6 cs).map (·.1)
  else if cs.length = 3 then (parseDigits 0 3 cs).map (1000 * ·.1)
  else none

/-- The loop of `parse_hh_mm_ss_ff` with `fields` clock fields left to read:
the fields read and the microseconds.  After each field, the end of the
string ends the time, one last character ends it only if it is a NUL, a `:`
goes on to the next field (or, after the third, to a fraction), and a `.`
goes to a fraction. -/
def parseClockFields : ℕ → List Char → Option (List ℕ × ℕ)
  | 0, cs => (parseFraction cs).map fun microsecond => ([], microsecond)
  | fields + 1, cs =>
      match parseDigits 0 2 cs with
      | none => none
      | some (value, []) => some ([value], 0)
      | some (value, c :: rest) =>
          if rest.isEmpty then if c = '\x00' then some ([value], 0) else none
          else if c = ':' then (parseClockFields fields rest).map fun read => (value :: read.1, read.2)
          else if c = '.' then (parseFraction rest).map fun microsecond => ([value], microsecond)
          else none

def fromisoformat : Json → Except PyException DateTime
  | .str s =>
      let invalid : PyException := ⟨"ValueError", "Invalid isoformat string: " ++ pyReprStr s⟩
      match parseIsoDate s.toList with
      | none => .error invalid
      | some (year, month, day, []) => DateTime.make year month day 0 0 0 0
      | some (year, month, day, _ :: time) =>
          if time.any (fun c => c = '+' || c = '-') then .error invalid
          else match parseClockFields 3 time with
            | none => .error invalid
            | some (fields, microsecond) =>
                DateTime.make year month day (fields.getD 0 0) (fields.getD 1 0) (fields.getD 2 0) microsecond
  | _ => .error ⟨"TypeError", "fromisoformat: argument must be str"⟩

/-! ## Reading back `isoformat()` -/

namespace DateTime

theorem make_fields (d : DateTime) :
    make d.year d.month d.day d.hour d.minute d.second d.microsecond = .ok d := by
  simp only [make, dif_pos d.year_range, dif_pos d.month_range, dif_pos d.day_range, dif_pos d.hour_lt,
    dif_pos d.minute_lt, dif_pos d.second_lt, dif_pos d.microsecond_lt]

theorem parseDigits_append (acc : ℕ) (rest : List Char) :
    ∀ ds : List Char, (∀ c ∈ ds, isAsciiDigit c) →
      parseDigits acc ds.length (ds ++ rest) = some (ds.foldl digitStep acc, rest)
  | [], _ => rfl
  | c :: ds, h => by
      simp only [List.length_cons, List.cons_append, parseDigits, if_pos (h c (List.mem_cons_self _ _)),
        List.foldl_cons]
      exact parseDigits_append _ rest ds fun c hc => h c (List.mem_cons_of_mem _ hc)

theorem foldl_digitStep_zeros (n : ℕ) : (List.replicate n '0').foldl digitStep 0 = 0 := by
  induction n with
  | zero => rfl
  | succ n ih => rw [List.replicate_succ', List.foldl_append, ih]; rfl

theorem zeroPad_spec {width n : ℕ} (hw : 0 < width) (h : n < 10 ^ width) :
    (zeroPad width n).toList.length = width ∧ (∀ c ∈ (zeroPad width n).toList, isAsciiDigit c) ∧
      (zeroPad width n).toList.foldl digitStep 0 = n := by
  obtain ⟨-, hdig, hval⟩ := repr_spec n
  have hlen : (Nat.repr n).toList.length ≤ width := Nat.repr_length n width hw h
  have hzeroPad : (zeroPad width n).toList =
      List.replicate (width - (Nat.repr n).toList.length) '0' ++ (Nat.repr n).toList := rfl
  rw [hzeroPad]
  refine ⟨by simp only [List.length_append, List.length_replicate]; omega, ?_, ?_⟩
  · simp only [List.mem_append, List.mem_replicate]
    rintro c (⟨-, rfl⟩ | hc)
    · rfl
    · exact hdig c hc
  · rw [decimalValue, List.foldl_map] at hval
    rw [List.foldl_append, foldl_digitStep_zeros]
    exact hval

theorem parseDigits_zeroPad {width n : ℕ} (hw : 0 < width) (h : n < 10 ^ width) (rest : List Char) :
    parseDigits 0 width ((zeroPad width n).toList ++ rest) = some (n, rest) := by
  obtain ⟨hlen, hdig, hval⟩ := zeroPad_spec hw h
  have hread := parseDigits_append 0 rest _ hdig
  rwa [hlen, hval] at hread

theorem isAsciiDigit_ne {c : Char} (hc : isAsciiDigit c) {d : Char} (hd : isAsciiDigit d = false) : c ≠ d :=
  fun h => by rw [h] at hc; simp [hd] at hc

theorem lt_hundred_of_lt_sixty {x : ℕ} (hx : x < 60) : x < 10 ^ 2 := lt_trans hx (by norm_num)

def clockText (d : DateTime) : List Char :=
  (zeroPad 2 d.hour).toList ++ ':' :: (zeroPad 2 d.minute).toList ++ ':' :: (zeroPad 2 d.second).toList ++
    (if d.microsecond = 0 then "" else "." ++ zeroPad 6 d.microsecond).toList

theorem parseFraction_zeroPad {n : ℕ} (h : n < 1000000) : parseFraction (zeroPad 6 n).toList = some n := by
  have hdigits := parseDigits_zeroPad (by norm_num) (show n < 10 ^ 6 from h) []
  rw [List.append_nil] at hdigits
  rw [parseFraction, if_pos (zeroPad_spec (by norm_num) (show n < 10 ^ 6 from h)).1, hdigits]
  rfl

/-! The three ways the clock part of `isoformat()` goes on after a field. -/

theorem parseClockFields_colon {v : ℕ} (hv : v < 10 ^ 2) (fields : ℕ) {rest : List Char} (hrest : rest ≠ []) :
    parseClockFields (fields + 1) ((zeroPad 2 v).toList ++ ':' :: rest) =
      (parseClockFields fields rest).map fun read => (v :: read.1, read.2) := by
  obtain ⟨r, rs, rfl⟩ := List.exists_cons_of_ne_nil hrest
  simp only [parseClockFields, parseDigits_zeroPad two_pos hv]
  rfl

theorem parseClockFields_last {v : ℕ} (hv : v < 10 ^ 2) (fields : ℕ) :
    parseClockFields (fields + 1) (zeroPad 2 v).toList = some ([v], 0) := by
  have hdigits := parseDigits_zeroPad two_pos hv []
  rw [List.append_nil] at hdigits
  simp only [parseClockFields, hdigits]

theorem parseClockFields_fraction {v : ℕ} (hv : v < 10 ^ 2) (fields : ℕ) {us : ℕ} (hus : us < 1000000) :
    parseClockFields (fields + 1) ((zeroPad 2 v).toList ++ '.' :: (zeroPad 6 us).toList) = some ([v], us) := by
  have hlen := (zeroPad_spec (by norm_num) (show us < 10 ^ 6 from hus)).1
  obtain ⟨r, rs, hcons⟩ := List.exists_cons_of_ne_nil fun hnil : (zeroPad 6 us).toList = [] => by
    simp only [hnil, List.length_nil] at hlen; omega
  simp only [parseClockFields, parseDigits_zeroPad two_pos hv, hcons, List.isEmpty_cons, Bool.false_eq_true,
    if_false, if_neg (by decide : ('.' : Char) ≠ ':'), if_true]
  rw [← hcons, parseFraction_zeroPad hus]
  rfl

theorem parseClockFields_clockText (d : DateTime) :
    parseClockFields 3 d.clockText = some ([d.hour, d.minute, d.second], d.microsecond) := by
  have hhour := lt_hundred_of_lt_sixty (lt_trans d.hour_lt (by norm_num))
  have hminute := lt_hundred_of_lt_sixty d.minute_lt
  have hsecond := lt_hundred_of_lt_sixty d.second_lt
  have hne : ∀ {v}, v < 10 ^ 2 → ∀ rest, (zeroPad 2 v).toList ++ rest ≠ [] := fun hv rest hnil => by
    have hlen := (zeroPad_spec two_pos hv).1
    rw [(List.append_eq_nil.1 hnil).1] at hlen
    exact absurd hlen (by decide)
  simp only [clockText, List.append_assoc, List.cons_append]
  rw [parseClockFields_colon hhour _ (hne hminute _), parseClockFields_colon hminute _ (hne hsecond _)]
  by_cases hus : d.microsecond = 0
  · simp only [hus, if_true, show ("" : String).toList = [] from rfl, List.append_nil,
      parseClockFields_last hsecond]
    rfl
  · simp only [hus, if_false, toList_append, show ".".toList = ['.'] from rfl, List.singleton_append,
      parseClockFields_fraction hsecond _ d.microsecond_lt]
    rfl

theorem clockText_no_offset (d : DateTime) : d.clockText.any (fun c => c = '+' || c = '-') = false := by
  have hpad : ∀ {width n}, 0 < width → n < 10 ^ width → ∀ c ∈ (zeroPad width n).toList,
      (c = '+' || c = '-') = false := fun hw h c hc => by
    have hd := (zeroPad_spec hw h).2.1 c hc
    simp [isAsciiDigit_ne hd (by decide : isAsciiDigit '+' = false),
      isAsciiDigit_ne hd (by decide : isAsciiDigit '-' = false)]
  simp only [clockText, List.any_eq_false, List.mem_append, List.mem_cons]
  rintro c (((hc | rfl | hc) | rfl | hc) | hc)
  · simpa using hpad two_pos (lt_hundred_of_lt_sixty (lt_trans d.hour_lt (by norm_num))) c hc
  · decide
  · simpa using hpad two_pos (lt_hundred_of_lt_sixty d.minute_lt) c hc
  · decide
  · simpa using hpad two_pos (lt_hundred_of_lt_sixty d.second_lt) c hc
  · split_ifs at hc
    · simp at hc
    · rcases List.mem_cons.1 hc with rfl | hc
      · decide
      · simpa using hpad (by norm_num) (show d.microsecond < 10 ^ 6 from d.microsecond_lt) c hc

theorem daysInMonth_le (year month : ℕ) (h : 1 ≤ month ∧ month ≤ 12) : daysInMonth year month ≤ 31 := by
  unfold daysInMonth
  split_ifs
  · omega
  · obtain ⟨h1, h12⟩ := h
    interval_cases month <;> decide

theorem parseIsoDate_isoformat (d : DateTime) :
    parseIsoDate d.isoformat.toList = some (d.year, d.month, d.day, 'T' :: d.clockText) := by
  have hyear : d.year < 10 ^ 4 := by have := d.year_range; norm_num; omega
  have hmonth : d.month < 10 ^ 2 := by have := d.month_range; norm_num; omega
  have hday : d.day < 10 ^ 2 := by
    have := d.day_range.2.trans (daysInMonth_le d.year d.month d.month_range)
    norm_num; omega
  have htext : d.isoformat.toList = (zeroPad 4 d.year).toList ++ '-' :: (zeroPad 2 d.month).toList ++
      '-' :: (zeroPad 2 d.day).toList ++ 'T' :: d.clockText := by
    simp only [isoformat, clockText, toList_append, List.append_assoc]
    rfl
  rw [htext]
  simp only [parseIsoDate, List.append_assoc, List.cons_append, parseDigits_zeroPad (by norm_num) hyear,
    parseDigits_zeroPad two_pos hmonth, parseDigits_zeroPad two_pos hday, Option.map_some']

theorem fromisoformat_isoformat (d : DateTime) : fromisoformat (.str d.isoformat) = .ok d := by
  simp only [fromisoformat, parseIsoDate_isoformat, clockText_no_offset, parseClockFields_clockText]
  exact make_fields d

example : (⟨2024, 2, 29, 9, 5, 7, 120, by decide, by decide, by decide, by decide, by decide, by decide,
    by decide⟩ : DateTime).isoformat = "2024-02-29T09:05:07.000120" := by decide

end DateTime

/-! ## Adding a `timedelta` -/

def daysBeforeMonthTable : ℕ → ℕ
  | 1 => 0 | 2 => 31 | 3 => 59 | 4 => 90 | 5 => 120 | 6 => 151
  | 7 => 181 | 8 => 212 | 9 => 243 | 10 => 273 | 11 => 304 | 12 => 334 | _ => 0

def daysInMonthTable : ℕ → ℕ
  | 2 => 28 | 4 => 30 | 6 => 30 | 9 => 30 | 11 => 30 | _ => 31

/-- The month and day of the `n`-th day (from 0) of a year, as the end of
`_ord2ymd` finds them: an estimate of the month, lowered by one when the
month it names starts after day `n`. -/
def monthDay (leapyear : Bool) (n : ℕ) : ℕ × ℕ :=
  let month := (n + 50) / 32
  let preceding := daysBeforeMonthTable month + if 2 < month ∧ leapyear then 1 else 0
  if n < preceding then
    let month := month - 1
    (month, n - (preceding - (daysInMonthTable month + if month = 2 ∧ leapyear then 1 else 0)) + 1)
  else (month, n - preceding + 1)

/-- `_ord2ymd(n)`: the year, month and day of the `n`-th day, counting
1 January of year 1 as day 1, through the 400-, 100-, 4- and 1-year cycles. -/
def ord2ymd (n : ℕ) : ℕ × ℕ × ℕ :=
  let n := n - 1
  let n400 := n / 146097
  let n := n % 146097
  let n100 := n / 36524
  let n := n % 36524
  let n4 := n / 1461
  let n := n % 1461
  let n1 := n / 365
  let n := n % 365
  let year := n400 * 400 + 1 + (n100 * 100 + n4 * 4 + n1)
  if n1 = 4 ∨ n100 = 4 then (year - 1, 12, 31)
  else (year, monthDay (n1 = 3 ∧ (n4 ≠ 24 ∨ n100 = 3)) n)

example : ord2ymd 1 = (1, 1, 1) := by decide
example : ord2ymd 738946 = (2024, 3, 1) := by decide

def precedingDays (leapyear : Bool) (month : ℕ) : ℕ :=
  daysBeforeMonthTable month + if 2 < month ∧ leapyear then 1 else 0

def monthLength (leapyear : Bool) (month : ℕ) : ℕ :=
  daysInMonthTable month + if month = 2 ∧ leapyear then 1 else 0

theorem month_tables : ∀ leapyear : Bool, ∀ month < 13, 1 ≤ month →
    (2 ≤ month → precedingDays leapyear month =
        precedingDays leapyear (month - 1) + monthLength leapyear (month - 1) ∧
      precedingDays leapyear (month - 1) + 50 ≤ 32 * month) ∧
    (month = 1 → precedingDays leapyear month = 0) ∧
    (month ≤ 11 → 32 * month < precedingDays leapyear month + monthLength leapyear month + 19) ∧
    (month = 12 → precedingDays leapyear month + monthLength leapyear month = 365 + if leapyear then 1 else 0) := by
  decide

theorem monthDay_eq (leapyear : Bool) (n : ℕ) :
    monthDay leapyear n =
      if n < precedingDays leapyear ((n + 50) / 32) then
        ((n + 50) / 32 - 1,
          n - (precedingDays leapyear ((n + 50) / 32) - monthLength leapyear ((n + 50) / 32 - 1)) + 1)
      else ((n + 50) / 32, n - precedingDays leapyear ((n + 50) / 32) + 1) := rfl

theorem monthDay_spec (leapyear : Bool) {n : ℕ} (hn : n < 365) :
    (1 ≤ (monthDay leapyear n).1 ∧ (monthDay leapyear n).1 ≤ 12) ∧
    (1 ≤ (monthDay leapyear n).2 ∧ (monthDay leapyear n).2 ≤ monthLength leapyear (monthDay leapyear n).1) ∧
    precedingDays leapyear (monthDay leapyear n).1 + (monthDay leapyear n).2 = n + 1 := by
  have h3 : 32 * ((n + 50) / 32) ≤ n + 50 := Nat.mul_div_le _ _
  have h4 : n + 50 < 32 * ((n + 50) / 32) + 32 := Nat.lt_mul_div_succ _ (by norm_num)
  have facts := month_tables leapyear ((n + 50) / 32) (by omega) (by omega)
  rw [monthDay_eq]
  generalize (n + 50) / 32 = month at *
  have hleap : (if leapyear then 1 else 0) ≤ 1 := by split <;> omega
  split <;> dsimp only <;> omega

theorem isLeap_iff (year : ℕ) : isLeap year = true ↔ year % 4 = 0 ∧ (year % 100 ≠ 0 ∨ year % 400 = 0) := by
  simp [isLeap]

theorem daysBeforeMonth_eq {month : ℕ} (h1 : 1 ≤ month) (h12 : month ≤ 12) (year : ℕ) :
    DateTime.daysBeforeMonth year month = precedingDays (isLeap year) month := by
  interval_cases month <;> rfl

theorem daysInMonth_eq {month : ℕ} (h1 : 1 ≤ month) (h12 : month ≤ 12) (year : ℕ) :
    daysInMonth year month = monthLength (isLeap year) month := by
  unfold daysInMonth monthLength
  generalize isLeap year = leap
  interval_cases month <;> cases leap <;> rfl

theorem daysBeforeYear_cycles (a b c e : ℕ) (hb : b ≤ 3) (hc : c ≤ 24) (he : e ≤ 3) :
    DateTime.daysBeforeYear (400 * a + 100 * b + 4 * c + e + 1) = 146097 * a + 36524 * b + 1461 * c + 365 * e := by
  simp only [DateTime.daysBeforeYear]
  omega

theorem isLeap_cycles (a b c e : ℕ) (hb : b ≤ 3) (hc : c ≤ 24) (he : e ≤ 3) :
    isLeap (400 * a + 100 * b + 4 * c + e + 1) = decide (e = 3 ∧ (c ≠ 24 ∨ b = 3)) := by
  rw [Bool.eq_iff_iff, isLeap_iff, decide_eq_true_iff]
  omega

theorem ord2ymd_spec {n : ℕ} (hn : 1 ≤ n) :
    1 ≤ (ord2ymd n).1 ∧ (1 ≤ (ord2ymd n).2.1 ∧ (ord2ymd n).2.1 ≤ 12) ∧
      (1 ≤ (ord2ymd n).2.2 ∧ (ord2ymd n).2.2 ≤ daysInMonth (ord2ymd n).1 (ord2ymd n).2.1) ∧
      DateTime.daysBeforeYear (ord2ymd n).1 + DateTime.daysBeforeMonth (ord2ymd n).1 (ord2ymd n).2.1 +
        (ord2ymd n).2.2 = n := by
  unfold ord2ymd
  dsimp only
  -- the 400-, 100-, 4- and 1-year cycles of day `n - 1`, and the day of the year left
  have h400 := Nat.div_add_mod (n - 1) 146097
  have h400' := Nat.mod_lt (n - 1) (show 146097 > 0 by norm_num)
  generalize (n - 1) / 146097 = a at *
  generalize (n - 1) % 146097 = r at *
  have h100 := Nat.div_add_mod r 36524
  have h100' := Nat.mod_lt r (show 36524 > 0 by norm_num)
  generalize r / 36524 = b at *
  generalize r % 36524 = r at *
  have h4 := Nat.div_add_mod r 1461
  have h4' := Nat.mod_lt r (show 1461 > 0 by norm_num)
  generalize r / 1461 = c at *
  generalize r % 1461 = r at *
  have h1 := Nat.div_add_mod r 365
  have h1' := Nat.mod_lt r (show 365 > 0 by norm_num)
  generalize r / 365 = e at *
  generalize r % 365 = k at *
  split_ifs with hspecial <;> dsimp only
  · -- the last day of a 4- or 400-year cycle: 31 December of a leap year
    obtain ⟨b', c', hb', hc', hyear, hflag, hn'⟩ : ∃ b' c', b' ≤ 3 ∧ c' ≤ 24 ∧
        a * 400 + 1 + (b * 100 + c * 4 + e) - 1 = 400 * a + 100 * b' + 4 * c' + 3 + 1 ∧ (c' ≠ 24 ∨ b' = 3) ∧
        n = 146097 * a + 36524 * b' + 1461 * c' + 365 * 3 + 366 := by
      rcases hspecial with he | hb
      · exact ⟨b, c, by omega, by omega, by omega, by omega, by omega⟩
      · exact ⟨3, 24, le_refl _, le_refl _, by omega, by omega, by omega⟩
    have hleap : decide (3 = 3 ∧ (c' ≠ 24 ∨ b' = 3)) = true := decide_eq_true ⟨rfl, hflag⟩
    rw [hyear, daysBeforeMonth_eq (by norm_num) (by norm_num), daysInMonth_eq (by norm_num) (by norm_num),
      isLeap_cycles a b' c' 3 hb' hc' (le_refl _), daysBeforeYear_cycles a b' c' 3 hb' hc' (le_refl _), hleap,
      show precedingDays true 12 = 335 from rfl, show monthLength true 12 = 31 from rfl]
    exact ⟨by omega, by norm_num, by norm_num, by omega⟩
  · have hb : b ≤ 3 := by omega
    have hc : c ≤ 24 := by omega
    have he : e ≤ 3 := by omega
    have hyear : a * 400 + 1 + (b * 100 + c * 4 + e) = 400 * a + 100 * b + 4 * c + e + 1 := by ring
    obtain ⟨⟨hm1, hm12⟩, ⟨hd1, hd⟩, hsum⟩ := monthDay_spec (decide (e = 3 ∧ (c ≠ 24 ∨ b = 3))) h1'
    rw [hyear, daysBeforeMonth_eq hm1 hm12, daysInMonth_eq hm1 hm12, isLeap_cycles a b c e hb hc he,
      daysBeforeYear_cycles a b c e hb hc he]
    exact ⟨by omega, ⟨hm1, hm12⟩, ⟨hd1, hd⟩, by omega⟩

def maxOrdinal : ℕ := 3652059

namespace DateTime

/-- `d + timedelta(microseconds=delta)`: the sum's day count and time of day
(a day has 86400000000 microseconds), with `date.fromordinal` for the date. -/
def addMicros (d : DateTime) (delta : ℤ) : Except PyException DateTime :=
  let total := (d.micros : ℤ) + delta
  let days := total / 86400000000
  let rest := (total % 86400000000).toNat
  if 0 < days ∧ days ≤ maxOrdinal then
    let ymd := ord2ymd days.toNat
    make ymd.1 ymd.2.1 ymd.2.2 (rest / 3600000000) (rest / 60000000 % 60) (rest / 1000000 % 60) (rest % 1000000)
  else .error ⟨"OverflowError", "date value out of range"⟩

theorem clock_micros (r : ℕ) :
    ((r / 3600000000 * 60 + r / 60000000 % 60) * 60 + r / 1000000 % 60) * 1000000 + r % 1000000 = r := by
  have h1 := Nat.div_add_mod r 1000000
  have h2 := Nat.div_add_mod (r / 1000000) 60
  have h3 := Nat.div_add_mod (r / 60000000) 60
  have e2 : r / 1000000 / 60 = r / 60000000 := Nat.div_div_eq_div_mul r 1000000 60
  have e3 : r / 60000000 / 60 = r / 3600000000 := Nat.div_div_eq_div_mul r 60000000 60
  rw [e2] at h2
  rw [e3] at h3
  omega

theorem daysBeforeYear_le {year : ℕ} (h : 10000 ≤ year) : maxOrdinal ≤ daysBeforeYear year := by
  simp only [daysBeforeYear, maxOrdinal]
  omega

theorem make_ord2ymd {n : ℕ} (h1 : 1 ≤ n) (hmax : n ≤ maxOrdinal) (hour minute second microsecond : ℕ)
    (hh : hour < 24) (hmi : minute < 60) (hs : second < 60) (hus : microsecond < 1000000) :
    ∃ d, make (ord2ymd n).1 (ord2ymd n).2.1 (ord2ymd n).2.2 hour minute second microsecond = .ok d ∧
      d.toordinal = n ∧ d.hour = hour ∧ d.minute = minute ∧ d.second = second ∧ d.microsecond = microsecond := by
  obtain ⟨hy, hm, hd, hsum⟩ := ord2ymd_spec h1
  have hy' : (ord2ymd n).1 ≤ 9999 := by
    by_contra hbig
    have := daysBeforeYear_le (show 10000 ≤ (ord2ymd n).1 by omega)
    omega
  simp only [make, dif_pos (And.intro hy hy'), dif_pos hm, dif_pos hd, dif_pos hh, dif_pos hmi, dif_pos hs,
    dif_pos hus]
  exact ⟨_, rfl, hsum, rfl, rfl, rfl, rfl⟩

theorem addMicros_micros (d : DateTime) (delta : ℤ)
    (hrange : 0 < ((d.micros : ℤ) + delta) / 86400000000 ∧ ((d.micros : ℤ) + delta) / 86400000000 ≤ maxOrdinal) :
    ∃ e, d.addMicros delta = .ok e ∧ (e.micros : ℤ) = d.micros + delta := by
  have hrest := Int.emod_nonneg ((d.micros : ℤ) + delta) (show (86400000000 : ℤ) ≠ 0 by decide)
  have hrest' := Int.emod_lt_of_pos ((d.micros : ℤ) + delta) (show (0 : ℤ) < 86400000000 by decide)
  have hsplit := Int.ediv_add_emod ((d.micros : ℤ) + delta) 86400000000
  unfold addMicros
  dsimp only
  generalize ((d.micros : ℤ) + delta) / 86400000000 = days at *
  generalize ((d.micros : ℤ) + delta) % 86400000000 = rest at *
  rw [if_pos hrange]
  obtain ⟨n, rfl⟩ : ∃ n : ℕ, days = n := ⟨days.toNat, by omega⟩
  obtain ⟨r, rfl⟩ : ∃ r : ℕ, rest = r := ⟨rest.toNat, by omega⟩
  simp only [Int.toNat_ofNat]
  obtain ⟨e, he, hord, hh, hmi, hs, hus⟩ := make_ord2ymd (n := n) (by omega) (by simp only [maxOrdinal] at *; omega)
    (r / 3600000000) (r / 60000000 % 60) (r / 1000000 % 60) (r % 1000000) (by omega) (by omega) (by omega) (by omega)
  refine ⟨e, he, ?_⟩
  have hmicros : e.micros = 86400000000 * n + r := by
    have hclock := clock_micros r
    rw [micros, hord, hh, hmi, hs, hus]
    generalize r / 3600000000 = hour at *
    generalize r / 60000000 % 60 = minute at *
    generalize r / 1000000 % 60 = second at *
    generalize r % 1000000 = microsecond at *
    omega
  rw [hmicros]
  push_cast
  omega

end DateTime

end ResilienceCore
