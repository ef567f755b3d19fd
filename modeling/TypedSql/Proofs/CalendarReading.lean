import TypedSql.Calendar.Parser
import TypedSql.Proofs.DigitRuns

/-!
Dates, times of day and moments are read back from their texts: part by part, and for a moment
also through the number of its day, which names the day again.
-/

namespace TypedSql

open Text Calendar

/-! ### Parts -/

namespace Calendar

variable {ds rest : List Char} {width n : Nat}

theorem trimLeft_cons {c : Char} (h : isBlankChar c = false) : trimLeft (c :: rest) = c :: rest :=
  List.dropWhile_cons_of_neg (by simp [h])

theorem trimLeft_digits (hd : AllDigits ds) (hne : ds ≠ []) :
    trimLeft (ds ++ rest) = ds ++ rest := by
  cases ds with
  | nil => exact absurd rfl hne
  | cons d ds => exact trimLeft_cons (not_isBlankChar_of_isDigit (hd d List.mem_cons_self))

/-- A run of digits is read if it fills the width or ends within it. -/
theorem readNumber_run (hd : AllDigits ds) (hne : ds ≠ [])
    (h : ds.length = width ∨ ds.length ≤ width ∧ EndsDigits rest) :
    readNumber width (ds ++ rest) = some (digitsValue ds, rest) := by
  have run : ((ds ++ rest).take width).takeWhile Char.isDigit = ds := by
    rcases h with rfl | ⟨hw, hr⟩
    · rw [List.take_left]
      simpa using takeWhile_isDigit hd endsDigits_nil
    · rw [List.take_append, List.take_of_length_le hw]
      refine takeWhile_isDigit hd ?_
      cases rest with
      | nil => simpa using endsDigits_nil
      | cons c rest =>
        cases width - ds.length with
        | zero => exact endsDigits_nil
        | succ k => exact endsDigits_cons (hr c rfl)
  rw [readNumber, run, if_neg (by simpa using hne), List.drop_left]

theorem readPart_padded {least greatest : Nat} (hl : least ≤ n) (hg : n ≤ greatest) (hn : n < 100) :
    readPart least greatest (padded 2 n ++ rest) = some (n, rest) := by
  have digit := allDigits_padded 2 n
  have hne := padded_ne_nil 2 n
  rw [readPart, trimLeft_digits digit hne,
    readNumber_run digit hne (.inl (length_padded (by decide) hn)), digitsValue_padded]
  exact if_pos ⟨hl, hg⟩

theorem readMark_cons (mark : Char) (h : isBlankChar mark = false) :
    readMark mark (mark :: rest) = some ((), rest) := by
  rw [readMark, trimLeft_cons h]
  exact if_pos rfl

theorem readYear_yearText {y : Int} (hl : -262143 ≤ y) (hg : y ≤ 262142) (hr : EndsDigits rest) :
    readYear (Date.yearText y ++ rest) = some (y, rest) := by
  have digit := allDigits_padded 4 y.natAbs
  have hne := padded_ne_nil 4 y.natAbs
  have inRange : ∀ z : Int, z = y → ((if -2147483648 ≤ z ∧ z ≤ 2147483647 then some z
      else none).bind fun z => some (z, rest)) = some (y, rest) := by
    rintro z rfl
    rw [if_pos (by omega)]
    rfl
  have signed : readNumber (padded 4 y.natAbs ++ rest).length (padded 4 y.natAbs ++ rest) =
      some (y.natAbs, rest) := by
    rw [readNumber_run digit hne (.inr ⟨by simp, hr⟩), digitsValue_padded]
  unfold Date.yearText
  split
  · next hy =>
    obtain ⟨c, cs, hc⟩ := List.exists_cons_of_ne_nil hne
    have first : c.isDigit = true := digit c (hc ▸ List.mem_cons_self)
    rw [readYear, trimLeft_digits digit hne]
    split
    · next h =>
      rw [hc] at h
      cases h
      cases first
    · next h =>
      rw [hc] at h
      cases h
      cases first
    · rw [readNumber_run digit hne (.inl (length_padded (by decide) (by omega))),
        digitsValue_padded]
      exact inRange y.natAbs (by omega)
  · by_cases hy : y < 0
    · rw [if_pos hy, List.cons_append, readYear, trimLeft_cons rfl]
      show (readNumber (padded 4 y.natAbs ++ rest).length (padded 4 y.natAbs ++ rest)).bind _ = _
      rw [signed]
      exact inRange (-(y.natAbs : Int)) (by omega)
    · rw [if_neg hy, List.cons_append, readYear, trimLeft_cons rfl]
      show (readNumber (padded 4 y.natAbs ++ rest).length (padded 4 y.natAbs ++ rest)).bind _ = _
      rw [signed]
      exact inRange y.natAbs (by omega)

end Calendar

/-! ### Dates -/

namespace Date

variable {rest : List Char}

theorem daysInMonth_le (year : Int) (month : Nat) : daysInMonth year month ≤ 31 := by
  unfold daysInMonth
  split
  · split <;> decide
  all_goals decide

theorem month_of_day {year : Int} {month day : Nat} (hd : 1 ≤ day)
    (h : day ≤ daysInMonth year month) : 1 ≤ month ∧ month ≤ 12 := by
  unfold daysInMonth at h
  split at h <;> omega

theorem bounds (d : Date) : -262143 ≤ d.year ∧ d.year ≤ 262142 ∧ 1 ≤ d.day ∧
    d.day ≤ daysInMonth d.year d.month := by
  have h := d.valid
  simp only [isDay, Bool.and_eq_true, decide_eq_true_eq] at h
  obtain ⟨⟨⟨hl, hg⟩, hd⟩, hm⟩ := h
  exact ⟨hl, hg, hd, hm⟩

theorem readDateParts_toText (d : Date) :
    readDateParts (d.toText ++ rest) = some ((d.year, d.month, d.day), rest) := by
  obtain ⟨hl, hg, hd, hd'⟩ := d.bounds
  obtain ⟨hm, hm'⟩ := month_of_day hd hd'
  replace hd' := Nat.le_trans hd' (daysInMonth_le _ _)
  have hyphen : ∀ rest, EndsDigits ('-' :: rest) := fun _ => endsDigits_cons rfl
  simp only [toText, List.append_assoc, List.cons_append, readDateParts, Option.bind_eq_bind,
    readYear_yearText hl hg (hyphen _), Option.bind_some, readMark_cons '-' rfl,
    readPart_padded hm hm' (Nat.lt_of_le_of_lt hm' (by decide)),
    readPart_padded hd hd' (Nat.lt_of_le_of_lt hd' (by decide))]
  rfl

theorem of?_self (d : Date) : of? d.year d.month d.day = some d :=
  of?_eq_some.mpr ⟨rfl, rfl, rfl⟩

theorem ofText?_toText (d : Date) : ofText? d.toText = some d := by
  rw [ofText?, ← List.append_nil d.toText, readDateParts_toText]
  exact d.of?_self

/-! ### The number of a day -/

/-- The year within a cycle of four hundred years that begin in March, from the day: it has `q`
full centuries, `a` full spans of four years and `b` full years behind it. -/
theorem yearOfCycle_eq {q a b dayOfYear n : Nat} (hq : q < 4) (ha : a < 25) (hb : b < 4)
    (hd : dayOfYear ≤ 365) (leap : dayOfYear = 365 → b = 3 ∧ (a ≠ 24 ∨ q = 3))
    (hn : n = 36524 * q + 1461 * a + 365 * b + dayOfYear) :
    (n - n / 1460 + n / 36524 - n / 146096) / 365 = 100 * q + 4 * a + b := by
  -- the last day of the cycle is the only one on which the centuries count one too many
  have centuries : n / 36524 = q + n / 146096 := by
    have within : n < 36524 * (q + 1) ∨ q = 3 ∧ n = 146096 := by omega
    rcases within with h | ⟨rfl, h⟩
    · rw [Nat.div_eq_of_lt (show n < 146096 by omega)]
      omega
    · rw [h]
  obtain ⟨t, ht⟩ : ∃ t, (24 * q + a + 365 * b + dayOfYear) / 1460 = t := ⟨_, rfl⟩
  have spans : n / 1460 = 25 * q + a + t := by
    clear leap centuries
    omega
  have some_days : t ≤ dayOfYear := by
    clear leap centuries spans
    omega
  have not_all : dayOfYear < 365 + t := by
    clear centuries spans
    omega
  have shifted : n - n / 1460 + n / 36524 - n / 146096 =
      (dayOfYear - t) + 365 * (100 * q + 4 * a + b) := by
    rw [spans, centuries, ← Nat.add_assoc, Nat.add_sub_cancel, hn]
    clear leap ht spans centuries not_all hn
    omega
  rw [shifted, Nat.add_mul_div_left _ _ (by decide),
    Nat.div_eq_of_lt (Nat.sub_lt_right_of_lt_add some_days not_all), Nat.zero_add]

/-- The month within a year that begins in March, from the day of the year. -/
theorem monthOfYear_eq {month day : Nat} (hm : month < 12) (hd : 1 ≤ day)
    (hl : day + (153 * month + 2) / 5 ≤ (153 * (month + 1) + 2) / 5) :
    (5 * ((153 * month + 2) / 5 + day - 1) + 2) / 153 = month := by
  omega

/-- Months counted from March: a day lies before the next month begins, and the 366th day of a
year is a 29 February. -/
theorem day_within {year : Int} {month day m : Nat} (hd : 1 ≤ day)
    (h : day ≤ daysInMonth year month) (hm : (month + 9) % 12 = m) :
    day + (153 * m + 2) / 5 ≤ (153 * (m + 1) + 2) / 5 ∧ (153 * m + 2) / 5 + day - 1 ≤ 365 ∧
      ((153 * m + 2) / 5 + day - 1 = 365 → month = 2 ∧ isLeapYear year = true) := by
  subst hm
  unfold daysInMonth at h
  split at h
  · split at h
    · next leap => exact ⟨by omega, by omega, fun _ => ⟨rfl, leap⟩⟩
    · exact ⟨by omega, by omega, by omega⟩
  all_goals exact ⟨by omega, by omega, by omega⟩

/-- A year by its cycle of four hundred years, century, span of four years and place in that. -/
theorem exists_cycle (year : Int) : ∃ (c : Int) (q a b : Nat), q < 4 ∧ a < 25 ∧ b < 4 ∧
    year = 400 * c + (100 * q + 4 * a + b : Nat) :=
  ⟨year / 400, (year % 400).toNat / 100, (year % 400).toNat % 100 / 4, (year % 4).toNat,
    by omega, by omega, by omega, by omega⟩

/-- A day of a cycle lies within it, and the days of the years before its own leave its day of the
year. -/
theorem ofCycle {q a b dayOfYear n : Nat} (hq : q < 4) (ha : a < 25) (hb : b < 4)
    (hd : dayOfYear ≤ 365) (hn : n = 36524 * q + 1461 * a + 365 * b + dayOfYear) :
    n < 146097 ∧ n - (365 * (100 * q + 4 * a + b) + (100 * q + 4 * a + b) / 4 -
      (100 * q + 4 * a + b) / 100) = dayOfYear := by
  constructor <;> omega

theorem ofNumber?_number (d : Date) : ofNumber? d.number = some d := by
  obtain ⟨-, -, hd, hl⟩ := d.bounds
  obtain ⟨hm, hm'⟩ := month_of_day hd hl
  obtain ⟨year, hy⟩ : ∃ y, (if d.month ≤ 2 then d.year - 1 else d.year) = y := ⟨_, rfl⟩
  obtain ⟨month, hmonth⟩ : ∃ m, (d.month + 9) % 12 = m := ⟨_, rfl⟩
  obtain ⟨within, hday, leap⟩ := day_within hd hl hmonth
  obtain ⟨dayOfYear, hdoy⟩ : ∃ n, (153 * month + 2) / 5 + d.day - 1 = n := ⟨_, rfl⟩
  rw [hdoy] at hday leap
  obtain ⟨c, q, a, b, hq, ha, hb, hyear⟩ := exists_cycle year
  replace leap : dayOfYear = 365 → b = 3 ∧ (a ≠ 24 ∨ q = 3) := by
    intro last
    obtain ⟨february, leap⟩ := leap last
    simp only [isLeapYear, Bool.and_eq_true, Bool.or_eq_true, beq_iff_eq, bne_iff_ne] at leap
    rw [if_pos (by omega)] at hy
    omega
  obtain ⟨n, hn⟩ : ∃ n, n = 36524 * q + 1461 * a + 365 * b + dayOfYear := ⟨_, rfl⟩
  have number : d.number = 146097 * c + n := by
    rw [Date.number, hy, hmonth, hdoy]
    clear leap within hdoy hl hy hmonth
    omega
  obtain ⟨bound, dayOfYear_eq⟩ := ofCycle hq ha hb hday hn
  have cycle : d.number / 146097 = c := by
    clear leap within hdoy hl hy hmonth hn dayOfYear_eq
    omega
  have dayOfCycle : (d.number % 146097).toNat = n := by
    clear leap within hdoy hl hy hmonth hn dayOfYear_eq
    omega
  have month_eq : (5 * dayOfYear + 2) / 153 = month := by
    rw [← hdoy]
    exact monthOfYear_eq (by omega) hd within
  rw [ofNumber?, cycle, dayOfCycle, yearOfCycle_eq hq ha hb hday leap hn, dayOfYear_eq, month_eq]
  rw [← hyear]
  clear leap number bound cycle dayOfCycle dayOfYear_eq month_eq hn hyear
  refine of?_eq_some.mpr ⟨?_, ?_, ?_⟩
  · clear within hday hdoy
    split at hy <;> split <;> omega
  · clear within hday hdoy
    split <;> omega
  · omega

end Date

/-! ### Times of day -/

namespace Time

variable {rest : List Char}

/-- What may follow a time: neither a digit nor a point. -/
def Ends (rest : List Char) : Prop :=
  EndsDigits rest ∧ rest.head? ≠ some '.'

theorem bounds (t : Time) : t.hour ≤ 23 ∧ t.minute ≤ 59 ∧ t.second ≤ 59 ∧
    t.nanosecond < (if t.second = 59 then 2000000000 else 1000000000) := by
  have h := t.valid
  simp only [isTimeOfDay, Bool.and_eq_true, decide_eq_true_eq] at h
  obtain ⟨⟨⟨hh, hm⟩, hs⟩, hn⟩ := h
  exact ⟨by omega, by omega, by omega, hn⟩

/-- A fraction of so many digits is read if the nanoseconds have no more places. -/
theorem readFraction_padded (places unit : Nat) {n : Nat} (hp : 0 < places)
    (hu : unit = 10 ^ (9 - places)) (hn : n < 10 ^ places * unit) (exact : n % unit = 0)
    (hp' : places ≤ 9) (hr : EndsDigits rest) :
    readFraction ('.' :: (padded places (n / unit) ++ rest)) = some (n, rest) := by
  have digit := allDigits_padded places (n / unit)
  have length := length_padded hp (Nat.div_lt_of_lt_mul (Nat.mul_comm .. ▸ hn))
  have nine : (padded places (n / unit)).take 9 = padded places (n / unit) :=
    List.take_of_length_le (Nat.le_trans (Nat.le_of_eq length) hp')
  have value : n / unit * 10 ^ (9 - places) = n :=
    hu ▸ Nat.div_mul_cancel (Nat.dvd_of_mod_eq_zero exact)
  rw [readFraction, takeWhile_isDigit digit hr, if_neg (by simp [padded_ne_nil]), nine]
  dsimp only
  rw [digitsValue_padded, length, List.drop_left' length]
  exact congrArg (fun m => some (m, rest)) value

theorem readFraction_fractionText {n : Nat} (hn : n < 1000000000) (hr : Ends rest) :
    readFraction (fractionText n ++ rest) = some (n, rest) := by
  unfold fractionText
  split
  · next h =>
    subst h
    cases rest with
    | nil => rfl
    | cons c rest =>
      rw [List.nil_append, readFraction]
      rintro cs h
      exact hr.2 (by rw [h]; rfl)
  split
  · next milli => exact readFraction_padded 3 1000000 (by decide) rfl hn milli (by decide) hr.1
  split
  · next micro => exact readFraction_padded 6 1000 (by decide) rfl hn micro (by decide) hr.1
  · have nano := readFraction_padded 9 1 (by decide) rfl hn (Nat.mod_one n) (by decide) hr.1
    rwa [Nat.div_one] at nano

/-- The sixtieth second is the long one. -/
theorem timeOf?_written (t : Time) : timeOf? t.hour t.minute (t.second + t.nanosecond / 1000000000)
    (t.nanosecond % 1000000000) = some t := by
  obtain ⟨-, -, hs, hn⟩ := t.bounds
  unfold timeOf?
  split
  · refine of?_eq_some.mpr ⟨rfl, rfl, ?_, ?_⟩
    · split at hn <;> omega
    · split at hn <;> omega
  · refine of?_eq_some.mpr ⟨rfl, rfl, ?_, ?_⟩
    · split at hn <;> omega
    · split at hn <;> omega

theorem readHourMinute_padded {hour minute : Nat} (hh : hour ≤ 23) (hm : minute ≤ 59) :
    readHourMinute (padded 2 hour ++ ':' :: (padded 2 minute ++ rest)) =
      some ((hour, minute), rest) := by
  simp only [readHourMinute, Option.bind_eq_bind, Option.bind_some, readMark_cons ':' rfl,
    readPart_padded (Nat.zero_le hour) hh (Nat.lt_of_le_of_lt hh (by decide)),
    readPart_padded (Nat.zero_le minute) hm (Nat.lt_of_le_of_lt hm (by decide))]
  rfl

theorem readSecond_padded {second n : Nat} (hs : second ≤ 60) (hn : n < 1000000000)
    (hr : Ends rest) : readSecond (':' :: (padded 2 second ++ (fractionText n ++ rest))) =
      some ((second, n), rest) := by
  simp only [readSecond, Option.bind_eq_bind, Option.bind_some, readMark_cons ':' rfl,
    readPart_padded (Nat.zero_le second) hs (Nat.lt_of_le_of_lt hs (by decide)),
    readFraction_fractionText hn hr]
  rfl

theorem second_le (t : Time) : t.second + t.nanosecond / 1000000000 ≤ 60 := by
  obtain ⟨-, -, hs, hn⟩ := t.bounds
  split at hn <;> omega

theorem toText_append (t : Time) (rest : List Char) : t.toText ++ rest =
    padded 2 t.hour ++ ':' :: (padded 2 t.minute ++ (':' ::
      (padded 2 (t.second + t.nanosecond / 1000000000) ++
        (fractionText (t.nanosecond % 1000000000) ++ rest)))) := by
  simp only [toText, List.append_assoc, List.cons_append]

theorem readTime_toText (t : Time) (hr : Ends rest) :
    readTime (t.toText ++ rest) = some (t, rest) := by
  obtain ⟨hh, hm, -, -⟩ := t.bounds
  have nanosecond := Nat.mod_lt t.nanosecond (show 0 < 1000000000 by decide)
  rw [toText_append]
  simp only [readTime, Option.bind_eq_bind, Option.bind_some, readHourMinute_padded hh hm,
    readSecond_padded t.second_le nanosecond hr, timeOf?_written]
  rfl

theorem ofText?_toText (t : Time) : ofText? t.toText = some t := by
  obtain ⟨hh, hm, -, -⟩ := t.bounds
  have nanosecond := Nat.mod_lt t.nanosecond (show 0 < 1000000000 by decide)
  have ends : Ends [] := ⟨endsDigits_nil, by simp⟩
  rw [← List.append_nil t.toText, toText_append]
  simp only [ofText?, Option.bind_eq_bind, Option.bind_some, readHourMinute_padded hh hm,
    readSecond_padded t.second_le nanosecond ends, Option.getD_some, timeOf?_written]
  rfl

theorem ofSecondOfDay?_self (t : Time) :
    ofSecondOfDay? t.secondOfDay t.nanosecond = some t := by
  obtain ⟨hh, hm, hs, -⟩ := t.bounds
  exact of?_eq_some.mpr ⟨by rw [secondOfDay]; omega, by rw [secondOfDay]; omega,
    by rw [secondOfDay]; omega, rfl⟩

end Time

/-! ### Moments -/

namespace Timestamp

theorem ofText?_toText (t : Timestamp) : ofText? t.toText = some t := by
  have ends : Time.Ends [] := ⟨endsDigits_nil, by simp⟩
  rw [← List.append_nil t.toText, toText, List.append_assoc, List.cons_append]
  simp only [ofText?, Option.bind_eq_bind, Option.bind_some, Date.readDateParts_toText,
    readMark_cons 'T' rfl, Time.readTime_toText t.time ends, Date.of?_self]
  rfl

/-- No time later, through the numbers of the day and of the second, is the same moment. -/
theorem addSeconds?_zero (t : Timestamp) : addSeconds? t 0 = some t := by
  obtain ⟨hh, hm, hs, -⟩ := t.time.bounds
  have within : t.time.secondOfDay < 86400 := by
    rw [Time.secondOfDay]
    omega
  have day : ((t.time.secondOfDay : Int) + 0) / 86400 = 0 := by omega
  have second : (((t.time.secondOfDay : Int) + 0) % 86400).toNat = t.time.secondOfDay := by omega
  rw [addSeconds?, day, second, Date.addDays?, Int.add_zero, Date.ofNumber?_number,
    Time.ofSecondOfDay?_self]
  rfl

theorem ofOffsetText?_toUtcText (t : Timestamp) : ofOffsetText? t.toUtcText = some t := by
  have ends : Time.Ends ['Z'] := ⟨endsDigits_cons rfl, by decide⟩
  have text : t.toUtcText = t.date.toText ++ 'T' :: (t.time.toText ++ ['Z']) := by
    rw [toUtcText, toText, List.append_assoc, List.cons_append]
  rw [text]
  simp only [ofOffsetText?, Option.bind_eq_bind, Option.bind_some, Date.readDateParts_toText,
    beq_self_eq_true, Bool.true_or, if_true, Time.readTime_toText t.time ends, Date.of?_self]
  exact t.addSeconds?_zero

end Timestamp

end TypedSql
