import Mathlib.Order.Monotone.Basic
import PromptStudio.Instant
import PromptStudio.Proofs.Text.Digits
import PromptStudio.Proofs.Text.Separators

/-!
# Instants in writing

An instant is written as the date and the time of day that it has by the rules of the Gregorian
calendar. Those give the instant back, so no two instants are written alike.
-/

namespace PromptStudio.Proofs

/-! ## The calendar -/

/-- Every fourth year is a leap year, but of those that end a century only every fourth. -/
def isLeap (year : Int) : Bool :=
  year % 4 = 0 && (year % 100 ≠ 0 || year % 400 = 0)

def monthLength (leap : Bool) : Nat → Nat
  | 2 => if leap then 29 else 28
  | 4 | 6 | 9 | 11 => 30
  | _ => 31

def daysBeforeMonth (leap : Bool) : Nat → Nat
  | 0 | 1 => 0
  | month + 2 => daysBeforeMonth leap (month + 1) + monthLength leap (month + 1)

/-- The leap years from the year zero on and before a year. -/
def leapYearsBefore (year : Int) : Int :=
  (year + 3) / 4 - (year + 99) / 100 + (year + 399) / 400

/-- The days from the first of January 1970 to a date. -/
def dayNumber (year : Int) (month day : Nat) : Int :=
  365 * (year - 1970) + (leapYearsBefore year - leapYearsBefore 1970) +
    daysBeforeMonth (isLeap year) month + day - 1

/-- A date and a time of day. -/
structure Moment where
  year : Int
  month : Nat
  day : Nat
  hour : Nat
  minute : Nat
  second : Nat
  milli : Nat

namespace Moment

/-- The date is one of the calendar, and the time one of a clock. -/
structure Valid (m : Moment) : Prop where
  month_pos : 1 ≤ m.month
  month_le : m.month ≤ 12
  day_pos : 1 ≤ m.day
  day_le : m.day ≤ monthLength (isLeap m.year) m.month
  hour_lt : m.hour < 24
  minute_lt : m.minute < 60
  second_lt : m.second < 60
  milli_lt : m.milli < 1000

/-- The instant of a date and a time of day. -/
def instant (m : Moment) : Instant :=
  ⟨(((dayNumber m.year m.month m.day * 24 + m.hour) * 60 + m.minute) * 60 + m.second) * 1000 +
    m.milli⟩

/-- A date and a time of day in writing, with a character between them. Milliseconds that are
zero are left out. -/
def chars (m : Moment) (between : Char) : List Char :=
  Instant.yearChars m.year ++
    '-' :: (Text.Numeral.padded 2 m.month ++
    '-' :: (Text.Numeral.padded 2 m.day ++
    between :: (Text.Numeral.padded 2 m.hour ++
    ':' :: (Text.Numeral.padded 2 m.minute ++
    ':' :: (Text.Numeral.padded 2 m.second ++
    if m.milli = 0 then [] else '.' :: Text.Numeral.padded 3 m.milli)))))

end Moment

lemma leapYearsBefore_succ (year : Int) :
    leapYearsBefore (year + 1) = leapYearsBefore year + (isLeap year).toNat := by
  unfold leapYearsBefore isLeap
  by_cases hfour : year % 4 = 0
  · by_cases hcentury : year % 100 = 0
    · by_cases hera : year % 400 = 0
      · simp [hfour, hera]
        omega
      · simp [hfour, hcentury, hera]
        omega
    · simp [hfour, hcentury]
      omega
  · simp [hfour]
    omega

/-! ## The date of a day

An era has 400 years, each counted from March on, so that a leap day ends its year. -/

/-- The days of an era before a year of it. -/
def daysBeforeYear (y : Nat) : Nat := 365 * y + y / 4 - y / 100 + y / 400

/-- A day of an era, without the leap days before it. -/
def withoutLeapDays (d : Nat) : Nat := d - d / 1460 + d / 36524 - d / 146096

lemma withoutLeapDays_mono : Monotone withoutLeapDays := by
  apply monotone_nat_of_le_succ
  intro d
  unfold withoutLeapDays
  omega

lemma withoutLeapDays_of_year : ∀ y < 400,
    365 * y ≤ withoutLeapDays (daysBeforeYear y) ∧
      withoutLeapDays (daysBeforeYear (y + 1) - 1) < 365 * (y + 1) := by
  decide +kernel

lemma exists_year {d n : Nat} (h : d < daysBeforeYear n) :
    ∃ y < n, daysBeforeYear y ≤ d ∧ d < daysBeforeYear (y + 1) := by
  induction n with
  | zero => exact absurd h (Nat.not_lt_zero d)
  | succ n ih =>
    by_cases hn : d < daysBeforeYear n
    · obtain ⟨y, hy, hyear⟩ := ih hn
      exact ⟨y, by omega, hyear⟩
    · exact ⟨n, by omega, by omega, h⟩

lemma year_of_day {d y : Nat} (hy : y < 400) (hfirst : daysBeforeYear y ≤ d)
    (hlast : d < daysBeforeYear (y + 1)) : withoutLeapDays d / 365 = y := by
  -- The first and the last day of the year decide for those between.
  have hyear := withoutLeapDays_of_year y hy
  have hlow := withoutLeapDays_mono hfirst
  have hhigh := withoutLeapDays_mono (Nat.le_sub_one_of_lt hlast)
  exact Nat.div_eq_of_lt_le (by omega) (by omega)

lemma daysBeforeYear_eq (era : Int) (y : Nat) :
    (daysBeforeYear y : Int) = 365 * y + leapYearsBefore (y + era * 400 + 1) - 97 * era - 1 := by
  unfold daysBeforeYear leapYearsBefore
  omega

/-- The month of a day of a year, and the day in it. -/
def monthDay (dayOfYear : Nat) : Nat × Nat :=
  let shifted := (5 * dayOfYear + 2) / 153
  (if shifted < 10 then shifted + 3 else shifted - 9, dayOfYear - (153 * shifted + 2) / 5 + 1)

lemma monthDay_spec : ∀ leap next : Bool, ∀ dayOfYear < 365 + next.toNat,
    1 ≤ (monthDay dayOfYear).1 ∧ (monthDay dayOfYear).1 ≤ 12 ∧ 1 ≤ (monthDay dayOfYear).2 ∧
      if (monthDay dayOfYear).1 ≤ 2 then
        (monthDay dayOfYear).2 ≤ monthLength next (monthDay dayOfYear).1 ∧
          daysBeforeMonth next (monthDay dayOfYear).1 + (monthDay dayOfYear).2 + 306 =
            dayOfYear + 1
      else
        (monthDay dayOfYear).2 ≤ monthLength leap (monthDay dayOfYear).1 ∧
          daysBeforeMonth leap (monthDay dayOfYear).1 + (monthDay dayOfYear).2 =
            dayOfYear + 1 + 59 + leap.toNat := by
  decide +kernel

lemma date_eq {t : Instant} {era : Int} {dayOfEra y : Nat} (hy : y < 400)
    (hday : t.day + 719468 = era * 146097 + dayOfEra) (hfirst : daysBeforeYear y ≤ dayOfEra)
    (hlast : dayOfEra < daysBeforeYear (y + 1)) :
    t.date =
      (y + era * 400 + (if (monthDay (dayOfEra - daysBeforeYear y)).1 ≤ 2 then 1 else 0),
        monthDay (dayOfEra - daysBeforeYear y)) := by
  have hwithin : y / 400 = 0 := Nat.div_eq_of_lt hy
  have hera : daysBeforeYear (y + 1) ≤ 146097 := by
    unfold daysBeforeYear
    omega
  have hdiv : (t.day + 719468) / 146097 = era := by omega
  have hmod : ((t.day + 719468) % 146097).toNat = dayOfEra := by omega
  have hyear : (dayOfEra - dayOfEra / 1460 + dayOfEra / 36524 - dayOfEra / 146096) / 365 = y :=
    year_of_day hy hfirst hlast
  have hbefore : 365 * y + y / 4 - y / 100 = daysBeforeYear y := by
    unfold daysBeforeYear
    omega
  unfold Instant.date monthDay
  dsimp only
  rw [hdiv, hmod, hyear, hbefore]

/-- A day by the year, counted from March on, in which it lies. -/
lemma exists_date (t : Instant) :
    ∃ (year : Int) (dayOfYear : Nat), dayOfYear < 365 + (isLeap (year + 1)).toNat ∧
      t.day + 719468 = 365 * year + leapYearsBefore (year + 1) - 1 + dayOfYear ∧
      t.date = (year + (if (monthDay dayOfYear).1 ≤ 2 then 1 else 0), monthDay dayOfYear) := by
  have hperiod : daysBeforeYear 400 = 146097 := by decide
  obtain ⟨era, dayOfEra, hera, hday⟩ : ∃ (era : Int) (dayOfEra : Nat),
      dayOfEra < daysBeforeYear 400 ∧ t.day + 719468 = era * 146097 + dayOfEra :=
    ⟨(t.day + 719468) / 146097, ((t.day + 719468) % 146097).toNat, by omega, by omega⟩
  obtain ⟨y, hy, hfirst, hlast⟩ := exists_year hera
  have hyear : ((y + 1 : Nat) : Int) + era * 400 + 1 = y + era * 400 + 1 + 1 := by omega
  have hnow := daysBeforeYear_eq era y
  have hnext := daysBeforeYear_eq era (y + 1)
  rw [hyear, leapYearsBefore_succ] at hnext
  exact ⟨y + era * 400, dayOfEra - daysBeforeYear y, by omega, by omega,
    date_eq hy hday hfirst hlast⟩

lemma date_spec (t : Instant) :
    ∃ year month day, t.date = (year, month, day) ∧
      1 ≤ month ∧ month ≤ 12 ∧ 1 ≤ day ∧ day ≤ monthLength (isLeap year) month ∧
      dayNumber year month day = t.day := by
  obtain ⟨year, dayOfYear, hlt, hday, hdate⟩ := exists_date t
  have hleap := leapYearsBefore_succ year
  have hepoch : leapYearsBefore 1970 = 478 := by decide
  have hmonth := monthDay_spec (isLeap year) (isLeap (year + 1)) dayOfYear hlt
  generalize monthDay dayOfYear = found at hdate hmonth
  obtain ⟨month, day⟩ := found
  obtain ⟨hpos, hle, hdaypos, hrest⟩ := hmonth
  refine ⟨_, _, _, hdate, hpos, hle, hdaypos, ?_⟩
  unfold dayNumber
  dsimp only at hrest ⊢
  -- January and February are of the calendar year after that in which the count began.
  by_cases hwinter : month ≤ 2
  · rw [if_pos hwinter] at hrest ⊢
    refine ⟨hrest.1, ?_⟩
    omega
  · rw [if_neg hwinter] at hrest ⊢
    rw [Int.add_zero]
    refine ⟨hrest.1, ?_⟩
    omega

/-! ## Dates and times in writing -/

/-- The date and the time of day of an instant. -/
def Moment.ofInstant (t : Instant) : Moment where
  year := t.date.1
  month := t.date.2.1
  day := t.date.2.2
  hour := t.millisOfDay / 3600000
  minute := t.millisOfDay / 60000 % 60
  second := t.millisOfDay / 1000 % 60
  milli := t.millisOfDay % 1000

lemma day_millisOfDay (t : Instant) :
    t.millis = t.day * 86400000 + t.millisOfDay ∧ t.millisOfDay < 86400000 := by
  unfold Instant.day Instant.millisOfDay Instant.millisPerDay
  omega

lemma valid_ofInstant (t : Instant) : (Moment.ofInstant t).Valid := by
  obtain ⟨year, month, day, hdate, hpos, hle, hdaypos, hdayle, -⟩ := date_spec t
  have htime := (day_millisOfDay t).2
  refine ⟨?_, ?_, ?_, ?_, ?_, ?_, ?_, ?_⟩
  all_goals
    simp only [Moment.ofInstant, hdate]
    omega

lemma instant_ofInstant (t : Instant) : (Moment.ofInstant t).instant = t := by
  obtain ⟨year, month, day, hdate, -, -, -, -, hday⟩ := date_spec t
  obtain ⟨hmillis, htime⟩ := day_millisOfDay t
  obtain ⟨millis⟩ := t
  unfold Moment.instant Moment.ofInstant
  simp only [hdate, hday] at hmillis ⊢
  congr 1
  omega

lemma chars_ofInstant (t : Instant) (between : Char) :
    (Moment.ofInstant t).chars between = t.dateChars ++ between :: t.timeChars := by
  unfold Moment.chars Instant.dateChars Instant.timeChars
  simp only [List.append_assoc, List.cons_append]
  rfl

open Text.Numeral

lemma padded_append_inj {m n : Nat} {x y : List Char} (hm : m < 100) (hn : n < 100)
    (h : padded 2 m ++ x = padded 2 n ++ y) : m = n ∧ x = y := by
  have hlength : (padded 2 m).length = (padded 2 n).length :=
    (length_padded Nat.two_pos hm).trans (length_padded Nat.two_pos hn).symm
  obtain ⟨hpadded, hrest⟩ := List.append_inj h hlength
  exact ⟨padded_injective 2 hpadded, hrest⟩

lemma head_padded_append {width n : Nat} {rest : List Char} {c : Char}
    (h : (padded width n ++ rest).head? = some c) : c.isDigit = true := by
  rw [List.head?_append, Option.or_of_isSome (List.isSome_head?.2 (padded_ne_nil width n))] at h
  exact isDigit_of_mem_padded (List.mem_of_mem_head? h)

lemma sign_of_year (year : Int) (rest : List Char) :
    ((Instant.yearChars year ++ rest).head? = some '-' ↔ year < 0) ∧
      ((Instant.yearChars year ++ rest).head? = some '+' ↔ 9999 < year) := by
  unfold Instant.yearChars
  by_cases hfour : 0 ≤ year ∧ year ≤ 9999
  · rw [if_pos hfour]
    constructor
    · exact iff_of_false (fun h => absurd (head_padded_append h) (by decide)) (by omega)
    · exact iff_of_false (fun h => absurd (head_padded_append h) (by decide)) (by omega)
  · rw [if_neg hfour, List.cons_append, List.head?_cons]
    by_cases hnegative : year < 0
    · simp [hnegative]
      omega
    · simp [hnegative]
      omega

lemma minus_not_mem_padded (width n : Nat) : '-' ∉ padded width n :=
  fun h => absurd (isDigit_of_mem_padded h) (by decide)

lemma yearChars_inj {year year' : Int} {x y : List Char}
    (h : Instant.yearChars year ++ '-' :: x = Instant.yearChars year' ++ '-' :: y) :
    year = year' ∧ x = y := by
  have hsign := sign_of_year year ('-' :: x)
  have hsign' := sign_of_year year' ('-' :: y)
  rw [h] at hsign
  -- The first character says on which side of the years of four digits a year lies.
  have hnegative : year < 0 ↔ year' < 0 := hsign.1.symm.trans hsign'.1
  have hlate : 9999 < year ↔ 9999 < year' := hsign.2.symm.trans hsign'.2
  unfold Instant.yearChars at h
  by_cases hfour : 0 ≤ year ∧ year ≤ 9999
  · have hfour' : 0 ≤ year' ∧ year' ≤ 9999 := by omega
    rw [if_pos hfour, if_pos hfour', append_cons_inj_of_not_mem (minus_not_mem_padded _ _)
      (minus_not_mem_padded _ _), (padded_injective 4).eq_iff] at h
    exact ⟨by omega, h.2⟩
  · have hfour' : ¬ (0 ≤ year' ∧ year' ≤ 9999) := by omega
    rw [if_neg hfour, if_neg hfour', List.cons_append, List.cons_append] at h
    rw [List.cons.injEq, append_cons_inj_of_not_mem (minus_not_mem_padded _ _)
      (minus_not_mem_padded _ _), (padded_injective 4).eq_iff] at h
    exact ⟨by omega, h.2.2⟩

lemma monthLength_le (leap : Bool) (month : Nat) : monthLength leap month ≤ 31 := by
  unfold monthLength
  split
  · split <;> decide
  all_goals decide

theorem eq_of_chars {m n : Moment} (hm : m.Valid) (hn : n.Valid) {between : Char}
    (h : m.chars between = n.chars between) : m = n := by
  obtain ⟨year, month, day, hour, minute, second, milli⟩ := m
  obtain ⟨year', month', day', hour', minute', second', milli'⟩ := n
  have hday := Nat.le_trans hm.day_le (monthLength_le _ _)
  have hday' := Nat.le_trans hn.day_le (monthLength_le _ _)
  obtain ⟨-, hmonth, -, -, hhour, hminute, hsecond, hmilli⟩ := hm
  obtain ⟨-, hmonth', -, -, hhour', hminute', hsecond', hmilli'⟩ := hn
  unfold Moment.chars at h
  dsimp only at *
  obtain ⟨rfl, h⟩ := yearChars_inj h
  obtain ⟨rfl, h⟩ := padded_append_inj (by omega) (by omega) h
  obtain ⟨rfl, h⟩ := padded_append_inj (by omega) (by omega) (List.cons.inj h).2
  obtain ⟨rfl, h⟩ := padded_append_inj (by omega) (by omega) (List.cons.inj h).2
  obtain ⟨rfl, h⟩ := padded_append_inj (by omega) (by omega) (List.cons.inj h).2
  obtain ⟨rfl, h⟩ := padded_append_inj (by omega) (by omega) (List.cons.inj h).2
  suffices heq : milli = milli' by rw [heq]
  by_cases hzero : milli = 0
  · by_cases hzero' : milli' = 0
    · rw [hzero, hzero']
    · rw [if_pos hzero, if_neg hzero'] at h
      cases h
  · by_cases hzero' : milli' = 0
    · rw [if_neg hzero, if_pos hzero'] at h
      cases h
    · rw [if_neg hzero, if_neg hzero', List.cons.injEq, (padded_injective 3).eq_iff] at h
      exact h.2

lemma eq_of_dateChars_timeChars {t u : Instant} (between : Char)
    (h : t.dateChars ++ between :: t.timeChars = u.dateChars ++ between :: u.timeChars) :
    t = u := by
  rw [← chars_ofInstant, ← chars_ofInstant] at h
  rw [← instant_ofInstant t, eq_of_chars (valid_ofInstant t) (valid_ofInstant u) h,
    instant_ofInstant]

theorem stamp_injective : Function.Injective Instant.stamp := by
  intro t u h
  exact eq_of_dateChars_timeChars 'T' (List.append_cancel_right (String.ofList_injective h))

theorem shown_injective : Function.Injective Instant.shown := by
  intro t u h
  rw [Instant.shown, Instant.shown, String.append_left_inj] at h
  exact eq_of_dateChars_timeChars ' ' (String.ofList_injective h)

/-- An instant is written as a date of the calendar and a time of day, those that it has. -/
theorem exists_moment (t : Instant) :
    ∃ m : Moment, m.Valid ∧ m.instant = t ∧ t.stamp = String.ofList (m.chars 'T') ++ "Z" ∧
      t.shown = String.ofList (m.chars ' ') ++ " UTC" := by
  refine ⟨Moment.ofInstant t, valid_ofInstant t, instant_ofInstant t, ?_, ?_⟩
  · rw [chars_ofInstant, Instant.stamp, String.ofList_append]
  · rw [chars_ofInstant, Instant.shown]

example : Instant.stamp ⟨951825600500⟩ = "2000-02-29T12:00:00.500Z" := by decide +kernel

end PromptStudio.Proofs
