import Mathlib
import ChannelLedger.Calendar

/-!
# Day after day

The Gregorian calendar says which years are leap years, how long the months are, and with that which day
comes after a day (`Date.next`). Nothing else is needed to count days: a date lies a number of days after
another one if that many steps lead from one to the other (`Date.LiesAfter`).

The date of a count of days is computed at one go, from eras of 400 years that begin in March
(`Date.ofDays`). What the computation rests on is that such a count falls apart in one way only, into an era,
a year, a month and a day of it (`Date.exists_parts`, `Date.ofDays_of_parts`). With the parts at hand, one more
day is one step of the calendar.

Main theorems `Date.ofDays_succ`, and `Date.liesAfter_iff`: of the dates that there are, it is the one that
lies that many days after the first of January 1970.
-/
namespace ChannelLedger.Date

/-! ## The calendar -/

/-- The years with a 29th of February: every fourth, of the full centuries again every fourth. -/
def IsLeap (year : Int) : Prop :=
  4 ∣ year ∧ (100 ∣ year → 400 ∣ year)

instance (year : Int) : Decidable (IsLeap year) :=
  inferInstanceAs (Decidable (_ ∧ _))

/-- The days of a month. -/
def daysIn (year : Int) (month : Nat) : Nat :=
  if month = 2 then if IsLeap year then 29 else 28
  else if month = 4 ∨ month = 6 ∨ month = 9 ∨ month = 11 then 30
  else 31

theorem daysIn_le (year : Int) (month : Nat) : daysIn year month ≤ 31 := by
  unfold daysIn
  split_ifs <;> decide

/-- There is such a day. -/
structure Valid (date : Date) : Prop where
  month_pos : 1 ≤ date.month
  month_le : date.month ≤ 12
  day_pos : 1 ≤ date.day
  day_le : date.day ≤ daysIn date.year date.month

/-- The day after a day. -/
def next (date : Date) : Date :=
  if date.day < daysIn date.year date.month then { date with day := date.day + 1 }
  else if date.month < 12 then ⟨date.year, date.month + 1, 1⟩
  else ⟨date.year + 1, 1, 1⟩

/-- A date lies that many days after another one; a negative number of days means before it. -/
def LiesAfter (date other : Date) (days : Int) : Prop :=
  next^[days.toNat] other = next^[(-days).toNat] date

/-- The first day of 1970. -/
def first1970 : Date := ⟨1970, 1, 1⟩

/-- A date comes before another one. -/
def Before (date other : Date) : Prop :=
  date.year < other.year ∨ date.year = other.year ∧
    (date.month < other.month ∨ date.month = other.month ∧ date.day < other.day)

theorem Before.trans {a b c : Date} (h : a.Before b) (h' : b.Before c) : a.Before c := by
  unfold Before at *
  omega

theorem Before.irrefl (date : Date) : ¬ date.Before date := by
  unfold Before
  omega

theorem before_next (date : Date) : date.Before date.next := by
  unfold Before next
  split
  · simp
  · split <;> simp

/-! ## The parts of a count of days -/

/-- The day of an era by its year, month and day; years begin in March, and all three count from zero. -/
def ofParts (era : Int) (year month day : Nat) : Date :=
  if month < 10 then ⟨year + era * 400, month + 3, day + 1⟩
  else ⟨year + era * 400 + 1, month - 9, day + 1⟩

/-- The days of a month, where years begin in March. -/
def lengthOf (year month : Nat) : Nat :=
  if month = 11 then if (year + 1) % 4 = 0 ∧ ((year + 1) % 100 = 0 → (year + 1) % 400 = 0) then 29 else 28
  else if month = 1 ∨ month = 3 ∨ month = 6 ∨ month = 8 then 30
  else 31

/-- There is such a day in every era. -/
structure Fits (year month day : Nat) : Prop where
  year_lt : year < 400
  month_lt : month < 12
  day_lt : day < lengthOf year month

/-- How many days after the first of March of the year 0 a day of an era lies. -/
def position (era : Int) (year month day : Nat) : Int :=
  era * daysPerEra + daysBeforeYear year + daysBeforeMonth month + day

variable {era : Int} {year month day : Nat}

theorem ofParts_of_lt (h : month < 10) :
    ofParts era year month day = ⟨year + era * 400, month + 3, day + 1⟩ :=
  if_pos h

theorem ofParts_of_le (h : 10 ≤ month) :
    ofParts era year month day = ⟨year + era * 400 + 1, month - 9, day + 1⟩ :=
  if_neg (Nat.not_lt.2 h)

@[simp] theorem day_ofParts : (ofParts era year month day).day = day + 1 := by
  unfold ofParts
  split <;> rfl

theorem isLeap_ofParts : IsLeap (year + era * 400 + 1) ↔
    (year + 1) % 4 = 0 ∧ ((year + 1) % 100 = 0 → (year + 1) % 400 = 0) := by
  unfold IsLeap
  omega

theorem daysIn_ofParts (era : Int) (year day : Nat) {month : Nat} (h : month < 12) :
    daysIn (ofParts era year month day).year (ofParts era year month day).month =
      lengthOf year month := by
  rcases Nat.lt_or_ge month 10 with hlt | hle
  · rw [ofParts_of_lt hlt]
    unfold lengthOf daysIn
    interval_cases month <;> simp
  · rw [ofParts_of_le hle]
    unfold lengthOf daysIn
    obtain rfl | rfl : month = 10 ∨ month = 11 := by omega
    · simp
    · simp [isLeap_ofParts]

theorem Fits.valid (h : Fits year month day) : (ofParts era year month day).Valid := by
  have hday := h.day_lt
  have hmonth := h.month_lt
  have hlength := daysIn_ofParts era year day hmonth
  have hrange : 1 ≤ (ofParts era year month day).month ∧ (ofParts era year month day).month ≤ 12 := by
    unfold ofParts
    split <;> constructor <;> simp <;> omega
  exact ⟨hrange.1, hrange.2, by simp, by rwa [hlength, day_ofParts]⟩

/-! ### The months of a year, the years of an era -/

theorem lengthOf_pos : 0 < lengthOf year month := by
  unfold lengthOf
  split_ifs <;> simp

theorem lengthOf_february (year : Nat) : lengthOf year 11 ≤ 29 := by
  unfold lengthOf
  rw [if_pos rfl]
  split <;> simp

theorem daysBeforeMonth_succ (year : Nat) {month : Nat} (h : month < 11) :
    daysBeforeMonth (month + 1) = daysBeforeMonth month + lengthOf year month := by
  unfold daysBeforeMonth lengthOf
  interval_cases month <;> simp

theorem daysBeforeYear_succ (h : year < 399) :
    daysBeforeYear (year + 1) = daysBeforeYear year + (daysBeforeMonth 11 + lengthOf year 11) := by
  unfold daysBeforeYear daysBeforeMonth lengthOf
  rw [if_pos rfl]
  split <;> omega

theorem daysBeforeYear_last :
    daysBeforeYear 399 + (daysBeforeMonth 11 + lengthOf 399 11) = daysPerEra := by
  decide

/-! ### Every day has its parts -/

/-- A date of the calendar is a day of an era. -/
theorem Valid.exists_parts {date : Date} (h : date.Valid) : ∃ era year month day,
    Fits year month day ∧ ofParts era year month day = date ∧
      position era year month day = date.toDays + epoch := by
  obtain ⟨y, m, d⟩ := date
  obtain ⟨hmonthPos, hmonthLe, hdayPos, hdayLe⟩ := h
  simp only at hmonthPos hmonthLe hdayPos hdayLe
  suffices ∃ era year month, year < 400 ∧ month < 12 ∧ ofParts era year month (d - 1) = ⟨y, m, d⟩ ∧
      position era year month (d - 1) = (⟨y, m, d⟩ : Date).toDays + epoch by
    obtain ⟨era, year, month, hyear, hmonth, hparts, hposition⟩ := this
    refine ⟨era, year, month, d - 1, ⟨hyear, hmonth, ?_⟩, hparts, hposition⟩
    have hlength := daysIn_ofParts era year (d - 1) hmonth
    rw [hparts] at hlength
    simp only at hlength
    omega
  unfold position toDays
  rcases Nat.lt_or_ge m 3 with hearly | hlate
  · refine ⟨(y - 1) / 400, ((y - 1) % 400).toNat, m + 9, by omega, by omega, ?_, ?_⟩
    · rw [ofParts_of_le (by omega), mk.injEq]
      omega
    · simp only [if_neg (show ¬ 2 < m by omega)]
      omega
  · refine ⟨y / 400, (y % 400).toNat, m - 3, by omega, by omega, ?_, ?_⟩
    · rw [ofParts_of_lt (by omega), mk.injEq]
      omega
    · simp only [if_pos (show 2 < m by omega)]
      omega

/-- A year of an era is a year of a group of four, and that a group of a century. -/
theorem exists_century (h : year < 400) : ∃ century group rest,
    century < 4 ∧ group < 25 ∧ rest < 4 ∧ year = 100 * century + 4 * group + rest :=
  ⟨year / 100, year % 100 / 4, year % 4, by omega, by omega, by omega, by omega⟩

theorem daysBeforeYear_century {century group rest : Nat} (hgroup : group < 25) (hrest : rest < 4) :
    daysBeforeYear (100 * century + 4 * group + rest) = 36524 * century + 1461 * group + 365 * rest := by
  unfold daysBeforeYear
  omega

/-- A year has its 366th day at the end of a group of four, but at the end of a century only at the end of
the era. -/
theorem lt_lengthOf_iff {century group rest dayOfYear : Nat} (hcentury : century < 4)
    (hgroup : group < 25) (hrest : rest < 4) :
    dayOfYear < daysBeforeMonth 11 + lengthOf (100 * century + 4 * group + rest) 11 ↔
      dayOfYear < 365 ∨ dayOfYear = 365 ∧ rest = 3 ∧ (group = 24 → century = 3) := by
  unfold lengthOf daysBeforeMonth
  rw [if_pos rfl]
  split <;> omega

/-- A day of a year is a day of a month of it. -/
theorem exists_month {dayOfYear : Nat} (h : dayOfYear < daysBeforeMonth 11 + lengthOf year 11) :
    ∃ month day, month < 12 ∧ day < lengthOf year month ∧ dayOfYear = daysBeforeMonth month + day := by
  rcases Nat.lt_or_ge dayOfYear (daysBeforeMonth 11) with hlt | hge
  · have hmonth : (5 * dayOfYear + 2) / 153 < 11 := by
      unfold daysBeforeMonth at hlt
      omega
    refine ⟨(5 * dayOfYear + 2) / 153, dayOfYear - daysBeforeMonth ((5 * dayOfYear + 2) / 153),
      by omega, ?_, ?_⟩
    · generalize hm : (5 * dayOfYear + 2) / 153 = month at hmonth ⊢
      unfold daysBeforeMonth lengthOf
      interval_cases month <;> simp <;> omega
    · unfold daysBeforeMonth
      omega
  · exact ⟨11, dayOfYear - daysBeforeMonth 11, by omega, by omega, by omega⟩

/-- A day of an era is a day of a year of it. -/
theorem exists_year {dayOfEra : Nat} (h : dayOfEra < daysPerEra) : ∃ year dayOfYear, year < 400 ∧
    dayOfYear < daysBeforeMonth 11 + lengthOf year 11 ∧ dayOfEra = daysBeforeYear year + dayOfYear := by
  unfold daysPerEra at h
  -- the last of the centuries is a day longer than the others, and so is the last year of a group
  obtain ⟨century, dayOfCentury, hcentury, hlong, hdayOfEra⟩ : ∃ century dayOfCentury, century < 4 ∧
      (dayOfCentury < 36524 ∨ dayOfCentury = 36524 ∧ century = 3) ∧
      dayOfEra = 36524 * century + dayOfCentury := by
    refine ⟨min (dayOfEra / 36524) 3, dayOfEra - 36524 * min (dayOfEra / 36524) 3, ?_⟩
    omega
  obtain ⟨rest, dayOfYear, hrest, hday, hdayOfGroup⟩ : ∃ rest dayOfYear, rest < 4 ∧
      (dayOfYear < 365 ∨ dayOfYear = 365 ∧ rest = 3) ∧
      dayOfCentury % 1461 = 365 * rest + dayOfYear := by
    refine ⟨min (dayOfCentury % 1461 / 365) 3,
      dayOfCentury % 1461 - 365 * min (dayOfCentury % 1461 / 365) 3, ?_⟩
    omega
  have hgroup : dayOfCentury / 1461 < 25 := by omega
  refine ⟨100 * century + 4 * (dayOfCentury / 1461) + rest, dayOfYear, by omega, ?_, ?_⟩
  · rw [lt_lengthOf_iff hcentury hgroup hrest]
    omega
  · rw [daysBeforeYear_century hgroup hrest]
    omega

/-- A count of days is the place of a day of an era. -/
theorem exists_parts (days : Int) :
    ∃ era year month day, Fits year month day ∧ position era year month day = days := by
  obtain ⟨era, dayOfEra, hera, hdays⟩ : ∃ era : Int, ∃ dayOfEra : Nat,
      dayOfEra < daysPerEra ∧ days = era * daysPerEra + dayOfEra :=
    ⟨days / daysPerEra, (days % daysPerEra).toNat, by unfold daysPerEra; omega,
      by unfold daysPerEra; omega⟩
  obtain ⟨year, dayOfYear, hyear, hday, rfl⟩ := exists_year hera
  obtain ⟨month, day, hmonth, hlength, rfl⟩ := exists_month hday
  refine ⟨era, year, month, day, ⟨hyear, hmonth, hlength⟩, ?_⟩
  unfold position
  omega

/-! ### A count of days has its parts only -/

/-- A year of an era is found from its days. -/
theorem yearOfEra_of_parts {dayOfYear : Nat} (h : year < 400)
    (hday : dayOfYear < daysBeforeMonth 11 + lengthOf year 11) :
    yearOfEra (daysBeforeYear year + dayOfYear) = year := by
  obtain ⟨century, group, rest, hcentury, hgroup, hrest, rfl⟩ := exists_century h
  rw [lt_lengthOf_iff hcentury hgroup hrest] at hday
  rw [daysBeforeYear_century hgroup hrest]
  -- the computation takes away the days that groups have beyond four times 365, and gives back those that
  -- groups at the end of a century do not have
  obtain ⟨beyond, hbeyond, hgroups⟩ : ∃ beyond, beyond ≤ dayOfYear ∧ dayOfYear - beyond < 365 ∧
      (36524 * century + 1461 * group + 365 * rest + dayOfYear) / 1460 = 25 * century + group + beyond := by
    refine ⟨(24 * century + group + 365 * rest + dayOfYear) / 1460, ?_⟩
    omega
  have hcenturies : (36524 * century + 1461 * group + 365 * rest + dayOfYear) / 36524 =
      century + (36524 * century + 1461 * group + 365 * rest + dayOfYear) / 146096 := by
    have hlong : 1461 * group + 365 * rest + dayOfYear < 36524 ∨
        1461 * group + 365 * rest + dayOfYear = 36524 ∧ century = 3 := by omega
    rcases hlong with hlong | ⟨hlong, rfl⟩
    · rw [Nat.div_eq_of_lt_le (k := century) (by omega) (by omega), Nat.div_eq_of_lt (by omega),
        Nat.add_zero]
    · omega
  unfold yearOfEra
  omega

theorem daysBeforeMonth_add_le (hmonth : month < 12) (hday : day < lengthOf year month) :
    daysBeforeMonth month + day < daysBeforeMonth (month + 1) := by
  rcases Nat.lt_or_ge month 11 with hlt | hge
  · rw [daysBeforeMonth_succ year hlt]
    omega
  · obtain rfl : month = 11 := by omega
    have := lengthOf_february year
    unfold daysBeforeMonth
    omega

/-- A month of a year is found from its days. -/
theorem month_of_parts (hmonth : month < 12) (hday : day < lengthOf year month) :
    (5 * (daysBeforeMonth month + day) + 2) / 153 = month := by
  have hlength := daysBeforeMonth_add_le hmonth hday
  unfold daysBeforeMonth at hlength ⊢
  omega

theorem daysBeforeMonth_add_lt (hmonth : month < 12) (hday : day < lengthOf year month) :
    daysBeforeMonth month + day < daysBeforeMonth 11 + lengthOf year 11 := by
  rcases Nat.lt_or_ge month 11 with hlt | hge
  · have hlength := daysBeforeMonth_add_le hmonth hday
    unfold daysBeforeMonth at hlength ⊢
    omega
  · obtain rfl : month = 11 := by omega
    omega

theorem dayOfEra_lt (h : Fits year month day) :
    daysBeforeYear year + (daysBeforeMonth month + day) < daysPerEra := by
  have hmonths := daysBeforeMonth_add_lt h.month_lt h.day_lt
  have hyear := h.year_lt
  rcases Nat.lt_or_ge year 399 with hlt | hge
  · have hyears := daysBeforeYear_succ hlt
    unfold daysPerEra
    unfold daysBeforeYear at hyears ⊢
    omega
  · obtain rfl : year = 399 := by omega
    rw [← daysBeforeYear_last]
    omega

/-- The count of days of a day of an era gives that day. -/
theorem ofDays_of_parts (h : Fits year month day) :
    ofDays (position era year month day - epoch) = ofParts era year month day := by
  have hmonths := daysBeforeMonth_add_lt h.month_lt h.day_lt
  have hyears := dayOfEra_lt h
  have hposition : position era year month day - epoch + epoch =
      era * daysPerEra + (daysBeforeYear year + (daysBeforeMonth month + day) : Nat) := by
    unfold position
    push_cast
    ring
  have hera : (position era year month day - epoch + epoch) / daysPerEra = era := by
    rw [hposition]
    unfold daysPerEra at hyears ⊢
    omega
  have hdayOfEra : ((position era year month day - epoch + epoch) % daysPerEra).toNat =
      daysBeforeYear year + (daysBeforeMonth month + day) := by
    rw [hposition]
    unfold daysPerEra at hyears ⊢
    omega
  unfold ofDays ofParts
  simp only [hera, hdayOfEra, yearOfEra_of_parts h.year_lt hmonths,
    month_of_parts h.month_lt h.day_lt, Nat.add_sub_cancel_left]

/-! ## One more day -/

/-- A date is that of its own count of days. -/
theorem Valid.ofDays_toDays {date : Date} (h : date.Valid) : ofDays date.toDays = date := by
  obtain ⟨era, year, month, day, hfits, hparts, hposition⟩ := h.exists_parts
  rw [show date.toDays = position era year month day - epoch by omega, ofDays_of_parts hfits, hparts]

theorem valid_ofDays (days : Int) : (ofDays days).Valid := by
  obtain ⟨era, year, month, day, hfits, hposition⟩ := exists_parts (days + epoch)
  rw [show days = position era year month day - epoch by omega, ofDays_of_parts hfits]
  exact hfits.valid

theorem next_ofParts_of_lt (hmonth : month < 12) (h : day + 1 < lengthOf year month) :
    (ofParts era year month day).next = ofParts era year month (day + 1) := by
  unfold next
  rw [daysIn_ofParts era year day hmonth, day_ofParts, if_pos h]
  unfold ofParts
  split <;> rfl

/-- After the last day of a month comes the first of the next one. -/
theorem next_ofParts_of_le (hmonth : month < 12) (h : lengthOf year month ≤ day + 1) :
    (ofParts era year month day).next =
      if month < 11 then ofParts era year (month + 1) 0 else ofParts era (year + 1) 0 0 := by
  unfold next
  rw [daysIn_ofParts era year day hmonth, day_ofParts, if_neg (by omega)]
  clear h
  unfold ofParts
  interval_cases month <;> simp
  omega

/-- The day after a day of an era is the one at the next place. -/
theorem Fits.exists_next (h : Fits year month day) (era : Int) : ∃ era' year' month' day',
    Fits year' month' day' ∧ position era' year' month' day' = position era year month day + 1 ∧
      ofParts era' year' month' day' = (ofParts era year month day).next := by
  obtain ⟨hyear, hmonth, hday⟩ := h
  rcases Nat.lt_or_ge (day + 1) (lengthOf year month) with hwithin | hend
  · rw [next_ofParts_of_lt hmonth hwithin]
    refine ⟨era, year, month, day + 1, ⟨hyear, hmonth, hwithin⟩, ?_, rfl⟩
    unfold position
    omega
  · rw [next_ofParts_of_le hmonth hend]
    rcases Nat.lt_or_ge month 11 with hlt | hge
    · refine ⟨era, year, month + 1, 0, ⟨hyear, by omega, lengthOf_pos⟩, ?_, (if_pos hlt).symm⟩
      unfold position
      rw [daysBeforeMonth_succ year hlt]
      omega
    · obtain rfl : month = 11 := by omega
      have hfirst : daysBeforeMonth 0 = 0 := rfl
      rcases Nat.lt_or_ge year 399 with hlt | hge
      · refine ⟨era, year + 1, 0, 0, ⟨by omega, by omega, lengthOf_pos⟩, ?_, rfl⟩
        unfold position
        rw [daysBeforeYear_succ hlt, hfirst]
        omega
      · obtain rfl : year = 399 := by omega
        refine ⟨era + 1, 0, 0, 0, ⟨by omega, by omega, lengthOf_pos⟩, ?_, ?_⟩
        · have hlast := daysBeforeYear_last
          have hfirstYear : daysBeforeYear 0 = 0 := rfl
          unfold position
          rw [hfirstYear, hfirst, add_mul]
          omega
        · rw [if_neg (by omega), ofParts_of_lt (by omega), ofParts_of_lt (by omega), mk.injEq]
          omega

/-- **One more day is one step of the calendar.** -/
theorem ofDays_succ (days : Int) : ofDays (days + 1) = (ofDays days).next := by
  obtain ⟨era, year, month, day, hfits, hposition⟩ := exists_parts (days + epoch)
  obtain ⟨era', year', month', day', hfits', hposition', hnext⟩ := hfits.exists_next era
  rw [show days + 1 = position era' year' month' day' - epoch by omega,
    show days = position era year month day - epoch by omega, ofDays_of_parts hfits,
    ofDays_of_parts hfits', hnext]

theorem ofDays_zero : ofDays 0 = first1970 := by
  decide

theorem ofDays_add (days : Int) (steps : Nat) : ofDays (days + steps) = next^[steps] (ofDays days) := by
  induction steps with
  | zero => simp
  | succ steps ih =>
    rw [Function.iterate_succ_apply', ← ih, ← ofDays_succ, Nat.cast_succ, add_assoc]

/-- A later day has a later date. -/
theorem before_ofDays_iff {days other : Int} :
    (ofDays days).Before (ofDays other) ↔ days < other := by
  have hlater : ∀ (days : Int) (steps : Nat), (ofDays days).Before (ofDays (days + (steps + 1 : Nat))) := by
    intro days steps
    induction steps with
    | zero =>
      rw [Nat.zero_add, Nat.cast_one, ofDays_succ]
      exact before_next _
    | succ steps ih =>
      refine ih.trans ?_
      rw [Nat.cast_succ (steps + 1), ← add_assoc, ofDays_succ]
      exact before_next _
  have hlt : ∀ {days other : Int}, days < other → (ofDays days).Before (ofDays other) := by
    intro days other h
    have := hlater days (other - days - 1).toNat
    rwa [show days + ((other - days - 1).toNat + 1 : Nat) = other by omega] at this
  refine ⟨fun h => ?_, hlt⟩
  rcases Int.lt_trichotomy days other with hbefore | rfl | hafter
  · exact hbefore
  · exact absurd h (Before.irrefl _)
  · exact absurd (h.trans (hlt hafter)) (Before.irrefl _)

theorem ofDays_injective : Function.Injective ofDays := by
  intro days other h
  have hnot : ¬ (ofDays days).Before (ofDays other) ∧ ¬ (ofDays other).Before (ofDays days) := by
    rw [h]
    exact ⟨Before.irrefl _, Before.irrefl _⟩
  rw [before_ofDays_iff, before_ofDays_iff] at hnot
  omega

theorem toDays_ofDays (days : Int) : (ofDays days).toDays = days :=
  ofDays_injective (valid_ofDays days).ofDays_toDays

/-- **The date of a count of days is the one that lies that many days after the first of January 1970.** -/
theorem liesAfter_iff {date : Date} (h : date.Valid) (days : Int) :
    date.LiesAfter first1970 days ↔ date = ofDays days := by
  rw [← h.ofDays_toDays]
  unfold LiesAfter
  rw [← ofDays_zero, ← ofDays_add, ← ofDays_add, ofDays_injective.eq_iff, ofDays_injective.eq_iff]
  omega

end ChannelLedger.Date
