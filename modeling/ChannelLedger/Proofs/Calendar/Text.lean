import Mathlib
import ChannelLedger.Slot.Assemble
import ChannelLedger.Proofs.Calendar.Days

/-!
# The date and time of a second

What a date and time written out denote is a matter of reading, not of how they came to be: numerals between
the marks of the format, the year with a sign if it has one (`DateTime.IsWritten`). A text can be read in one
way only (`DateTime.IsWritten.unique`), and of the moments that there are only one lies a given number of
seconds after the start of 1970 (`DateTime.fallsOn_iff`).

In the years that have four digits every part of the text has its width, and numerals of one width are ordered
as their numbers are (`append_lt_append_iff`).

Main theorem `DateTime.format_denotes`.
-/
namespace ChannelLedger

/-! ## Numerals -/

/-- Decimal digits, and the number that they stand for. -/
structure IsNumeral (digits : List Char) (n : Nat) : Prop where
  ne_nil : digits ≠ []
  isDigit : ∀ c ∈ digits, c.isDigit = true
  value : Nat.ofDigitChars 10 digits 0 = n

/-- Digits end where the first other character stands. -/
theorem digits_append_inj {a b rest rest' : List Char} {mark : Char} (ha : ∀ c ∈ a, c.isDigit = true)
    (hb : ∀ c ∈ b, c.isDigit = true) (hmark : mark.isDigit = false)
    (h : a ++ mark :: rest = b ++ mark :: rest') : a = b ∧ rest = rest' := by
  have htake : ∀ {digits rest : List Char}, (∀ c ∈ digits, c.isDigit = true) →
      (digits ++ mark :: rest).takeWhile Char.isDigit = digits := by
    intro digits rest hdigits
    rw [List.takeWhile_append_of_pos hdigits, List.takeWhile_cons_of_neg (by simp [hmark]), List.append_nil]
  have heq : a = b := by
    rw [← htake ha, h, htake hb]
  subst heq
  exact ⟨rfl, (List.cons.inj (List.append_cancel_left h)).2⟩

namespace IsNumeral

variable {a b rest rest' : List Char} {n m : Nat} {mark : Char}

theorem append_inj (h : IsNumeral a n) (h' : IsNumeral b m) (hmark : mark.isDigit = false)
    (heq : a ++ mark :: rest = b ++ mark :: rest') : n = m ∧ rest = rest' := by
  obtain ⟨rfl, hrest⟩ := digits_append_inj h.isDigit h'.isDigit hmark heq
  exact ⟨h.value.symm.trans h'.value, hrest⟩

/-- A numeral begins with a digit. -/
theorem append_ne (h : IsNumeral a n) (hmark : mark.isDigit = false) : a ++ rest ≠ mark :: rest' := by
  cases a with
  | nil => exact absurd rfl h.ne_nil
  | cons c a =>
    rintro heq
    obtain rfl : c = mark := (List.cons.inj heq).1
    have hdigit := h.isDigit c List.mem_cons_self
    rw [hmark] at hdigit
    cases hdigit

end IsNumeral

theorem toList_padded (width n : Nat) : (DateTime.padded width n).toList =
    List.replicate (width - (Nat.toDigits 10 n).length) '0' ++ Nat.toDigits 10 n := by
  unfold DateTime.padded
  rw [String.toList_ofList]

theorem isNumeral_padded (width n : Nat) : IsNumeral (DateTime.padded width n).toList n where
  ne_nil := by
    rw [toList_padded]
    simp [Nat.toDigits_ne_nil]
  isDigit c h := by
    rw [toList_padded, List.mem_append] at h
    rcases h with h | h
    · rw [List.eq_of_mem_replicate h]
      rfl
    · exact Nat.isDigit_of_mem_toDigits (by decide) (by decide) h
  value := by
    rw [toList_padded, Nat.ofDigitChars_append, Nat.ofDigitChars_replicate_zero, Nat.mul_zero,
      Nat.ofDigitChars_ten_toDigits]

theorem length_padded {width n : Nat} (hwidth : 0 < width) (h : n < 10 ^ width) :
    (DateTime.padded width n).toList.length = width := by
  have := (Nat.length_toDigits_le_iff (by decide : 1 < 10) hwidth).2 h
  rw [toList_padded, List.length_append, List.length_replicate]
  omega

/-- The values of digits are ordered as the characters are. -/
theorem Char.lt_iff_of_isDigit {c d : Char} (hc : c.isDigit = true) (hd : d.isDigit = true) :
    (c < d ↔ c.toNat - '0'.toNat < d.toNat - '0'.toNat) ∧
      (c = d ↔ c.toNat - '0'.toNat = d.toNat - '0'.toNat) ∧ c.toNat - '0'.toNat < 10 := by
  have hrange : ∀ {c : Char}, c.isDigit = true → 48 ≤ c.toNat ∧ c.toNat ≤ 57 := by
    intro c hc
    simpa [Char.isDigit, UInt32.le_iff_toNat_le] using hc
  obtain ⟨hc, hc'⟩ := hrange hc
  obtain ⟨hd, hd'⟩ := hrange hd
  have hzero : '0'.toNat = 48 := rfl
  rw [hzero]
  refine ⟨?_, ?_, by omega⟩
  · rw [show c < d ↔ c.toNat < d.toNat from UInt32.lt_iff_toNat_lt]
    omega
  · rw [← Char.toNat_inj]
    omega

/-- **Numerals of one width are ordered as their numbers are, before whatever follows them.** -/
theorem append_lt_append_iff {a b rest rest' : List Char} (hlength : a.length = b.length)
    (ha : ∀ c ∈ a, c.isDigit = true) (hb : ∀ c ∈ b, c.isDigit = true) :
    a ++ rest < b ++ rest' ↔ Nat.ofDigitChars 10 a 0 < Nat.ofDigitChars 10 b 0 ∨
      Nat.ofDigitChars 10 a 0 = Nat.ofDigitChars 10 b 0 ∧ rest < rest' := by
  -- of the digits read so far either decides already, or they are the same and those behind them decide
  suffices ∀ i j, (i < j ∨ i = j ∧ a ++ rest < b ++ rest') ↔
      (Nat.ofDigitChars 10 a i < Nat.ofDigitChars 10 b j ∨
        Nat.ofDigitChars 10 a i = Nat.ofDigitChars 10 b j ∧ rest < rest') by
    simpa using this 0 0
  induction a generalizing b with
  | nil =>
    intro i j
    obtain rfl : b = [] := List.length_eq_zero_iff.1 hlength.symm
    rfl
  | cons c a ih =>
    intro i j
    cases b with
    | nil => cases hlength
    | cons d b =>
      obtain ⟨hc, ha⟩ := List.forall_mem_cons.1 ha
      obtain ⟨hd, hb⟩ := List.forall_mem_cons.1 hb
      obtain ⟨hlt, heq, hcten⟩ := Char.lt_iff_of_isDigit hc hd
      have hdten := (Char.lt_iff_of_isDigit hd hd).2.2
      rw [Nat.ofDigitChars_cons, Nat.ofDigitChars_cons, ← ih (Nat.succ.inj hlength) ha hb, List.cons_append,
        List.cons_append, List.cons_lt_cons_iff, hlt, heq]
      by_cases hrest : a ++ rest < b ++ rest' <;> simp only [hrest, and_true, and_false, or_false] <;> omega

theorem padded_append_lt_iff {width n m : Nat} (hwidth : 0 < width) (hn : n < 10 ^ width)
    (hm : m < 10 ^ width) (rest rest' : List Char) :
    (DateTime.padded width n).toList ++ rest < (DateTime.padded width m).toList ++ rest' ↔
      n < m ∨ n = m ∧ rest < rest' := by
  have hlength := (length_padded hwidth hn).trans (length_padded hwidth hm).symm
  rw [append_lt_append_iff hlength (isNumeral_padded width n).isDigit (isNumeral_padded width m).isDigit,
    (isNumeral_padded width n).value, (isNumeral_padded width m).value]

namespace DateTime

/-! ## Reading a text -/

/-- A year, with its sign if it has one. -/
inductive IsYear : List Char → Int → Prop
  | unsigned {digits : List Char} {n : Nat} (numeral : IsNumeral digits n) : IsYear digits n
  | positive {digits : List Char} {n : Nat} (numeral : IsNumeral digits n) : IsYear ('+' :: digits) n
  | negative {digits : List Char} {n : Nat} (numeral : IsNumeral digits n) : IsYear ('-' :: digits) (-n)

/-- The text reads as the date and the time of day: `year-month-day hour:minute:second`. -/
def IsWritten (t : DateTime) (text : String) : Prop :=
  ∃ year month day hour minute second, IsYear year t.date.year ∧ IsNumeral month t.date.month ∧
    IsNumeral day t.date.day ∧ IsNumeral hour t.hour ∧ IsNumeral minute t.minute ∧ IsNumeral second t.second ∧
    text.toList = year ++ '-' :: (month ++ '-' :: (day ++ ' ' :: (hour ++ ':' :: (minute ++ ':' :: second))))

theorem IsYear.append_inj {year year' rest rest' : List Char} {n m : Int} (h : IsYear year n)
    (h' : IsYear year' m) (heq : year ++ '-' :: rest = year' ++ '-' :: rest') : n = m ∧ rest = rest' := by
  have hminus : '-'.isDigit = false := rfl
  have hplus : '+'.isDigit = false := rfl
  cases h with
  | unsigned numeral =>
    cases h' with
    | unsigned numeral' =>
      obtain ⟨rfl, hrest⟩ := numeral.append_inj numeral' hminus heq
      exact ⟨rfl, hrest⟩
    | positive numeral' => exact absurd heq (numeral.append_ne hplus)
    | negative numeral' => exact absurd heq (numeral.append_ne hminus)
  | positive numeral =>
    cases h' with
    | unsigned numeral' => exact absurd heq.symm (numeral'.append_ne hplus)
    | positive numeral' =>
      obtain ⟨rfl, hrest⟩ := numeral.append_inj numeral' hminus (List.cons.inj heq).2
      exact ⟨rfl, hrest⟩
    | negative numeral' => exact absurd (List.cons.inj heq).1 (by decide)
  | negative numeral =>
    cases h' with
    | unsigned numeral' => exact absurd heq.symm (numeral'.append_ne hminus)
    | positive numeral' => exact absurd (List.cons.inj heq).1 (by decide)
    | negative numeral' =>
      obtain ⟨rfl, hrest⟩ := numeral.append_inj numeral' hminus (List.cons.inj heq).2
      exact ⟨rfl, hrest⟩

/-- **A text can be read in one way only.** -/
theorem IsWritten.unique {t t' : DateTime} {text : String} (h : t.IsWritten text) (h' : t'.IsWritten text) :
    t = t' := by
  obtain ⟨⟨year, month, day⟩, hour, minute, second⟩ := t
  obtain ⟨⟨year', month', day'⟩, hour', minute', second'⟩ := t'
  obtain ⟨_, _, _, _, _, _, hyear, hmonth, hday, hhour, hminute, hsecond, htext⟩ := h
  obtain ⟨_, _, _, _, _, _, hyear', hmonth', hday', hhour', hminute', hsecond', htext'⟩ := h'
  rw [htext] at htext'
  obtain ⟨rfl, htext'⟩ := hyear.append_inj hyear' htext'
  obtain ⟨rfl, htext'⟩ := hmonth.append_inj hmonth' rfl htext'
  obtain ⟨rfl, htext'⟩ := hday.append_inj hday' rfl htext'
  obtain ⟨rfl, htext'⟩ := hhour.append_inj hhour' rfl htext'
  obtain ⟨rfl, rfl⟩ := hminute.append_inj hminute' rfl htext'
  obtain rfl : second = second' := hsecond.value.symm.trans hsecond'.value
  rfl

theorem isYear_yearText (year : Int) : IsYear (yearText year).toList year := by
  unfold yearText
  split
  · rw [String.toList_append]
    have hyear := IsYear.negative (isNumeral_padded 4 year.natAbs)
    rwa [show -(year.natAbs : Int) = year by omega] at hyear
  · split
    · rw [String.toList_append]
      have hyear := IsYear.positive (isNumeral_padded 4 year.natAbs)
      rwa [show (year.natAbs : Int) = year by omega] at hyear
    · have hyear := IsYear.unsigned (isNumeral_padded 4 year.natAbs)
      rwa [show (year.natAbs : Int) = year by omega] at hyear

theorem toList_text (t : DateTime) : t.text.toList = (yearText t.date.year).toList ++
    '-' :: ((padded 2 t.date.month).toList ++ '-' :: ((padded 2 t.date.day).toList ++
      ' ' :: ((padded 2 t.hour).toList ++ ':' :: ((padded 2 t.minute).toList ++
        ':' :: (padded 2 t.second).toList)))) := by
  have hdash : "-".toList = ['-'] := rfl
  have hblank : " ".toList = [' '] := rfl
  have hcolon : ":".toList = [':'] := rfl
  unfold text
  simp only [String.toList_append, List.append_assoc, hdash, hblank, hcolon, List.cons_append, List.nil_append]

/-- What is written is read. -/
theorem isWritten_text (t : DateTime) : t.IsWritten t.text :=
  ⟨_, _, _, _, _, _, isYear_yearText _, isNumeral_padded 2 _, isNumeral_padded 2 _, isNumeral_padded 2 _,
    isNumeral_padded 2 _, isNumeral_padded 2 _, t.toList_text⟩

/-! ## Counting seconds -/

/-- The moment is one that there is, and lies that many seconds after the start of 1970. -/
structure FallsOn (t : DateTime) (seconds : Int) : Prop where
  valid : t.date.Valid
  hour_lt : t.hour < 24
  minute_lt : t.minute < 60
  second_lt : t.second < 60
  liesAfter : ∃ days, t.date.LiesAfter Date.first1970 days ∧
    seconds = days * 86400 + (t.hour * 3600 + t.minute * 60 + t.second)

/-- **Of the moments that there are, one lies a given number of seconds after the start of 1970.** -/
theorem fallsOn_iff {t : DateTime} {seconds : Int} : t.FallsOn seconds ↔ t = ofSeconds seconds := by
  constructor
  · rintro ⟨hvalid, hhour, hminute, hsecond, days, hdays, rfl⟩
    obtain ⟨date, hour, minute, second⟩ := t
    simp only at hvalid hhour hminute hsecond hdays
    rw [Date.liesAfter_iff hvalid] at hdays
    subst hdays
    have hday : (days * 86400 + (hour * 3600 + minute * 60 + second)) / 86400 = days := by omega
    have htime : ((days * 86400 + (hour * 3600 + minute * 60 + second)) % 86400).toNat =
        hour * 3600 + minute * 60 + second := by omega
    unfold ofSeconds
    rw [hday, htime, mk.injEq]
    exact ⟨rfl, by omega, by omega, by omega⟩
  · rintro rfl
    have htime : (seconds % 86400).toNat < 86400 := by omega
    have hdate := Date.valid_ofDays (seconds / 86400)
    unfold ofSeconds
    refine ⟨hdate, ?_, ?_, ?_, seconds / 86400, (Date.liesAfter_iff hdate _).2 rfl, ?_⟩ <;>
      dsimp only <;> omega

/-- The text is that of the moment that many seconds after the start of 1970. -/
def Denotes (text : String) (seconds : Int) : Prop :=
  ∃ t : DateTime, t.IsWritten text ∧ t.FallsOn seconds

theorem toSeconds_ofSeconds (seconds : Int) : (ofSeconds seconds).toSeconds = seconds := by
  unfold toSeconds ofSeconds
  rw [Date.toDays_ofDays]
  dsimp only
  omega

theorem ofSeconds_injective : Function.Injective ofSeconds :=
  Function.LeftInverse.injective toSeconds_ofSeconds

/-- **The text of a moment denotes its second, and no other one.** -/
theorem denotes_text_iff {seconds other : Int} : Denotes (ofSeconds seconds).text other ↔ other = seconds := by
  constructor
  · rintro ⟨t, hwritten, hfalls⟩
    have hmoment := hwritten.unique (isWritten_text _)
    rw [fallsOn_iff.1 hfalls] at hmoment
    exact ofSeconds_injective hmoment
  · rintro rfl
    exact ⟨_, isWritten_text _, fallsOn_iff.2 rfl⟩

/-! ## The seconds that the calendar covers -/

theorem year_lt_iff {first year : Int} (h : Date.ofDays first = ⟨year, 1, 1⟩) (days : Int) :
    (Date.ofDays days).year < year ↔ days < first := by
  have hbefore : (Date.ofDays days).Before (Date.ofDays first) ↔ days < first := Date.before_ofDays_iff
  have hmonth := (Date.valid_ofDays days).month_pos
  have hday := (Date.valid_ofDays days).day_pos
  rw [h] at hbefore
  rw [← hbefore]
  unfold Date.Before
  dsimp only
  omega

theorem inRange_iff (seconds : Int) :
    (ofSeconds seconds).inRange = true ↔ seconds ∈ Set.Icc (-8334601228800) 8210266876799 := by
  have hfirst := year_lt_iff (show Date.ofDays (-96465292) = ⟨-262143, 1, 1⟩ by decide) (seconds / 86400)
  have hlast := year_lt_iff (show Date.ofDays 95026237 = ⟨262143, 1, 1⟩ by decide) (seconds / 86400)
  unfold inRange ofSeconds
  rw [Set.mem_Icc, Bool.and_eq_true, decide_eq_true_iff, decide_eq_true_iff]
  dsimp only
  omega

/-! ## The order of texts -/

/-- The text has a year in four digits. -/
def HasPlainYear (text : String) : Prop :=
  ∃ t : DateTime, t.IsWritten text ∧ 0 ≤ t.date.year ∧ t.date.year ≤ 9999

/-- Every part of the moment can be written in its width. -/
structure Fits (t : DateTime) : Prop where
  year_nonneg : 0 ≤ t.date.year
  year_le : t.date.year ≤ 9999
  month_lt : t.date.month < 10 ^ 2
  day_lt : t.date.day < 10 ^ 2
  hour_lt : t.hour < 10 ^ 2
  minute_lt : t.minute < 10 ^ 2
  second_lt : t.second < 10 ^ 2

theorem HasPlainYear.fits {t : DateTime} {seconds : Int} (h : HasPlainYear t.text) (falls : t.FallsOn seconds) :
    t.Fits := by
  obtain ⟨t, hwritten, hyear, hyear'⟩ := h
  obtain rfl := hwritten.unique (isWritten_text _)
  obtain ⟨hvalid, hhour, hminute, hsecond, -⟩ := falls
  have hmonth := hvalid.month_le
  have hday := hvalid.day_le.trans (Date.daysIn_le _ _)
  exact ⟨hyear, hyear', by omega, by omega, by omega, by omega, by omega⟩

namespace Fits

variable {t t' : DateTime}

theorem natAbs_year_lt (h : t.Fits) : t.date.year.natAbs < 10 ^ 4 := by
  have hyear := h.year_nonneg
  have hyear' := h.year_le
  omega

theorem toList_yearText (h : t.Fits) : (yearText t.date.year).toList = (padded 4 t.date.year.natAbs).toList := by
  unfold yearText
  rw [if_neg (Int.not_lt.2 h.year_nonneg), if_neg (Int.not_lt.2 h.year_le)]

/-- **Where years have four digits, a text has its length.** -/
theorem length_text (h : t.Fits) : t.text.length = 19 := by
  rw [← String.length_toList, toList_text, h.toList_yearText]
  simp only [List.length_append, List.length_cons, length_padded (by decide : 0 < 4) h.natAbs_year_lt,
    length_padded (by decide : 0 < 2) h.month_lt, length_padded (by decide : 0 < 2) h.day_lt,
    length_padded (by decide : 0 < 2) h.hour_lt, length_padded (by decide : 0 < 2) h.minute_lt,
    length_padded (by decide : 0 < 2) h.second_lt]

theorem text_lt_text_iff (h : t.Fits) (h' : t'.Fits) : t.text < t'.text ↔
    t.date.Before t'.date ∨ t.date = t'.date ∧ (t.hour < t'.hour ∨ t.hour = t'.hour ∧
      (t.minute < t'.minute ∨ t.minute = t'.minute ∧ t.second < t'.second)) := by
  have hmark : ∀ (mark : Char) (rest rest' : List Char), mark :: rest < mark :: rest' ↔ rest < rest' := by
    simp
  have hdate : t.date = t'.date ↔
      t.date.year = t'.date.year ∧ t.date.month = t'.date.month ∧ t.date.day = t'.date.day := by
    rw [← Date.mk.injEq]
  have hyear := h.year_nonneg
  have hyear' := h'.year_nonneg
  have hend := padded_append_lt_iff (by decide : 0 < 2) h.second_lt h'.second_lt [] []
  rw [List.append_nil, List.append_nil] at hend
  rw [String.lt_iff_toList_lt, toList_text, toList_text, h.toList_yearText, h'.toList_yearText,
    padded_append_lt_iff (by decide) h.natAbs_year_lt h'.natAbs_year_lt, hmark,
    padded_append_lt_iff (by decide) h.month_lt h'.month_lt, hmark,
    padded_append_lt_iff (by decide) h.day_lt h'.day_lt, hmark,
    padded_append_lt_iff (by decide) h.hour_lt h'.hour_lt, hmark,
    padded_append_lt_iff (by decide) h.minute_lt h'.minute_lt, hmark, hend,
    iff_false_intro (List.not_lt_nil []), and_false, or_false, hdate]
  unfold Date.Before
  omega

end Fits

/-- **Where years have four digits, texts are ordered as their seconds are.** -/
theorem text_lt_iff {seconds other : Int} (h : HasPlainYear (ofSeconds seconds).text)
    (h' : HasPlainYear (ofSeconds other).text) :
    (ofSeconds seconds).text < (ofSeconds other).text ↔ seconds < other := by
  rw [(h.fits (fallsOn_iff.2 rfl)).text_lt_text_iff (h'.fits (fallsOn_iff.2 rfl))]
  unfold ofSeconds
  dsimp only
  rw [Date.before_ofDays_iff, Date.ofDays_injective.eq_iff]
  omega

/-- Outside of the calendar no second has a text. -/
theorem format_eq (seconds : Int64) : format seconds =
    if seconds.toInt ∈ Set.Icc (-8334601228800) 8210266876799 then .ok (ofSeconds seconds.toInt).text
    else .error (.timestamp seconds) :=
  if_congr (inRange_iff _) rfl rfl

theorem text_of_format {seconds : Int64} {text : String} (h : format seconds = .ok text) :
    text = (ofSeconds seconds.toInt).text := by
  rw [format_eq] at h
  split at h
  · cases h
    rfl
  · cases h

/-- **A time that is accepted is written as a text that denotes its second and no other one; those accepted are
the seconds of one interval, and every other one is refused by its number.** So different seconds never have the
same text, and in the years of four digits every text has 19 characters and comes before another one as its
second does. -/
theorem format_denotes :
    (∀ seconds : Int64,
      if seconds.toInt ∈ Set.Icc (-8334601228800) 8210266876799 then
        ∃ text, format seconds = .ok text ∧ ∀ other, Denotes text other ↔ other = seconds.toInt
      else format seconds = .error (.timestamp seconds)) ∧
    (∀ (seconds other : Int64) (text : String),
      format seconds = .ok text → format other = .ok text → seconds = other) ∧
    ∀ (seconds other : Int64) (text text' : String),
      format seconds = .ok text → format other = .ok text' → HasPlainYear text → HasPlainYear text' →
        text.length = 19 ∧ (text < text' ↔ seconds < other) := by
  refine ⟨fun seconds => ?_, fun seconds other text h h' => ?_,
    fun seconds other text text' h h' hyear hyear' => ?_⟩
  · rw [format_eq]
    split
    · exact ⟨_, rfl, fun other => denotes_text_iff⟩
    · rfl
  · obtain rfl := text_of_format h
    have hdenotes := denotes_text_iff.2 (Eq.refl seconds.toInt)
    rw [text_of_format h', denotes_text_iff] at hdenotes
    exact Int64.toInt_inj.1 hdenotes
  · obtain rfl := text_of_format h
    obtain rfl := text_of_format h'
    rw [Int64.lt_iff_toInt_lt, text_lt_iff hyear hyear']
    exact ⟨(hyear.fits (fallsOn_iff.2 rfl)).length_text, Iff.rfl⟩

/-- A second before the start of 1970 and half a minute after it, and the first second behind the calendar. -/
theorem format_denotes_at_midnight :
    let before := "1969-12-31 23:59:59"
    let after := "1970-01-01 00:00:29"
    format (-1) = .ok before ∧ format 29 = .ok after ∧ (∀ seconds, Denotes before seconds ↔ seconds = -1) ∧
      before.length = 19 ∧ before < after ∧ format 8210266876800 = .error (.timestamp 8210266876800) ∧
      format 29 ≠ .ok before := by
  intro before after
  obtain ⟨hdenotes, hdistinct, horder⟩ := format_denotes
  have hbefore : format (-1) = .ok before := by decide +kernel
  have hafter : format 29 = .ok after := by decide +kernel
  have hplain : ∀ {t : DateTime}, 0 ≤ t.date.year → t.date.year ≤ 9999 → HasPlainYear t.text :=
    fun hyear hyear' => ⟨_, isWritten_text _, hyear, hyear'⟩
  have hyear : HasPlainYear before := by
    have := hplain (t := ofSeconds (-1)) (by decide) (by decide)
    rwa [show (ofSeconds (-1)).text = before by decide +kernel] at this
  have hyear' : HasPlainYear after := by
    have := hplain (t := ofSeconds 29) (by decide) (by decide)
    rwa [show (ofSeconds 29).text = after by decide +kernel] at this
  have hsecond := hdenotes (-1)
  rw [if_pos (by decide)] at hsecond
  obtain ⟨text, htext, hsecond⟩ := hsecond
  obtain rfl : text = before := Except.ok.inj (htext.symm.trans hbefore)
  have hbehind := hdenotes 8210266876800
  rw [if_neg (by decide)] at hbehind
  obtain ⟨hlength, hless⟩ := horder _ _ _ _ hbefore hafter hyear hyear'
  exact ⟨hbefore, hafter, hsecond, hlength, hless.2 (by decide), hbehind,
    fun h => absurd (hdistinct _ _ _ hbefore h) (by decide)⟩

end DateTime

end ChannelLedger
