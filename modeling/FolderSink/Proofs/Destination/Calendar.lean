import FolderSink.Destination.Clock
import Mathlib.Tactic.IntervalCases
/-! Day numbers of the proleptic Gregorian calendar, and the civil time of a moment read back
through them. `Calendar` gives the day number of a year's first day (`dayFromYear`), the
leap-year rule, the starts and lengths of the months, and `makeDay`, `makeTime`, `makeDate`,
which turn a year, a month (from 0, carried into the year), a date and a time of day into
milliseconds from 1970-01-01T00:00:00Z.

`CivilTime.ofDays` counts in eras of 400 years (146097 days) that start on the first of March,
so that a leap day ends its year. `ofDays_parts` splits a day count into an era, a year of the
era and a day of that year; the year is found through `yearOfEra_parts`, where a day count is
cut into centuries, four-year cycles and years. From there `ofDays_spec` shows that the month
and day are in range and that `makeDay` gives the count back, for every day count; so
`time_ofMoment` reads every moment back to its second, and `time_lt_of_before` shows that
times ordered field by field are ordered. -/
namespace FolderSink

namespace Calendar

/-- The day number of the first of January of year `y`. -/
def dayFromYear (y : Int) : Int :=
  365 * (y - 1970) + (y - 1969) / 4 - (y - 1901) / 100 + (y - 1601) / 400

/-- One for a leap year: every fourth year, except every hundredth that is not a four
hundredth. -/
def inLeapYear (y : Int) : Nat := if y % 4 = 0 ∧ (y % 100 ≠ 0 ∨ y % 400 = 0) then 1 else 0

/-- The day of the year (from 0) on which month `mn` starts, 0 standing for January; `leap` is
one in a leap year. -/
def monthStart (leap : Nat) : Nat → Nat
  | 0 => 0
  | 1 => 31
  | 2 => 59 + leap
  | 3 => 90 + leap
  | 4 => 120 + leap
  | 5 => 151 + leap
  | 6 => 181 + leap
  | 7 => 212 + leap
  | 8 => 243 + leap
  | 9 => 273 + leap
  | 10 => 304 + leap
  | _ => 334 + leap

/-- The number of days of month `mn`, 0 standing for January. -/
def monthDays (leap : Nat) : Nat → Nat
  | 1 => 28 + leap
  | 3 | 5 | 8 | 10 => 30
  | _ => 31

/-- The day number of day `date` of month `month` of year `year`; whole years of months are
carried into the year. -/
def makeDay (year month date : Int) : Int :=
  let ym := year + month / 12
  dayFromYear ym + monthStart (inLeapYear ym) (month % 12).toNat + date - 1

/-- Four hundred years have 146097 days. -/
theorem dayFromYear_add_era (y e : Int) : dayFromYear (y + e * 400) = dayFromYear y + e * 146097 := by
  unfold dayFromYear; omega

theorem inLeapYear_add_era (y e : Int) : inLeapYear (y + e * 400) = inLeapYear y := by
  unfold inLeapYear; split_ifs <;> omega

/-- A year has 365 days, and one more when it is a leap year. -/
theorem dayFromYear_succ (y : Int) : dayFromYear (y + 1) = dayFromYear y + 365 + inLeapYear y := by
  unfold dayFromYear inLeapYear; split_ifs <;> omega

theorem inLeapYear_le_one (y : Int) : inLeapYear y ≤ 1 := by
  unfold inLeapYear; split_ifs <;> omega

theorem dayFromYear_le {a b : Int} (h : a ≤ b) : dayFromYear a ≤ dayFromYear b := by
  unfold dayFromYear; omega

/-- Within the first 400 years from year 0, the first of January of year `Y` lies
`59 + inLeapYear Y` days before the first of March, which is day `365 Y + Y / 4 - Y / 100`
of the era. -/
theorem dayFromYear_marchYear {Y : Nat} (hY : Y ≤ 399) :
    dayFromYear Y + 59 + inLeapYear Y + 719468 = ((365 * Y + Y / 4 - Y / 100 : Nat) : Int) := by
  induction Y with
  | zero => decide
  | succ Y ih =>
    have hstep := dayFromYear_succ Y
    have hleap : (inLeapYear ((Y + 1 : Nat) : Int) : Int) =
        (if (Y + 1) % 4 = 0 then 1 else 0) - (if (Y + 1) % 100 = 0 then 1 else 0) := by
      unfold inLeapYear
      split_ifs <;> omega
    push_cast at hstep ih hleap ⊢
    have := ih (by omega)
    split_ifs at hleap <;> omega

theorem makeDay_of_lt {y mn d : Int} (h0 : 0 ≤ mn) (h12 : mn < 12) :
    makeDay y mn d = dayFromYear y + monthStart (inLeapYear y) mn.toNat + d - 1 := by
  have hdiv : mn / 12 = 0 := Int.ediv_eq_zero_of_lt h0 h12
  have hmod : mn % 12 = mn := Int.emod_eq_of_lt h0 h12
  simp only [makeDay, hdiv, hmod, Int.add_zero]

/-- The milliseconds of a time of day. -/
def makeTime (hour minute second milli : Int) : Int :=
  hour * 3600000 + minute * 60000 + second * 1000 + milli

/-- The moment of a time of day on a day. -/
def makeDate (day time : Int) : Int := day * 86400000 + time

/-- A month from 1 to 12 and a day within it. -/
def DateValid (y : Int) (m d : Nat) : Prop :=
  1 ≤ m ∧ m ≤ 12 ∧ 1 ≤ d ∧ d ≤ monthDays (inLeapYear y) (m - 1)

theorem monthStart_add_monthDays (L : Nat) {k : Nat} (hk : k < 11) :
    monthStart L k + monthDays L k = monthStart L (k + 1) := by
  interval_cases k <;> simp [monthStart, monthDays] <;> omega

theorem monthStart_mono (L : Nat) {a b : Nat} (hab : a ≤ b) : monthStart L a ≤ monthStart L b := by
  induction b, hab using Nat.le_induction with
  | base => exact Nat.le_refl _
  | succ b _ ih =>
    refine Nat.le_trans ih ?_
    by_cases hb : b < 11
    · rw [← monthStart_add_monthDays L hb]; omega
    · -- from December on the start stays that of December
      rw [show monthStart L b = 334 + L by
            unfold monthStart; split <;> omega,
        show monthStart L (b + 1) = 334 + L by
            unfold monthStart; split <;> omega]

theorem monthStart_add_monthDays_le (L : Nat) {k : Nat} (hk : k ≤ 11) :
    monthStart L k + monthDays L k ≤ 365 + L := by
  interval_cases k <;> simp [monthStart, monthDays] <;> omega

/-- A valid date lies within its year. -/
theorem makeDay_within {y : Int} {m d : Nat} (hv : DateValid y m d) :
    dayFromYear y ≤ makeDay y (m - 1) d ∧ makeDay y (m - 1) d < dayFromYear (y + 1) := by
  obtain ⟨hm1, hm12, hd1, hd⟩ := hv
  have hk := monthStart_add_monthDays_le (inLeapYear y) (show m - 1 ≤ 11 by omega)
  rw [show ((m : Int) - 1) = ((m - 1 : Nat) : Int) by omega, makeDay_of_lt (by omega) (by omega),
    dayFromYear_succ]
  simp only [Int.toNat_natCast]
  omega

/-- Valid dates ordered by year, then month, then day have increasing day numbers. -/
theorem makeDay_lt_makeDay {y₁ y₂ : Int} {m₁ m₂ d₁ d₂ : Nat} (h₁ : DateValid y₁ m₁ d₁)
    (h₂ : DateValid y₂ m₂ d₂) (h : y₁ < y₂ ∨ y₁ = y₂ ∧ (m₁ < m₂ ∨ m₁ = m₂ ∧ d₁ < d₂)) :
    makeDay y₁ (m₁ - 1) d₁ < makeDay y₂ (m₂ - 1) d₂ := by
  rcases h with hy | ⟨rfl, hm | ⟨rfl, hd⟩⟩
  · -- an earlier year ends before a later one starts
    calc makeDay y₁ (m₁ - 1) d₁ < dayFromYear (y₁ + 1) := (makeDay_within h₁).2
      _ ≤ dayFromYear y₂ := dayFromYear_le (by omega)
      _ ≤ makeDay y₂ (m₂ - 1) d₂ := (makeDay_within h₂).1
  · obtain ⟨hm1, hm12, hd1, hd⟩ := h₁
    obtain ⟨hm1', hm12', hd1', hd'⟩ := h₂
    have hnext := monthStart_add_monthDays (inLeapYear y₁) (show m₁ - 1 < 11 by omega)
    have hmono := monthStart_mono (inLeapYear y₁) (show m₁ - 1 + 1 ≤ m₂ - 1 by omega)
    rw [show ((m₁ : Int) - 1) = ((m₁ - 1 : Nat) : Int) by omega,
      show ((m₂ : Int) - 1) = ((m₂ - 1 : Nat) : Int) by omega,
      makeDay_of_lt (by omega) (by omega), makeDay_of_lt (by omega) (by omega)]
    simp only [Int.toNat_natCast]
    omega
  · obtain ⟨hm1, hm12, -, -⟩ := h₁
    rw [show ((m₁ : Int) - 1) = ((m₁ - 1 : Nat) : Int) by omega, makeDay_of_lt (by omega) (by omega),
      makeDay_of_lt (by omega) (by omega)]
    omega

end Calendar

namespace CivilTime

open Calendar

/-- The date of day `doy` (from 0) of the year that starts on the first of March of `y`:
months of 153 days in five, January and February belonging to the next year. -/
def marchDate (y : Int) (doy : Nat) : Int × Nat × Nat :=
  let mp := (5 * doy + 2) / 153
  let d := doy - (153 * mp + 2) / 5 + 1
  let m := if mp < 10 then mp + 3 else mp - 9
  (if m ≤ 2 then y + 1 else y, m, d)

/-- The year of an era in which day `doe` of the era falls. -/
def yearOfEra (doe : Nat) : Nat := (doe - doe / 1460 + doe / 36524 - doe / 146096) / 365

/-- The day, from the first of March, of its year of the era. -/
def dayOfYear (doe : Nat) : Nat :=
  doe - (365 * yearOfEra doe + yearOfEra doe / 4 - yearOfEra doe / 100)

/-- The day of its era of a day count, eras starting on 0000-03-01. -/
def dayOfEra (days : Int) : Nat := (days + 719468 - (days + 719468) / 146097 * 146097).toNat

theorem ofDays_eq (days : Int) : ofDays days =
    marchDate (yearOfEra (dayOfEra days) + (days + 719468) / 146097 * 400) (dayOfYear (dayOfEra days)) :=
  rfl

/-- A day of an era is a number of whole centuries (at most 3), four-year cycles (at most 24)
and years (at most 3), and a day of the year; day 365 belongs only to a leap year. -/
theorem era_parts (doe : Nat) (h : doe ≤ 146096) : ∃ c q r doy, c ≤ 3 ∧ q ≤ 24 ∧ r ≤ 3 ∧ doy ≤ 365 ∧
    (doy = 365 → r = 3 ∧ (q ≠ 24 ∨ c = 3)) ∧ doe = 36524 * c + 1461 * q + 365 * r + doy := by
  obtain ⟨c, hc⟩ : ∃ c, c = min (doe / 36524) 3 := ⟨_, rfl⟩
  obtain ⟨q, hq⟩ : ∃ q, q = min ((doe - 36524 * c) / 1461) 24 := ⟨_, rfl⟩
  obtain ⟨r, hr⟩ : ∃ r, r = min ((doe - 36524 * c - 1461 * q) / 365) 3 := ⟨_, rfl⟩
  refine ⟨c, q, r, doe - 36524 * c - 1461 * q - 365 * r, by omega, by omega, by omega, by omega, ?_, by omega⟩
  omega

/-- `yearOfEra` finds the year of each day of an era: subtracting the leap days that the
divisions count turns the era into years of 365 days. -/
theorem yearOfEra_parts {c q r doy : Nat} (hc : c ≤ 3) (hq : q ≤ 24) (hr : r ≤ 3) (hdoy : doy ≤ 365)
    (hL : doy = 365 → r = 3 ∧ (q ≠ 24 ∨ c = 3)) :
    yearOfEra (36524 * c + 1461 * q + 365 * r + doy) = 100 * c + 4 * q + r := by
  unfold yearOfEra
  generalize hD : 36524 * c + 1461 * q + 365 * r + doy = D
  -- `e` is one late in a cycle's fourth year, where `D / 1460` counts a leap day still to come
  obtain ⟨e, he⟩ : ∃ e, (24 * c + q + 365 * r + doy) / 1460 = e := ⟨_, rfl⟩
  have h1460 : D / 1460 = 25 * c + q + e := by omega
  have hed : e ≤ doy := by omega
  have hlast : doy - e ≤ 364 := by omega
  have hcent : D / 36524 - D / 146096 = c := by
    by_cases hend : D = 146096
    · subst hend; omega
    · have h2 : D / 36524 = c := by omega
      omega
  -- omega splits every subtraction and implication in scope, so each step sees only its facts
  have hN : D - D / 1460 + D / 36524 - D / 146096 = 365 * (100 * c + 4 * q + r) + (doy - e) := by
    clear hL he hlast
    omega
  rw [hN]
  clear hL he hN hcent h1460 hD
  omega

/-- A day count is an era, a year of the era and a day of that year. -/
theorem ofDays_parts (days : Int) : ∃ (era : Int) (Y doy : Nat), Y ≤ 399 ∧ doy ≤ 365 ∧
    (doy = 365 → inLeapYear (Y + 1) = 1) ∧
    days + 719468 = 146097 * era + ((365 * Y + Y / 4 - Y / 100 + doy : Nat) : Int) ∧
    ofDays days = marchDate (Y + era * 400) doy := by
  have hdoe : dayOfEra days ≤ 146096 := by unfold dayOfEra; omega
  obtain ⟨c, q, r, doy, hc, hq, hr, hdoy, hL, hsplit⟩ := era_parts _ hdoe
  have hY := yearOfEra_parts hc hq hr hdoy hL
  rw [← hsplit] at hY
  -- the days before the year, counted back from its index within the era
  have hS : 365 * (100 * c + 4 * q + r) + (100 * c + 4 * q + r) / 4 - (100 * c + 4 * q + r) / 100 =
      36524 * c + 1461 * q + 365 * r := by
    have h4 : (100 * c + 4 * q + r) / 4 = 25 * c + q := by omega
    have h100 : (100 * c + 4 * q + r) / 100 = c := by omega
    rw [h4, h100]
    omega
  have hdoy' : dayOfYear (dayOfEra days) = doy := by
    unfold dayOfYear; rw [hY, hS]; omega
  refine ⟨(days + 719468) / 146097, 100 * c + 4 * q + r, doy, by omega, hdoy, fun h => ?_, ?_, ?_⟩
  · obtain ⟨rfl, hqc⟩ := hL h
    unfold inLeapYear
    rw [if_pos (by omega)]
  · have : (dayOfEra days : Int) = days + 719468 - (days + 719468) / 146097 * 146097 := by
      unfold dayOfEra; omega
    rw [hS]
    omega
  · rw [ofDays_eq, hY, hdoy']

/-- From March on, a month starts `(153 k + 2) / 5` days after the first of March. -/
theorem monthStart_march (L : Nat) {k : Nat} (hk : k < 10) :
    monthStart L (k + 2) = 59 + L + (153 * k + 2) / 5 := by
  interval_cases k <;> simp only [monthStart] <;> omega

theorem monthDays_march (L : Nat) {k : Nat} (hk : k < 10) :
    monthDays L (k + 2) = (153 * k + 155) / 5 - (153 * k + 2) / 5 := by
  interval_cases k <;> simp only [monthDays]

/-- The date of a day of a year from the first of March is valid, and `makeDay` counts back
to that day. -/
theorem marchDate_spec {Y doy : Nat} (era : Int) (hY : Y ≤ 399) (hdoy : doy ≤ 365)
    (hL : doy = 365 → inLeapYear (Y + 1) = 1) :
    let c := marchDate (Y + era * 400) doy
    1 ≤ c.2.1 ∧ c.2.1 ≤ 12 ∧ 1 ≤ c.2.2 ∧ c.2.2 ≤ monthDays (inLeapYear c.1) (c.2.1 - 1) ∧
      makeDay c.1 (c.2.1 - 1) c.2.2 = era * 146097 + ((365 * Y + Y / 4 - Y / 100 + doy : Nat) : Int) - 719468 := by
  intro c
  have hmp : (5 * doy + 2) / 153 ≤ 11 := by omega
  simp only [c, marchDate]
  generalize hm : (5 * doy + 2) / 153 = mp at hmp
  have hday : (153 * mp + 2) / 5 ≤ doy ∧ doy < (153 * mp + 155) / 5 := by omega
  have hD := dayFromYear_marchYear hY
  have hL1 := inLeapYear_le_one (Y : Int)
  by_cases hlate : mp < 10
  · -- March to December: the year of the era
    have hstart := monthStart_march (inLeapYear (Y : Int)) hlate
    have hlen := monthDays_march (inLeapYear (Y : Int)) hlate
    have hmonth : ((mp + 3 : Nat) : Int) - 1 = ((mp + 2 : Nat) : Int) := by omega
    rw [if_pos hlate, if_neg (by omega), hmonth, makeDay_of_lt (by omega) (by omega),
      Int.toNat_natCast, dayFromYear_add_era, inLeapYear_add_era, show mp + 3 - 1 = mp + 2 by omega,
      hstart, hlen]
    omega
  · -- January and February: the next year
    have hstep := dayFromYear_succ (Y : Int)
    have hL2 := inLeapYear_le_one ((Y : Int) + 1)
    have hnext : (Y : Int) + era * 400 + 1 = ((Y : Int) + 1) + era * 400 := by omega
    rw [if_neg hlate, if_pos (by omega), hnext, inLeapYear_add_era]
    by_cases hjan : mp = 10
    · subst hjan
      rw [show ((10 - 9 : Nat) : Int) - 1 = ((0 : Nat) : Int) by omega, makeDay_of_lt (by omega) (by omega),
        dayFromYear_add_era, inLeapYear_add_era]
      simp only [Int.toNat_natCast, monthStart, monthDays, show 10 - 9 - 1 = 0 from rfl]
      omega
    · have hfeb : mp = 11 := by omega
      subst hfeb
      rw [show ((11 - 9 : Nat) : Int) - 1 = ((1 : Nat) : Int) by omega, makeDay_of_lt (by omega) (by omega),
        dayFromYear_add_era, inLeapYear_add_era]
      simp only [Int.toNat_natCast, monthStart, monthDays, show 11 - 9 - 1 = 1 from rfl]
      omega

/-- The date of every day count is valid and `makeDay` gives the count back. -/
theorem ofDays_spec (days : Int) :
    1 ≤ (ofDays days).2.1 ∧ (ofDays days).2.1 ≤ 12 ∧ 1 ≤ (ofDays days).2.2 ∧
      (ofDays days).2.2 ≤ monthDays (inLeapYear (ofDays days).1) ((ofDays days).2.1 - 1) ∧
      makeDay (ofDays days).1 ((ofDays days).2.1 - 1) (ofDays days).2.2 = days := by
  obtain ⟨era, Y, doy, hY, hdoy, hL, hsum, heq⟩ := ofDays_parts days
  obtain ⟨h1, h2, h3, h4, h5⟩ := marchDate_spec era hY hdoy hL
  rw [heq]
  exact ⟨h1, h2, h3, h4, by rw [h5]; omega⟩

theorem ofMoment_eq (t : Int) : ofMoment t =
    ⟨(ofDays (t / 86400000)).1, (ofDays (t / 86400000)).2.1, (ofDays (t / 86400000)).2.2,
      (t % 86400000).toNat / 3600000, (t % 86400000).toNat / 60000 % 60, (t % 86400000).toNat / 1000 % 60⟩ :=
  rfl

/-- A valid date and a time of day. -/
def Valid (c : CivilTime) : Prop :=
  DateValid c.year c.month c.day ∧ c.hour < 24 ∧ c.minute < 60 ∧ c.second < 60

/-- The moment that a civil time reads as. -/
def time (c : CivilTime) : Int :=
  makeDate (makeDay c.year (c.month - 1) c.day) (makeTime c.hour c.minute c.second 0)

/-- Field by field order: the first field that differs decides. -/
def Before (a b : CivilTime) : Prop :=
  a.year < b.year ∨ a.year = b.year ∧ (a.month < b.month ∨ a.month = b.month ∧
    (a.day < b.day ∨ a.day = b.day ∧ (a.hour < b.hour ∨ a.hour = b.hour ∧
      (a.minute < b.minute ∨ a.minute = b.minute ∧ a.second < b.second))))

/-- Valid civil times ordered field by field are ordered in time. -/
theorem time_lt_of_before {a b : CivilTime} (ha : a.Valid) (hb : b.Valid) (h : a.Before b) :
    a.time < b.time := by
  obtain ⟨hda, hha, hma, hsa⟩ := ha
  obtain ⟨hdb, hhb, hmb, hsb⟩ := hb
  unfold time makeDate makeTime
  rcases h with hy | ⟨hy, hm | ⟨hm, hd | ⟨hd, hrest⟩⟩⟩
  · have := makeDay_lt_makeDay hda hdb (Or.inl hy)
    omega
  · have := makeDay_lt_makeDay hda hdb (Or.inr ⟨hy, Or.inl hm⟩)
    omega
  · have := makeDay_lt_makeDay hda hdb (Or.inr ⟨hy, Or.inr ⟨hm, hd⟩⟩)
    omega
  · -- the same date: the time of day decides
    rw [hy, hm, hd]
    omega

theorem ofMoment_valid (t : Int) : (ofMoment t).Valid := by
  obtain ⟨h1, h2, h3, h4, -⟩ := ofDays_spec (t / 86400000)
  rw [ofMoment_eq]
  refine ⟨⟨h1, h2, h3, h4⟩, ?_, ?_, ?_⟩ <;> dsimp only <;> omega

/-- The civil time of a moment reads back as the moment, cut to its second. -/
theorem time_ofMoment (t : Int) : (ofMoment t).time = t / 1000 * 1000 := by
  obtain ⟨-, -, -, -, h⟩ := ofDays_spec (t / 86400000)
  rw [ofMoment_eq]
  unfold time makeDate makeTime
  simp only [h]
  omega

/-- The civil time of a moment depends on its second only. -/
theorem ofMoment_congr {t₁ t₂ : Int} (h : t₁ / 1000 = t₂ / 1000) : ofMoment t₁ = ofMoment t₂ := by
  have hdays : t₁ / 86400000 = t₂ / 86400000 := by omega
  have hms : (t₁ % 86400000).toNat / 1000 = (t₂ % 86400000).toNat / 1000 := by omega
  rw [ofMoment_eq, ofMoment_eq, hdays]
  simp only [CivilTime.mk.injEq, true_and]
  omega

/-- Moments from the start of year 0 to the end of year 9999 have years in that range. -/
theorem ofMoment_year_bounds {t : Int} (h₀ : dayFromYear 0 * 86400000 ≤ t)
    (h₁ : t < dayFromYear 10000 * 86400000) : 0 ≤ (ofMoment t).year ∧ (ofMoment t).year ≤ 9999 := by
  obtain ⟨hm1, hm12, hd1, hd, hday⟩ := ofDays_spec (t / 86400000)
  have hw := makeDay_within ⟨hm1, hm12, hd1, hd⟩
  rw [hday] at hw
  rw [ofMoment_eq]
  dsimp only
  constructor
  · by_contra hneg
    have := dayFromYear_le (show (ofDays (t / 86400000)).1 + 1 ≤ 0 by omega)
    omega
  · by_contra hbig
    have := dayFromYear_le (show (10000 : Int) ≤ (ofDays (t / 86400000)).1 by omega)
    omega

end CivilTime

end FolderSink
