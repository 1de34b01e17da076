import FolderSink.Proofs.Destination.Calendar
import FolderSink.Proofs.Format.Integers
import Mathlib.Data.String.Basic
import Mathlib.Data.List.Lex
/-! The folder stamp `YYYY_MM_DD_HH_MM_SS` of a moment. For moments in the years 0 to 9999
every field is written with a fixed number of digits (`toList_padField`), so the stamp is
the fixed-width decimals of the civil time joined by underscores (`toList_folderStamp`).
Fixed-width decimals compare as their numbers (`decimalDigits_lt_iff`), so stamps compare as
the civil times do field by field (`stampChars_lt_iff`), and so as the moments' seconds
(`folderStamp_lt_iff`, `folderStamp_eq_iff`).

Main statement (`folderStamp_reads_back_in_order`): in the years 0 to 9999 a stamp is 19
digits and underscores in the shape above, its six fields read back through the calendar
to the moment cut to its second, and stamps of later moments are not smaller, equal exactly
within one second. -/
namespace FolderSink

section digits

/-- The last `w` decimal digits of `n`, most significant first. -/
def decimalDigits : Nat → Nat → List Char
  | 0, _ => []
  | w + 1, n => decimalDigits w (n / 10) ++ [Nat.digitChar (n % 10)]

@[simp] theorem length_decimalDigits (w n : Nat) : (decimalDigits w n).length = w := by
  induction w generalizing n <;> simp [decimalDigits, *]

theorem decimalDigits_zero (w : Nat) : decimalDigits w 0 = List.replicate w '0' := by
  induction w with
  | zero => rfl
  | succ w ih => simp [decimalDigits, ih, List.replicate_succ', Nat.digitChar]

theorem exists_digitChar_of_mem_decimalDigits {w n : Nat} {c : Char} (hc : c ∈ decimalDigits w n) :
    ∃ d < 10, c = d.digitChar := by
  induction w generalizing n with
  | zero => simp [decimalDigits] at hc
  | succ w ih =>
    rcases List.mem_append.1 hc with hc | hc
    · exact ih hc
    · exact ⟨n % 10, Nat.mod_lt _ (by omega), List.mem_singleton.1 hc⟩

/-- Dropping the last digit of a number of `w + 1` places leaves one of `w` places. -/
theorem div_ten_lt {w n : Nat} (hn : n < 10 ^ (w + 1)) : n / 10 < 10 ^ w := by
  rw [Nat.div_lt_iff_lt_mul (by omega)]
  rwa [← Nat.pow_succ]

/-- Zeros before the digits of `n` up to `w` places give its last `w` digits. -/
theorem replicate_append_toDigits {w n : Nat} (hw : 1 ≤ w) (hn : n < 10 ^ w) :
    List.replicate (w - (Nat.toDigits 10 n).length) '0' ++ Nat.toDigits 10 n = decimalDigits w n := by
  induction w, hw using Nat.le_induction generalizing n with
  | base =>
    rw [Nat.toDigits_of_lt_base (by simpa using hn)]
    simp [decimalDigits, Nat.mod_eq_of_lt (by simpa using hn : n < 10)]
  | succ w hw ih =>
    by_cases hsmall : n < 10
    · rw [Nat.toDigits_of_lt_base hsmall]
      simp [decimalDigits, Nat.div_eq_of_lt hsmall, Nat.mod_eq_of_lt hsmall, decimalDigits_zero]
    · have hq : n / 10 < 10 ^ w := div_ten_lt hn
      rw [Nat.toDigits_eq_if (by omega), if_neg hsmall]
      simp only [List.length_append, List.length_singleton, decimalDigits, ← ih hq,
        List.append_assoc]
      congr 2
      omega

/-- A field padded to `w` places holds the fixed-width digits of its number. -/
theorem toList_padField {w n : Nat} (hw : 1 ≤ w) (hn : n < 10 ^ w) :
    (padField (toString n) w).toList = decimalDigits w n := by
  rw [← replicate_append_toDigits hw hn]
  simp [padField, ← String.length_toList]

theorem digitsValue_decimalDigits {w n : Nat} (hw : 1 ≤ w) (hn : n < 10 ^ w) :
    Literal.digitsValue 10 (decimalDigits w n) = some n := by
  rw [← replicate_append_toDigits hw hn]
  simpa using Render.digitsValue_numeral (by decide : 1 < 10) (by decide) (.inl rfl) _ n

/-- Texts whose first parts have one length compare on the first parts, then the rest. -/
theorem append_lt_append_iff {a b c d : List Char} (h : a.length = c.length) :
    a ++ b < c ++ d ↔ a < c ∨ a = c ∧ b < d := by
  induction a generalizing c with
  | nil =>
    cases c with
    | nil => simp
    | cons => simp at h
  | cons x a ih =>
    cases c with
    | nil => simp at h
    | cons y c =>
      simp only [List.cons_append, List.cons_lt_cons_iff, List.cons.injEq, ih (by simpa using h)]
      constructor
      · rintro (hxy | ⟨rfl, hac | ⟨rfl, hbd⟩⟩)
        · exact Or.inl (Or.inl hxy)
        · exact Or.inl (Or.inr ⟨rfl, hac⟩)
        · exact Or.inr ⟨⟨rfl, rfl⟩, hbd⟩
      · rintro ((hxy | ⟨rfl, hac⟩) | ⟨⟨rfl, rfl⟩, hbd⟩)
        · exact Or.inl hxy
        · exact Or.inr ⟨rfl, Or.inl hac⟩
        · exact Or.inr ⟨rfl, Or.inr ⟨rfl, hbd⟩⟩

theorem digitChar_lt_digitChar : ∀ {a b : Nat}, a < 10 → b < 10 → (a.digitChar < b.digitChar ↔ a < b) := by
  intro a b ha hb
  have key : ∀ x y : Fin 10, ((x : Nat).digitChar < (y : Nat).digitChar ↔ x < y) := by decide
  exact key ⟨a, ha⟩ ⟨b, hb⟩

theorem decimalDigits_inj {w a b : Nat} (ha : a < 10 ^ w) (hb : b < 10 ^ w) :
    decimalDigits w a = decimalDigits w b ↔ a = b := by
  refine ⟨fun h => ?_, fun h => h ▸ rfl⟩
  induction w generalizing a b with
  | zero => simp only [pow_zero, Nat.lt_one_iff] at ha hb; omega
  | succ w ih =>
    have ha' : a / 10 < 10 ^ w := div_ten_lt ha
    have hb' : b / 10 < 10 ^ w := div_ten_lt hb
    obtain ⟨hlead, hlast⟩ := List.append_inj h (by simp)
    have hq := ih ha' hb' hlead
    have hr : a % 10 = b % 10 := by
      have key : ∀ x y : Fin 10, (x : Nat).digitChar = (y : Nat).digitChar → x = y := by decide
      have := key ⟨a % 10, Nat.mod_lt _ (by omega)⟩ ⟨b % 10, Nat.mod_lt _ (by omega)⟩
        (List.singleton_inj.1 hlast)
      simpa using congrArg Fin.val this
    omega

/-- Fixed-width decimals compare as their numbers. -/
theorem decimalDigits_lt_iff {w a b : Nat} (ha : a < 10 ^ w) (hb : b < 10 ^ w) :
    decimalDigits w a < decimalDigits w b ↔ a < b := by
  induction w generalizing a b with
  | zero =>
    simp only [pow_zero, Nat.lt_one_iff] at ha hb
    subst ha hb
    simp [decimalDigits]
  | succ w ih =>
    have ha' : a / 10 < 10 ^ w := div_ten_lt ha
    have hb' : b / 10 < 10 ^ w := div_ten_lt hb
    have hdig := digitChar_lt_digitChar (Nat.mod_lt a (by omega)) (Nat.mod_lt b (by omega))
    simp only [decimalDigits]
    rw [append_lt_append_iff (by simp), ih ha' hb', decimalDigits_inj ha' hb', List.cons_lt_cons_iff, hdig]
    simp only [List.not_lt_nil, and_false, or_false]
    omega

end digits

section stamp

open Calendar CivilTime

/-- The stamp of a civil time with a year of four digits. -/
def stampChars (c : CivilTime) : List Char :=
  ['_'].intercalate [decimalDigits 4 c.year.toNat, decimalDigits 2 c.month, decimalDigits 2 c.day,
    decimalDigits 2 c.hour, decimalDigits 2 c.minute, decimalDigits 2 c.second]

/-- The numbers a stamp holds: its fields between underscores, read as decimals. -/
def stampFields (s : String) : List (Option Nat) := (s.toList.splitOn '_').map (Literal.digitsValue 10)

theorem monthDays_le_31 {L : Nat} (k : Nat) (hL : L ≤ 1) : monthDays L k ≤ 31 := by
  unfold monthDays; split <;> omega

/-- In the years 0 to 9999 the stamp of a moment is that of its civil time. -/
theorem toList_folderStamp {t : Int} (hy : 0 ≤ (ofMoment t).year ∧ (ofMoment t).year ≤ 9999) :
    (folderStamp (some t)).toList = stampChars (ofMoment t) := by
  obtain ⟨⟨hm1, hm12, hd1, hd⟩, hh, hmi, hs⟩ := CivilTime.ofMoment_valid t
  have hdays := monthDays_le_31 ((ofMoment t).month - 1) (inLeapYear_le_one (ofMoment t).year)
  obtain ⟨k, hk⟩ := Int.eq_ofNat_of_zero_le hy.1
  have hyear : toString (k : Int) = toString k := rfl
  simp only [folderStamp, String.toList_intercalate, List.map_cons, List.map_nil, stampChars, hk, hyear,
    Int.toNat_natCast]
  rw [toList_padField (by omega) (by omega), toList_padField (by omega) (by omega),
    toList_padField (by omega) (by omega), toList_padField (by omega) (by omega),
    toList_padField (by omega) (by omega), toList_padField (by omega) (by omega)]
  rfl

theorem isDigit_of_mem_decimalDigits {w n : Nat} {ch : Char} (h : ch ∈ decimalDigits w n) : ch.isDigit := by
  obtain ⟨d, hd, rfl⟩ := exists_digitChar_of_mem_decimalDigits h
  have key : ∀ x : Fin 10, ((x : Nat).digitChar).isDigit := by decide
  exact key ⟨d, hd⟩

theorem underscore_not_mem_decimalDigits (w n : Nat) : '_' ∉ decimalDigits w n := fun h => by
  obtain ⟨d, hd, hc⟩ := exists_digitChar_of_mem_decimalDigits h
  have key : ∀ x : Fin 10, (x : Nat).digitChar ≠ '_' := by decide
  exact key ⟨d, hd⟩ hc.symm

theorem length_stampChars (c : CivilTime) : (stampChars c).length = 19 := by
  simp [stampChars, List.intercalate_cons_cons]

theorem mem_stampChars {c : CivilTime} {ch : Char} (h : ch ∈ stampChars c) : ch.isDigit ∨ ch = '_' := by
  simp only [stampChars, List.intercalate_cons_cons, List.intercalate_singleton, List.append_assoc,
    List.mem_append, List.mem_singleton] at h
  rcases h with h | h | h | h | h | h | h | h | h | h | h
  all_goals first | exact Or.inr h | exact Or.inl (isDigit_of_mem_decimalDigits h)

theorem splitOn_stampChars (c : CivilTime) :
    (stampChars c).splitOn '_' = [decimalDigits 4 c.year.toNat, decimalDigits 2 c.month,
      decimalDigits 2 c.day, decimalDigits 2 c.hour, decimalDigits 2 c.minute, decimalDigits 2 c.second] :=
  List.splitOn_intercalate '_' (fun l hl => by
    simp only [List.mem_cons, List.not_mem_nil, or_false] at hl
    rcases hl with rfl | rfl | rfl | rfl | rfl | rfl <;> exact underscore_not_mem_decimalDigits _ _)
    (by simp)

theorem field_lt_iff {w a b : Nat} (ha : a < 10 ^ w) (hb : b < 10 ^ w) (R S : List Char) :
    decimalDigits w a ++ '_' :: R < decimalDigits w b ++ '_' :: S ↔ a < b ∨ a = b ∧ R < S := by
  rw [append_lt_append_iff (by simp), decimalDigits_lt_iff ha hb, decimalDigits_inj ha hb,
    List.cons_lt_cons_iff]
  simp

/-- Stamps compare as their civil times, field by field. -/
theorem stampChars_lt_iff {a b : CivilTime} (ha : a.Valid) (hb : b.Valid)
    (hya : 0 ≤ a.year ∧ a.year ≤ 9999) (hyb : 0 ≤ b.year ∧ b.year ≤ 9999) :
    stampChars a < stampChars b ↔ a.Before b := by
  obtain ⟨⟨-, hma, -, hda⟩, hha, hmia, hsa⟩ := ha
  obtain ⟨⟨-, hmb, -, hdb⟩, hhb, hmib, hsb⟩ := hb
  have hda' := monthDays_le_31 (a.month - 1) (inLeapYear_le_one a.year)
  have hdb' := monthDays_le_31 (b.month - 1) (inLeapYear_le_one b.year)
  have hlt : a.year.toNat < b.year.toNat ↔ a.year < b.year := by omega
  have heq : a.year.toNat = b.year.toNat ↔ a.year = b.year := by omega
  simp only [stampChars, List.intercalate_cons_cons, List.intercalate_singleton, List.append_assoc,
    List.cons_append, List.nil_append]
  rw [field_lt_iff (by omega) (by omega), field_lt_iff (by omega) (by omega),
    field_lt_iff (by omega) (by omega), field_lt_iff (by omega) (by omega),
    field_lt_iff (by omega) (by omega), decimalDigits_lt_iff (by omega) (by omega), hlt, heq]
  rfl

theorem before_trichotomy (a b : CivilTime) : a.Before b ∨ a = b ∨ b.Before a := by
  obtain ⟨y, mo, d, h, mi, s⟩ := a
  obtain ⟨y', mo', d', h', mi', s'⟩ := b
  simp only [Before, CivilTime.mk.injEq]
  omega

end stamp

section order

open Calendar CivilTime

variable {t₁ t₂ : Int}

/-- Stamps of moments in the years 0 to 9999 compare as the moments' seconds. -/
theorem folderStamp_lt_iff (h₁ : 0 ≤ (ofMoment t₁).year ∧ (ofMoment t₁).year ≤ 9999)
    (h₂ : 0 ≤ (ofMoment t₂).year ∧ (ofMoment t₂).year ≤ 9999) :
    folderStamp (some t₁) < folderStamp (some t₂) ↔ t₁ / 1000 < t₂ / 1000 := by
  have hv₁ := ofMoment_valid t₁
  have hv₂ := ofMoment_valid t₂
  have htime₁ := time_ofMoment t₁
  have htime₂ := time_ofMoment t₂
  rw [String.lt_iff_toList_lt, toList_folderStamp h₁, toList_folderStamp h₂, stampChars_lt_iff hv₁ hv₂ h₁ h₂]
  constructor
  · intro hb
    have := time_lt_of_before hv₁ hv₂ hb
    omega
  · intro hlt
    -- the times are ordered, so neither equal nor the other way round
    rcases before_trichotomy (ofMoment t₁) (ofMoment t₂) with hb | he | hb
    · exact hb
    · rw [he] at htime₁; omega
    · have := time_lt_of_before hv₂ hv₁ hb; omega

/-- Moments in the years 0 to 9999 have one stamp exactly when they fall in one second. -/
theorem folderStamp_eq_iff (h₁ : 0 ≤ (ofMoment t₁).year ∧ (ofMoment t₁).year ≤ 9999)
    (h₂ : 0 ≤ (ofMoment t₂).year ∧ (ofMoment t₂).year ≤ 9999) :
    folderStamp (some t₁) = folderStamp (some t₂) ↔ t₁ / 1000 = t₂ / 1000 := by
  constructor
  · intro he
    rcases lt_trichotomy (t₁ / 1000) (t₂ / 1000) with h | h | h
    · have hlt := (folderStamp_lt_iff h₁ h₂).2 h
      rw [he] at hlt
      exact absurd hlt (lt_irrefl _)
    · exact h
    · have hlt := (folderStamp_lt_iff h₂ h₁).2 h
      rw [he] at hlt
      exact absurd hlt (lt_irrefl _)
  · intro he
    simp only [folderStamp, ofMoment_congr he]
/-- The stamp of a moment in the years 0 to 9999 is `YYYY_MM_DD_HH_MM_SS` in digits, whose fields
read back through the calendar to the moment cut to its second; later moments have stamps
not smaller, equal exactly within one second. -/
theorem folderStamp_reads_back_in_order :
    (∀ t : Int, dayFromYear 0 * 86400000 ≤ t → t < dayFromYear 10000 * 86400000 →
      (folderStamp (some t)).length = 19 ∧ (∀ ch ∈ (folderStamp (some t)).toList, ch.isDigit ∨ ch = '_') ∧
      ∃ y mo d h mi s : Nat,
        (folderStamp (some t)).toList = ['_'].intercalate [decimalDigits 4 y, decimalDigits 2 mo,
          decimalDigits 2 d, decimalDigits 2 h, decimalDigits 2 mi, decimalDigits 2 s] ∧
        stampFields (folderStamp (some t)) = [some y, some mo, some d, some h, some mi, some s] ∧
        makeDate (makeDay y (mo - 1) d) (makeTime h mi s 0) = t / 1000 * 1000) ∧
    ∀ t₁ t₂ : Int, dayFromYear 0 * 86400000 ≤ t₁ → t₂ < dayFromYear 10000 * 86400000 → t₁ < t₂ →
      folderStamp (some t₁) ≤ folderStamp (some t₂) ∧
        (folderStamp (some t₁) = folderStamp (some t₂) ↔ t₁ / 1000 = t₂ / 1000) := by
  refine ⟨fun t h₀ h₁ => ?_, fun t₁ t₂ h₀ h₁ hlt => ?_⟩
  · have hy := ofMoment_year_bounds h₀ h₁
    obtain ⟨⟨hm1, hm12, hd1, hd⟩, hh, hmi, hs⟩ := ofMoment_valid t
    have hdays := monthDays_le_31 ((ofMoment t).month - 1) (inLeapYear_le_one (ofMoment t).year)
    have htext := toList_folderStamp hy
    have htime := time_ofMoment t
    have hyear : (((ofMoment t).year.toNat : Nat) : Int) = (ofMoment t).year := Int.toNat_of_nonneg hy.1
    refine ⟨by rw [← String.length_toList, htext, length_stampChars], fun ch hch => ?_,
      (ofMoment t).year.toNat, (ofMoment t).month, (ofMoment t).day, (ofMoment t).hour,
      (ofMoment t).minute, (ofMoment t).second, htext, ?_, ?_⟩
    · rw [htext] at hch
      exact mem_stampChars hch
    · rw [stampFields, htext, splitOn_stampChars]
      simp only [List.map_cons, List.map_nil]
      rw [digitsValue_decimalDigits (by omega) (by omega), digitsValue_decimalDigits (by omega) (by omega),
        digitsValue_decimalDigits (by omega) (by omega), digitsValue_decimalDigits (by omega) (by omega),
        digitsValue_decimalDigits (by omega) (by omega), digitsValue_decimalDigits (by omega) (by omega)]
    · rw [hyear]
      exact htime
  · -- both moments lie in the years 0 to 9999
    have hy₁ := ofMoment_year_bounds h₀ (by omega)
    have hy₂ := ofMoment_year_bounds (by omega) h₁
    refine ⟨?_, folderStamp_eq_iff hy₁ hy₂⟩
    rcases (Int.ediv_le_ediv (by decide) hlt.le : t₁ / 1000 ≤ t₂ / 1000).lt_or_eq with h | h
    · exact le_of_lt ((folderStamp_lt_iff hy₁ hy₂).2 h)
    · exact le_of_eq ((folderStamp_eq_iff hy₁ hy₂).2 h)

theorem folderStamp_reads_back_in_order_at_epoch :
    (folderStamp (some 0)).length = 19 ∧ folderStamp (some 0) ≤ folderStamp (some 1000) :=
  ⟨(folderStamp_reads_back_in_order.1 0 (by decide) (by decide)).1,
    (folderStamp_reads_back_in_order.2 0 1000 (by decide) (by decide) (by decide)).1⟩

end order

end FolderSink
