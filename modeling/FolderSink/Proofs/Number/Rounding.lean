import FolderSink.Number.Decimal
import FolderSink.Proofs.Number.Integer
import Mathlib.Algebra.Order.Field.Power
import Mathlib.Data.Rat.Cast.Order
import Mathlib.Tactic.Linarith
/-! Rounding the exact value of a double to decimal digits. The magnitude of a finite double
is a mantissa below `2^53`, times or over a power of two (`Double.Magnitude`). For every such
ratio the decimal exponent found from its binary logarithms is the exact one
(`exponent10_spec`): the guess is off by at most one, checked once over the whole range of
binary exponents (`guess_brackets`), and settling finds the exponent from any start within
its fuel (`settle_spec`). Rounding to places (`roundHalfUp`) takes the nearest integer, a half
going up (`RoundsTo`), and rounding to significant digits (`scientific`) gives a mantissa of
exactly the asked number of digits with the exponent of the rounded value (`SigRounds`). -/
namespace FolderSink

namespace Double

/-- The magnitude of a finite double: a mantissa `m < 2^53` times `2^e` and over `2^k`, one of
the two exponents zero, `e ≤ 971` and `k ≤ 1074`. -/
def Magnitude (num den : Nat) : Prop :=
  ∃ m e k : Nat, m < 2 ^ 53 ∧ e ≤ 971 ∧ k ≤ 1074 ∧ (e = 0 ∨ k = 0) ∧
    num = m * 2 ^ e ∧ den = 2 ^ k

theorem kind_finite_bounds {x : Double} {neg : Bool} {m : Nat} {e : Int}
    (h : x.kind = .finite neg m e) : m < 2 ^ 53 ∧ -1074 ≤ e ∧ e ≤ 971 := by
  have hfrac : x.fraction < 2 ^ 52 := Nat.mod_lt _ (by decide)
  have hbiased : x.biased < 2048 := Nat.mod_lt _ (by decide)
  unfold kind at h
  split_ifs at h with h₁ h₂ h₃
  · cases h
    exact ⟨by omega, by omega, by omega⟩
  · cases h
    simp only [Nat.pow_eq] at hfrac ⊢
    exact ⟨by omega, by omega, by omega⟩

namespace Magnitude

variable {num den : Nat}

theorem zero : Magnitude 0 1 := ⟨0, 0, 0, by norm_num, by norm_num, by norm_num, .inl rfl, rfl, rfl⟩

theorem den_pos (h : Magnitude num den) : 0 < den := by
  obtain ⟨m, e, k, -, -, -, -, -, rfl⟩ := h
  exact Nat.two_pow_pos k

theorem num_lt (h : Magnitude num den) : num < 2 ^ 1024 := by
  obtain ⟨m, e, k, hm, he, -, -, rfl, -⟩ := h
  calc m * 2 ^ e < 2 ^ 53 * 2 ^ e := Nat.mul_lt_mul_of_pos_right hm (by positivity)
    _ = 2 ^ (53 + e) := (Nat.pow_add 2 53 e).symm
    _ ≤ 2 ^ 1024 := by rw [Nat.pow_le_pow_iff_right (by norm_num)]; omega

theorem den_le (h : Magnitude num den) : den ≤ 2 ^ 1074 := by
  obtain ⟨m, e, k, -, -, hk, -, -, rfl⟩ := h
  rwa [Nat.pow_le_pow_iff_right (by norm_num)]

/-- From `2^53` up a double is an integer. -/
theorem den_eq_one (h : Magnitude num den) (hbig : 2 ^ 53 * den ≤ num) : den = 1 := by
  obtain ⟨m, e, k, hm, -, -, hek, rfl, rfl⟩ := h
  rcases hek with rfl | rfl
  · have : 2 ^ 53 ≤ 2 ^ 53 * 2 ^ k := Nat.le_mul_of_pos_right _ (Nat.two_pow_pos k)
    simp only [Nat.pow_zero, Nat.mul_one] at hbig
    omega
  · rfl

/-- From `10^-5` up the denominator of a double divides `10^100`: it is `2^k` with `k < 70`. -/
theorem dvd_ten_pow (h : Magnitude num den) (hsmall : den ≤ num * 10 ^ 5) : den ∣ 10 ^ 100 := by
  obtain ⟨m, e, k, hm, -, -, hek, rfl, rfl⟩ := h
  rcases hek with rfl | rfl
  · have hlt : 2 ^ k < 2 ^ 70 := by
      calc 2 ^ k ≤ m * 2 ^ 0 * 10 ^ 5 := hsmall
        _ < 2 ^ 53 * 10 ^ 5 := by simpa using Nat.mul_lt_mul_of_pos_right hm (by positivity)
        _ < 2 ^ 70 := by norm_num
    have hk : k ≤ 100 := by
      have := (Nat.pow_lt_pow_iff_right (by norm_num : 1 < 2)).1 hlt
      omega
    exact (Nat.pow_dvd_pow 2 hk).trans ⟨5 ^ 100, by rw [← Nat.mul_pow]⟩
  · simp

end Magnitude

/-- A finite double has a magnitude of the form `Magnitude`. -/
theorem magnitude_of_isFinite {x : Double} (hx : x.isFinite = true) :
    Magnitude x.magnitude.1 x.magnitude.2 := by
  unfold isFinite at hx
  split at hx
  · next neg m e hk =>
    obtain ⟨hm, hlo, hhi⟩ := kind_finite_bounds hk
    unfold magnitude ratio?
    rw [hk]
    dsimp only
    split_ifs with he hneg
    · refine ⟨m, 0, (-e).toNat, hm, by omega, by omega, .inl rfl, ?_, by simp [Nat.pow_eq]⟩
      simp
    · refine ⟨m, 0, (-e).toNat, hm, by omega, by omega, .inl rfl, ?_, by simp [Nat.pow_eq]⟩
      simp
    · refine ⟨m, e.toNat, 0, hm, by omega, by omega, .inr rfl, ?_, rfl⟩
      simp [Nat.pow_eq, Int.natAbs_mul]
    · refine ⟨m, e.toNat, 0, hm, by omega, by omega, .inr rfl, ?_, rfl⟩
      simp [Nat.pow_eq, Int.natAbs_mul]
  · cases hx

theorem signBit_of_kind {x : Double} {neg : Bool} {m : Nat} {e : Int}
    (h : x.kind = .finite neg m e) : x.signBit = neg := by
  unfold kind at h
  split_ifs at h <;> cases h <;> rfl

theorem isFinite_of_kind {x : Double} {neg : Bool} {m : Nat} {e : Int}
    (h : x.kind = .finite neg m e) : x.isFinite = true := by
  simp [isFinite, h]

/-- The magnitude of a finite double is its mantissa times two to its exponent. -/
theorem magnitude_div_of_kind {x : Double} {neg : Bool} {m : Nat} {e : Int}
    (h : x.kind = .finite neg m e) : (x.magnitude.1 : ℚ) / x.magnitude.2 = m * 2 ^ e := by
  unfold magnitude ratio?
  rw [h]
  by_cases he : e < 0
  · obtain ⟨k, rfl⟩ : ∃ k : Nat, e = -(k : Int) := ⟨(-e).toNat, by omega⟩
    have hk : 0 < k := by omega
    cases neg <;> simp [hk, Nat.pow_eq, zpow_neg, div_eq_mul_inv]
  · obtain ⟨k, rfl⟩ : ∃ k : Nat, e = k := ⟨e.toNat, by omega⟩
    cases neg <;> simp [he, Nat.pow_eq, Int.natAbs_mul]

end Double

namespace Decimal

theorem tenPow_pos (e : Int) : 0 < (tenPow e).1 ∧ 0 < (tenPow e).2 := by
  unfold tenPow
  split <;> simp [Nat.pow_eq]

/-- `tenPow e` is `10^e` as a ratio. -/
theorem tenPow_div (e : Int) : ((tenPow e).1 : ℚ) / (tenPow e).2 = 10 ^ e := by
  unfold tenPow
  split
  · next he =>
    rw [Nat.pow_eq, Nat.cast_pow, Nat.cast_one, div_one, ← zpow_natCast,
      Int.toNat_of_nonneg he]
    norm_num
  · next he =>
    rw [Nat.pow_eq, Nat.cast_pow, Nat.cast_one, one_div, ← zpow_natCast, ← zpow_neg,
      Int.toNat_of_nonneg (by omega), neg_neg]
    norm_num

/-- `atLeastTenPow` compares the ratio with `10^e`. -/
theorem atLeastTenPow_iff {num den : Nat} (hden : 0 < den) (e : Int) :
    atLeastTenPow num den e = true ↔ (10 : ℚ) ^ e ≤ num / den := by
  obtain ⟨h1, h2⟩ := tenPow_pos e
  rw [← tenPow_div, atLeastTenPow, decide_eq_true_iff,
    div_le_div_iff₀ (by exact_mod_cast h2) (by exact_mod_cast hden)]
  exact_mod_cast Iff.rfl

/-- A ratio that reaches a power of ten reaches every lower one. -/
theorem atLeastTenPow_of_le {num den : Nat} (hden : 0 < den) {e e' : Int} (hle : e' ≤ e)
    (h : atLeastTenPow num den e = true) : atLeastTenPow num den e' = true := by
  rw [atLeastTenPow_iff hden] at h ⊢
  exact le_trans (zpow_le_zpow_right₀ (by norm_num) hle) h

/-- Settling finds the decimal exponent from any start between a power of ten that the ratio
reaches and one that it does not, when the fuel covers the distance between the two. -/
theorem settle_spec {num den : Nat} (hden : 0 < den) :
    ∀ (fuel : Nat) (lo hi e : Int), atLeastTenPow num den lo = true →
      atLeastTenPow num den hi = false → lo ≤ e → e < hi → hi - lo ≤ fuel →
      atLeastTenPow num den (settle num den fuel e) = true ∧
        atLeastTenPow num den (settle num den fuel e + 1) = false
  | 0, lo, hi, e, _, _, hle, hlt, hfuel => by omega
  | fuel + 1, lo, hi, e, hlo, hhi, hle, hlt, hfuel => by
    unfold settle
    by_cases he : atLeastTenPow num den e = true
    · by_cases hup : atLeastTenPow num den (e + 1) = true
      · -- the ratio reaches `10^(e+1)`, so `e + 1` is below `hi`
        have hnext : e + 1 < hi := by
          by_contra hge
          have hreach : atLeastTenPow num den hi = true := atLeastTenPow_of_le hden (by omega) hup
          simp [hreach] at hhi
        simp only [he, hup, Bool.not_true, Bool.false_eq_true, if_false, if_true]
        exact settle_spec hden fuel (e + 1) hi (e + 1) hup hhi le_rfl hnext (by omega)
      · simp only [he, Bool.not_true, Bool.false_eq_true, if_false]
        simp only [Bool.not_eq_true] at hup
        simp [hup, he]
    · -- the ratio stays below `10^e`, so `e` is above `lo`
      have hbelow : lo < e := by
        by_contra hge
        exact he (atLeastTenPow_of_le hden (by omega) hlo)
      simp only [Bool.not_eq_true] at he
      simp only [he, Bool.not_false, if_true]
      exact settle_spec hden fuel lo e (e - 1) hlo he (by omega) (by omega) (by omega)

/-- Powers compared through their natural parts, the negative exponents moved across. -/
theorem zpow_le_zpow_of_cross {x y : ℚ} (hx : 0 < x) (hy : 0 < y) {a b : ℤ}
    (h : x ^ a.toNat * y ^ (-b).toNat ≤ y ^ b.toNat * x ^ (-a).toNat) : x ^ a ≤ y ^ b := by
  rw [← Int.toNat_sub_toNat_neg a, ← Int.toNat_sub_toNat_neg b, zpow_sub₀ hx.ne',
    zpow_sub₀ hy.ne', zpow_natCast, zpow_natCast, zpow_natCast, zpow_natCast,
    div_le_div_iff₀ (by positivity) (by positivity)]
  exact h

/-- The first guess of `exponent10` for a ratio between `2^l` and `2^(l+1)`. -/
def guessOf (l : Int) : Int := (l * 30103).fdiv 100000

/-- The guess puts `2^l` between `10^(g-1)` and `10^(g+2)`, for the binary exponents of all
doubles: `l = L - 1074`. Both comparisons are written with the negative exponents moved
across. -/
theorem guess_brackets : ∀ L : Nat, L < 2098 →
    10 ^ (guessOf (L - 1074) - 1).toNat * 2 ^ (-((L : Int) - 1074)).toNat ≤
      2 ^ ((L : Int) - 1074).toNat * 10 ^ (-(guessOf (L - 1074) - 1)).toNat ∧
    2 ^ ((L : Int) - 1074 + 1).toNat * 10 ^ (-(guessOf (L - 1074) + 2)).toNat ≤
      10 ^ (guessOf (L - 1074) + 2).toNat * 2 ^ (-((L : Int) - 1074 + 1)).toNat := by
  decide +kernel

/-- The decimal exponent of the magnitude of a double: `10^d ≤ num / den < 10^(d+1)`. -/
theorem exponent10_spec {num den : Nat} (hmag : Double.Magnitude num den) (hnum : 0 < num) :
    (10 : ℚ) ^ exponent10 num den ≤ num / den ∧ (num : ℚ) / den < 10 ^ (exponent10 num den + 1) := by
  obtain ⟨m, e, k, hm, he, hk, hek, rfl, rfl⟩ := hmag
  have hden : 0 < 2 ^ k := Nat.two_pow_pos k
  have hm0 : m ≠ 0 := by rintro rfl; simp at hnum
  -- the ratio lies between `2^l` and `2^(l+1)`, its binary exponent `l` within the doubles'
  have hL2 : (m * 2 ^ e).log2 = m.log2 + e := Double.log2_mul_two_pow hm0 e
  have hmlog : m.log2 < 53 := (Nat.log2_lt hm0).2 hm
  have hlo : 2 ^ (m * 2 ^ e).log2 ≤ m * 2 ^ e := Nat.log2_self_le (by positivity)
  have hhi : m * 2 ^ e < 2 ^ ((m * 2 ^ e).log2 + 1) := Nat.lt_log2_self
  set l : Int := ((m * 2 ^ e).log2 : Int) - k with hl
  have hrange : -1074 ≤ l ∧ l ≤ 1023 := by
    rcases hek with rfl | rfl <;> omega
  have hratio_lo : (2 : ℚ) ^ l ≤ ((m * 2 ^ e : Nat) : ℚ) / ((2 ^ k : Nat) : ℚ) := by
    rw [hl, zpow_sub₀ two_ne_zero, zpow_natCast, zpow_natCast, Nat.cast_pow, Nat.cast_two]
    exact div_le_div_of_nonneg_right (by exact_mod_cast hlo) (by positivity)
  have hratio_hi : ((m * 2 ^ e : Nat) : ℚ) / ((2 ^ k : Nat) : ℚ) < 2 ^ (l + 1) := by
    rw [hl, show ((m * 2 ^ e).log2 : Int) - k + 1 = (((m * 2 ^ e).log2 + 1 : Nat) : Int) - k by
      push_cast; ring, zpow_sub₀ two_ne_zero, zpow_natCast, zpow_natCast, Nat.cast_pow,
      Nat.cast_two]
    exact div_lt_div_of_pos_right (by exact_mod_cast hhi) (by positivity)
  -- the guess brackets the ratio, so settling from it ends on the exponent
  obtain ⟨hA, hB⟩ := guess_brackets (l + 1074).toNat (by omega)
  have hL : (((l + 1074).toNat : Nat) : Int) - 1074 = l := by omega
  rw [hL] at hA hB
  have hat : atLeastTenPow (m * 2 ^ e) (2 ^ k) (guessOf l - 1) = true := by
    rw [atLeastTenPow_iff hden]
    exact le_trans (zpow_le_zpow_of_cross (by norm_num) (by norm_num) (by exact_mod_cast hA))
      hratio_lo
  have hnot : atLeastTenPow (m * 2 ^ e) (2 ^ k) (guessOf l + 2) = false := by
    rw [← Bool.not_eq_true, atLeastTenPow_iff hden, not_le]
    exact lt_of_lt_of_le hratio_hi
      (zpow_le_zpow_of_cross (by norm_num) (by norm_num) (by exact_mod_cast hB))
  have hexp : exponent10 (m * 2 ^ e) (2 ^ k) = settle (m * 2 ^ e) (2 ^ k) 8 (guessOf l) := by
    rw [exponent10, guessOf, Nat.log2_two_pow]
  obtain ⟨h1, h2⟩ := settle_spec hden 8 (guessOf l - 1) (guessOf l + 2) (guessOf l) hat hnot
    (by omega) (by omega) (by omega)
  rw [hexp]
  refine ⟨(atLeastTenPow_iff hden _).1 h1, ?_⟩
  rw [← Bool.not_eq_true, atLeastTenPow_iff hden, not_le] at h2
  exact_mod_cast h2

/-- `q` is `r` rounded to an integer, a half going up: `q - 1/2 ≤ r < q + 1/2`. -/
def RoundsHalfUp (r : ℚ) (q : Nat) : Prop := (q : ℚ) - 1 / 2 ≤ r ∧ r < q + 1 / 2

/-- A ratio has one rounding. -/
theorem RoundsHalfUp.unique {r : ℚ} {q q' : Nat} (h : RoundsHalfUp r q) (h' : RoundsHalfUp r q') :
    q = q' := by
  obtain ⟨h1, h2⟩ := h
  obtain ⟨h1', h2'⟩ := h'
  have hlt : (q : ℚ) < q' + 1 := by linarith
  have hlt' : (q' : ℚ) < q + 1 := by linarith
  have : q < q' + 1 := by exact_mod_cast hlt
  have : q' < q + 1 := by exact_mod_cast hlt'
  omega

theorem roundsHalfUp_natCast (n : Nat) : RoundsHalfUp n n := by
  constructor <;> linarith

/-- `roundHalfUp` rounds the ratio `a / b` half up. -/
theorem roundHalfUp_spec (a : Nat) {b : Nat} (hb : 0 < b) : RoundsHalfUp (a / b) (roundHalfUp a b) := by
  unfold roundHalfUp
  have hdm := Nat.div_add_mod (2 * a + b) (2 * b)
  have hr := Nat.mod_lt (2 * a + b) (by omega : 0 < 2 * b)
  set q := (2 * a + b) / (2 * b)
  set rem := (2 * a + b) % (2 * b)
  have hbq : (0 : ℚ) < b := by exact_mod_cast hb
  have hq : (2 * b * q + rem : ℚ) = 2 * a + b := by exact_mod_cast hdm
  have hrem : (rem : ℚ) < 2 * b := by exact_mod_cast hr
  have hrem0 : (0 : ℚ) ≤ rem := by positivity
  constructor
  · rw [le_div_iff₀ hbq]
    nlinarith
  · rw [div_lt_iff₀ hbq]
    nlinarith

/-- `roundHalfUp` rounds a ratio to `p` places. -/
theorem roundHalfUp_places (num : Nat) {den : Nat} (hden : 0 < den) (p : Nat) :
    RoundsHalfUp ((num : ℚ) / den * 10 ^ p) (roundHalfUp (num * 10 ^ p) den) := by
  have h := roundHalfUp_spec (num * 10 ^ p) hden
  rwa [Nat.cast_mul, Nat.cast_pow, Nat.cast_ofNat, mul_div_right_comm] at h

/-- The rounding of a whole number is the number. -/
theorem RoundsHalfUp.eq_of_natCast {c q : Nat} (h : RoundsHalfUp (c : ℚ) q) : q = c :=
  h.unique (roundsHalfUp_natCast c)

/-- `n · 10^(e - f)` is `r` rounded to `f + 1` significant digits, a half going up: `n` has
exactly `f + 1` digits, and it is `r · 10^(f - e)` rounded. Zero is written with mantissa and
exponent `0`. -/
def SigRounds (r : ℚ) (f n : Nat) (e : Int) : Prop :=
  if r = 0 then n = 0 ∧ e = 0
  else 10 ^ f ≤ n ∧ n < 10 ^ (f + 1) ∧ RoundsHalfUp (r * 10 ^ ((f : Int) - e)) n

/-- A value with `f + 1` significant digits in exponent `X` is at least half of `10^X`. -/
theorem SigRounds.half_le {r : ℚ} {f n : Nat} {X : Int} (h : SigRounds r f n X) (hr : r ≠ 0) :
    (10 : ℚ) ^ X / 2 ≤ r := by
  unfold SigRounds at h
  rw [if_neg hr] at h
  obtain ⟨hlo, -, hround, -⟩ := h
  have hn : (10 : ℚ) ^ f ≤ n := by exact_mod_cast hlo
  have hone : (1 : ℚ) ≤ 10 ^ f := one_le_pow₀ (by norm_num)
  -- `r · 10^(f-X)` is at least `n - 1/2`, so at least half of `10^f`
  have hscaled : (10 : ℚ) ^ f / 2 ≤ r * 10 ^ ((f : Int) - X) := by linarith
  calc (10 : ℚ) ^ X / 2 = (10 ^ f / 2) * 10 ^ (X - f) := by
        rw [div_mul_eq_mul_div, ← zpow_natCast, ← zpow_add₀ (by norm_num), add_sub_cancel]
    _ ≤ r * 10 ^ ((f : Int) - X) * 10 ^ (X - f) :=
        mul_le_mul_of_nonneg_right hscaled (by positivity)
    _ = r := by
        rw [mul_assoc, ← zpow_add₀ (by norm_num), sub_add_sub_cancel, sub_self, zpow_zero, mul_one]

/-- A value with `f + 1` significant digits in exponent `X` is below `10^(X+1)`. -/
theorem SigRounds.lt_ten_pow {r : ℚ} {f n : Nat} {X : Int} (h : SigRounds r f n X) (hr : r ≠ 0) :
    r < (10 : ℚ) ^ (X + 1) := by
  unfold SigRounds at h
  rw [if_neg hr] at h
  obtain ⟨-, hhi, -, hround⟩ := h
  have hn : (n : ℚ) + 1 ≤ 10 ^ (f + 1) := by exact_mod_cast hhi
  have hscaled : r * 10 ^ ((f : Int) - X) < 10 ^ (f + 1) := by linarith
  calc r = r * 10 ^ ((f : Int) - X) * 10 ^ (X - f) := by
        rw [mul_assoc, ← zpow_add₀ (by norm_num), sub_add_sub_cancel, sub_self, zpow_zero, mul_one]
    _ < 10 ^ (f + 1) * 10 ^ (X - f) := mul_lt_mul_of_pos_right hscaled (by positivity)
    _ = 10 ^ (X + 1) := by
        rw [← zpow_natCast, ← zpow_add₀ (by norm_num)]
        congr 1
        push_cast
        ring

/-- The decimal exponent of a double is below `10^4` in size: its magnitude lies between
`2^-1074` and `2^1024`. -/
theorem natAbs_lt_of_sigRounds {num den f n : Nat} {X : Int} (hmag : Double.Magnitude num den)
    (h : SigRounds ((num : ℚ) / den) f n X) : X.natAbs < 10 ^ 4 := by
  have hden : (0 : ℚ) < den := by exact_mod_cast hmag.den_pos
  by_cases h0 : num = 0
  · subst h0
    unfold SigRounds at h
    simp at h
    simp [h.2]
  have hr : (num : ℚ) / den ≠ 0 := div_ne_zero (by exact_mod_cast h0) hden.ne'
  have hlo := h.half_le hr
  have hhi := h.lt_ten_pow hr
  -- the magnitude lies between `2^-1074` and `2^1024`
  have hnum : (num : ℚ) < 2 ^ 1024 := by exact_mod_cast hmag.num_lt
  have hden1 : (1 : ℚ) ≤ den := by exact_mod_cast hmag.den_pos
  have hdenle : (den : ℚ) ≤ 2 ^ 1074 := by exact_mod_cast hmag.den_le
  have hnum1 : (1 : ℚ) ≤ num := by exact_mod_cast Nat.pos_of_ne_zero h0
  have hrhi : (num : ℚ) / den < 2 ^ 1024 :=
    lt_of_le_of_lt (div_le_self (by positivity) hden1) hnum
  have hrlo : (1 : ℚ) / 2 ^ 1074 ≤ num / den :=
    div_le_div₀ (by positivity) hnum1 hden hdenle
  -- (`linarith` takes the large powers as atoms only once they are named)
  have hXhi : X < 1025 := by
    have h2 : (2 : ℚ) ^ 1024 ≤ 10 ^ 1024 := by gcongr; norm_num
    have hpos : (0 : ℚ) ≤ 10 ^ 1024 := by positivity
    have hlt : (10 : ℚ) ^ X < 10 ^ ((1024 : Int) + 1) := by
      rw [zpow_add_one₀ (by norm_num), zpow_ofNat]
      generalize (10 : ℚ) ^ 1024 = A at *
      generalize (2 : ℚ) ^ 1024 = C at *
      linarith
    have := (zpow_lt_zpow_iff_right₀ (by norm_num : (1 : ℚ) < 10)).1 hlt
    omega
  have hXlo : -1075 < X := by
    have h2 : (1 : ℚ) / 10 ^ 1074 ≤ 1 / 2 ^ 1074 :=
      one_div_le_one_div_of_le (by positivity) (by gcongr; norm_num)
    have hlt : (10 : ℚ) ^ (-1074 : Int) < 10 ^ (X + 1) := by
      rw [zpow_neg, zpow_ofNat, ← one_div]
      generalize (1 : ℚ) / 10 ^ 1074 = A at *
      generalize (1 : ℚ) / 2 ^ 1074 = C at *
      linarith
    have := (zpow_lt_zpow_iff_right₀ (by norm_num : (1 : ℚ) < 10)).1 hlt
    omega
  omega

/-- A rounding that carries into a new power of ten: when `r` rounds up to `10^(f+1)`, then
`r / 10` rounds to `10^f`. -/
theorem roundsHalfUp_carry {r : ℚ} {f : Nat} (hr : r < 10 ^ (f + 1))
    (h : RoundsHalfUp r (10 ^ (f + 1))) : RoundsHalfUp (r / 10) (10 ^ f) := by
  obtain ⟨h1, -⟩ := h
  have hpow : ((10 ^ (f + 1) : Nat) : ℚ) = 10 * 10 ^ f := by push_cast; ring
  have hone : (1 : ℚ) ≤ 10 ^ f := one_le_pow₀ (by norm_num)
  rw [hpow] at h1
  rw [pow_succ] at hr
  constructor
  · push_cast
    rw [le_div_iff₀ (by norm_num)]
    nlinarith
  · push_cast
    rw [div_lt_iff₀ (by norm_num)]
    nlinarith

/-- `scientific` rounds the magnitude of a double to `f + 1` significant digits. -/
theorem scientific_spec {num den : Nat} (hmag : Double.Magnitude num den) (f : Nat) :
    SigRounds ((num : ℚ) / den) f (scientific num den f).1 (scientific num den f).2 := by
  have hden : 0 < den := by
    obtain ⟨m, e, k, -, -, -, -, -, rfl⟩ := hmag
    exact Nat.two_pow_pos k
  have hdenq : (0 : ℚ) < den := by exact_mod_cast hden
  unfold scientific SigRounds
  by_cases hnum : num = 0
  · simp [hnum]
  have hr0 : (num : ℚ) / den ≠ 0 := by
    have : (0 : ℚ) < num := by exact_mod_cast Nat.pos_of_ne_zero hnum
    positivity
  simp only [hnum, hr0, if_false]
  obtain ⟨hlo, hhi⟩ := exponent10_spec hmag (Nat.pos_of_ne_zero hnum)
  set d := exponent10 num den
  -- the ratio scaled to `f + 1` digits before the point lies in `[10^f, 10^(f+1))`
  set r : ℚ := (num : ℚ) / den * 10 ^ ((f : Int) - d) with hr
  have hscaled : RoundsHalfUp r (roundHalfUp (num * (tenPow (f - d)).1) (den * (tenPow (f - d)).2)) := by
    obtain ⟨h1, h2⟩ := tenPow_pos ((f : Int) - d)
    have := roundHalfUp_spec (num * (tenPow (f - d)).1) (Nat.mul_pos hden h2)
    rw [hr, ← tenPow_div, div_mul_div_comm]
    exact_mod_cast this
  have hrlo : (10 : ℚ) ^ f ≤ r := by
    calc (10 : ℚ) ^ f = 10 ^ d * 10 ^ ((f : Int) - d) := by
          rw [← zpow_add₀ (by norm_num), add_sub_cancel, zpow_natCast]
      _ ≤ r := mul_le_mul_of_nonneg_right hlo (by positivity)
  have hrhi : r < (10 : ℚ) ^ (f + 1) := by
    calc r < 10 ^ (d + 1) * 10 ^ ((f : Int) - d) := mul_lt_mul_of_pos_right hhi (by positivity)
      _ = 10 ^ (f + 1) := by
          rw [← zpow_add₀ (by norm_num), show d + 1 + ((f : Int) - d) = ((f + 1 : Nat) : Int) by
            push_cast; ring, zpow_natCast]
  set n := roundHalfUp (num * (tenPow (f - d)).1) (den * (tenPow (f - d)).2)
  -- the rounding stays within `[10^f, 10^(f+1)]`
  have hnlo : 10 ^ f ≤ n := by
    have : ((10 ^ f : Nat) : ℚ) < n + 1 := by push_cast; linarith [hscaled.2]
    exact Nat.lt_succ_iff.1 (by exact_mod_cast this)
  have hnhi : n ≤ 10 ^ (f + 1) := by
    have : (n : ℚ) < ((10 ^ (f + 1) : Nat) : ℚ) + 1 := by push_cast; linarith [hscaled.1]
    exact Nat.lt_succ_iff.1 (by exact_mod_cast this)
  simp only [Nat.pow_eq]
  split_ifs with hcarry
  · -- the rounding carried: the mantissa is `10^f` and the exponent one more
    have hn : n = 10 ^ (f + 1) := le_antisymm hnhi hcarry
    dsimp only
    rw [hn, Nat.pow_succ, Nat.mul_div_cancel _ (by norm_num)]
    have hpos : 0 < 10 ^ f := by positivity
    refine ⟨le_rfl, by omega, ?_⟩
    have hdiv : (num : ℚ) / den * 10 ^ ((f : Int) - (d + 1)) = r / 10 := by
      rw [hr, show (f : Int) - (d + 1) = (f : Int) - d - 1 by ring, zpow_sub₀ (by norm_num),
        zpow_one, mul_div_assoc]
    rw [hdiv]
    exact roundsHalfUp_carry hrhi (hn ▸ hscaled)
  · exact ⟨hnlo, by omega, hscaled⟩

end Decimal

end FolderSink
