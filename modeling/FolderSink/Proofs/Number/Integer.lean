import FolderSink.Number.Double
import Mathlib.Tactic.Ring
import Mathlib.Tactic.Positivity
/-! Natural numbers as doubles. Every natural number up to `2^53` is a double exactly
(`ofNat_eq_pack`, `isNat_ofNat`), and on such doubles addition, subtraction, comparison and
truncation are those of the natural numbers (`IsNat.add`, `IsNat.sub`, `IsNat.order?`,
`IsNat.truncate`). Rounding never acts on these results, since it depends on the exact ratio
alone (`ofRatio_mul_two_pow`). -/
namespace FolderSink

namespace Double

section fields

theorem bits_pack {neg : Bool} {b f : Nat} (hb : b < 2048) (hf : f < 2 ^ 52) :
    (pack neg b f).bits.toNat = (if neg then 2 ^ 63 else 0) + b * 2 ^ 52 + f := by
  simp only [pack, Nat.pow_eq]
  rw [Nat.toUInt64_eq, UInt64.toNat_ofNat']
  apply Nat.mod_eq_of_lt
  split <;> omega

/-- A pattern with an exponent field strictly between 0 and 2047 is a normal number. -/
theorem kind_pack {neg : Bool} {b f : Nat} (hb0 : 0 < b) (hb : b < 2047) (hf : f < 2 ^ 52) :
    (pack neg b f).kind = .finite neg (f + 2 ^ 52) ((b : Int) - 1075) := by
  have hbits : (pack neg b f).bits.toNat = (if neg then 2 ^ 63 else 0) + b * 2 ^ 52 + f :=
    bits_pack (by omega) hf
  have hbiased : (pack neg b f).biased = b := by
    simp only [biased, hbits, Nat.pow_eq]; split <;> omega
  have hfrac : (pack neg b f).fraction = f := by
    simp only [fraction, hbits, Nat.pow_eq]; split <;> omega
  have hsign : (pack neg b f).signBit = neg := by
    simp only [signBit, hbits, Nat.pow_eq]; cases neg <;> simp <;> omega
  simp only [kind, hbiased, hfrac, hsign, Nat.pow_eq]
  rw [if_neg (by omega), if_neg (by omega)]

theorem kind_zero (neg : Bool) : (zero neg).kind = .finite neg 0 (-1074) := by
  have hbits : (pack neg 0 0).bits.toNat = (if neg then 2 ^ 63 else 0) + 0 * 2 ^ 52 + 0 :=
    bits_pack (by omega) (by omega)
  have hsign : (zero neg).signBit = neg := by
    simp only [zero, signBit, hbits, Nat.pow_eq]; cases neg <;> simp
  simp only [kind, zero, biased, fraction, hbits, Nat.pow_eq] at hsign ⊢
  cases neg <;> simp_all

/-- Flipping bit 63 of a 64-bit number adds or takes away `2^63`. -/
theorem xor_two_pow_63 {a : Nat} (ha : a < 2 ^ 64) :
    a ^^^ 2 ^ 63 = if a < 2 ^ 63 then a + 2 ^ 63 else a - 2 ^ 63 := by
  apply Nat.eq_of_testBit_eq
  intro i
  rw [Nat.testBit_xor, Nat.testBit_two_pow]
  -- both results are `2^63 + x` or `x` for an `x` below `2^63`, compared bit by bit
  have hbits : ∀ x, x < 2 ^ 63 → (2 ^ 63 + x).testBit i = (decide (63 = i) ^^ x.testBit i) := by
    intro x hx
    rcases Nat.lt_trichotomy i 63 with hi | rfl | hi
    · rw [Nat.testBit_two_pow_add_gt hi, decide_eq_false (by omega : ¬ 63 = i)]
      simp
    · rw [Nat.testBit_two_pow_add_eq]; simp
    · have hle : 2 ^ 64 ≤ 2 ^ i := Nat.pow_le_pow_right (by omega) hi
      rw [Nat.testBit_lt_two_pow (by omega), Nat.testBit_lt_two_pow (by omega),
        decide_eq_false (by omega : ¬ 63 = i)]
      rfl
  split
  · rename_i hlt
    rw [Nat.add_comm, hbits a hlt, Bool.xor_comm]
  · have hlt : a - 2 ^ 63 < 2 ^ 63 := by omega
    have ha' : a = 2 ^ 63 + (a - 2 ^ 63) := by omega
    conv_lhs => rw [ha', hbits _ hlt]
    cases decide (63 = i) <;> simp

theorem bits_neg (x : Double) : x.neg.bits.toNat =
    if x.bits.toNat < 2 ^ 63 then x.bits.toNat + 2 ^ 63 else x.bits.toNat - 2 ^ 63 := by
  simp only [neg, UInt64.toNat_xor]
  exact xor_two_pow_63 x.bits.toNat_lt

/-- Negation flips the sign of what a pattern denotes and keeps the rest. -/
theorem kind_neg (x : Double) : x.neg.kind =
    match x.kind with
    | .nan => .nan
    | .infinite s => .infinite (!s)
    | .finite s m e => .finite (!s) m e := by
  have hlt : x.bits.toNat < 2 ^ 64 := x.bits.toNat_lt
  have hbiased : x.neg.biased = x.biased := by
    simp only [biased, bits_neg, Nat.pow_eq]; split <;> omega
  have hfrac : x.neg.fraction = x.fraction := by
    simp only [fraction, bits_neg, Nat.pow_eq]; split <;> omega
  have hsign : x.neg.signBit = !x.signBit := by
    simp only [signBit, bits_neg, Nat.pow_eq]
    split
    · rw [decide_eq_true (by omega), decide_eq_false (by omega)]; rfl
    · rw [decide_eq_false (by omega), decide_eq_true (by omega)]; rfl
  simp only [kind, hbiased, hfrac, hsign]
  split_ifs <;> rfl

end fields

section rounding

theorem log2_mul_two_pow {a : Nat} (ha : a ≠ 0) (j : Nat) : (a * 2 ^ j).log2 = a.log2 + j := by
  induction j with
  | zero => simp
  | succ j ih =>
    have hne : a * 2 ^ j ≠ 0 := Nat.mul_ne_zero ha (Nat.two_pow_pos j).ne'
    rw [Nat.pow_succ, ← Nat.mul_assoc, Nat.mul_comm _ 2, Nat.log2_two_mul hne, ih, Nat.add_assoc]

theorem scaledDiv_mul {c : Nat} (hc : 0 < c) (num den : Nat) (k : Int) :
    scaledDiv (num * c) (den * c) k =
      ((scaledDiv num den k).1, (scaledDiv num den k).2.1 * c, (scaledDiv num den k).2.2 * c) := by
  unfold scaledDiv
  split
  · simp only [Nat.mul_right_comm num c, Nat.mul_div_mul_right _ _ hc, Nat.mul_mod_mul_right]
  · simp only [Nat.mul_right_comm den c, Nat.mul_div_mul_right _ _ hc, Nat.mul_mod_mul_right]

theorem roundEven_mul {c : Nat} (hc : 0 < c) (q r d : Nat) :
    roundEven q (r * c) (d * c) = roundEven q r d := by
  unfold roundEven
  have i1 : 2 * (r * c) > d * c ↔ 2 * r > d := by
    rw [← Nat.mul_assoc]; exact Nat.mul_lt_mul_right hc
  have i2 : 2 * (r * c) < d * c ↔ 2 * r < d := by
    rw [← Nat.mul_assoc]; exact Nat.mul_lt_mul_right hc
  simp only [i1, i2]

/-- Rounding depends on the ratio alone: scaling both terms by a power of two changes nothing. -/
theorem ofRatio_mul_two_pow (neg : Bool) (num den j : Nat) :
    ofRatio neg (num * 2 ^ j) (den * 2 ^ j) = ofRatio neg num den := by
  have hc : 0 < 2 ^ j := Nat.two_pow_pos j
  unfold ofRatio
  by_cases h0 : num = 0 ∨ den = 0
  · rw [if_pos h0, if_pos (by rcases h0 with h | h <;> simp [h])]
  · rw [if_neg h0, if_neg (by simp; omega)]
    have hn : num ≠ 0 := fun h => h0 (.inl h)
    have hd : den ≠ 0 := fun h => h0 (.inr h)
    rw [log2_mul_two_pow hn, log2_mul_two_pow hd]
    have hk : ((num.log2 + j : Nat) : Int) - ((den.log2 + j : Nat) : Int) =
        (num.log2 : Int) - den.log2 := by omega
    rw [hk]
    dsimp only
    simp only [scaledDiv_mul hc, roundEven_mul hc]

theorem ofNat_zero : ofNat 0 = zero false := by
  simp [ofNat, ofRatio]

/-- A ratio over a power of two that is a natural number rounds as that number. -/
theorem ofRatio_two_pow (n j : Nat) : ofRatio false (n * 2 ^ j) (2 ^ j) = ofNat n := by
  simpa [ofNat] using ofRatio_mul_two_pow false n 1 j

/-- Shifting `n`, a number of `L + 1` binary digits, up by `k - L` places gives `k + 1` digits. -/
theorem mul_two_pow_bounds {n L k : Nat} (hlo : 2 ^ L ≤ n) (hhi : n < 2 ^ (L + 1)) (hk : L ≤ k) :
    2 ^ k ≤ n * 2 ^ (k - L) ∧ n * 2 ^ (k - L) < 2 ^ (k + 1) := by
  constructor
  · calc 2 ^ k = 2 ^ L * 2 ^ (k - L) := by rw [← Nat.pow_add]; congr 1; omega
      _ ≤ n * 2 ^ (k - L) := Nat.mul_le_mul_right _ hlo
  · calc n * 2 ^ (k - L) < 2 ^ (L + 1) * 2 ^ (k - L) :=
          Nat.mul_lt_mul_of_pos_right hhi (Nat.two_pow_pos _)
      _ = 2 ^ (k + 1) := by rw [← Nat.pow_add]; congr 1; omega

/-- A natural number `n` with `0 < n < 2^53` is the normal double whose 53-bit mantissa is `n`
shifted up to the top bit. -/
theorem ofNat_eq_pack {n : Nat} (h0 : 0 < n) (hn : n < 2 ^ 53) :
    ofNat n = pack false (n.log2 + 1023) (n * 2 ^ (52 - n.log2) - 2 ^ 52) := by
  have hlo : 2 ^ n.log2 ≤ n := Nat.log2_self_le (by omega)
  have hhi : n < 2 ^ (n.log2 + 1) := Nat.lt_log2_self
  have hL : n.log2 < 53 := (Nat.log2_lt (by omega)).2 hn
  have h1 : Nat.log2 1 = 0 := by simpa using Nat.log2_two_pow (n := 0)
  unfold ofNat ofRatio
  rw [h1]
  generalize n.log2 = L at *
  -- the first guess `L - 53` leaves 54 bits, one too many; `L - 52` leaves 53
  have hup : 2 ^ 53 ≤ n * 2 ^ (53 - L) := (mul_two_pow_bounds (k := 53) hlo hhi (by omega)).1
  have hm : 2 ^ 52 ≤ n * 2 ^ (52 - L) ∧ n * 2 ^ (52 - L) < 2 ^ 53 :=
    mul_two_pow_bounds hlo hhi (by omega)
  have hk₀ : max ((L : Int) - ((0 : Nat) : Int) - 53) (-1074) = (L : Int) - 53 := by omega
  have hd₀ : scaledDiv n 1 ((L : Int) - 53) = (n * 2 ^ (53 - L), 0, 1) := by
    simp only [scaledDiv, Nat.pow_eq]
    rw [if_pos (by omega), if_pos (by omega), show (-((L : Int) - 53)).toNat = 53 - L by omega]
    simp [Nat.mod_one]
  have hd₁ : scaledDiv n 1 ((L : Int) - 53 + 1) = (n * 2 ^ (52 - L), 0, 1) := by
    simp only [scaledDiv, Nat.pow_eq]
    by_cases h52 : L = 52
    · rw [if_neg (by omega), if_neg (by omega), show ((L : Int) - 53 + 1).toNat = 0 by omega, h52]
      simp [Nat.mod_one]
    · rw [if_pos (by omega), if_pos (by omega),
        show (-((L : Int) - 53 + 1)).toNat = 52 - L by omega]
      simp [Nat.mod_one]
  rw [if_neg (by omega), hk₀]
  dsimp only
  have hr : roundEven (n * 2 ^ (52 - L)) 0 1 = n * 2 ^ (52 - L) := by simp [roundEven]
  simp only [hd₀, Nat.pow_eq, ge_iff_le, if_pos hup, hd₁, hr, if_neg hm.2.ne,
    if_neg (Nat.not_lt.2 hm.1)]
  rw [if_neg (by omega), show ((L : Int) - 53 + 1 + 1075).toNat = L + 1023 by omega]

end rounding

/-- A double that denotes the natural number `n`: a finite number of positive sign whose exact
value, as a ratio over a power of two, is `n`. -/
def IsNat (x : Double) (n : Nat) : Prop :=
  (∃ m e, x.kind = .finite false m e) ∧
    ∃ E : Nat, x.ratio? = some (((n * 2 ^ E : Nat) : Int), 2 ^ E)

theorem isNat_of_kind {x : Double} {n E : Nat}
    (h : x.kind = .finite false (n * 2 ^ E) (-(E : Int))) : x.IsNat n := by
  refine ⟨⟨_, _, h⟩, E, ?_⟩
  simp only [ratio?, h, Nat.pow_eq]
  rcases Nat.eq_zero_or_pos E with rfl | hE
  · simp
  · rw [if_pos (by omega), show (-(-(E : Int))).toNat = E by omega]
    simp

/-- The pattern of `0 < n < 2^53`: mantissa `n` shifted up to 53 bits, exponent the shift. -/
theorem kind_ofNat {n : Nat} (h0 : 0 < n) (hn : n < 2 ^ 53) :
    (ofNat n).kind = .finite false (n * 2 ^ (52 - n.log2)) (-((52 - n.log2 : Nat) : Int)) := by
  have hL : n.log2 < 53 := (Nat.log2_lt (by omega)).2 hn
  obtain ⟨hlo, hhi⟩ : 2 ^ 52 ≤ n * 2 ^ (52 - n.log2) ∧ n * 2 ^ (52 - n.log2) < 2 ^ 53 :=
    mul_two_pow_bounds (Nat.log2_self_le (by omega)) Nat.lt_log2_self (by omega)
  have hm : n * 2 ^ (52 - n.log2) - 2 ^ 52 + 2 ^ 52 = n * 2 ^ (52 - n.log2) := by omega
  have he : ((n.log2 + 1023 : Nat) : Int) - 1075 = -((52 - n.log2 : Nat) : Int) := by omega
  rw [ofNat_eq_pack h0 hn, kind_pack (by omega) (by omega) (by omega), hm, he]

theorem isNat_ofNat {n : Nat} (hn : n < 2 ^ 53) : (ofNat n).IsNat n := by
  rcases Nat.eq_zero_or_pos n with rfl | h0
  · apply isNat_of_kind (E := 1074)
    rw [ofNat_zero, kind_zero, Nat.zero_mul]
    rfl
  · exact isNat_of_kind (kind_ofNat h0 hn)

/-- `2^53` itself is a double too, with the exponent one higher. -/
theorem isNat_ofNat_two_pow_53 : (ofNat (2 ^ 53)).IsNat (2 ^ 53) := by
  have hk : (ofNat (2 ^ 53)).kind = .finite false (2 ^ 52) 1 := by
    have h : ofNat (2 ^ 53) = pack false 1076 0 := by decide +kernel
    rw [h, kind_pack (by omega) (by omega) (by omega)]
    rfl
  refine ⟨⟨_, _, hk⟩, 0, ?_⟩
  simp only [ratio?, hk]
  rfl

variable {x y : Double} {a b : Nat}

theorem IsNat.isFinite (hx : x.IsNat a) : x.isFinite = true := by
  obtain ⟨⟨m, e, hk⟩, -⟩ := hx
  simp [Double.isFinite, hk]

theorem IsNat.truncate (hx : x.IsNat a) : x.truncate = a := by
  obtain ⟨-, E, hr⟩ := hx
  simp only [Double.truncate, hr]
  push_cast
  exact Int.mul_tdiv_cancel _ (by positivity)

theorem compare_natCast_mul {c : Nat} (hc : 0 < c) (a b : Nat) :
    compare ((a * c : Nat) : Int) ((b * c : Nat) : Int) = compare a b := by
  rcases Nat.lt_trichotomy a b with h | rfl | h
  · rw [compare_lt_iff_lt.2 h, compare_lt_iff_lt.2 (by exact_mod_cast Nat.mul_lt_mul_of_pos_right h hc)]
  · simp
  · rw [compare_gt_iff_gt.2 h, compare_gt_iff_gt.2 (by exact_mod_cast Nat.mul_lt_mul_of_pos_right h hc)]

/-- Doubles that denote natural numbers compare as the numbers do. -/
theorem IsNat.order? (hx : x.IsNat a) (hy : y.IsNat b) : x.order? y = some (compare a b) := by
  obtain ⟨⟨m, e, hxk⟩, A, hxr⟩ := hx
  obtain ⟨⟨m', e', hyk⟩, B, hyr⟩ := hy
  simp only [Double.order?, hxk, hyk, hxr, hyr, compareRatio]
  have hscale : ∀ n : Nat, (((n * 2 ^ A : Nat) : Int) * ((2 ^ B : Nat) : Int)) =
      ((n * 2 ^ (A + B) : Nat) : Int) := by
    intro n; push_cast; ring
  have hscale' : ∀ n : Nat, (((n * 2 ^ B : Nat) : Int) * ((2 ^ A : Nat) : Int)) =
      ((n * 2 ^ (A + B) : Nat) : Int) := by
    intro n; push_cast; ring
  rw [hscale, hscale', compare_natCast_mul (Nat.two_pow_pos _)]

theorem IsNat.lt (hx : x.IsNat a) (hy : y.IsNat b) : x.lt y = decide (a < b) := by
  simp only [Double.lt, hx.order? hy]
  rcases Nat.lt_trichotomy a b with h | rfl | h
  · simp [compare_lt_iff_lt.2 h, h]
  · simp
  · simp [compare_gt_iff_gt.2 h, Nat.not_lt.2 h.le]

theorem IsNat.le (hx : x.IsNat a) (hy : y.IsNat b) : x.le y = decide (a ≤ b) := by
  simp only [Double.le, hx.order? hy]
  rcases Nat.lt_trichotomy a b with h | rfl | h
  · simp [compare_lt_iff_lt.2 h, h.le]
  · simp
  · simp [compare_gt_iff_gt.2 h, Nat.not_le.2 h]

/-- An exact sum of two natural doubles, `n * 2^(A+B)` over `2^A * 2^B`, rounds back to `n`;
a zero sum is positive zero. -/
theorem round_natCast_mul_two_pow (n A B : Nat) :
    (if ((n * 2 ^ (A + B) : Nat) : Int) = 0 then zero false
      else ofRatio (decide (((n * 2 ^ (A + B) : Nat) : Int) < 0)) (n * 2 ^ (A + B)) (2 ^ A * 2 ^ B))
      = ofNat n := by
  rcases Nat.eq_zero_or_pos n with h0 | h0
  · rw [if_pos (by simp [h0]), h0, ofNat_zero]
  · have hpos : ((n * 2 ^ (A + B) : Nat) : Int) ≠ 0 := by positivity
    rw [if_neg hpos, decide_eq_false (by omega), ← Nat.pow_add, ofRatio_two_pow]

/-- The sum of two doubles that denote natural numbers is the double nearest their sum; below
`2^53` it denotes the sum (`isNat_ofNat`). -/
theorem IsNat.add (hx : x.IsNat a) (hy : y.IsNat b) : x.add y = ofNat (a + b) := by
  obtain ⟨⟨m, e, hxk⟩, A, hxr⟩ := hx
  obtain ⟨⟨m', e', hyk⟩, B, hyr⟩ := hy
  have hsum : ((a * 2 ^ A : Nat) : Int) * ((2 ^ B : Nat) : Int) +
      ((b * 2 ^ B : Nat) : Int) * ((2 ^ A : Nat) : Int) = (((a + b) * 2 ^ (A + B) : Nat) : Int) := by
    push_cast; ring
  simp only [Double.add, hxk, hyk, hxr, hyr, hsum, Int.natAbs_natCast, Bool.false_and]
  exact round_natCast_mul_two_pow (a + b) A B

/-- The difference of two doubles that denote natural numbers, the second not larger. -/
theorem IsNat.sub (hx : x.IsNat a) (hy : y.IsNat b) (hba : b ≤ a) : x.sub y = ofNat (a - b) := by
  obtain ⟨⟨m, e, hxk⟩, A, hxr⟩ := hx
  obtain ⟨⟨m', e', hyk⟩, B, hyr⟩ := hy
  have hnk : y.neg.kind = .finite true m' e' := by rw [kind_neg, hyk]; rfl
  have hnr : y.neg.ratio? = some (-((b * 2 ^ B : Nat) : Int), 2 ^ B) := by
    simp only [ratio?, hyk, hnk] at hyr ⊢
    split at hyr <;> simp_all
  have hdiff : ((a * 2 ^ A : Nat) : Int) * ((2 ^ B : Nat) : Int) +
      -((b * 2 ^ B : Nat) : Int) * ((2 ^ A : Nat) : Int) = (((a - b) * 2 ^ (A + B) : Nat) : Int) := by
    rw [Nat.sub_mul]; push_cast [Nat.mul_le_mul_right _ hba]; ring
  simp only [Double.sub, Double.add, hxk, hnk, hxr, hnr, hdiff, Int.natAbs_natCast, Bool.false_and]
  exact round_natCast_mul_two_pow (a - b) A B

end Double

end FolderSink
