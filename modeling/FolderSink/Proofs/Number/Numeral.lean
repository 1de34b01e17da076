import FolderSink.Number.Decimal
import FolderSink.Proofs.Number.Integer
/-! The text of a double that is a natural number below `2^53` is its decimal numeral
(`Double.toText_ofNat`). The shortest-digits search finds the number itself: on every grid of
multiples of `10^u`, the only point inside the rounding interval of an integer is the integer
(`candidate_natural`); the search reaches the grid of units before it stops
(`exponent10_natural`, `findSome?_range_le`); and the digits of `s · 10^v` are those of `s`
followed by `v` zeros (`repr_mul_ten_pow`, `shortestText_natural`). -/
namespace FolderSink

namespace Decimal

/-- Settling only moves up from a power of ten that is not above the ratio, and stays on one. -/
theorem settle_ge {num den : Nat} :
    ∀ (fuel : Nat) (e : Int), atLeastTenPow num den e = true →
      e ≤ settle num den fuel e ∧ atLeastTenPow num den (settle num den fuel e) = true
  | 0, e, h => ⟨le_refl e, h⟩
  | fuel + 1, e, h => by
    simp only [settle, h, Bool.not_true, Bool.false_eq_true, ↓reduceIte]
    split
    · rename_i hup
      obtain ⟨hle, hat⟩ := settle_ge fuel (e + 1) hup
      exact ⟨by omega, hat⟩
    · exact ⟨le_refl e, h⟩

theorem atLeastTenPow_natCast {num den : Nat} (u : Nat) :
    atLeastTenPow num den u = decide (10 ^ u * den ≤ num) := by
  simp [atLeastTenPow, tenPow, Nat.pow_eq]

/-- The guess from binary logarithms never overshoots below `2^53`. -/
theorem guess_le_log2 : ∀ L < 53, 10 ^ (L * 30103 / 100000) ≤ 2 ^ L := by decide


/-- The decimal exponent of a natural number below `2^53`, over any power of two, is a power
of ten not above it. -/
theorem exponent10_natural {n : Nat} (h0 : 0 < n) (hn : n < 2 ^ 53) (E : Nat) :
    ∃ D : Nat, exponent10 (n * 2 ^ E) (2 ^ E) = D ∧ 10 ^ D ≤ n := by
  have hL : n.log2 < 53 := (Nat.log2_lt (by omega)).2 hn
  have hguess : ((((n * 2 ^ E).log2 : Nat) : Int) - ((2 ^ E : Nat).log2 : Nat)) * 30103 =
      ((n.log2 * 30103 : Nat) : Int) := by
    rw [Double.log2_mul_two_pow (by omega), Nat.log2_two_pow]; push_cast; ring
  have hat : ∀ u : Nat, atLeastTenPow (n * 2 ^ E) (2 ^ E) u = decide (10 ^ u ≤ n) := by
    intro u
    rw [atLeastTenPow_natCast]
    exact decide_eq_decide.2 (Nat.mul_le_mul_right_iff (Nat.two_pow_pos E))
  have hstart : atLeastTenPow (n * 2 ^ E) (2 ^ E) ((n.log2 * 30103 / 100000 : Nat) : Int) = true := by
    rw [hat, decide_eq_true_iff]
    exact le_trans (guess_le_log2 _ hL) (Nat.log2_self_le (by omega))
  unfold exponent10
  dsimp only
  rw [hguess, show (100000 : Int) = ((100000 : Nat) : Int) from rfl, ← Int.ofNat_fdiv]
  obtain ⟨hge, hend⟩ := settle_ge 8 _ hstart
  refine ⟨(settle (n * 2 ^ E) (2 ^ E) 8 ((n.log2 * 30103 / 100000 : Nat) : Int)).toNat, by omega, ?_⟩
  have h := hat (settle (n * 2 ^ E) (2 ^ E) 8 ((n.log2 * 30103 / 100000 : Nat) : Int)).toNat
  rw [Int.toNat_of_nonneg (by omega), hend] at h
  exact of_decide_eq_true h.symm


theorem cmpRatio_eq_compare (a b c d : Nat) : cmpRatio a b c d = compare (a * d) (c * b) := rfl

/-- On the grid of multiples of `10^u`, the only point near enough to the integer `n` (closer
than a quarter over the scale `c ≥ 4`) is `n` itself: the candidate is `n / 10^u` exactly
when `10^u` divides `n`. -/
theorem candidate_natural {n c lo : Nat} (hc : 4 ≤ c) (hlo : n * c ≤ lo + 2)
    (hlo' : lo < n * c) (closed : Bool) (u : Nat) :
    candidate (n * c) c lo (n * c + 2) closed u = if 10 ^ u ∣ n then some (n / 10 ^ u) else none := by
  have hpow : 0 < 10 ^ u := Nat.pow_pos (by omega)
  have hs : n * c / (c * 10 ^ u) = n / 10 ^ u := by
    rw [Nat.mul_comm c, Nat.mul_div_mul_right _ _ (by omega)]
  have hK : n / 10 ^ u * 10 ^ u ≤ n := Nat.div_mul_le_self n _
  have hK' : n + 1 ≤ n / 10 ^ u * 10 ^ u + 10 ^ u := by
    have := Nat.lt_mul_div_succ n hpow
    rw [Nat.mul_add, Nat.mul_one, Nat.mul_comm] at this
    omega
  simp only [candidate, tenPow, ge_iff_le, Int.natCast_nonneg, ↓reduceIte, Int.toNat_natCast,
    Nat.pow_eq, cmpRatio_eq_compare, Nat.mul_one, hs, Nat.add_one_mul (n / 10 ^ u)]
  -- the next grid point above `n` is out of reach in both cases
  have hnext : n * c + c ≤ (n / 10 ^ u * 10 ^ u + 10 ^ u) * c := by
    simpa [Nat.add_one_mul] using Nat.mul_le_mul_right c hK'
  have hup : compare ((n / 10 ^ u * 10 ^ u + 10 ^ u) * c) (n * c + 2) = .gt :=
    compare_gt_iff_gt.2 (by omega)
  by_cases hd : 10 ^ u ∣ n
  · have hK : n / 10 ^ u * 10 ^ u = n := Nat.div_mul_cancel hd
    have hat : compare lo (n / 10 ^ u * 10 ^ u * c) = .lt := compare_lt_iff_lt.2 (by rw [hK]; omega)
    have hbelow : compare (n / 10 ^ u * 10 ^ u * c) (n * c + 2) = .lt :=
      compare_lt_iff_lt.2 (by rw [hK]; omega)
    simp [hat, hbelow, hup, hd]
  · -- the grid point at or below `n` is below it, so at least a whole scale below
    have hlt : n / 10 ^ u * 10 ^ u + 1 ≤ n := by
      rcases Nat.lt_or_eq_of_le hK with h | h
      · omega
      · exact absurd (h ▸ Nat.dvd_mul_left _ _) hd
    have hprev : n / 10 ^ u * 10 ^ u * c + c ≤ n * c := by
      simpa [Nat.add_one_mul] using Nat.mul_le_mul_right c hlt
    have hat : compare lo (n / 10 ^ u * 10 ^ u * c) = .gt := compare_gt_iff_gt.2 (by omega)
    simp [hat, hup, hd]


/-- A search over `0, 1, …, N - 1` that would succeed at `j` returns what it finds at some
`i ≤ j`. -/
theorem findSome?_range_le {β : Type} {f : Nat → Option β} {N j : Nat} (hi : j < N)
    (hf : f j ≠ none) : ∃ i ≤ j, ∃ b, (List.range N).findSome? f = some b ∧ f i = some b := by
  have hsplit : List.range N = List.range (j + 1) ++ (List.range (N - (j + 1))).map (j + 1 + ·) := by
    rw [← List.range_add]; congr 1; omega
  have hfirst : (List.range (j + 1)).findSome? f ≠ none := by
    rw [Ne, List.findSome?_eq_none_iff]
    exact fun h => hf (h j (List.mem_range.2 (by omega)))
  obtain ⟨b, hb⟩ := Option.ne_none_iff_exists'.1 hfirst
  obtain ⟨i, hmem, hfi⟩ := List.exists_of_findSome?_eq_some hb
  refine ⟨i, by simpa [Nat.lt_succ_iff] using hmem, b, ?_, hfi⟩
  rw [hsplit, List.findSome?_append, hb]
  rfl

/-- Dropping trailing zeros keeps the value `s · 10^u`. -/
theorem trim_natural : ∀ (fuel s u : Nat),
    ∃ s' v : Nat, trim s u fuel = (s', (v : Int)) ∧ s' * 10 ^ v = s * 10 ^ u
  | 0, s, u => ⟨s, u, rfl, rfl⟩
  | fuel + 1, s, u => by
    unfold trim
    split
    · rename_i h
      obtain ⟨s', v, htrim, hv⟩ := trim_natural fuel (s / 10) (u + 1)
      refine ⟨s', v, by rw [← htrim]; push_cast; rfl, ?_⟩
      rw [hv, Nat.pow_succ, ← Nat.mul_assoc, Nat.mul_right_comm, Nat.div_mul_cancel (Nat.dvd_of_mod_eq_zero h.2)]
    · exact ⟨s, u, rfl, rfl⟩

theorem toList_zeros (v : Nat) : (zeros v).toList = List.replicate v '0' := by
  simp [zeros]

/-- Multiplying by `10^v` writes `v` zeros after the digits. -/
theorem repr_mul_ten_pow {s : Nat} (hs : 0 < s) (v : Nat) : (s * 10 ^ v).repr = s.repr ++ zeros v := by
  apply String.toList_inj.1
  rw [String.toList_append, toList_zeros]
  induction v with
  | zero => simp
  | succ v ih =>
    have hpos : 0 < s * 10 ^ v := Nat.mul_pos hs (Nat.pow_pos (by omega))
    have hdigits := Nat.toDigits_append_toDigits (b := 10) (d := 0) (by omega) hpos (by omega)
    rw [Nat.toDigits_zero, Nat.add_zero] at hdigits
    rw [Nat.toList_repr, show s * 10 ^ (v + 1) = 10 * (s * 10 ^ v) by ring, ← hdigits,
      ← Nat.toList_repr, ih, List.replicate_succ', List.append_assoc]

/-- A multiple of a power of ten with at most 21 digits is written out in full. -/
theorem shortestText_natural {s v : Nat} (hs : 0 < s) (h : s * 10 ^ v < 10 ^ 21) :
    shortestText s v = (s * 10 ^ v).repr := by
  have hlen : s.repr.length + v ≤ 21 := by
    have := (Nat.length_repr_le_iff (n := s * 10 ^ v) (by omega)).2 h
    rw [repr_mul_ten_pow hs] at this
    simpa [String.length_append, zeros] using this
  unfold shortestText
  dsimp only
  rw [if_pos (by omega), show ((v : Int) + (s.repr.length : Int) - s.repr.length).toNat = v by omega,
    repr_mul_ten_pow hs]


/-- On a natural number below `2^53`, held as `n · 2^E / 2^E`, the shortest digits are `n`
itself, as `s · 10^v` with the trailing zeros split off. -/
theorem shortest_natural {n : Nat} (h0 : 0 < n) (hn : n < 2 ^ 53) (E : Nat) (lowerHalf : Bool) :
    ∃ s v : Nat, shortest (n * 2 ^ E) (-(E : Int)) lowerHalf = (s, (v : Int)) ∧ s * 10 ^ v = n := by
  have hq : ¬ (-(E : Int) - 2 ≥ 0) := by omega
  have hxd : (-(-(E : Int) - 2)).toNat = E + 2 := by omega
  have hxn : 4 * (n * 2 ^ E) = n * 2 ^ (E + 2) := by ring
  have hc : 4 ≤ 2 ^ (E + 2) := by
    calc 4 = 2 ^ 2 := rfl
      _ ≤ 2 ^ (E + 2) := Nat.pow_le_pow_right (by omega) (by omega)
  obtain ⟨D, hD, hDn⟩ := exponent10_natural h0 hn (E + 2)
  have hD16 : D < 16 := by
    by_contra h
    have : 10 ^ 16 ≤ 10 ^ D := Nat.pow_le_pow_right (by omega) (by omega)
    omega
  unfold shortest
  simp only [hq, ↓reduceIte, hxd, Nat.pow_eq, Nat.mul_one, hxn, hD]
  -- whichever end of the interval is the lower one, it is within a quarter unit below
  set lo := (if lowerHalf = true then n * 2 ^ (E + 2) - 1 else n * 2 ^ (E + 2) - 2) with hlo
  have hlo1 : n * 2 ^ (E + 2) ≤ lo + 2 := by rw [hlo]; split <;> omega
  have hlo2 : lo < n * 2 ^ (E + 2) := by
    have : 0 < n * 2 ^ (E + 2) := Nat.mul_pos h0 (Nat.two_pow_pos _)
    rw [hlo]; split <;> omega
  have hcand : ∀ i ≤ D, candidate (n * 2 ^ (E + 2)) (2 ^ (E + 2)) lo (n * 2 ^ (E + 2) + 2)
      (decide (n * 2 ^ E % 2 = 0)) ((D : Int) - i) =
        if 10 ^ (D - i) ∣ n then some (n / 10 ^ (D - i)) else none := by
    intro i hi
    rw [show (D : Int) - i = ((D - i : Nat) : Int) by omega]
    exact candidate_natural hc hlo1 hlo2 _ _
  -- the search succeeds at the latest at `t = 0`, and every `t` it tries before is a natural number
  obtain ⟨i, hi, b, hfound, hb⟩ := findSome?_range_le (N := 17) (j := D)
    (f := fun i => Option.map (fun s => (s, (D : Int) - i))
      (candidate (n * 2 ^ (E + 2)) (2 ^ (E + 2)) lo (n * 2 ^ (E + 2) + 2) (decide (n * 2 ^ E % 2 = 0))
        ((D : Int) - i))) (by omega)
    (by rw [Ne, Option.map_eq_none_iff, hcand D le_rfl, Nat.sub_self]; simp)
  simp only [hcand i hi] at hb
  split at hb
  · rename_i hdvd
    simp only [Option.map_some, Option.some.injEq] at hb
    rw [hfound, Option.getD_some, ← hb, show (D : Int) - i = ((D - i : Nat) : Int) by omega]
    obtain ⟨s, v, htrim, hv⟩ := trim_natural 20 (n / 10 ^ (D - i)) (D - i)
    exact ⟨s, v, htrim, by rw [hv, Nat.div_mul_cancel hdvd]⟩
  · simp at hb

end Decimal

namespace Double

/-- A natural number below `2^53` prints as its decimal numeral. -/
theorem toText_ofNat {n : Nat} (hn : n < 2 ^ 53) : (ofNat n).toText = n.repr := by
  rcases Nat.eq_zero_or_pos n with rfl | h0
  · simp [toText, ofNat_zero, kind_zero]
    rfl
  · have hm : n * 2 ^ (52 - n.log2) ≠ 0 := Nat.mul_ne_zero (by omega) (Nat.two_pow_pos _).ne'
    obtain ⟨s, v, hs, hv⟩ := Decimal.shortest_natural h0 hn (52 - n.log2)
      (decide (n * 2 ^ (52 - n.log2) = Nat.pow 2 52 ∧ -((52 - n.log2 : Nat) : Int) > -1074))
    have hpos : 0 < s := Nat.pos_of_ne_zero fun h => by simp [h] at hv; omega
    simp only [toText, kind_ofNat h0 hn, hm, ↓reduceIte, hs, Bool.false_eq_true, String.empty_append]
    rw [Decimal.shortestText_natural hpos (by omega), hv]

end Double

end FolderSink
