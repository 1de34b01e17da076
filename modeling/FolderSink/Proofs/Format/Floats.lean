import FolderSink.Proofs.Format.Width
import FolderSink.Proofs.Number.Rounding
import FolderSink.Proofs.Number.Numeral
/-! The digits of the float conversions. `Positional q p` is the text of `q / 10^p` with `p`
places and `Scientific n p X` the text of `n · 10^(X-p)` with one digit before the point;
`fixedText` and `scientific` write them (`fixedText_positional`, `expDigits_scientific`).
Main statement (`float_writes_rounded`): a finite double is written as its exact value rounded
half up, to `p` places by `%f`, to `p + 1` significant digits by `%e`, and to `max p 1`
significant digits by `%g`, in positional form when the exponent `X` of the rounded value has
`-4 ≤ X < max p 1`; past 100 computed places the digits are exact. -/
namespace FolderSink

namespace Utf16

theorem ofString_ofList_append (a b : List Char) :
    ofString (String.ofList (a ++ b)) = ofString (String.ofList a) ++ ofString (String.ofList b) := by
  simp [ofString, List.flatMap_append]

theorem ofString_append (a b : String) : ofString (a ++ b) = ofString a ++ ofString b := by
  simp [ofString, List.flatMap_append]

/-- A string is the string of its characters. -/
theorem ofString_eq_ofList {s : String} {cs : List Char} (h : s.toList = cs) :
    ofString s = ofString (String.ofList cs) := by
  rw [← h, String.ofList_toList]

theorem ofString_ofList_cons {c : Char} (hc : c.toNat < 0x10000) (cs : List Char) :
    ofString (String.ofList (c :: cs)) = c.toNat.toUInt16 :: ofString (String.ofList cs) := by
  simp [ofString, ofCodePoint, hc]

theorem ofString_ofList_zeros (k : Nat) : ofString (String.ofList (List.replicate k '0')) = zeros k := by
  induction k with
  | zero => rfl
  | succ k ih =>
    rw [List.replicate_succ, ← List.singleton_append, ofString_ofList_append, ih]
    rfl

end Utf16

namespace Render

open Utf16

section digits

theorem digitsValue_decimal (m : Nat) : Literal.digitsValue 10 (Nat.toDigits 10 m) = some m := by
  simpa using digitsValue_toDigits (by decide : 1 < 10) id
    (fun d hd => digitValue_digitChar hd (by decide)) m

/-- Zeros after digits multiply their value by a power of ten. -/
theorem digitsValue_append_zeros {cs : List Char} {v : Nat}
    (h : Literal.digitsValue 10 cs = some v) (k : Nat) :
    Literal.digitsValue 10 (cs ++ List.replicate k '0') = some (v * 10 ^ k) := by
  induction k with
  | zero => simpa using h
  | succ k ih =>
    have hne : cs ++ List.replicate k '0' ≠ [] := by
      rintro hnil
      simp [List.append_eq_nil_iff.1 hnil |>.1, Literal.digitsValue] at h
    rw [List.replicate_succ', ← List.append_assoc, digitsValue_append_digit hne, ih]
    simp [Literal.digitValue, Nat.pow_succ, Nat.mul_assoc]

/-- The digits of a number of at least `f + 1` digits are those of its leading part followed by
`f` more. -/
theorem toDigits_split : ∀ (f R : Nat), 10 ^ f ≤ R →
    ∃ tl, Nat.toDigits 10 R = Nat.toDigits 10 (R / 10 ^ f) ++ tl ∧ tl.length = f
  | 0, R, _ => ⟨[], by simp⟩
  | f + 1, R, h => by
    have hten : 10 ≤ 10 ^ (f + 1) := by
      simpa using Nat.pow_le_pow_right (show 0 < 10 by omega) (show 1 ≤ f + 1 by omega)
    have hR : 10 ≤ R := le_trans hten h
    obtain ⟨tl, htl, hlen⟩ := toDigits_split f (R / 10)
      ((Nat.le_div_iff_mul_le (by omega)).2 (by rwa [← Nat.pow_succ]))
    refine ⟨tl ++ [Nat.digitChar (R % 10)], ?_, by simp [hlen]⟩
    rw [Nat.toDigits_eq_if (by omega), if_neg (by omega), htl, Nat.div_div_eq_div_mul,
      ← Nat.pow_succ', List.append_assoc]

theorem isDigit_of_digitValue {c : Char} {v : Nat} (h : Literal.digitValue 10 c = some v) :
    c.isDigit = true := by
  unfold Literal.digitValue at h
  simp only at h
  split_ifs at h with h1
  · simp only [Char.isDigit, decide_eq_true_eq, Bool.and_eq_true]
    exact ⟨h1.1, h1.2⟩
  all_goals omega

theorem toNat_lt_of_isDigit {c : Char} (h : c.isDigit = true) : c.toNat < 58 := by
  simp only [Char.isDigit, decide_eq_true_eq, Bool.and_eq_true, UInt32.le_iff_toNat_le] at h
  simpa using Nat.lt_succ_of_le h.2

/-- Characters with a decimal value are digits. -/
theorem isDigit_of_digitsValue {cs : List Char} {v : Nat} (h : Literal.digitsValue 10 cs = some v) :
    ∀ c ∈ cs, c.isDigit = true := by
  induction cs using List.reverseRecOn generalizing v with
  | nil => simp
  | append_singleton cs c ih =>
    intro c' hc'
    by_cases hcs : cs = []
    · subst hcs
      rw [List.nil_append, digitsValue_singleton] at h
      rw [List.nil_append, List.mem_singleton] at hc'
      exact hc' ▸ isDigit_of_digitValue h
    rw [digitsValue_append_digit hcs] at h
    obtain ⟨a, ha, hc⟩ := Option.bind_eq_some_iff.1 h
    obtain ⟨w, hw, -⟩ := Option.map_eq_some_iff.1 hc
    rcases List.mem_append.1 hc' with hc' | hc'
    · exact ih ha c' hc'
    · exact (List.mem_singleton.1 hc') ▸ isDigit_of_digitValue hw

/-- The digits of a number of exactly `p + 1` digits, or `p + 1` zeros for zero. -/
theorem mantissa_digits {n p : Nat} {ds : List Char}
    (h : ds = Nat.toDigits 10 n ∧ 10 ^ p ≤ n ∧ n < 10 ^ (p + 1) ∨ ds = List.replicate (p + 1) '0' ∧ n = 0) :
    ∃ c fp, ds = c :: fp ∧ fp.length = p ∧ Literal.digitsValue 10 (c :: fp) = some n := by
  rcases h with ⟨rfl, hlo, hhi⟩ | ⟨rfl, rfl⟩
  · have hlen : (Nat.toDigits 10 n).length = p + 1 := by
      have hle := (Nat.length_toDigits_le_iff (by decide) (by omega)).2 hhi
      have hgt : ¬(Nat.toDigits 10 n).length ≤ p := by
        rcases Nat.eq_zero_or_pos p with rfl | hp
        · simp
        · exact fun hle' => absurd ((Nat.length_toDigits_le_iff (by decide) hp).1 hle') (by omega)
      omega
    obtain ⟨c, fp, hcf⟩ : ∃ c fp, Nat.toDigits 10 n = c :: fp := List.exists_cons_of_ne_nil (by simp)
    refine ⟨c, fp, hcf, ?_, hcf ▸ digitsValue_decimal n⟩
    simpa [hcf] using hlen
  · refine ⟨'0', List.replicate p '0', List.replicate_succ .., by simp, ?_⟩
    rw [← List.replicate_succ, List.replicate_succ', digitsValue_zeros (by decide) p (by simp)]
    rfl

/-- The exponent's digits: at least two, a zero in front of a single one. -/
theorem exponent_digits (x : Nat) :
    let es := (if (Nat.repr x).length < 2 then "0" ++ Nat.repr x else Nat.repr x).toList
    es.length = max 2 (Nat.toDigits 10 x).length ∧ Literal.digitsValue 10 es = some x := by
  have hpos := Nat.length_toDigits_pos (b := 10) (n := x)
  have hlen : (Nat.repr x).length = (Nat.toDigits 10 x).length := by
    rw [← String.length_toList, Nat.toList_repr]
  split_ifs with hshort
  · refine ⟨by simp; omega, ?_⟩
    rw [String.toList_append, Nat.toList_repr]
    exact (digitsValue_zeros (by decide) 1 (by simp)).trans (digitsValue_decimal x)
  · exact ⟨by rw [Nat.toList_repr]; omega, by rw [Nat.toList_repr]; exact digitsValue_decimal x⟩

end digits

/-- `cs` writes `q / 10^p` in positional notation: the digits of its integer part, grouped by
three when `grouping`, then, when `point`, a point and exactly `p` fraction digits, which read
`q` after the integer digits. Without a point there are no places. -/
def Positional (q p : Nat) (point grouping : Bool) (cs : List Char) : Prop :=
  ∃ fp : List Char, fp.length = p ∧ (point = false → p = 0) ∧
    Literal.digitsValue 10 (Nat.toDigits 10 (q / 10 ^ p) ++ fp) = some q ∧
    cs = (if grouping then group (Nat.toDigits 10 (q / 10 ^ p)) else Nat.toDigits 10 (q / 10 ^ p)) ++
      (if point then '.' :: fp else [])

namespace Positional

variable {q p : Nat} {pt grouping : Bool} {cs : List Char}

theorem point_not_mem_toDigits (m : Nat) : '.' ∉ Nat.toDigits 10 m := fun h =>
  (numeralChar_of_mem_decimal h).2.2.1 rfl

/-- Grouping puts commas into the integer digits and leaves the point and places alone. -/
theorem withGrouping_eq {ip fp : List Char} (hip : '.' ∉ ip) (point : Bool) (d : Directive) :
    withGrouping (ip ++ (if point then '.' :: fp else [])) d =
      (if d.has .grouping then group ip else ip) ++ (if point then '.' :: fp else []) := by
  cases point with
  | false => simpa using withGrouping_digits hip d
  | true =>
    have hpos : ∀ c ∈ ip, (!decide (c = '.')) = true := by
      intro c hc
      simp only [Bool.not_eq_eq_eq_not, Bool.not_true, decide_eq_false_iff_not]
      rintro rfl
      exact hip hc
    by_cases hg : d.has .grouping
    · simp [withGrouping, hg, List.takeWhile_append_of_pos hpos, List.dropWhile_append_of_pos hpos]
    · simp [withGrouping, hg]

theorem grouped (h : Positional q p pt false cs) (d : Directive) :
    Positional q p pt (d.has .grouping) (withGrouping cs d) := by
  obtain ⟨fp, hlen, hp, hval, rfl⟩ := h
  exact ⟨fp, hlen, hp, hval, by simpa using withGrouping_eq (point_not_mem_toDigits _) pt d⟩

/-- An integer part of at most three digits has no comma to take. -/
theorem ungrouped (h : Positional q p pt false cs) (hq : q / 10 ^ p < 1000) (g : Bool) :
    Positional q p pt g cs := by
  obtain ⟨fp, hlen, hp, hval, rfl⟩ := h
  have hshort : (Nat.toDigits 10 (q / 10 ^ p)).length ≤ 3 :=
    (Nat.length_toDigits_le_iff (by decide) (by decide)).2 hq
  exact ⟨fp, hlen, hp, hval, by simp [group_short hshort]⟩

/-- A point after an integer without places. -/
theorem point (h : Positional q 0 false grouping cs) : Positional q 0 true grouping (cs ++ ['.']) := by
  obtain ⟨fp, hlen, -, hval, rfl⟩ := h
  refine ⟨fp, hlen, fun h => Bool.noConfusion h, hval, ?_⟩
  simp [List.length_eq_zero_iff.1 hlen]

/-- Zeros after the places: the same value with more places. -/
theorem append_zeros (h : Positional q p true grouping cs) (j : Nat) :
    Positional (q * 10 ^ j) (p + j) true grouping (cs ++ List.replicate j '0') := by
  obtain ⟨fp, hlen, -, hval, rfl⟩ := h
  have hdiv : q * 10 ^ j / 10 ^ (p + j) = q / 10 ^ p := by
    rw [Nat.pow_add, Nat.mul_div_mul_right _ _ (by positivity)]
  refine ⟨fp ++ List.replicate j '0', by simp [hlen], fun h => Bool.noConfusion h, ?_, ?_⟩
  · rw [hdiv, ← List.append_assoc]
    exact digitsValue_append_zeros hval j
  · simp [hdiv]

/-- The digits of a number, with no places. -/
theorem toDigits (m : Nat) : Positional m 0 false false (Nat.toDigits 10 m) :=
  ⟨[], rfl, fun _ => rfl, by simpa using digitsValue_decimal m, by simp⟩

/-- A positional text is digits, commas and a point: ASCII. -/
theorem lt_of_mem (h : Positional q p pt grouping cs) : ∀ c ∈ cs, c.toNat < 0x80 := by
  obtain ⟨fp, -, -, hval, rfl⟩ := h
  have hip : ∀ c ∈ Nat.toDigits 10 (q / 10 ^ p), c.toNat < 0x80 := fun c hc =>
    (numeralChar_of_mem_decimal hc).2.2.2.2.2
  have hfp : ∀ c ∈ fp, c.toNat < 0x80 := fun c hc =>
    Nat.lt_trans (toNat_lt_of_isDigit (isDigit_of_digitsValue hval c (List.mem_append_right _ hc)))
      (by decide)
  intro c hc
  rcases List.mem_append.1 hc with hc | hc
  · split_ifs at hc
    · rcases mem_group_go (List.mem_reverse.1 hc) with hc | rfl
      · exact hip c (List.mem_reverse.1 hc)
      · decide
    · exact hip c hc
  · split_ifs at hc
    · rcases List.mem_cons.1 hc with rfl | hc
      · decide
      · exact hfp c hc
    · simp at hc

/-- A number and `k` places of zeros. -/
theorem whole (m k : Nat) :
    Positional (m * 10 ^ k) k (0 < k) false
      (Nat.toDigits 10 m ++ if 0 < k then '.' :: List.replicate k '0' else []) := by
  by_cases hk : 0 < k
  · simpa [hk] using ((toDigits m).point).append_zeros k
  · obtain rfl : k = 0 := by omega
    simpa using toDigits m

end Positional

/-- `cs` writes `n · 10^(X-p)` in scientific notation: one digit, then, when `point`, a point
and exactly `p` more digits, all of which read `n`; then `e`, the sign of the exponent `X` and
its digits, at least two. Without a point there are no places. -/
def Scientific (n p : Nat) (point : Bool) (X : Int) (cs : List Char) : Prop :=
  ∃ c fp es, fp.length = p ∧ (point = false → p = 0) ∧ Literal.digitsValue 10 (c :: fp) = some n ∧
    es.length = max 2 (Nat.toDigits 10 X.natAbs).length ∧ Literal.digitsValue 10 es = some X.natAbs ∧
    cs = c :: ((if point then '.' :: fp else []) ++ 'e' :: (if X < 0 then '-' else '+') :: es)

/-- Under `#` with no places, a point goes before the `e`. -/
theorem Scientific.pointBeforeExponent {n : Nat} {X : Int} {cs : List Char}
    (h : Scientific n 0 false X cs) : ∃ cs', Scientific n 0 true X cs' ∧
      Render.pointBeforeExponent (ofString (String.ofList cs)) = ofString (String.ofList cs') := by
  obtain ⟨c, fp, es, hfp, -, hval, hes, hesv, rfl⟩ := h
  obtain rfl := List.length_eq_zero_iff.1 hfp
  refine ⟨c :: '.' :: 'e' :: (if X < 0 then '-' else '+') :: es,
    ⟨c, [], es, rfl, fun h => Bool.noConfusion h, hval, hes, hesv, by simp⟩, ?_⟩
  have hc : c.toNat < 58 :=
    toNat_lt_of_isDigit (isDigit_of_digitValue (by rwa [digitsValue_singleton] at hval))
  -- the digit is one unit and not `e`
  have hne : c.toNat.toUInt16 ≠ 0x65 := fun heq => by
    have := congrArg UInt16.toNat heq
    rw [Nat.toUInt16, UInt16.toNat_ofNat', Nat.mod_eq_of_lt (by omega)] at this
    simp at this
    omega
  have he : ('e').toNat.toUInt16 = 0x65 := rfl
  have hdot : ('.').toNat.toUInt16 = 0x2E := rfl
  simp only [if_false, Bool.false_eq_true, List.nil_append]
  rw [ofString_ofList_cons (c := c) (by omega), ofString_ofList_cons (c := c) (by omega),
    ofString_ofList_cons (c := '.') (by simp), ofString_ofList_cons (c := 'e') (by simp), he, hdot]
  simp only [Render.pointBeforeExponent, hne, if_false, if_true]

end Render

namespace Decimal

open Render

/-- `fixedText` writes the ratio rounded half up to `f` places. -/
theorem fixedText_positional (num den f : Nat) :
    Positional (roundHalfUp (num * 10 ^ f) den) f (0 < f) false (fixedText num den f).toList := by
  unfold fixedText
  simp only [Nat.pow_eq]
  set R := roundHalfUp (num * 10 ^ f) den
  have hlen : (Nat.repr R).length = (Nat.toDigits 10 R).length := by
    rw [← String.length_toList, Nat.toList_repr]
  split_ifs with hf hshort
  · subst hf
    exact ⟨[], rfl, fun _ => rfl, by simpa using digitsValue_decimal R, by simp⟩
  · -- fewer digits than places: a zero before the point and leading zeros after it
    have hlt : R < 10 ^ f := (Nat.length_toDigits_le_iff (by decide) (by omega)).1 (hlen ▸ hshort)
    set L := (Nat.toDigits 10 R).length
    have hpad : (zeros (f + 1 - (Nat.repr R).length) ++ Nat.repr R).toList =
        '0' :: (List.replicate (f - L) '0' ++ Nat.toDigits 10 R) := by
      rw [String.toList_append, toList_zeros, Nat.toList_repr, hlen,
        show f + 1 - L = (f - L) + 1 by omega, List.replicate_succ, List.cons_append]
    have hpadlen : (zeros (f + 1 - (Nat.repr R).length) ++ Nat.repr R).length = f + 1 := by
      rw [← String.length_toList, hpad]
      simp only [List.length_cons, List.length_append, List.length_replicate]
      omega
    refine ⟨List.replicate (f - L) '0' ++ Nat.toDigits 10 R, by simp; omega, by simp [hf], ?_, ?_⟩
    · rw [Nat.div_eq_of_lt hlt, Nat.toDigits_zero, List.singleton_append, ← List.cons_append,
        ← List.replicate_succ, digitsValue_zeros (by decide) _ (by simp), digitsValue_decimal]
    · rw [hpadlen, Nat.add_sub_cancel_left, hpad, Nat.div_eq_of_lt hlt, Nat.toDigits_zero]
      simp [hf]
  · -- the leading digits stand before the point and the last `f` after it
    have hge : 10 ^ f ≤ R := Nat.le_of_not_lt fun hlt =>
      hshort (hlen ▸ (Nat.length_toDigits_le_iff (by decide) (by omega)).2 hlt)
    obtain ⟨tl, hsplit, htl⟩ := toDigits_split f R hge
    have hhead : (Nat.repr R).length - f = (Nat.toDigits 10 (R / 10 ^ f)).length := by
      rw [hlen, hsplit, List.length_append, htl, Nat.add_sub_cancel]
    refine ⟨tl, htl, by simp [hf], by rw [← hsplit, digitsValue_decimal], ?_⟩
    rw [String.toList_append, String.toList_append, String.toList_ofList, String.toList_ofList,
      hhead, Nat.toList_repr, hsplit, List.take_left, List.drop_left]
    simp [hf]

end Decimal

namespace Render

open Utf16 Decimal

/-- The digits of `%f`: the ratio rounded half up to `p` places, exact past 100 places when the
denominator divides `10^100`, and exact from `10^21` on, where a double is an integer. -/
theorem fixedDigits_positional {num den p : Nat} {infinite : Bool} {t : Utf16}
    (hmag : Double.Magnitude num den) (hp : p ≤ 100 ∨ 10 ^ 21 * den ≤ num ∨ den ∣ 10 ^ 100)
    (h : fixedDigits num den p infinite = .ok t) :
    ∃ q cs, RoundsHalfUp ((num : ℚ) / den * 10 ^ p) q ∧ Positional q p (0 < p) false cs ∧
      t = ofString (String.ofList cs) := by
  have hden := hmag.den_pos
  unfold fixedDigits at h
  simp only [Nat.pow_eq] at h
  by_cases hbig : num ≥ 10 ^ 21 * den
  · -- an integer: its digits, then a point and `p` zeros
    obtain rfl : den = 1 := hmag.den_eq_one (le_trans (Nat.mul_le_mul_right _ (by norm_num)) hbig)
    have hexact : (num : ℚ) / (1 : Nat) * 10 ^ p = ((num * 10 ^ p : Nat) : ℚ) := by push_cast; ring
    refine ⟨num * 10 ^ p, _, hexact ▸ roundsHalfUp_natCast _, Positional.whole num p, ?_⟩
    rw [if_pos hbig, Nat.div_one] at h
    split_ifs at h with hpos
    · obtain ⟨zs, hz, h⟩ := except_bind_eq_ok h
      rw [bounded_ok h, zeroRun_ok hz, if_pos hpos, ofString_ofList_append,
        show '.' :: List.replicate p '0' = ['.'] ++ List.replicate p '0' from rfl,
        ofString_ofList_append, ofString_ofList_zeros, List.append_assoc]
      rfl
    · cases h
      rw [if_neg hpos, List.append_nil]
      rfl
  rw [if_neg hbig] at h
  split_ifs at h with hlarge
  · -- past 100 places the denominator divides `10^100`: the rounding is exact
    have hdvd : den ∣ 10 ^ 100 := by omega
    obtain ⟨j, rfl⟩ : ∃ j, p = 100 + j := ⟨p - 100, by omega⟩
    obtain ⟨zs, hz, h⟩ := except_bind_eq_ok h
    rw [bounded_ok h, zeroRun_ok hz, Nat.add_sub_cancel_left]
    obtain ⟨c, hc⟩ : den ∣ num * 10 ^ 100 := Dvd.dvd.mul_left hdvd num
    have hvalue : (num : ℚ) / den * 10 ^ 100 = c := by
      rw [div_mul_eq_mul_div, div_eq_iff (by exact_mod_cast hden.ne')]
      exact_mod_cast (hc.trans (Nat.mul_comm _ _))
    have hround : roundHalfUp (num * 10 ^ 100) den = c :=
      RoundsHalfUp.eq_of_natCast (hvalue ▸ roundHalfUp_places num hden 100)
    have hexact : (num : ℚ) / den * 10 ^ (100 + j) = ((c * 10 ^ j : Nat) : ℚ) := by
      rw [pow_add, ← mul_assoc, hvalue]
      push_cast
      ring
    refine ⟨c * 10 ^ j, (fixedText num den 100).toList ++ List.replicate j '0',
      hexact ▸ roundsHalfUp_natCast _, ?_, ?_⟩
    · have hpos := (fixedText_positional num den 100).append_zeros j
      rw [hround] at hpos
      simpa using hpos
    · rw [ofString_ofList_append, ofString_ofList_zeros, String.ofList_toList]
  · cases h
    exact ⟨_, _, roundHalfUp_places num hden p, fixedText_positional num den p,
      (String.ofList_toList).symm ▸ rfl⟩

/-- The mantissa: the first digit, then a point and the others when there are places. -/
theorem toList_mantissa {ds : String} {c : Char} {fp : List Char} (hds : ds.toList = c :: fp)
    (hfp : fp.length = p) :
    (if p = 0 then ds
      else String.ofList (ds.toList.take 1) ++ "." ++ String.ofList (ds.toList.drop 1)).toList =
      c :: (if 0 < p then '.' :: fp else []) := by
  by_cases hp0 : p = 0
  · subst hp0
    rw [if_pos rfl, hds, List.length_eq_zero_iff.1 hfp]
    rfl
  · rw [if_neg hp0, String.toList_append, String.toList_append, String.toList_ofList,
      String.toList_ofList, hds]
    simp [Nat.pos_of_ne_zero hp0]

/-- The exponent: `e`, its sign and its digits, a zero before a single one. -/
theorem toList_exponent (e : Int) :
    ("e" ++ (if e < 0 then "-" else "+") ++
        (if (Nat.repr e.natAbs).length < 2 then "0" ++ Nat.repr e.natAbs else Nat.repr e.natAbs)).toList =
      'e' :: (if e < 0 then '-' else '+') ::
        (if (Nat.repr e.natAbs).length < 2 then "0" ++ Nat.repr e.natAbs else Nat.repr e.natAbs).toList := by
  by_cases he : e < 0 <;> simp [he]

theorem length_ofString_ofList {cs : List Char} (h : ∀ c ∈ cs, c.toNat < 0x10000) :
    (ofString (String.ofList cs)).length = cs.length := by
  have hlen := congrArg List.length (chars_ofString_ofList h)
  rwa [chars, List.length_map] at hlen

theorem ok_bind {ε α β : Type} (a : α) (f : α → Except ε β) : (Except.ok a >>= f) = f a := rfl

/-- The digits of `%e` up to 100 places: the ratio rounded half up to `p + 1` significant
digits, as `scientific` finds them. -/
theorem expDigits_scientific {num den p : Nat} (hmag : Double.Magnitude num den) (hp : p ≤ 100) :
    ∃ cs, Scientific (scientific num den p).1 p (0 < p) (scientific num den p).2 cs ∧
      expDigits num den p false = .ok (ofString (String.ofList cs)) := by
  have hsig := scientific_spec hmag p
  have hexp := natAbs_lt_of_sigRounds hmag hsig
  unfold expDigits
  rw [Nat.min_eq_left hp]
  dsimp only
  generalize scientific num den p = r at hsig hexp ⊢
  obtain ⟨n, e⟩ := r
  dsimp only at hsig hexp ⊢
  rw [Nat.sub_self]
  have hnum : ((num : ℚ) / den = 0) ↔ num = 0 := by
    rw [div_eq_zero_iff, Nat.cast_eq_zero, Nat.cast_eq_zero, or_iff_left hmag.den_pos.ne']
  obtain ⟨c, fp, hds, hfp, hval⟩ : ∃ c fp,
      (if num = 0 then Decimal.zeros (p + 1) else n.repr).toList = c :: fp ∧ fp.length = p ∧
        Literal.digitsValue 10 (c :: fp) = some n := by
    apply mantissa_digits
    unfold SigRounds at hsig
    by_cases h0 : num = 0
    · rw [if_pos (hnum.2 h0)] at hsig
      exact .inr ⟨by simp [h0, toList_zeros], hsig.1⟩
    · rw [if_neg (mt hnum.1 h0)] at hsig
      exact .inl ⟨by simp [h0], hsig.1, hsig.2.1⟩
  obtain ⟨hes, hesv⟩ := exponent_digits e.natAbs
  rw [ofString_eq_ofList (toList_mantissa hds hfp), ofString_eq_ofList (toList_exponent e)]
  generalize (if (Nat.repr e.natAbs).length < 2 then "0" ++ Nat.repr e.natAbs
    else Nat.repr e.natAbs).toList = es at hes hesv ⊢
  refine ⟨_, ⟨c, fp, es, hfp, by simp, hval, hes, hesv, rfl⟩, ?_⟩
  -- all characters are digits, a point, `e` and a sign: one unit each, 108 at most
  have hdigits : ∀ x ∈ c :: fp ++ es, x.toNat < 58 := fun x hx =>
    toNat_lt_of_isDigit (by
      rcases List.mem_append.1 hx with hx | hx
      exacts [isDigit_of_digitsValue hval x hx, isDigit_of_digitsValue hesv x hx])
  have hesl : es.length ≤ 4 := by
    rw [hes]
    have := (Nat.length_toDigits_le_iff (b := 10) (n := e.natAbs) (by decide) (by decide)).2 hexp
    omega
  have hmant : ∀ x ∈ c :: (if 0 < p then '.' :: fp else []), x.toNat < 0x10000 := by
    intro x hx
    split_ifs at hx
    · rcases List.mem_cons.1 hx with rfl | hx
      · exact Nat.lt_trans (hdigits x List.mem_cons_self) (by decide)
      · rcases List.mem_cons.1 hx with rfl | hx
        · simp
        · exact Nat.lt_trans (hdigits x (by simp [hx])) (by decide)
    · rw [List.mem_singleton.1 hx]
      exact Nat.lt_trans (hdigits c List.mem_cons_self) (by decide)
  have hexpo : ∀ x ∈ 'e' :: (if e < 0 then '-' else '+') :: es, x.toNat < 0x10000 := by
    intro x hx
    rcases List.mem_cons.1 hx with rfl | hx
    · simp
    rcases List.mem_cons.1 hx with rfl | hx
    · split_ifs <;> simp
    · exact Nat.lt_trans (hdigits x (by simp [hx])) (by decide)
  have hlen₁ : (c :: (if 0 < p then '.' :: fp else [])).length ≤ p + 2 := by
    split_ifs <;> simp [hfp]
  have hlen : (ofString (String.ofList ((c :: (if 0 < p then '.' :: fp else [])) ++
      'e' :: (if e < 0 then '-' else '+') :: es))).length ≤ maxLength := by
    rw [length_ofString_ofList fun x hx => (List.mem_append.1 hx).elim (hmant x) (hexpo x),
      List.length_append, show ('e' :: (if e < 0 then '-' else '+') :: es).length = es.length + 2
        from rfl, maxLength]
    omega
  rw [show zeroRun 0 false = .ok [] from rfl, ok_bind, List.append_nil,
    bounded_of_length_le (by rw [length_ofString_ofList hmant]; unfold maxLength; omega), ok_bind,
    ← ofString_ofList_append, bounded_of_length_le hlen]
  simp

section law

/-- `%f`: `body` writes `r` rounded half up to `p` places, in positional notation, with a point
when there are places or under `#`. -/
def FixedWritten (r : ℚ) (p : Nat) (alt grouping : Bool) (body : Utf16) : Prop :=
  ∃ q cs, RoundsHalfUp (r * 10 ^ p) q ∧ Positional q p (0 < p || alt) grouping cs ∧
    body = ofString (String.ofList cs)

/-- `%e`: `body` writes `r` rounded half up to `p + 1` significant digits, in scientific
notation, with a point when there are places or under `#`. -/
def ExpWritten (r : ℚ) (p : Nat) (alt : Bool) (body : Utf16) : Prop :=
  ∃ n X cs, SigRounds r p n X ∧ Scientific n p (0 < p || alt) X cs ∧
    body = ofString (String.ofList cs)

/-- `%g`: `body` writes `r` rounded half up to `P` significant digits: with `P - 1 - X` places
when the exponent `X` of the rounded value has `-4 ≤ X < P`, else in scientific notation. -/
def GeneralWritten (r : ℚ) (P : Nat) (grouping : Bool) (body : Utf16) : Prop :=
  ∃ n X cs, SigRounds r (P - 1) n X ∧
    (if -4 ≤ X ∧ X < P then
      Positional n ((P : Int) - 1 - X).toNat (0 < (P : Int) - 1 - X) grouping cs
    else Scientific n (P - 1) (1 < P) X cs) ∧
    body = ofString (String.ofList cs)

variable {num den p : Nat} {infinite : Bool} {d : Directive} {body : Utf16}

/-- The `%f` digits, grouped, with the point that `#` asks for. -/
theorem fixed_written (hmag : Double.Magnitude num den) (hp : p ≤ 100 ∨ 10 ^ 21 * den ≤ num)
    (h : (do
      let t ← fixedDigits num den p infinite
      let t := ofString (String.ofList (withGrouping (t.map fun (u : UInt16) => Char.ofNat u.toNat) d))
      if d.has .alternate && p = 0 then bounded (t ++ [0x2E]) else pure t) = .ok body) :
    FixedWritten ((num : ℚ) / den) p (d.has .alternate) (d.has .grouping) body := by
  obtain ⟨t, ht, hrest⟩ := except_bind_eq_ok h
  obtain ⟨q, cs, hq, hpos, rfl⟩ := fixedDigits_positional hmag (hp.imp_right .inl) ht
  have hchars : (ofString (String.ofList cs)).map (fun u => Char.ofNat u.toNat) = cs :=
    chars_ofString_ofList fun c hc => Nat.lt_trans (hpos.lt_of_mem c hc) (by decide)
  simp only [hchars] at hrest
  by_cases hz : (d.has .alternate && p = 0) = true
  · rw [if_pos hz] at hrest
    simp only [Bool.and_eq_true, decide_eq_true_eq] at hz
    obtain ⟨halt, rfl⟩ := hz
    refine ⟨q, withGrouping cs d ++ ['.'], hq, ?_, (bounded_ok hrest).trans ?_⟩
    · simpa [halt] using (hpos.grouped d).point
    · rw [ofString_ofList_append]
      rfl
  · rw [if_neg hz] at hrest
    cases hrest
    have hflag : (decide (0 < p) || d.has .alternate) = decide (0 < p) := by
      cases halt : d.has .alternate
      · simp
      · simp only [halt, Bool.true_and, decide_eq_true_eq] at hz
        simp [Nat.pos_of_ne_zero hz]
    refine ⟨q, _, hq, ?_, rfl⟩
    rw [hflag]
    exact hpos.grouped d

/-- The `%e` digits, with the point that `#` asks for. -/
theorem exp_written (hmag : Double.Magnitude num den) (hp : p ≤ 100) (hinf : infinite = false)
    (h : (do
      let t ← expDigits num den p infinite
      if d.has .alternate && p = 0 then pure (pointBeforeExponent t) else pure t) = .ok body) :
    ExpWritten ((num : ℚ) / den) p (d.has .alternate) body := by
  subst hinf
  obtain ⟨t, ht, hrest⟩ := except_bind_eq_ok h
  obtain ⟨cs, hsci, heq⟩ := expDigits_scientific hmag hp
  obtain rfl := Except.ok.inj (heq.symm.trans ht)
  have hsig := scientific_spec hmag p
  by_cases hz : (d.has .alternate && p = 0) = true
  · rw [if_pos hz] at hrest
    cases hrest
    simp only [Bool.and_eq_true, decide_eq_true_eq] at hz
    obtain ⟨halt, rfl⟩ := hz
    obtain ⟨cs', hsci', heq⟩ := hsci.pointBeforeExponent
    exact ⟨_, _, cs', hsig, by simpa [halt] using hsci', heq⟩
  · rw [if_neg hz] at hrest
    cases hrest
    have hflag : (decide (0 < p) || d.has .alternate) = decide (0 < p) := by
      cases halt : d.has .alternate
      · simp
      · simp only [halt, Bool.true_and, decide_eq_true_eq] at hz
        simp [Nat.pos_of_ne_zero hz]
    refine ⟨_, _, cs, hsig, ?_, rfl⟩
    rw [hflag]
    exact hsci

/-- From exponent `-4` up a double's denominator divides `10^100`. -/
theorem dvd_ten_pow_of_sigRounds (hmag : Double.Magnitude num den) {f n : Nat} {X : Int}
    (hsig : SigRounds ((num : ℚ) / den) f n X) (h0 : num ≠ 0) (hX : -4 ≤ X) : den ∣ 10 ^ 100 := by
  have hden : (0 : ℚ) < den := by exact_mod_cast hmag.den_pos
  have hr : (num : ℚ) / den ≠ 0 := div_ne_zero (by exact_mod_cast h0) hden.ne'
  have hlow : (1 : ℚ) / 20000 ≤ num / den := by
    calc (1 : ℚ) / 20000 = (10 : ℚ) ^ (-4 : Int) / 2 := by norm_num
      _ ≤ (10 : ℚ) ^ X / 2 := by gcongr; norm_num
      _ ≤ num / den := hsig.half_le hr
  rw [div_le_div_iff₀ (by norm_num) hden, one_mul] at hlow
  have hnum : (0 : ℚ) ≤ num := by positivity
  exact hmag.dvd_ten_pow (by exact_mod_cast (show (den : ℚ) ≤ num * 10 ^ 5 by linarith))

/-- The `%g` digits: zero, positional digits grouped, or scientific digits. -/
theorem general_written (hmag : Double.Magnitude num den) (hp : p ≤ 101) (hinf : infinite = false)
    (h : (do
      let sig := if p = 0 then 1 else p
      if num = 0 then fixedDigits 0 1 (sig - 1) infinite
      else
        let ex := (Decimal.scientific num den (min (sig - 1) 100)).2
        if -4 ≤ ex ∧ ex < sig then do
          let t ← fixedDigits num den (((sig : Int) - 1 - ex).toNat) infinite
          pure (ofString (String.ofList
            (withGrouping (t.map fun (u : UInt16) => Char.ofNat u.toNat) d)))
        else expDigits num den (sig - 1) infinite) = .ok body) :
    GeneralWritten ((num : ℚ) / den) (max p 1) (d.has .grouping) body := by
  have hP : (if p = 0 then 1 else p) = max p 1 := by split <;> omega
  simp only [hP] at h
  have hP1 : max p 1 - 1 ≤ 100 := by omega
  rw [Nat.min_eq_left hP1] at h
  have hsig := scientific_spec hmag (max p 1 - 1)
  by_cases h0 : num = 0
  · -- zero: `P - 1` places of zeros
    rw [if_pos h0] at h
    subst h0
    have hzero : scientific 0 den (max p 1 - 1) = (0, 0) := by simp [scientific]
    rw [hzero] at hsig
    obtain ⟨q, cs, hq, hpos, rfl⟩ := fixedDigits_positional Double.Magnitude.zero (.inl hP1) h
    have hq0 : q = 0 := RoundsHalfUp.eq_of_natCast (by simpa using hq)
    subst hq0
    refine ⟨0, 0, cs, hsig, ?_, rfl⟩
    rw [if_pos (by omega), show ((max p 1 : Nat) - 1 - 0 : Int).toNat = max p 1 - 1 by omega,
      show decide (0 < ((max p 1 : Nat) : Int) - 1 - 0) = decide (0 < max p 1 - 1) from
        decide_eq_decide.2 (by omega)]
    exact hpos.ungrouped (by simp) _
  rw [if_neg h0] at h
  generalize hsci : scientific num den (max p 1 - 1) = sci at h hsig
  obtain ⟨n, X⟩ := sci
  dsimp only at h hsig
  split_ifs at h with hX
  · -- positional with `P - 1 - X` places, the same rounding as the significant digits
    obtain ⟨t, ht, hrest⟩ := except_bind_eq_ok h
    have hk : ((max p 1 : Nat) - 1 - X : Int).toNat ≤ 100 ∨ 10 ^ 21 * den ≤ num ∨ den ∣ 10 ^ 100 := by
      by_cases hk : ((max p 1 : Nat) - 1 - X : Int).toNat ≤ 100
      · exact .inl hk
      · exact .inr (.inr (dvd_ten_pow_of_sigRounds hmag hsig h0 hX.1))
    obtain ⟨q, cs, hq, hpos, rfl⟩ := fixedDigits_positional hmag hk ht
    have hqn : q = n := by
      refine hq.unique ?_
      unfold SigRounds at hsig
      rw [if_neg (div_ne_zero (by exact_mod_cast h0) (by exact_mod_cast hmag.den_pos.ne'))] at hsig
      rw [← zpow_natCast, Int.toNat_of_nonneg (by omega)]
      convert hsig.2.2 using 3
      omega
    subst hqn
    have hchars : (ofString (String.ofList cs)).map (fun u => Char.ofNat u.toNat) = cs :=
      chars_ofString_ofList fun c hc => Nat.lt_trans (hpos.lt_of_mem c hc) (by decide)
    simp only [hchars] at hrest
    cases hrest
    refine ⟨q, X, withGrouping cs d, hsig, ?_, rfl⟩
    rw [if_pos hX, show decide (0 < ((max p 1 : Nat) : Int) - 1 - X) =
      decide (0 < ((max p 1 : Nat) - 1 - X : Int).toNat) from decide_eq_decide.2 (by omega)]
    exact hpos.grouped d
  · -- scientific with `P - 1` places
    obtain ⟨cs, hcs, heq⟩ := expDigits_scientific hmag hP1
    rw [hinf, heq] at h
    obtain rfl := Except.ok.inj h.symm
    rw [hsci] at hcs
    refine ⟨n, X, cs, hsig, ?_, rfl⟩
    rw [if_neg hX, show decide (1 < max p 1) = decide (0 < max p 1 - 1) from
      decide_eq_decide.2 (by omega)]
    exact hcs

end law

section framed

/-- The sign text `a` and the rest `b` of a number, in upper case when `up`, brought to the
directive's width: as they are without one, else padded as `widened` pads them, counting the
units before upper case. -/
def Framed (d : Directive) (up : Bool) (a b out : Utf16) : Prop :=
  match d.width with
  | none => out = cased up a ++ cased up b
  | some w => out = widened w (d.has .left) (d.has .zero) (a.length + b.length) (cased up a) (cased up b)

/-- Without a width, `signed` puts the sign texts around the body and nothing else. -/
theorem signed_of_width_none {body out : Utf16} {neg : Bool} {flags : List Flag} {d : Directive}
    (hw : d.width = none) (h : signed body neg flags d = .ok out) :
    ∃ pre post, SignTexts neg pre post ∧ out = ofString pre ++ (body ++ ofString post) := by
  unfold signed at h
  generalize hsp : (if neg then (if flags.contains .parens then ("(", ")") else ("-", ""))
    else if flags.contains .plus then ("+", "") else if flags.contains .space then (" ", "")
    else ("", "") : String × String) = sp at h
  obtain ⟨pre, post⟩ := sp
  simp only [hw, pure_bind] at h
  obtain ⟨t, ht, hj⟩ := except_bind_eq_ok h
  rw [justify_of_width_none hw, bounded_ok ht] at hj
  cases hj
  exact ⟨pre, post, signTexts_of_choice hsp, List.append_assoc _ _ _⟩

/-- The last steps of every number renderer, sign texts, width and case, frame the body. -/
theorem signed_framed {body out : Utf16} {neg up : Bool} {d : Directive}
    (h : (do let t ← signed body neg d.flags d; if up then bounded t.toUpper else pure t) = .ok out) :
    ∃ pre post, SignTexts neg pre post ∧ Framed d up (ofString pre) (body ++ ofString post) out := by
  obtain ⟨t, hs, hu⟩ := except_bind_eq_ok h
  cases hw : d.width with
  | none =>
    obtain ⟨pre, post, hst, rfl⟩ := signed_of_width_none hw hs
    have hpre : ∀ u ∈ ofString pre, u.toNat < 0xD800 := fun u hu => by
      have := (ascii_signTexts hst).1 u hu
      omega
    refine ⟨pre, post, hst, ?_⟩
    simp only [Framed, hw]
    cases up with
    | false => exact (Except.ok.inj hu).symm
    | true =>
      simp only [if_true] at hu
      rw [bounded_ok hu, toUpper_append_of_lt_left hpre]
      rfl
  | some w =>
    obtain ⟨pre, post, hst, -, ht⟩ := @signed_widened _ _ _ _ d.flags _ _ hw rfl rfl rfl hs
    rw [ht] at hu
    obtain ⟨-, hout⟩ := upper_widened (fun u hu => by have := (ascii_signTexts hst).1 u hu; omega) hu
    exact ⟨pre, post, hst, by simpa only [Framed, hw, Directive.has] using hout⟩

end framed

section float

/-- The float conversions. -/
def floatConversions : List Conversion := [.sci, .sciUpper, .fixed, .general, .generalUpper]

/-- What a float conversion writes between its sign texts for the magnitude `r` and the
precision `p`: `p` places for `%f`, `p + 1` significant digits for `%e`, and `max p 1` for `%g`. -/
def FloatWritten (c : Conversion) (r : ℚ) (p : Nat) (alt grouping : Bool) (body : Utf16) : Prop :=
  match c with
  | .fixed => FixedWritten r p alt grouping body
  | .sci | .sciUpper => ExpWritten r p alt body
  | _ => GeneralWritten r (max p 1) grouping body

/-- The precisions whose digits are all computed: up to 100 places for `%f` and `%e`, up to 101
significant digits for `%g`. -/
def Computed (c : Conversion) (p : Nat) : Prop :=
  match c with
  | .general | .generalUpper => p ≤ 101
  | _ => p ≤ 100

theorem isFinite_ofNat_of_computed {c : Conversion} {p : Nat} (h : Computed c p) :
    (Double.ofNat p).isFinite = true := by
  have hp : p ≤ 101 := by unfold Computed at h; split at h <;> omega
  exact (Double.isNat_ofNat (by omega)).isFinite

/-- The digits a float conversion writes for the magnitude `num / den` and the precision `p`,
before the sign texts: the body of `float` for a finite number. -/
def floatBody (num den p : Nat) (d : Directive) : Except RenderError Utf16 :=
  let infinite := !(Double.ofNat p).isFinite
  match d.conversion with
  | .fixed => do
    let t ← fixedDigits num den p infinite
    let t := ofString (String.ofList (withGrouping (t.map (fun u => Char.ofNat u.toNat)) d))
    if d.has .alternate && p = 0 then bounded (t ++ [0x2E]) else pure t
  | .sci | .sciUpper => do
    let t ← expDigits num den p infinite
    if d.has .alternate && p = 0 then pure (pointBeforeExponent t) else pure t
  | _ => do
    let sig := if p = 0 then 1 else p
    if num = 0 then fixedDigits 0 1 (sig - 1) infinite
    else
      let ex := (Decimal.scientific num den (min (sig - 1) 100)).2
      if -4 ≤ ex ∧ ex < sig then do
        let t ← fixedDigits num den (((sig : Int) - 1 - ex).toNat) infinite
        pure (ofString (String.ofList (withGrouping (t.map (fun u => Char.ofNat u.toNat)) d)))
      else expDigits num den (sig - 1) infinite

/-- A finite number is rendered as its digits, then its sign texts, width and case. -/
theorem float_eq_bind {x : Double} (hfin : x.isFinite = true) (d : Directive) :
    float x d = floatBody x.magnitude.1 x.magnitude.2 (d.precision.getD 6) d >>= (fun body => do
      let t ← signed body x.signBit d.flags d
      if d.conversion.isUpper then bounded t.toUpper else pure t) := by
  unfold float floatBody
  rw [if_neg (by simp [hfin])]
  obtain ⟨num, den⟩ := x.magnitude
  dsimp only
  generalize d.conversion = c
  -- the rest of the rendering stands in every branch; it comes out of each bind and `if`
  cases c <;> dsimp only
  all_goals try (simp only [bind_assoc]; congr 1; funext t; split <;> rfl)
  all_goals
    generalize (if d.precision.getD 6 = 0 then 1 else d.precision.getD 6) = sig
    split
    · rfl
    · split <;> simp only [bind_assoc, pure_bind]

/-- From `10^21` up the magnitude of a double is its own `%f` digits. -/
theorem big_of_le {num den : Nat} (hden : 0 < den) (h : (10 : ℚ) ^ 21 ≤ (num : ℚ) / den) :
    10 ^ 21 * den ≤ num := by
  rw [le_div_iff₀ (by exact_mod_cast hden)] at h
  exact_mod_cast h

/-- The digits of each float conversion follow its rounding law. -/
theorem floatBody_written {num den p : Nat} {d : Directive} {body : Utf16}
    (hmag : Double.Magnitude num den) (hc : d.conversion ∈ floatConversions)
    (hp : Computed d.conversion p ∨ (d.conversion = .fixed ∧ 10 ^ 21 * den ≤ num))
    (h : floatBody num den p d = .ok body) :
    FloatWritten d.conversion ((num : ℚ) / den) p (d.has .alternate) (d.has .grouping) body := by
  have hcomputed : ∀ c, d.conversion = c → c ≠ .fixed → Computed c p := fun c hc hne =>
    hp.elim (fun h => hc ▸ h) fun h => absurd (hc ▸ h.1) hne
  have hfinite : ∀ c, d.conversion = c → c ≠ .fixed → (!(Double.ofNat p).isFinite) = false :=
    fun c hc hne => by simp [isFinite_ofNat_of_computed (hcomputed c hc hne)]
  simp only [floatConversions, List.mem_cons, List.not_mem_nil, or_false] at hc
  rcases hc with hc | hc | hc | hc | hc <;> simp only [floatBody, hc] at h ⊢
  · exact exp_written hmag (hcomputed _ hc (by decide)) (hfinite _ hc (by decide)) h
  · exact exp_written hmag (hcomputed _ hc (by decide)) (hfinite _ hc (by decide)) h
  · exact fixed_written hmag (hp.imp (fun h => by rwa [hc] at h) And.right) h
  · exact general_written hmag (hcomputed _ hc (by decide)) (hfinite _ hc (by decide)) h
  · exact general_written hmag (hcomputed _ hc (by decide)) (hfinite _ hc (by decide)) h

/-- A finite double `m · 2^e` is written by a float conversion as its magnitude rounded as the
conversion says, with the sign texts of its sign bit around it, framed by the width and put in
upper case by `%E` and `%G`. -/
theorem float_written {x : Double} {neg : Bool} {m : Nat} {e : Int} (hx : x.kind = .finite neg m e)
    {d : Directive} (hc : d.conversion ∈ floatConversions)
    (hp : Computed d.conversion (d.precision.getD 6) ∨
      (d.conversion = .fixed ∧ (10 : ℚ) ^ 21 ≤ m * 2 ^ e))
    {out : Utf16} (h : float x d = .ok out) :
    ∃ body pre post, FloatWritten d.conversion ((m : ℚ) * 2 ^ e) (d.precision.getD 6)
        (d.has .alternate) (d.has .grouping) body ∧ SignTexts neg pre post ∧
      Framed d d.conversion.isUpper (ofString pre) (body ++ ofString post) out := by
  have hfin := Double.isFinite_of_kind hx
  have hmag := Double.magnitude_of_isFinite hfin
  rw [float_eq_bind hfin] at h
  obtain ⟨body, hbody, hrest⟩ := except_bind_eq_ok h
  obtain ⟨pre, post, hs, hf⟩ := signed_framed hrest
  refine ⟨body, pre, post, ?_, Double.signBit_of_kind hx ▸ hs, hf⟩
  rw [← Double.magnitude_div_of_kind hx] at hp ⊢
  exact floatBody_written hmag hc (hp.imp_right fun h => ⟨h.1, big_of_le hmag.den_pos h.2⟩) hbody

end float

section renders

/-! Lengths: every body a float conversion computes is a few hundred units, far below
`maxLength`, so only the width can make the rendering too long. -/

theorem length_ofString_le (s : String) : (ofString s).length ≤ 2 * s.length := by
  rw [← String.length_toList, ofString]
  induction s.toList with
  | nil => simp
  | cons c cs ih =>
    rw [List.flatMap_cons, List.length_append, length_ofCodePoint, List.length_cons]
    split <;> omega

theorem padStart_of_le {t : Utf16} {target : Nat} (h : target ≤ maxLength) (fill : UInt16) :
    padStart t target fill = .ok (List.replicate (target - t.length) fill ++ t) := by
  unfold padStart
  split_ifs with hshort hlong
  · rw [Nat.sub_eq_zero_of_le hshort]
    rfl
  · omega
  · rfl

theorem padEnd_of_le {t : Utf16} {target : Nat} (h : target ≤ maxLength) :
    padEnd t target = .ok (t ++ spaces (target - t.length)) := by
  unfold padEnd
  split_ifs with hshort hlong
  · rw [Nat.sub_eq_zero_of_le hshort]
    simp [spaces]
  · omega
  · rfl

theorem zeroRun_of_le {count : Nat} (h : count ≤ maxLength) : zeroRun count false = .ok (zeros count) := by
  simp [zeroRun, Nat.not_lt.2 h]

/-- A width within `maxLength` pads any text: to the width, or not at all. -/
theorem justify_of_le {t : Utf16} {d : Directive} (hw : d.width.getD 0 ≤ maxLength) (ht : Ascii t) :
    ∃ out, justify t d = .ok out ∧ Ascii out ∧ out.length ≤ max (d.width.getD 0) t.length := by
  cases hwd : d.width with
  | none => exact ⟨t, by simp [justify, hwd], ht, by omega⟩
  | some w =>
    rw [hwd, Option.getD_some] at hw
    have hsp : Ascii (spaces (w - t.length)) := fun u hu => by rw [List.eq_of_mem_replicate hu]; decide
    simp only [justify, hwd, Option.getD_some]
    split
    · exact ⟨_, padEnd_of_le hw, ascii_append ht hsp,
        by simp only [List.length_append, spaces, List.length_replicate]; omega⟩
    · exact ⟨_, padStart_of_le hw 0x20, ascii_append hsp ht,
        by simp only [List.length_append, List.length_replicate]; omega⟩

/-- A rounding to an integer is at most one more than the numerator. -/
theorem roundHalfUp_le (a : Nat) {b : Nat} (hb : 0 < b) : roundHalfUp a b ≤ a + 1 := by
  unfold roundHalfUp
  apply Nat.div_le_of_le_mul
  nlinarith

/-- The integer digits of a double's magnitude, or of one more, are at most 309. -/
theorem length_toDigits_le {num den n : Nat} (hmag : Double.Magnitude num den) (hn : n ≤ num + 1) :
    (Nat.toDigits 10 n).length ≤ 309 := by
  have hlt : num + 1 ≤ 2 ^ 1024 := hmag.num_lt
  exact (Nat.length_toDigits_le_iff (by decide) (by decide)).2
    (lt_of_le_of_lt (le_trans hn hlt) (by decide +kernel))

theorem length_fixedText_le {num den : Nat} (hmag : Double.Magnitude num den) (f : Nat) :
    (fixedText num den f).length ≤ 310 + f := by
  obtain ⟨fp, hlen, -, -, hcs⟩ := fixedText_positional num den f
  have hR : roundHalfUp (num * 10 ^ f) den / 10 ^ f ≤ num + 1 := by
    apply Nat.div_le_of_le_mul
    have hround := roundHalfUp_le (num * 10 ^ f) hmag.den_pos
    have hpow : 1 ≤ 10 ^ f := Nat.one_le_pow _ _ (by decide)
    nlinarith
  have hdigits := length_toDigits_le hmag hR
  rw [← String.length_toList, hcs]
  simp only [Bool.false_eq_true, if_false]
  split_ifs <;> simp [hlen] <;> omega

/-- `%f` digits up to 104 places: they are computed, and short. -/
theorem fixedDigits_renders {num den p : Nat} (hmag : Double.Magnitude num den) (hp : p ≤ 104) :
    ∃ t, fixedDigits num den p false = .ok t ∧ t.length ≤ 1100 := by
  have hmax : 104 ≤ maxLength := by unfold maxLength; omega
  unfold fixedDigits
  simp only [Nat.pow_eq]
  split_ifs with hbig hpos hlarge
  · -- the whole number, a point and zeros
    have hw := length_ofString_le (Nat.repr (num / den))
    rw [← String.length_toList, Nat.toList_repr] at hw
    have hd := length_toDigits_le hmag (Nat.le_succ_of_le (Nat.div_le_self num den))
    rw [zeroRun_of_le (by omega), ok_bind, bounded_of_length_le (by simp [Utf16.zeros]; unfold maxLength; omega)]
    exact ⟨_, rfl, by simp [Utf16.zeros]; omega⟩
  · have hw := length_ofString_le (Nat.repr (num / den))
    rw [← String.length_toList, Nat.toList_repr] at hw
    have hd := length_toDigits_le hmag (Nat.le_succ_of_le (Nat.div_le_self num den))
    exact ⟨_, rfl, by omega⟩
  · -- 100 computed places, then zeros
    have hw := le_trans (length_ofString_le (fixedText num den 100))
      (Nat.mul_le_mul_left 2 (length_fixedText_le hmag 100))
    rw [zeroRun_of_le (by omega), ok_bind, bounded_of_length_le (by simp [Utf16.zeros]; unfold maxLength; omega)]
    exact ⟨_, rfl, by simp [Utf16.zeros]; omega⟩
  · have hw := le_trans (length_ofString_le (fixedText num den p))
      (Nat.mul_le_mul_left 2 (length_fixedText_le hmag p))
    exact ⟨_, rfl, by omega⟩

/-- `%e` digits up to 100 places: they are computed, and short. -/
theorem expDigits_renders {num den p : Nat} (hmag : Double.Magnitude num den) (hp : p ≤ 100) :
    ∃ t, expDigits num den p false = .ok t ∧ t.length ≤ 300 := by
  obtain ⟨cs, ⟨c, fp, es, hfp, -, -, hes, -, rfl⟩, heq⟩ := expDigits_scientific hmag hp
  have hX := natAbs_lt_of_sigRounds hmag (scientific_spec hmag p)
  have hesl : es.length ≤ 4 := by
    rw [hes]
    have := (Nat.length_toDigits_le_iff (b := 10) (by decide) (by decide)).2 hX
    omega
  refine ⟨_, heq, le_trans (length_ofString_le _) ?_⟩
  rw [String.length_ofList]
  split_ifs <;> simp <;> omega

theorem length_pointBeforeExponent_le (t : Utf16) : (pointBeforeExponent t).length ≤ t.length + 1 := by
  induction t with
  | nil => simp [pointBeforeExponent]
  | cons u rest ih =>
    unfold pointBeforeExponent
    split
    · simp
    · simpa using ih

theorem length_group_go_le (ds : List Char) : (group.go ds).length ≤ 2 * ds.length := by
  fun_induction group.go ds <;> simp_all <;> omega

theorem length_withGrouping_le (cs : List Char) (d : Directive) :
    (withGrouping cs d).length ≤ 2 * cs.length := by
  unfold withGrouping
  split
  · have hgo := length_group_go_le (cs.takeWhile (· ≠ '.')).reverse
    have hsplit := congrArg List.length (List.takeWhile_append_dropWhile (p := (· ≠ '.')) (l := cs))
    simp only [group, List.length_append, List.length_reverse] at hgo hsplit ⊢
    omega
  · omega

/-- Grouping a text of ASCII digits keeps it ASCII and at most doubles it, twice over in units. -/
theorem length_grouped_le (t : Utf16) (d : Directive) :
    (ofString (String.ofList (withGrouping (t.map fun (u : UInt16) => Char.ofNat u.toNat) d))).length ≤
      4 * t.length := by
  have h := length_ofString_le (String.ofList (withGrouping (t.map fun (u : UInt16) => Char.ofNat u.toNat) d))
  have hg := length_withGrouping_le (t.map fun (u : UInt16) => Char.ofNat u.toNat) d
  rw [String.length_ofList] at h
  simp only [List.length_map] at hg
  omega

/-- Every float conversion computes its digits for a computed precision: an ASCII body of at
most 5000 units. -/
theorem floatBody_renders {num den p : Nat} {d : Directive} (hmag : Double.Magnitude num den)
    (hc : d.conversion ∈ floatConversions) (hp : Computed d.conversion p) :
    ∃ body, floatBody num den p d = .ok body ∧ Ascii body ∧ body.length ≤ 5000 := by
  have hinf : (!(Double.ofNat p).isFinite) = false := by simp [isFinite_ofNat_of_computed hp]
  simp only [floatConversions, List.mem_cons, List.not_mem_nil, or_false] at hc
  rcases hc with hc | hc | hc | hc | hc <;> rw [hc] at hp <;> simp only [Computed] at hp <;>
    simp only [floatBody, hc, hinf]
  all_goals first
    | -- `%e` and `%E`
      obtain ⟨t, ht, hlen⟩ := expDigits_renders hmag hp
      rw [ht, ok_bind]
      have hA := ascii_expDigits ht
      split
      · exact ⟨_, rfl, ascii_pointBeforeExponent hA,
          by have := length_pointBeforeExponent_le t; omega⟩
      · exact ⟨_, rfl, hA, by omega⟩
    | -- `%f`
      obtain ⟨t, ht, hlen⟩ := fixedDigits_renders hmag (show p ≤ 104 by omega)
      rw [ht, ok_bind]
      have hA := ascii_grouped (ascii_fixedDigits ht) d
      have hg := length_grouped_le t d
      split
      · rw [bounded_of_length_le (by simp; unfold maxLength; omega)]
        exact ⟨_, rfl, ascii_append hA ascii_point, by simp; omega⟩
      · exact ⟨_, rfl, hA, by omega⟩
    | -- `%g` and `%G`: zero, positional or scientific
      have hsig : (if p = 0 then 1 else p) - 1 ≤ 100 ∧ (if p = 0 then 1 else p) ≤ 101 := by
        split <;> omega
      generalize (if p = 0 then 1 else p) = sig at hsig ⊢
      split
      · obtain ⟨t, ht, hlen⟩ := fixedDigits_renders Double.Magnitude.zero (p := sig - 1) (by omega)
        exact ⟨t, ht, ascii_fixedDigits ht, by omega⟩
      · split
        · next hX =>
          obtain ⟨t, ht, hlen⟩ := fixedDigits_renders hmag
            (p := ((sig : Int) - 1 - (Decimal.scientific num den (min (sig - 1) 100)).2).toNat) (by omega)
          rw [ht, ok_bind]
          have hg := length_grouped_le t d
          exact ⟨_, rfl, ascii_grouped (ascii_fixedDigits ht) d, by omega⟩
        · obtain ⟨t, ht, hlen⟩ := expDigits_renders hmag hsig.1
          exact ⟨t, ht, ascii_expDigits ht, by omega⟩

/-- The sign texts, the width and the case take any short ASCII body to a text within
`maxLength` when the width is within it. -/
theorem signed_renders {body : Utf16} (hb : Ascii body) (hlen : body.length ≤ 5000) {neg up : Bool}
    {d : Directive} (hw : d.width.getD 0 ≤ maxLength) :
    ∃ out, (do let t ← signed body neg d.flags d; if up then bounded t.toUpper else pure t) = .ok out := by
  unfold signed
  generalize hsp : (if neg then (if d.flags.contains .parens then ("(", ")") else ("-", ""))
    else if d.flags.contains .plus then ("+", "") else if d.flags.contains .space then (" ", "")
    else ("", "") : String × String) = sp
  obtain ⟨pre, post⟩ := sp
  have hs := signTexts_of_choice hsp
  obtain ⟨hpreA, hpostA⟩ := ascii_signTexts hs
  obtain ⟨hlpre, hlpost⟩ := length_ofString_signTexts hs
  have hshort : pre.length ≤ 1 ∧ post.length ≤ 1 := by cases hs <;> decide
  have hmax : 5002 ≤ maxLength := by unfold maxLength; omega
  -- what follows the zeros of `0`: the sign texts around the body, the width and the case
  have hrest : ∀ b : Utf16, Ascii b →
      b.length + pre.length + post.length ≤ max (d.width.getD 0) (body.length + 2) →
      ∃ out, (do
        let t ← (do let t ← bounded (ofString pre ++ b ++ ofString post); justify t d)
        if up then bounded t.toUpper else pure t) = .ok out := by
    intro b hbA hblen
    have htA : Ascii (ofString pre ++ b ++ ofString post) :=
      ascii_append (ascii_append hpreA hbA) hpostA
    rw [bounded_of_length_le (by simp only [List.length_append]; omega), ok_bind]
    obtain ⟨j, hj, hjA, hjlen⟩ := justify_of_le (d := d) hw htA
    rw [hj, ok_bind]
    cases up with
    | false => exact ⟨j, rfl⟩
    | true =>
      refine ⟨_, bounded_of_length_le ?_⟩
      rw [length_toUpper_of_lt fun u hu => by have := hjA u hu; omega]
      simp only [List.length_append] at hjlen
      omega
  cases hwd : d.width with
  | none => exact hrest body hb (by simp only [hwd, Option.getD_none]; omega)
  | some w =>
    rw [hwd, Option.getD_some] at hw
    dsimp only
    split
    · -- the zeros fill the width less the sign texts, and never more
      rw [padStart_of_le (by omega), ok_bind]
      have hfill : (List.replicate (w - pre.length - post.length - body.length) (0x30 : UInt16) ++
          body).length + pre.length + post.length ≤ max w (body.length + 2) := by
        simp only [List.length_append, List.length_replicate]
        omega
      exact hrest _ (ascii_append (ascii_zeros _) hb) (by simpa only [hwd, Option.getD_some] using hfill)
    · exact hrest body hb (by simp only [hwd, Option.getD_some]; omega)

/-- A finite double renders under every float conversion whose precision is computed, when the
width is within `maxLength`. -/
theorem float_renders {x : Double} {neg : Bool} {m : Nat} {e : Int} (hx : x.kind = .finite neg m e)
    {d : Directive} (hc : d.conversion ∈ floatConversions) (hp : Computed d.conversion (d.precision.getD 6))
    (hw : d.width.getD 0 ≤ maxLength) : ∃ out, float x d = .ok out := by
  have hfin := Double.isFinite_of_kind hx
  obtain ⟨body, hbody, hA, hlen⟩ := floatBody_renders (Double.magnitude_of_isFinite hfin) hc hp
  rw [float_eq_bind hfin, hbody, ok_bind]
  exact signed_renders hA hlen hw

end renders

section written

/-- A float conversion renders a number through `float`. -/
theorem directive_num {d : Directive} (hc : d.conversion ∈ floatConversions) (x : Double) :
    directive d (.num x) = float x d := by
  simp only [floatConversions, List.mem_cons, List.not_mem_nil, or_false] at hc
  rcases hc with hc | hc | hc | hc | hc <;> simp [directive, hc]

/-- The float conversions write the correctly rounded decimal of a finite double `m · 2^e`,
a half rounding up: with a computed precision and a width within `maxLength` the directive
renders; and whenever it renders with a computed precision, or under `%f` from `10^21` up, its
text is the rounded magnitude (`FloatWritten`: `p` places for `%f`, `p + 1` significant digits
for `%e`, `max p 1` for `%g`, positional exactly when the rounded exponent lies in
`[-4, max p 1)`), with the sign texts of the sign bit, framed by the width and in upper case
for `%E` and `%G`. -/
theorem float_writes_rounded {x : Double} {neg : Bool} {m : Nat} {e : Int}
    (hx : x.kind = .finite neg m e) {d : Directive} (hc : d.conversion ∈ floatConversions) :
    (Computed d.conversion (d.precision.getD 6) → d.width.getD 0 ≤ maxLength →
      ∃ out, directive d (.num x) = .ok out) ∧
    (Computed d.conversion (d.precision.getD 6) ∨
        (d.conversion = .fixed ∧ (10 : ℚ) ^ 21 ≤ m * 2 ^ e) →
      ∀ out, directive d (.num x) = .ok out →
        ∃ body pre post, FloatWritten d.conversion ((m : ℚ) * 2 ^ e) (d.precision.getD 6)
            (d.has .alternate) (d.has .grouping) body ∧ SignTexts neg pre post ∧
          Framed d d.conversion.isUpper (ofString pre) (body ++ ofString post) out) := by
  rw [directive_num hc]
  exact ⟨float_renders hx hc, fun hp _ h => float_written hx hc hp h⟩

/-- One, `2^52 · 2^-52`, with two places. -/
theorem float_writes_rounded_one :
    (Double.pack false 1023 0).kind = .finite false (2 ^ 52) (-52) ∧
    Directive.conversion ⟨"%.2f", [], none, some 2, .fixed⟩ ∈ floatConversions ∧
    ((Computed Conversion.fixed 2 → (none : Option Nat).getD 0 ≤ maxLength →
      ∃ out, directive ⟨"%.2f", [], none, some 2, .fixed⟩ (.num (Double.pack false 1023 0)) = .ok out) ∧
    (Computed Conversion.fixed 2 ∨ (Conversion.fixed = .fixed ∧ (10 : ℚ) ^ 21 ≤ (2 ^ 52 : Nat) * 2 ^ (-52 : Int)) →
      ∀ out, directive ⟨"%.2f", [], none, some 2, .fixed⟩ (.num (Double.pack false 1023 0)) = .ok out →
        ∃ body pre post, FloatWritten Conversion.fixed (((2 ^ 52 : Nat) : ℚ) * 2 ^ (-52 : Int)) 2
            (Directive.has ⟨"%.2f", [], none, some 2, .fixed⟩ .alternate)
            (Directive.has ⟨"%.2f", [], none, some 2, .fixed⟩ .grouping) body ∧
          SignTexts false pre post ∧
          Framed ⟨"%.2f", [], none, some 2, .fixed⟩ Conversion.fixed.isUpper (ofString pre)
            (body ++ ofString post) out)) := by
  have hk : (Double.pack false 1023 0).kind = .finite false (2 ^ 52) (-52) := by
    simpa using @Double.kind_pack false 1023 0 (by omega) (by omega) (by omega)
  have hc : Directive.conversion ⟨"%.2f", [], none, some 2, .fixed⟩ ∈ floatConversions := by
    simp [floatConversions]
  exact ⟨hk, hc, float_writes_rounded hk hc⟩

/-- `%f` of `10^21` with 536870889 places is refused: the digits, a point and the places make
more than `maxLength` units. -/
theorem float_huge_precision_too_long :
    7629394531250000 * 2 ^ 17 = 10 ^ 21 ∧
    (Double.pack false 1092 (7629394531250000 - 2 ^ 52)).kind = .finite false 7629394531250000 17 ∧
    directive ⟨"%.536870889f", [], none, some 536870889, .fixed⟩
      (.num (Double.pack false 1092 (7629394531250000 - 2 ^ 52))) = .error .tooLong := by
  have hk : (Double.pack false 1092 (7629394531250000 - 2 ^ 52)).kind =
      .finite false 7629394531250000 17 := by
    have h := @Double.kind_pack false 1092 (7629394531250000 - 2 ^ 52)
      (by omega) (by omega) (by omega)
    rw [h]
    congr 1
  have hmag : (Double.pack false 1092 (7629394531250000 - 2 ^ 52)).magnitude = (10 ^ 21, 1) := by
    unfold Double.magnitude Double.ratio?
    rw [hk]
    rfl
  have hinf : (!(Double.ofNat 536870889).isFinite) = false := by
    simp [(Double.isNat_ofNat (by omega : 536870889 < 2 ^ 53)).isFinite]
  refine ⟨by norm_num, hk, ?_⟩
  rw [directive_num (by simp [floatConversions]), float_eq_bind (Double.isFinite_of_kind hk), hmag]
  simp only [floatBody, hinf, Option.getD_some, fixedDigits]
  rw [if_pos (by norm_num), if_pos (by omega), zeroRun, if_neg (by decide), if_pos (by unfold maxLength; omega)]
  rfl

end written

end Render

end FolderSink
