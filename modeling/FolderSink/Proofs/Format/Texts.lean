import FolderSink.Format.Render
import Mathlib.Tactic.SplitIfs
/-! The texts that rendering builds, taken apart. A padding, a sign or a bound that succeeds
leaves a text of a known shape (`justify_ok`, `padStart_ok`, `signed_ok`): spaces around,
sign texts, zeros, then the body. The characters of a text whose units stand below the
surrogates are read with `Utf16.chars`, and upper case on ASCII text goes character by
character (`Utf16.chars_toUpper`). -/
namespace FolderSink

/-- Below U+00B5 only the ASCII letters change case, each to the letter 32 places down. -/
theorem upperOf_of_lt {n : Nat} (h : n < 0xB5) :
    upperOf n = [if 0x61 ≤ n ∧ n ≤ 0x7A then n - 32 else n] := by
  have hspecial : ∀ p ∈ upperSpecial, 0xDF ≤ p.1 := by decide +kernel
  have hruns : ∀ r ∈ upperRuns.tail, 0xB5 ≤ r.first := by decide +kernel
  have hlookup : upperSpecial.lookup n = none := by
    rw [List.lookup_eq_none_iff]
    intro p hp
    have := hspecial p hp
    simp only [bne_iff_ne, ne_eq]
    omega
  have hrest : upperRuns.tail.find? (·.holds n) = none := by
    rw [List.find?_eq_none]
    intro r hr
    have := hruns r hr
    simp only [CaseRun.holds, Bool.and_eq_true, decide_eq_true_eq, not_and]
    omega
  have hfirst : upperRuns = ⟨0x61, 26, 1, -32⟩ :: upperRuns.tail := rfl
  simp only [upperOf, hlookup]
  rw [hfirst, List.find?_cons, hrest]
  by_cases hl : 0x61 ≤ n ∧ n ≤ 0x7A
  · have hh : CaseRun.holds ⟨0x61, 26, 1, -32⟩ n = true := by
      simp [CaseRun.holds]; omega
    simp only [hh, hl, and_self, if_true]
    congr 2
    omega
  · have hh : CaseRun.holds ⟨0x61, 26, 1, -32⟩ n = false := by
      simp [CaseRun.holds]; omega
    simp only [hh, hl, if_false]

namespace Utf16

/-- The characters of a text whose units all stand below the surrogates, one unit each. -/
def chars (t : Utf16) : List Char := t.map fun u => Char.ofNat u.toNat

@[simp] theorem chars_append (s t : Utf16) : chars (s ++ t) = chars s ++ chars t :=
  List.map_append

@[simp] theorem chars_spaces (k : Nat) : chars (spaces k) = List.replicate k ' ' := by
  simp only [chars, spaces, List.map_replicate]
  rfl

@[simp] theorem chars_zeros (k : Nat) : chars (zeros k) = List.replicate k '0' := by
  simp only [chars, zeros, List.map_replicate]
  rfl

theorem chars_ofCodePoint {c : Char} (h : c.toNat < 0x10000) : chars (ofCodePoint c.toNat) = [c] := by
  simp [chars, ofCodePoint, h, Nat.toUInt16, Nat.mod_eq_of_lt h]

theorem chars_flatMap_ofCodePoint {cs : List Char} (h : ∀ c ∈ cs, c.toNat < 0x10000) :
    chars (cs.flatMap fun c => ofCodePoint c.toNat) = cs := by
  induction cs with
  | nil => rfl
  | cons c cs ih =>
    rw [List.flatMap_cons, chars_append, chars_ofCodePoint (h c List.mem_cons_self),
      ih (fun c' hc' => h c' (List.mem_cons_of_mem c hc'))]
    rfl

/-- A string of characters below U+10000 takes one unit a character and reads back. -/
theorem chars_ofString {s : String} (h : ∀ c ∈ s.toList, c.toNat < 0x10000) :
    chars (ofString s) = s.toList :=
  chars_flatMap_ofCodePoint h

theorem chars_ofString_ofList {cs : List Char} (h : ∀ c ∈ cs, c.toNat < 0x10000) :
    chars (ofString (String.ofList cs)) = cs := by
  rw [chars_ofString (by rwa [String.toList_ofList]), String.toList_ofList]

/-- Units below the surrogates are code points of their own. -/
theorem codePoints_of_lt {t : Utf16} (h : ∀ u ∈ t, u.toNat < 0xD800) :
    t.codePoints = t.map UInt16.toNat := by
  fun_induction codePoints t with
  | case1 => rfl
  | case2 u => rfl
  | case3 u v rest hhigh =>
    have hu : isHigh u = false := by
      simp only [isHigh, Bool.and_eq_false_iff, decide_eq_false_iff_not]
      exact .inl (by have := h u List.mem_cons_self; omega)
    simp [hu] at hhigh
  | case4 u v rest _ ih =>
    rw [ih (fun w hw => h w (List.mem_cons_of_mem u hw))]
    rfl

/-- Upper case of a text of units below U+00B5 moves each small letter 32 places down. -/
theorem toUpper_of_lt {t : Utf16} (h : ∀ u ∈ t, u.toNat < 0xB5) :
    t.toUpper = t.map fun u =>
      (if 0x61 ≤ u.toNat ∧ u.toNat ≤ 0x7A then u.toNat - 32 else u.toNat).toUInt16 := by
  unfold toUpper
  rw [codePoints_of_lt (fun u hu => by have := h u hu; omega)]
  induction t with
  | nil => rfl
  | cons u t ih =>
    have hu := h u List.mem_cons_self
    simp only [List.map_cons, List.flatMap_cons, upperOf_of_lt hu, ofCodePoints,
      List.flatMap_append] at ih ⊢
    rw [ih (fun w hw => h w (List.mem_cons_of_mem u hw))]
    have hlt : (if 0x61 ≤ u.toNat ∧ u.toNat ≤ 0x7A then u.toNat - 32 else u.toNat) < 0x10000 := by
      split <;> omega
    simp [ofCodePoint, hlt]

/-- Upper case of a text of units below U+00B5 goes character by character. -/
theorem chars_toUpper {t : Utf16} (h : ∀ u ∈ t, u.toNat < 0xB5) :
    chars t.toUpper = (chars t).map Char.toUpper := by
  have key : ∀ n : Fin 0xB5,
      Char.ofNat (if 0x61 ≤ n.val ∧ n.val ≤ 0x7A then n.val - 32 else n.val) =
        (Char.ofNat n).toUpper := by decide +kernel
  rw [toUpper_of_lt h, chars, chars, List.map_map, List.map_map]
  apply List.map_congr_left
  intro u hu
  have hlt := h u hu
  have hsmall : (if 0x61 ≤ u.toNat ∧ u.toNat ≤ 0x7A then u.toNat - 32 else u.toNat) < 0x10000 := by
    split <;> omega
  simpa [Nat.toUInt16, Nat.mod_eq_of_lt hsmall] using key ⟨u.toNat, hlt⟩

/-- A join splits into code points at the seam unless a high surrogate meets a low one there. -/
theorem codePoints_append {a b : Utf16}
    (h : (∀ u ∈ a.getLast?, isHigh u = false) ∨ ∀ v ∈ b.head?, isLow v = false) :
    (a ++ b).codePoints = a.codePoints ++ b.codePoints := by
  fun_induction codePoints a with
  | case1 => rfl
  | case2 u =>
    cases b with
    | nil => rfl
    | cons v rest =>
      have hpair : (isHigh u && isLow v) = false := by
        rcases h with h | h
        · simp [h u rfl]
        · simp [h v rfl]
      simp only [List.cons_append, List.nil_append, codePoints, hpair, Bool.false_eq_true, if_false]
  | case3 u v rest hpair ih =>
    -- the pair `u v` is whole on both sides; the seam condition passes to `rest`
    have hrest : (∀ u ∈ rest.getLast?, isHigh u = false) ∨ ∀ v ∈ b.head?, isLow v = false := by
      rcases h with h | h
      · refine .inl fun x hx => h x ?_
        rw [List.getLast?_cons_cons]
        cases rest with
        | nil => simp at hx
        | cons y ys => rw [List.getLast?_cons_cons] at *; simpa using hx
      · exact .inr h
    simp only [List.cons_append, codePoints, hpair, if_true, ih hrest, List.cons_append]
  | case4 u v rest hpair ih =>
    have hrest : (∀ u ∈ (v :: rest).getLast?, isHigh u = false) ∨ ∀ v ∈ b.head?, isLow v = false := by
      rcases h with h | h
      · exact .inl fun x hx => h x (by rwa [List.getLast?_cons_cons])
      · exact .inr h
    simp only [List.cons_append, codePoints, hpair, Bool.false_eq_true, if_false]
    rw [← List.cons_append, ih hrest]

theorem isHigh_eq_false_of_lt {u : UInt16} (h : u.toNat < 0xD800) : isHigh u = false := by
  simp only [isHigh, Bool.and_eq_false_iff, decide_eq_false_iff_not]
  omega

theorem isLow_eq_false_of_lt {u : UInt16} (h : u.toNat < 0xD800) : isLow u = false := by
  simp only [isLow, Bool.and_eq_false_iff, decide_eq_false_iff_not]
  omega

/-- Upper case goes piece by piece across a join where no surrogate pair is cut. -/
theorem toUpper_append {a b : Utf16}
    (h : (∀ u ∈ a.getLast?, isHigh u = false) ∨ ∀ v ∈ b.head?, isLow v = false) :
    (a ++ b).toUpper = a.toUpper ++ b.toUpper := by
  simp only [toUpper, codePoints_append h, List.flatMap_append, ofCodePoints]

theorem toUpper_append_of_lt_left {a b : Utf16} (ha : ∀ u ∈ a, u.toNat < 0xD800) :
    (a ++ b).toUpper = a.toUpper ++ b.toUpper :=
  toUpper_append (.inl fun u hu => isHigh_eq_false_of_lt (ha u (List.mem_of_mem_getLast? hu)))

theorem toUpper_append_of_lt_right {a b : Utf16} (hb : ∀ v ∈ b, v.toNat < 0xD800) :
    (a ++ b).toUpper = a.toUpper ++ b.toUpper :=
  toUpper_append (.inr fun v hv => isLow_eq_false_of_lt (hb v (List.mem_of_mem_head? hv)))

/-- Upper case keeps the length of a text of units below U+00B5. -/
theorem length_toUpper_of_lt {t : Utf16} (h : ∀ u ∈ t, u.toNat < 0xB5) :
    t.toUpper.length = t.length := by
  rw [toUpper_of_lt h, List.length_map]

theorem toUpper_replicate {k : Nat} {u : UInt16} (hu : u.toNat < 0x61) :
    toUpper (List.replicate k u) = List.replicate k u := by
  rw [toUpper_of_lt (fun x hx => by rw [List.eq_of_mem_replicate hx]; omega), List.map_replicate]
  congr
  rw [if_neg (by omega)]
  simp [Nat.toUInt16]

@[simp] theorem toUpper_spaces (k : Nat) : (spaces k).toUpper = spaces k :=
  toUpper_replicate (by decide)

@[simp] theorem toUpper_zeros (k : Nat) : (zeros k).toUpper = zeros k :=
  toUpper_replicate (by decide)

theorem lt_of_mem_spaces {k : Nat} {u : UInt16} (hu : u ∈ spaces k) : u.toNat < 0xD800 := by
  rw [List.eq_of_mem_replicate hu]
  decide

theorem lt_of_mem_zeros {k : Nat} {u : UInt16} (hu : u ∈ zeros k) : u.toNat < 0xD800 := by
  rw [List.eq_of_mem_replicate hu]
  decide

/-- The units of a string of characters below a bound under U+10000 stay below it. -/
theorem lt_of_mem_ofString {s : String} {m : Nat} (hm : m ≤ 0x10000)
    (h : ∀ c ∈ s.toList, c.toNat < m) {u : UInt16} (hu : u ∈ ofString s) : u.toNat < m := by
  obtain ⟨c, hc, hu⟩ := List.mem_flatMap.1 hu
  have hcm := h c hc
  simp only [ofCodePoint, show c.toNat < 0x10000 by omega, if_true, List.mem_singleton] at hu
  subst hu
  rw [Nat.toUInt16, UInt16.toNat_ofNat', Nat.mod_eq_of_lt (by omega)]
  exact hcm

end Utf16

namespace Render

/-- The characters of padding and of sign texts. -/
def signChars : List Char := [' ', '-', '+', '(', ')']

/-- The sign texts around a number: a negative one stands after `-` or in parentheses, a
non-negative one after `+`, a space or nothing. -/
inductive SignTexts : Bool → String → String → Prop
  | minus : SignTexts true "-" ""
  | parens : SignTexts true "(" ")"
  | plus : SignTexts false "+" ""
  | space : SignTexts false " " ""
  | plain : SignTexts false "" ""

/-- The sign texts that `signed` chooses. -/
theorem signTexts_of_choice {neg : Bool} {flags : List Flag} {pre post : String}
    (h : (if neg then (if flags.contains .parens then ("(", ")") else ("-", ""))
      else if flags.contains .plus then ("+", "") else if flags.contains .space then (" ", "")
      else ("", "") : String × String) = (pre, post)) : SignTexts neg pre post := by
  cases neg <;> simp only [if_true, Bool.false_eq_true, if_false] at h <;>
    split_ifs at h <;> cases h
  · exact .plus
  · exact .space
  · exact .plain
  · exact .parens
  · exact .minus

theorem length_ofString_signTexts {neg : Bool} {pre post : String} (hs : SignTexts neg pre post) :
    (Utf16.ofString pre).length = pre.length ∧ (Utf16.ofString post).length = post.length := by
  cases hs <;> exact ⟨rfl, rfl⟩

theorem chars_ofString_signTexts {neg : Bool} {pre post : String} (hs : SignTexts neg pre post) :
    Utf16.chars (Utf16.ofString pre) = pre.toList ∧
      Utf16.chars (Utf16.ofString post) = post.toList := by
  cases hs <;> exact ⟨rfl, rfl⟩

theorem mem_signChars_signTexts {neg : Bool} {pre post : String} (hs : SignTexts neg pre post) :
    (∀ c ∈ pre.toList, c ∈ signChars) ∧ ∀ c ∈ post.toList, c ∈ signChars := by
  cases hs <;> simp [signChars]

section shapes

theorem except_bind_eq_ok {ε α β : Type} {x : Except ε α} {f : α → Except ε β} {b : β}
    (h : x >>= f = .ok b) : ∃ a, x = .ok a ∧ f a = .ok b := by
  cases x with
  | error e => cases h
  | ok a => exact ⟨a, rfl, h⟩

theorem bounded_ok {t out : Utf16} (h : bounded t = .ok out) : out = t := by
  unfold bounded at h
  split at h
  · cases h
  · cases h; rfl

theorem length_le_of_bounded_ok {t out : Utf16} (h : bounded t = .ok out) :
    t.length ≤ maxLength := by
  unfold bounded at h
  split at h
  · cases h
  · omega

theorem bounded_of_length_le {t : Utf16} (h : t.length ≤ maxLength) : bounded t = .ok t := by
  simp only [bounded, gt_iff_lt, Nat.not_lt.2 h, if_false]

/-- A padding in front fills up to the target and no further. -/
theorem padStart_eq_ok {t out : Utf16} {target : Nat} {fill : UInt16}
    (h : padStart t target fill = .ok out) : out = List.replicate (target - t.length) fill ++ t := by
  unfold padStart at h
  split at h
  · cases h
    rw [Nat.sub_eq_zero_of_le ‹_›]
    rfl
  · split at h
    · cases h
    · cases h; rfl

theorem padStart_ok {t out : Utf16} {target : Nat} {fill : UInt16}
    (h : padStart t target fill = .ok out) : ∃ k, out = List.replicate k fill ++ t :=
  ⟨_, padStart_eq_ok h⟩

theorem justify_ok {t out : Utf16} {d : Directive} (h : justify t d = .ok out) :
    ∃ a b, out = Utf16.spaces a ++ t ++ Utf16.spaces b := by
  unfold justify at h
  split at h
  · cases h; exact ⟨0, 0, by simp [Utf16.spaces]⟩
  · split at h
    · unfold padEnd at h
      split at h
      · cases h; exact ⟨0, 0, by simp [Utf16.spaces]⟩
      · split at h
        · cases h
        · cases h; exact ⟨0, _, rfl⟩
    · obtain ⟨k, rfl⟩ := padStart_ok h
      exact ⟨k, 0, by simp [Utf16.spaces]⟩

theorem signed_ok {body : Utf16} {negative : Bool} {flags : List Flag} {d : Directive} {out : Utf16}
    (h : signed body negative flags d = .ok out) :
    ∃ pre post, SignTexts negative pre post ∧ ∃ a k b,
      out = Utf16.spaces a ++ (Utf16.ofString pre ++ (Utf16.zeros k ++ body) ++ Utf16.ofString post) ++
        Utf16.spaces b := by
  unfold signed at h
  generalize hsp : (if negative then (if flags.contains .parens then ("(", ")") else ("-", ""))
    else if flags.contains .plus then ("+", "") else if flags.contains .space then (" ", "")
    else ("", "") : String × String) = sp at h
  obtain ⟨pre, post⟩ := sp
  have hs := signTexts_of_choice hsp
  -- the zero padding goes between the sign and the digits
  obtain ⟨zb, ⟨k, rfl⟩, hjp⟩ : ∃ zb, (∃ k, zb = Utf16.zeros k ++ body) ∧
      (do let t ← bounded (Utf16.ofString pre ++ zb ++ Utf16.ofString post); justify t d) =
        .ok out := by
    dsimp only at h
    split at h
    · split at h
      · obtain ⟨zb, hpad, hrest⟩ := except_bind_eq_ok h
        exact ⟨zb, padStart_ok hpad, hrest⟩
      · exact ⟨body, ⟨0, rfl⟩, h⟩
    · exact ⟨body, ⟨0, rfl⟩, h⟩
  obtain ⟨t, ht, hjust⟩ := except_bind_eq_ok hjp
  obtain ⟨a, b, rfl⟩ := justify_ok hjust
  exact ⟨pre, post, hs, a, k, b, by rw [bounded_ok ht]⟩

end shapes

end Render

end FolderSink
