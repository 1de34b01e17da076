import FolderSink.Proofs.Format.Integers
/-! Field width. A directive with a width renders what it renders without the width and
without the flags `-` and `0` (`Directive.bare`), padded to the width: with zeros between
the sign or prefix and the digits under `0` when the number is finite, with spaces after it
under `-`, and with spaces before it otherwise (`widened`). The padding is counted on the
text before upper case, so an upper-case conversion whose upper case changes the length
misses the width: `%5S` of `ß` is four spaces and `SS`.

The numbers are taken through `Widens`, a relation between a rendering with the width and
the same rendering without it, built up along the binds and branches of the renderers as
`LimitOnly` is. -/
namespace FolderSink

namespace Directive

/-- The directive without its width and without the flags `-` and `0`. -/
def bare (d : Directive) : Directive :=
  { d with width := none, flags := d.flags.filter fun f => f != .left && f != .zero }

@[simp] theorem bare_conversion (d : Directive) : d.bare.conversion = d.conversion := rfl

@[simp] theorem bare_precision (d : Directive) : d.bare.precision = d.precision := rfl

@[simp] theorem bare_width (d : Directive) : d.bare.width = none := rfl

theorem bare_has {d : Directive} {f : Flag} (hl : f ≠ .left) (hz : f ≠ .zero) :
    d.bare.has f = d.has f := by
  simp [bare, has, List.mem_filter, hl, hz]

end Directive

namespace Render

open Utf16

theorem withGrouping_bare (cs : List Char) (d : Directive) :
    withGrouping cs d.bare = withGrouping cs d := by
  simp only [withGrouping, Directive.bare_has (f := .grouping) (by decide) (by decide)]

/-- Text of units below U+0080. -/
def Ascii (t : Utf16) : Prop := ∀ u ∈ t, u.toNat < 0x80

instance : DecidablePred Ascii := fun t => inferInstanceAs (Decidable (∀ u ∈ t, u.toNat < 0x80))

theorem ascii_append {s t : Utf16} (hs : Ascii s) (ht : Ascii t) : Ascii (s ++ t) := by
  intro u hu
  rcases List.mem_append.1 hu with hu | hu
  exacts [hs u hu, ht u hu]

/-- The texts that stand before the digits of a number, where the `0` flag puts its zeros:
nothing, a sign (`-`, `+`, a space, `(`) or the alternate prefix of octal and hex. -/
def leads : List Utf16 := ["", "-", "+", " ", "(", "0", "0x"].map ofString

theorem ascii_ofString {s : String} (h : ∀ c ∈ s.toList, c.toNat < 0x80) : Ascii (ofString s) :=
  fun _ hu => lt_of_mem_ofString (by omega) h hu

theorem ascii_of_mem_leads {p : Utf16} (hp : p ∈ leads) : Ascii p := by
  obtain ⟨s, hs, rfl⟩ := List.mem_map.1 hp
  apply ascii_ofString
  simp only [List.mem_cons, List.not_mem_nil, or_false] at hs
  rcases hs with rfl | rfl | rfl | rfl | rfl | rfl | rfl <;> simp

theorem mem_leads_signTexts {neg : Bool} {pre post : String} (hs : SignTexts neg pre post) :
    ofString pre ∈ leads := by
  cases hs <;> exact List.mem_map_of_mem (by simp)

theorem ascii_signTexts {neg : Bool} {pre post : String} (hs : SignTexts neg pre post) :
    Ascii (ofString pre) ∧ Ascii (ofString post) := by
  have hsign : ∀ c ∈ signChars, c.toNat < 0x80 := by simp [signChars]
  obtain ⟨hpre, hpost⟩ := mem_signChars_signTexts hs
  exact ⟨ascii_ofString fun c hc => hsign c (hpre c hc),
    ascii_ofString fun c hc => hsign c (hpost c hc)⟩

/-- A text in upper case when `up`. -/
def cased (up : Bool) (t : Utf16) : Utf16 := if up then t.toUpper else t

@[simp] theorem cased_false (t : Utf16) : cased false t = t := rfl

@[simp] theorem cased_nil (up : Bool) : cased up [] = [] := by
  cases up <;> rfl

theorem length_cased {up : Bool} {t : Utf16} (ht : Ascii t) : (cased up t).length = t.length := by
  cases up
  · rfl
  · exact length_toUpper_of_lt fun u hu => by have := ht u hu; omega

/-- A rendering `p ++ r` of `n` units brought to width `w`: zeros between `p` and `r` when
`zero`, else spaces after it when `left`, else spaces before it. -/
def widened (w : Nat) (left zero : Bool) (n : Nat) (p r : Utf16) : Utf16 :=
  if zero then p ++ zeros (w - n) ++ r
  else if left then p ++ r ++ spaces (w - n)
  else spaces (w - n) ++ p ++ r

theorem length_widened (w : Nat) (left zero : Bool) (n : Nat) (p r : Utf16) :
    (widened w left zero n p r).length = w - n + p.length + r.length := by
  unfold widened
  split_ifs <;> simp [zeros, spaces] <;> omega

/-- When upper case keeps the length of the pieces, the padded text is as long as the
width or as the pieces, whichever is more. -/
theorem length_widened_cased {w : Nat} {left zero up : Bool} {p r : Utf16} (hp : Ascii p)
    (hr : (cased up r).length = r.length) :
    (widened w left zero (p.length + r.length) (cased up p) (cased up r)).length =
      max w (cased up p ++ cased up r).length := by
  rw [length_widened, List.length_append, length_cased hp, hr]
  omega

theorem toUpper_widened {w n : Nat} {left zero : Bool} {p r : Utf16}
    (hp : ∀ u ∈ p, u.toNat < 0xD800) :
    (widened w left zero n p r).toUpper = widened w left zero n p.toUpper r.toUpper := by
  unfold widened
  split_ifs
  · rw [List.append_assoc, toUpper_append_of_lt_left hp,
      toUpper_append_of_lt_left fun _ => lt_of_mem_zeros, toUpper_zeros, List.append_assoc]
  · rw [toUpper_append_of_lt_right fun _ => lt_of_mem_spaces, toUpper_append_of_lt_left hp,
      toUpper_spaces]
  · rw [List.append_assoc, toUpper_append_of_lt_left fun _ => lt_of_mem_spaces,
      toUpper_append_of_lt_left hp, toUpper_spaces, List.append_assoc]

section pieces

/-- Without a width, justifying leaves a text as it is. -/
theorem justify_of_width_none {t : Utf16} {d : Directive} (hw : d.width = none) :
    justify t d = .ok t := by
  simp [justify, hw]

/-- With a width, justifying pads with spaces after the text under `-` and before it
otherwise. -/
theorem justify_widened {t out : Utf16} {d : Directive} {w : Nat} (hw : d.width = some w)
    (h : justify t d = .ok out) : out = widened w (d.has .left) false t.length [] t := by
  simp only [justify, hw] at h
  simp only [widened, Bool.false_eq_true, if_false, List.nil_append]
  split at h
  · next hl =>
    rw [if_pos hl]
    unfold padEnd at h
    split at h
    · cases h
      rw [Nat.sub_eq_zero_of_le ‹_›]
      simp [spaces]
    · split at h
      · cases h
      · cases h; rfl
  · next hl =>
    rw [if_neg hl, padStart_eq_ok h, List.append_nil]
    rfl

/-- The last step of a rendering, upper case when `up`, goes through the padding: the padded
text in upper case is the pieces in upper case, padded as before. -/
theorem upper_widened {up : Bool} {w n : Nat} {left zero : Bool} {p r out : Utf16}
    (hp : ∀ u ∈ p, u.toNat < 0xD800)
    (h : (if up then bounded (widened w left zero n p r).toUpper
      else pure (widened w left zero n p r)) = .ok out) :
    (if up then bounded (p ++ r).toUpper else pure (p ++ r)) = .ok (cased up p ++ cased up r) ∧
      out = widened w left zero n (cased up p) (cased up r) := by
  unfold cased
  cases up
  · simp only [Bool.false_eq_true, if_false] at h ⊢
    cases h
    exact ⟨rfl, rfl⟩
  · simp only [if_true] at h ⊢
    have hlen := length_le_of_bounded_ok h
    rw [toUpper_widened hp, length_widened] at hlen
    rw [bounded_ok h, toUpper_widened hp, toUpper_append_of_lt_left hp]
    exact ⟨bounded_of_length_le (by rw [List.length_append]; omega), rfl⟩

/-- A number with its sign texts, padded to the width: the zeros of `0` go between the sign
and the digits and make the text as wide as the width, so justifying adds nothing more. -/
theorem signed_widened {body out : Utf16} {neg : Bool} {flags flags' : List Flag}
    {d : Directive} {w : Nat} (hw : d.width = some w)
    (hparens : flags'.contains .parens = flags.contains .parens)
    (hplus : flags'.contains .plus = flags.contains .plus)
    (hspace : flags'.contains .space = flags.contains .space)
    (h : signed body neg flags d = .ok out) :
    ∃ pre post, SignTexts neg pre post ∧
      signed body neg flags' d.bare = .ok (ofString pre ++ (body ++ ofString post)) ∧
      out = widened w (d.has .left) (flags.contains .zero)
        ((ofString pre).length + (body ++ ofString post).length)
        (ofString pre) (body ++ ofString post) := by
  unfold signed at h ⊢
  rw [hparens, hplus, hspace]
  generalize hsp : (if neg then (if flags.contains .parens then ("(", ")") else ("-", ""))
    else if flags.contains .plus then ("+", "") else if flags.contains .space then (" ", "")
    else ("", "") : String × String) = sp at h ⊢
  obtain ⟨pre, post⟩ := sp
  have hs := signTexts_of_choice hsp
  obtain ⟨hlpre, hlpost⟩ := length_ofString_signTexts hs
  refine ⟨pre, post, hs, ?_⟩
  simp only [hw, Directive.bare_width] at h ⊢
  -- both renderings bound the text with its sign; the bare one then leaves it as it is
  have hbare : (ofString pre ++ body ++ ofString post).length ≤ maxLength →
      (do let t ← bounded (ofString pre ++ body ++ ofString post); justify t d.bare) =
        Except.ok (ofString pre ++ (body ++ ofString post)) := fun hlen => by
    rw [bounded_of_length_le hlen, List.append_assoc]
    exact justify_of_width_none d.bare_width
  cases hz : flags.contains .zero
  · simp only [hz, Bool.false_eq_true, if_false, pure_bind] at h ⊢
    obtain ⟨t, ht, hj⟩ := except_bind_eq_ok h
    refine ⟨hbare (length_le_of_bounded_ok ht), ?_⟩
    rw [justify_widened hw hj, bounded_ok ht]
    simp only [widened, Bool.false_eq_true, if_false, List.nil_append, List.append_assoc,
      List.length_append]
  · simp only [hz, if_true, pure_bind] at h ⊢
    obtain ⟨zb, hpad, h⟩ := except_bind_eq_ok h
    obtain ⟨t, ht, hj⟩ := except_bind_eq_ok h
    rw [padStart_eq_ok hpad] at ht
    have hlen := length_le_of_bounded_ok ht
    rw [bounded_ok ht] at hj
    refine ⟨hbare (by simp only [List.length_append, List.length_replicate] at hlen ⊢; omega), ?_⟩
    have hfull : w - (ofString pre ++
        (List.replicate (w - pre.length - post.length - body.length) 0x30 ++ body) ++
        ofString post).length = 0 := by
      simp only [List.length_append, List.length_replicate]
      omega
    have hcount : w - pre.length - post.length - body.length =
        w - ((ofString pre).length + (body ++ ofString post).length) := by
      simp only [List.length_append]
      omega
    rw [justify_widened hw hj]
    unfold widened
    rw [hfull]
    simp only [Bool.false_eq_true, if_true, ite_self, hcount, spaces, zeros,
      List.replicate_zero, List.nil_append, List.append_nil, List.append_assoc]

end pieces

section ascii

/-- Text of characters below U+0080. -/
def AsciiText (s : String) : Prop := ∀ c ∈ s.toList, c.toNat < 0x80

theorem AsciiText.append {s t : String} (hs : AsciiText s) (ht : AsciiText t) :
    AsciiText (s ++ t) := by
  intro c hc
  rw [String.toList_append] at hc
  rcases List.mem_append.1 hc with hc | hc
  exacts [hs c hc, ht c hc]

theorem AsciiText.take {s : String} (hs : AsciiText s) (n : Nat) :
    AsciiText (String.ofList (s.toList.take n)) := fun c hc => by
  rw [String.toList_ofList] at hc
  exact hs c (List.mem_of_mem_take hc)

theorem AsciiText.drop {s : String} (hs : AsciiText s) (n : Nat) :
    AsciiText (String.ofList (s.toList.drop n)) := fun c hc => by
  rw [String.toList_ofList] at hc
  exact hs c (List.mem_of_mem_drop hc)

/-- Digits with a point put in. -/
theorem AsciiText.point {ds : String} (hds : AsciiText ds) (n : Nat) :
    AsciiText (String.ofList (ds.toList.take n) ++ "." ++ String.ofList (ds.toList.drop n)) :=
  ((hds.take n).append (by simp [AsciiText])).append (hds.drop n)

theorem asciiText_repr (n : Nat) : AsciiText (Nat.repr n) := fun c hc => by
  rw [Nat.toList_repr] at hc
  exact (numeralChar_of_mem_decimal hc).2.2.2.2.2

theorem asciiText_zeros (n : Nat) : AsciiText (Decimal.zeros n) := fun c hc => by
  simp only [Decimal.zeros, String.toList_ofList] at hc
  rw [List.eq_of_mem_replicate hc]
  simp

theorem ascii_zeros (n : Nat) : Ascii (zeros n) := fun u hu => by
  rw [List.eq_of_mem_replicate hu]
  simp

/-- The digits of a ratio rounded to places. -/
theorem asciiText_fixedText (num den f : Nat) : AsciiText (Decimal.fixedText num den f) := by
  unfold Decimal.fixedText
  dsimp only
  split_ifs
  · exact asciiText_repr _
  · exact ((asciiText_zeros _).append (asciiText_repr _)).point _
  · exact (asciiText_repr _).point _

theorem ascii_point : Ascii [0x2E] := fun u hu => by
  rw [List.mem_singleton.1 hu]
  decide

theorem zeroRun_ok {count : Nat} {infinite : Bool} {zs : Utf16}
    (h : zeroRun count infinite = .ok zs) : zs = zeros count := by
  unfold zeroRun at h
  split_ifs at h
  cases h
  rfl

/-- The digits of `%f`: the integer part, a point and zeros, or the rounded digits. -/
theorem ascii_fixedDigits {num den p : Nat} {infinite : Bool} {t : Utf16}
    (h : fixedDigits num den p infinite = .ok t) : Ascii t := by
  unfold fixedDigits at h
  split_ifs at h
  · obtain ⟨zs, hz, h⟩ := except_bind_eq_ok h
    rw [bounded_ok h, zeroRun_ok hz]
    exact ascii_append (ascii_append (ascii_ofString (asciiText_repr _)) ascii_point)
      (ascii_zeros _)
  · cases h
    exact ascii_ofString (asciiText_repr _)
  · obtain ⟨zs, hz, h⟩ := except_bind_eq_ok h
    rw [bounded_ok h, zeroRun_ok hz]
    exact ascii_append (ascii_ofString (asciiText_fixedText _ _ _)) (ascii_zeros _)
  · cases h
    exact ascii_ofString (asciiText_fixedText _ _ _)

/-- The digits of `%e`: a mantissa, zeros, `e`, a sign and the exponent. -/
theorem ascii_expDigits {num den p : Nat} {infinite : Bool} {t : Utf16}
    (h : expDigits num den p infinite = .ok t) : Ascii t := by
  unfold expDigits at h
  dsimp only at h
  generalize Decimal.scientific num den (min p 100) = r at h
  generalize hds : (if num = 0 then Decimal.zeros (min p 100 + 1) else r.1.repr) = ds at h
  have hdigits : AsciiText ds := by
    rw [← hds]
    split_ifs
    exacts [asciiText_zeros _, asciiText_repr _]
  obtain ⟨zs, hz, h⟩ := except_bind_eq_ok h
  obtain ⟨mant, hm, h⟩ := except_bind_eq_ok h
  rw [bounded_ok h, bounded_ok hm, zeroRun_ok hz]
  refine ascii_append (ascii_append (ascii_ofString ?_) (ascii_zeros _)) (ascii_ofString ?_)
  · split_ifs
    exacts [hdigits, hdigits.point 1]
  · have hsign : AsciiText (if r.2 < 0 then "-" else "+") := by
      split_ifs <;> simp [AsciiText]
    have hexp : AsciiText (if r.2.natAbs.repr.length < 2 then "0" ++ r.2.natAbs.repr
        else r.2.natAbs.repr) := by
      split_ifs
      exacts [AsciiText.append (by simp [AsciiText]) (asciiText_repr _), asciiText_repr _]
    exact ((by simp [AsciiText] : AsciiText "e").append hsign).append hexp

theorem mem_group_go {c : Char} {ds : List Char} (h : c ∈ group.go ds) : c ∈ ds ∨ c = ',' := by
  fun_induction group.go ds with
  | case1 a b c' head tail ih =>
    -- a comma after each three digits, the rest grouped alike
    simp only [List.mem_cons] at h ⊢
    rcases h with h | h | h | h | h
    · exact .inl (.inl h)
    · exact .inl (.inr (.inl h))
    · exact .inl (.inr (.inr (.inl h)))
    · exact .inr h
    · rcases ih h with h | h
      · exact .inl (.inr (.inr (.inr (List.mem_cons.1 h))))
      · exact .inr h
  | case2 rest _ => exact .inl h

theorem mem_withGrouping {c : Char} {cs : List Char} {d : Directive}
    (h : c ∈ withGrouping cs d) : c ∈ cs ∨ c = ',' := by
  unfold withGrouping at h
  split_ifs at h
  · rcases List.mem_append.1 h with h | h
    · rcases mem_group_go (List.mem_reverse.1 h) with h | h
      · exact .inl ((List.takeWhile_sublist _).subset (List.mem_reverse.1 h))
      · exact .inr h
    · exact .inl ((List.dropWhile_sublist _).subset h)
  · exact .inl h

/-- Grouping puts in commas only. -/
theorem ascii_withGrouping {cs : List Char} (hcs : ∀ c ∈ cs, c.toNat < 0x80) (d : Directive) :
    Ascii (ofString (String.ofList (withGrouping cs d))) := by
  apply ascii_ofString
  intro c hc
  rw [String.toList_ofList] at hc
  rcases mem_withGrouping hc with hc | rfl
  · exact hcs c hc
  · simp

theorem ascii_grouped {t : Utf16} (ht : Ascii t) (d : Directive) :
    Ascii (ofString (String.ofList (withGrouping (t.map fun u => Char.ofNat u.toNat) d))) := by
  refine ascii_withGrouping (fun c hc => ?_) d
  obtain ⟨u, hu, rfl⟩ := List.mem_map.1 hc
  rw [Template.toNat_ofNat_ascii (ht u hu)]
  exact ht u hu

theorem ascii_toDigits {radix m : Nat} (hr : 1 < radix) (hr16 : radix ≤ 16) :
    Ascii (ofString (String.ofList (Nat.toDigits radix m))) := by
  apply ascii_ofString
  intro c hc
  rw [String.toList_ofList] at hc
  obtain ⟨e, he, rfl⟩ := exists_digitChar_of_mem_toDigits hr hc
  exact (numeralChar_digitChar (by omega)).1.2.2.2.2.2

theorem ascii_pointBeforeExponent {t : Utf16} (ht : Ascii t) : Ascii (pointBeforeExponent t) := by
  induction t with
  | nil => exact ht
  | cons u rest ih =>
    have hrest : Ascii rest := fun v hv => ht v (List.mem_cons_of_mem u hv)
    unfold pointBeforeExponent
    split_ifs
    · intro v hv
      rcases List.mem_cons.1 hv with rfl | hv
      · decide
      · exact ht v hv
    · intro v hv
      rcases List.mem_cons.1 hv with rfl | hv
      · exact ht v List.mem_cons_self
      · exact ih hrest v hv

end ascii

/-- A rendering `a` with the width `w` against the rendering `b` without it: whenever `a`
succeeds, `b` succeeds with the pieces that `a` pads, a sign or prefix `p` and the rest `r`
of ASCII units, in upper case when `up`. -/
def Widens (w : Nat) (left zero up : Bool) (a b : Except RenderError Utf16) : Prop :=
  ∀ out, a = .ok out → ∃ p r, p ∈ leads ∧ Ascii r ∧ b = .ok (cased up p ++ cased up r) ∧
    out = widened w left zero (p.length + r.length) (cased up p) (cased up r)

namespace Widens

variable {w : Nat} {left zero up : Bool}

/-- Both renderings make the same ASCII text first and go on alike. -/
theorem bind {B : Except RenderError Utf16} {f g : Utf16 → Except RenderError Utf16}
    (hB : ∀ t, B = .ok t → Ascii t) (hf : ∀ t, Ascii t → Widens w left zero up (f t) (g t)) :
    Widens w left zero up (B >>= f) (B >>= g) := by
  intro out h
  obtain ⟨t, ht, hft⟩ := except_bind_eq_ok h
  obtain ⟨p, r, hp, hr, hb, hout⟩ := hf t (hB t ht) out hft
  refine ⟨p, r, hp, hr, ?_, hout⟩
  rw [ht]
  exact hb

theorem ite {c : Prop} [Decidable c] {a a' b b' : Except RenderError Utf16}
    (ha : Widens w left zero up a a') (hb : Widens w left zero up b b') :
    Widens w left zero up (if c then a else b) (if c then a' else b') := by
  by_cases hc : c
  · simpa only [hc, if_true] using ha
  · simpa only [hc, if_false] using hb

end Widens

/-- The common end of the number renderers: sign texts, padding and case around an ASCII
body. -/
theorem widens_signed {body : Utf16} (hb : Ascii body) {neg up : Bool} {flags flags' : List Flag}
    {d : Directive} {w : Nat} (hw : d.width = some w)
    (hparens : flags'.contains .parens = flags.contains .parens)
    (hplus : flags'.contains .plus = flags.contains .plus)
    (hspace : flags'.contains .space = flags.contains .space) :
    Widens w (d.has .left) (flags.contains .zero) up
      (do let t ← signed body neg flags d; if up then bounded t.toUpper else pure t)
      (do let t ← signed body neg flags' d.bare; if up then bounded t.toUpper else pure t) := by
  intro out h
  obtain ⟨t, hs, hu⟩ := except_bind_eq_ok h
  obtain ⟨pre, post, hst, hbare, ht⟩ := signed_widened hw hparens hplus hspace hs
  obtain ⟨hpre, hpost⟩ := ascii_signTexts hst
  rw [ht] at hu
  obtain ⟨hup, hout⟩ := upper_widened (fun u hu => by have := hpre u hu; omega) hu
  refine ⟨ofString pre, body ++ ofString post, mem_leads_signTexts hst, ?_, ?_, hout⟩
  · exact ascii_append hb hpost
  · rw [hbare]
    exact hup

/-- `%d` pads its number: zeros go between the sign and the digits. -/
theorem widens_integer (n : Int) {d : Directive} {w : Nat} (hw : d.width = some w) :
    Widens w (d.has .left) (d.has .zero) false (integer n d) (integer n d.bare) := by
  unfold integer
  rw [withGrouping_bare]
  have hsigned := @widens_signed _ (ascii_withGrouping (asciiText_repr n.natAbs) d)
    (decide (n < 0)) false d.flags d.bare.flags d w hw (Directive.bare_has (by decide) (by decide))
    (Directive.bare_has (by decide) (by decide)) (Directive.bare_has (by decide) (by decide))
  simp only [Bool.false_eq_true, if_false, bind_pure] at hsigned
  exact hsigned

/-- `%o`, `%x` and `%X` pad their digits: zeros go between the alternate prefix and the
digits. -/
theorem widens_unsignedInteger (n : Int) {radix : Nat} (hr : 1 < radix) (hr16 : radix ≤ 16)
    {d : Directive} {w : Nat} (hw : d.width = some w) :
    Widens w (d.has .left) (d.has .zero) d.conversion.isUpper
      (unsignedInteger n radix d) (unsignedInteger n radix d.bare) := by
  intro out h
  have halt : d.bare.has .alternate = d.has .alternate := Directive.bare_has (by decide) (by decide)
  unfold unsignedInteger at h ⊢
  rw [halt]
  generalize hpre : (if d.has .alternate then (if radix = 16 then "0x" else "0") else "" : String) =
    pre at h ⊢
  have hp : ofString pre ∈ leads := by
    rw [← hpre]
    split_ifs <;> exact List.mem_map_of_mem (by simp)
  have hlpre : (ofString pre).length = pre.length := by
    rw [← hpre]
    split_ifs <;> rfl
  have hdigits := ascii_toDigits (m := unsignedOf n) hr hr16
  generalize ofString (String.ofList (Nat.toDigits radix (unsignedOf n))) = digits at h hdigits ⊢
  simp only [hw, Directive.bare_width, pure_bind] at h ⊢
  -- the text before upper case is the prefix and the digits, padded; unpadded, it is no longer
  obtain ⟨t, ht, hup, hlen⟩ : ∃ t, t = widened w (d.has .left) (d.has .zero)
      ((ofString pre).length + digits.length) (ofString pre) digits ∧
      (if d.conversion.isUpper then bounded t.toUpper else pure t) = .ok out ∧
      (ofString pre ++ digits).length ≤ maxLength := by
    cases hz : d.has .zero
    · simp only [hz, Bool.false_eq_true, if_false] at h
      obtain ⟨t₀, hb, h⟩ := except_bind_eq_ok h
      obtain rfl := bounded_ok hb
      obtain ⟨t, hj, hup⟩ := except_bind_eq_ok h
      refine ⟨t, ?_, hup, length_le_of_bounded_ok hb⟩
      rw [justify_widened hw hj]
      simp only [widened, Bool.false_eq_true, if_false, List.nil_append, List.append_assoc,
        List.length_append]
    · simp only [hz, if_true] at h
      obtain ⟨zd, hpad, h⟩ := except_bind_eq_ok h
      obtain ⟨t₀, hb, h⟩ := except_bind_eq_ok h
      obtain rfl := bounded_ok hb
      obtain ⟨t, hj, hup⟩ := except_bind_eq_ok h
      have hlen := length_le_of_bounded_ok hb
      rw [padStart_eq_ok hpad] at hj hlen
      refine ⟨t, ?_, hup, ?_⟩
      swap
      · simp only [List.length_append, List.length_replicate] at hlen ⊢
        omega
      -- the zeros bring the text to the width, so justifying adds nothing
      have hfull : w - (ofString pre ++
          (List.replicate (w - pre.length - digits.length) 0x30 ++ digits)).length = 0 := by
        simp only [List.length_append, List.length_replicate]
        omega
      have hcount : w - pre.length - digits.length =
          w - ((ofString pre).length + digits.length) := by
        omega
      rw [justify_widened hw hj]
      unfold widened
      rw [hfull]
      simp only [Bool.false_eq_true, if_true, ite_self, hcount, spaces, zeros,
        List.replicate_zero, List.nil_append, List.append_nil, List.append_assoc]
  rw [ht] at hup
  obtain ⟨hbare, hout⟩ := upper_widened (fun u hu => by have := ascii_of_mem_leads hp u hu; omega) hup
  rw [bounded_of_length_le hlen]
  dsimp only [bind, Except.bind]
  rw [justify_of_width_none d.bare_width]
  exact ⟨ofString pre, digits, hp, hdigits, hbare, hout⟩

theorem contains_filter_ne {l : List Flag} {f g : Flag} (h : f ≠ g) :
    (l.filter (· != g)).contains f = l.contains f := by
  simp [List.mem_filter, h]

theorem contains_filter_self (l : List Flag) (g : Flag) : (l.filter (· != g)).contains g = false := by
  simp [List.mem_filter]

/-- A float conversion pads its number as the others do, with zeros and in upper case only
when the number is finite: NaN and the infinities are words, written as they are. -/
theorem widens_float (x : Double) {d : Directive} {w : Nat} (hw : d.width = some w) :
    Widens w (d.has .left) (d.has .zero && x.isFinite) (d.conversion.isUpper && x.isFinite)
      (float x d) (float x d.bare) := by
  have hparens : d.bare.has .parens = d.has .parens := Directive.bare_has (by decide) (by decide)
  have hplus : d.bare.has .plus = d.has .plus := Directive.bare_has (by decide) (by decide)
  have hspace : d.bare.has .space = d.has .space := Directive.bare_has (by decide) (by decide)
  have halt : d.bare.has .alternate = d.has .alternate := Directive.bare_has (by decide) (by decide)
  unfold float
  simp only [Directive.bare_conversion, Directive.bare_precision, withGrouping_bare, halt]
  split
  · next hfin =>
    have hword := @widens_signed _
      (ascii_ofString (s := if x.isNaN then "NaN" else "Infinity") (by split_ifs <;> simp))
      (x.lt (Double.zero false)) false (d.flags.filter (· != .zero))
      (d.bare.flags.filter (· != .zero)) d w hw
      (by rw [contains_filter_ne (by decide), contains_filter_ne (by decide)]; exact hparens)
      (by rw [contains_filter_ne (by decide), contains_filter_ne (by decide)]; exact hplus)
      (by rw [contains_filter_ne (by decide), contains_filter_ne (by decide)]; exact hspace)
    simp only [Bool.false_eq_true, if_false, bind_pure] at hword
    simp only [Bool.not_eq_true'] at hfin
    rw [contains_filter_self] at hword
    rwa [hfin, Bool.and_false, Bool.and_false]
  · next hfin =>
    simp only [Bool.not_eq_true', Bool.not_eq_false] at hfin
    rw [hfin, Bool.and_true, Bool.and_true]
    generalize x.magnitude = r
    obtain ⟨num, den⟩ := r
    -- whatever digits the conversion writes, the sign, the padding and the case come after
    have hrest : ∀ body, Ascii body → Widens w (d.has .left) (d.has .zero) d.conversion.isUpper
        (do let t ← signed body x.signBit d.flags d
            if d.conversion.isUpper then bounded t.toUpper else pure t)
        (do let t ← signed body x.signBit d.bare.flags d.bare
            if d.conversion.isUpper then bounded t.toUpper else pure t) :=
      fun body hb => widens_signed hb hw hparens hplus hspace
    simp only [pure_bind]
    split
    case h_1 =>
      exact Widens.bind (fun _ => ascii_fixedDigits) fun t ht => Widens.ite
        (Widens.bind (fun _ hb => by
          rw [bounded_ok hb]
          exact ascii_append (ascii_grouped ht d) ascii_point) hrest)
        (hrest _ (ascii_grouped ht d))
    case h_2 | h_3 =>
      exact Widens.bind (fun _ => ascii_expDigits) fun t ht =>
        Widens.ite (hrest _ (ascii_pointBeforeExponent ht)) (hrest _ ht)
    case h_4 =>
      -- %g, positional or scientific by the exponent
      exact Widens.ite (Widens.bind (fun _ => ascii_fixedDigits) hrest) (Widens.ite
        (Widens.bind (fun _ => ascii_fixedDigits) fun t ht => hrest _ (ascii_grouped ht d))
        (Widens.bind (fun _ => ascii_expDigits) hrest))

/-- The text conversions pad with spaces, before upper case. -/
theorem text_widened {s out : Utf16} {d : Directive} {up : Bool} {w : Nat}
    (hw : d.width = some w)
    (h : (do let t ← justify s d; if up then bounded t.toUpper else pure t) = .ok out) :
    (do let t ← justify s d.bare; if up then bounded t.toUpper else pure t) = .ok (cased up s) ∧
      out = widened w (d.has .left) false s.length [] (cased up s) := by
  obtain ⟨t, hj, hu⟩ := except_bind_eq_ok h
  rw [justify_widened hw hj] at hu
  obtain ⟨hbare, hout⟩ := upper_widened (p := []) (fun _ hu => absurd hu List.not_mem_nil) hu
  rw [justify_of_width_none d.bare_width]
  simp only [cased_nil, List.nil_append] at hbare hout
  exact ⟨hbare, hout⟩

end Render

namespace Value

/-- An argument that a float conversion writes as a finite number: a finite double, or a big
integer whose nearest double is finite. -/
inductive WritesFinite : Value → Prop
  | num {x : Double} : x.isFinite = true → WritesFinite (.num x)
  | big {n : Int} : (Double.ofInt n).isFinite = true → WritesFinite (.big n)

end Value

namespace Render

/-- The `0` flag pads with zeros: it is set, and the conversion writes an integer or a finite
number. -/
def ZeroFills (d : Directive) (v : Value) : Prop :=
  d.has .zero = true ∧ (d.conversion ∈ [.decimal, .octal, .hex, .hexUpper] ∨ v.WritesFinite)

/-- The width law of a rendering `out` with the width `w` against the rendering `b` without
it: `b` is a sign or prefix `p` and the rest `r`, in upper case when `up`, and `out` pads them
to the width, counting the units before upper case; with zeros between `p` and `r` exactly
when the `0` flag pads, else with spaces after them under `-` and before them otherwise.
Unless the conversion is `%S` or `%C`, `out` is as long as the width or as `b`, whichever is
more. -/
def PadsBare (d : Directive) (v : Value) (w : Nat) (b : Except RenderError Utf16) (out : Utf16) :
    Prop :=
  ∃ p r : Utf16, ∃ zero up : Bool, p ∈ leads ∧ (zero = true ↔ ZeroFills d v) ∧
    (up = true → d.conversion.isUpper = true) ∧ b = .ok (cased up p ++ cased up r) ∧
    out = widened w (d.has .left) zero (p.length + r.length) (cased up p) (cased up r) ∧
    (d.conversion ≠ .stringUpper → d.conversion ≠ .charUpper →
      out.length = max w (cased up p ++ cased up r).length)

section law

variable {d : Directive} {v : Value} {w : Nat} {out : Utf16}

theorem not_zeroFills (hd : d.Obeys) (hc : Flag.allowed d.conversion = []) : ¬ ZeroFills d v := by
  rintro ⟨hz, -⟩
  have := hd.allowed .zero (by simpa [Directive.has] using hz) (by decide)
  simp [hc] at this

theorem zeroFills_integer (hc : d.conversion ∈ [.decimal, .octal, .hex, .hexUpper]) :
    ZeroFills d v ↔ d.has .zero = true :=
  ⟨And.left, fun hz => ⟨hz, .inl hc⟩⟩

theorem zeroFills_num {x : Double} (hc : d.conversion ∉ [.decimal, .octal, .hex, .hexUpper]) :
    ZeroFills d (.num x) ↔ (d.has .zero && x.isFinite) = true := by
  rw [Bool.and_eq_true]
  constructor
  · rintro ⟨hz, hint | hf⟩
    · exact absurd hint hc
    · cases hf with
      | num hf => exact ⟨hz, hf⟩
  · rintro ⟨hz, hf⟩
    exact ⟨hz, .inr (.num hf)⟩

theorem zeroFills_big {n : Int} (hc : d.conversion ∉ [.decimal, .octal, .hex, .hexUpper]) :
    ZeroFills d (.big n) ↔ (d.has .zero && (Double.ofInt n).isFinite) = true := by
  rw [Bool.and_eq_true]
  constructor
  · rintro ⟨hz, hint | hf⟩
    · exact absurd hint hc
    · cases hf with
      | big hf => exact ⟨hz, hf⟩
  · rintro ⟨hz, hf⟩
    exact ⟨hz, .inr (.big hf)⟩

/-- A number meets the width law through `Widens`. -/
theorem padsBare_of_widens {zero up : Bool} {a b : Except RenderError Utf16}
    (hW : Widens w (d.has .left) zero up a b) (h : a = .ok out) (hz : zero = true ↔ ZeroFills d v)
    (hup : up = true → d.conversion.isUpper = true) : PadsBare d v w b out := by
  obtain ⟨p, r, hp, hr, hb, hout⟩ := hW out h
  refine ⟨p, r, zero, up, hp, hz, hup, hb, hout, fun _ _ => ?_⟩
  rw [hout]
  exact length_widened_cased (ascii_of_mem_leads hp) (length_cased hr)

/-- A text conversion meets the width law with no sign or prefix and no zeros. -/
theorem padsBare_of_text {s : Utf16} {up : Bool} (hw : d.width = some w)
    (h : (do let t ← justify s d; if up then bounded t.toUpper else pure t) = .ok out)
    (hz : ¬ ZeroFills d v) (hup : up = true → d.conversion.isUpper = true)
    (hlen : d.conversion ≠ .stringUpper → d.conversion ≠ .charUpper →
      (cased up s).length = s.length) :
    PadsBare d v w (do let t ← justify s d.bare; if up then bounded t.toUpper else pure t) out := by
  obtain ⟨hb, hout⟩ := text_widened hw h
  have hlead : ([] : Utf16) ∈ leads := List.mem_map_of_mem (a := "") (by simp)
  refine ⟨[], s, false, up, hlead, by simpa using hz, hup, by rw [hb, cased_nil]; rfl, ?_,
    fun hS hC => ?_⟩
  · rw [hout, cased_nil, List.length_nil, Nat.zero_add]
  · rw [hout, length_widened, cased_nil, List.nil_append, hlen hS hC]
    simp only [List.length_nil]
    omega

end law

/-- A directive with a width pads what it renders without the width and without `-` and `0`,
counting the units before upper case. -/
theorem directive_pads_to_width {d : Directive} {v : Value} {w : Nat} {out : Utf16}
    (hd : d.Obeys) (hw : d.width = some w) (h : directive d v = .ok out) :
    PadsBare d v w (directive d.bare v) out := by
  have hnum : ∀ c, d.conversion = c → Flag.allowed c = [] → ¬ ZeroFills d v :=
    fun c hc hallowed => not_zeroFills hd (by rw [hc]; exact hallowed)
  have hup : ∀ c, d.conversion = c → c.isUpper = true → d.conversion.isUpper = true :=
    fun c hc hu => by rw [hc]; exact hu
  cases hc : d.conversion
  case newline =>
    exact absurd (hd.newline hc).2 (by rw [hw]; simp)
  case percent =>
    simp only [directive, hc, Directive.bare_conversion] at h ⊢
    have h' : (justify (Utf16.ofString "%") d >>= fun t =>
        if false then bounded t.toUpper else pure t) = .ok out := by
      simpa only [Bool.false_eq_true, if_false, bind_pure] using h
    have hpct := padsBare_of_text hw h' (hnum _ hc rfl) (by simp) (fun _ _ => rfl)
    simpa only [Bool.false_eq_true, if_false, bind_pure] using hpct
  case string =>
    simp only [directive, hc, Directive.bare_conversion, Directive.bare_precision] at h ⊢
    exact padsBare_of_text hw h (hnum _ hc rfl) (hup _ hc) fun _ _ => rfl
  case stringUpper =>
    simp only [directive, hc, Directive.bare_conversion, Directive.bare_precision] at h ⊢
    exact padsBare_of_text hw h (hnum _ hc rfl) (hup _ hc) fun hS _ => absurd hc hS
  case bool =>
    simp only [directive, hc, Directive.bare_conversion, Directive.bare_precision] at h ⊢
    exact padsBare_of_text hw h (hnum _ hc rfl) (hup _ hc) fun _ _ => rfl
  case boolUpper =>
    simp only [directive, hc, Directive.bare_conversion, Directive.bare_precision] at h ⊢
    refine padsBare_of_text hw h (hnum _ hc rfl) (hup _ hc) fun _ _ => length_cased ?_
    -- the words `true` and `false`, or a start of them
    apply ascii_ofString
    have hword : ∀ s, s = "true" ∨ s = "false" → AsciiText s := by
      rintro s (rfl | rfl) <;> simp [AsciiText]
    split
    · refine AsciiText.take (hword _ ?_) _
      split <;> simp
    · split <;> exact hword _ (by simp)
  case char =>
    simp only [directive, hc, Directive.bare_conversion] at h ⊢
    split at h
    · split at h
      · next hcode =>
        rw [if_pos hcode]
        simp only [pure_bind] at h ⊢
        exact padsBare_of_text hw h (hnum _ hc rfl) (hup _ hc) fun _ _ => rfl
      · cases h
    · simp only [pure_bind] at h ⊢
      exact padsBare_of_text hw h (hnum _ hc rfl) (hup _ hc) fun _ _ => rfl
  case charUpper =>
    simp only [directive, hc, Directive.bare_conversion] at h ⊢
    split at h
    · split at h
      · next hcode =>
        rw [if_pos hcode]
        simp only [pure_bind] at h ⊢
        exact padsBare_of_text hw h (hnum _ hc rfl) (hup _ hc) fun _ hC => absurd hc hC
      · cases h
    · simp only [pure_bind] at h ⊢
      exact padsBare_of_text hw h (hnum _ hc rfl) (hup _ hc) fun _ hC => absurd hc hC
  case decimal =>
    simp only [directive, hc, Directive.bare_conversion] at h ⊢
    obtain ⟨n, hn, h⟩ := except_bind_eq_ok h
    rw [hn]
    exact padsBare_of_widens (widens_integer n hw) h
      (zeroFills_integer (by rw [hc]; simp)).symm (by simp)
  case octal =>
    simp only [directive, hc, Directive.bare_conversion] at h ⊢
    obtain ⟨n, hn, h⟩ := except_bind_eq_ok h
    rw [hn]
    exact padsBare_of_widens (widens_unsignedInteger n (by decide) (by decide) hw) h
      (zeroFills_integer (by rw [hc]; simp)).symm id
  case hex | hexUpper =>
    simp only [directive, hc, Directive.bare_conversion] at h ⊢
    obtain ⟨n, hn, h⟩ := except_bind_eq_ok h
    rw [hn]
    dsimp only [bind, Except.bind]
    exact padsBare_of_widens (widens_unsignedInteger n (by decide) (by decide) hw) h
      (zeroFills_integer (by rw [hc]; simp)).symm id
  case sci | sciUpper | fixed | general | generalUpper =>
    have hfloat : d.conversion ∉ [.decimal, .octal, .hex, .hexUpper] := by
      rw [hc]
      simp
    simp only [directive, hc, Directive.bare_conversion] at h ⊢
    cases v
    case num x =>
      exact padsBare_of_widens (widens_float x hw) h (zeroFills_num hfloat).symm
        fun hu => (Bool.and_eq_true _ _ ▸ hu).1
    case big n =>
      exact padsBare_of_widens (widens_float (Double.ofInt n) hw) h (zeroFills_big hfloat).symm
        fun hu => (Bool.and_eq_true _ _ ▸ hu).1
    all_goals cases h

/-- The width law at `%5S` of `ß`: the padding counts `ß`, one unit, so four spaces go before
the two units of `SS`. -/
theorem directive_pads_to_width_upper :
    PadsBare ⟨"%5S", [], some 5, none, .stringUpper⟩ (.str [0xDF]) 5
      (directive (Directive.bare ⟨"%5S", [], some 5, none, .stringUpper⟩) (.str [0xDF]))
      (Utf16.spaces 4 ++ [0x53, 0x53]) :=
  directive_pads_to_width (Directive.fault?_eq_none_iff.1 rfl) rfl rfl

/-- Upper case after the padding overruns the width: `%5S` of `ß` is six units long, where its
bare rendering `SS` is two and the width five. -/
theorem upper_case_overruns_width :
    directive ⟨"%5S", [], some 5, none, .stringUpper⟩ (.str [0xDF]) =
        .ok (Utf16.spaces 4 ++ [0x53, 0x53]) ∧
      directive (Directive.bare ⟨"%5S", [], some 5, none, .stringUpper⟩) (.str [0xDF]) =
        .ok [0x53, 0x53] ∧
      (Utf16.spaces 4 ++ [0x53, 0x53]).length ≠ max 5 [0x53, 0x53].length :=
  ⟨rfl, rfl, by decide⟩

end Render

end FolderSink
