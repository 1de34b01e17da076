import FolderSink.Format.Check
import Mathlib.Data.Nat.Digits.Defs
import Mathlib.Data.List.TakeWhile
/-!
The grammar of format templates, and the reader's agreement with it. A template is a
sequence of units other than `%`, which join into literal text, and of directives: `%`, the
longest run of flag characters, the longest run of ASCII digits (the width), optionally `.`
with a non-empty run of digits (the precision), and a conversion letter, the whole obeying
the rules of `Directive.Obeys`. `Reads t segs` says that the grammar splits `t` into
`segs`.

Main statement, `parse_follows_grammar`: a template is read exactly when the grammar
splits it, and then into the grammar's segments, which give back the template unit for
unit; their literal texts are non-empty, hold no `%` and never follow each other. A
template that is not read makes formatting fail in its syntax phase.
-/

namespace FolderSink

namespace Directive

/-- The rules a directive obeys: `%n` takes no flags and no width; every flag but `-` is
one that the conversion allows; `-` and `0` need a width; `-` and `0` exclude each other,
and so do `+` and a space; a conversion that refuses a precision has none. -/
structure Obeys (d : Directive) : Prop where
  newline : d.conversion = .newline → d.flags = [] ∧ d.width = none
  allowed : ∀ f ∈ d.flags, f ≠ .left → f ∈ Flag.allowed d.conversion
  width : Flag.left ∈ d.flags ∨ Flag.zero ∈ d.flags → d.width ≠ none
  left_zero : Flag.left ∈ d.flags → Flag.zero ∉ d.flags
  plus_space : Flag.plus ∈ d.flags → Flag.space ∉ d.flags
  precision : d.conversion.refusesPrecision → d.precision = none

/-- The checker finds no fault exactly when the directive obeys every rule. -/
theorem fault?_eq_none_iff {d : Directive} : d.fault? = none ↔ d.Obeys := by
  unfold fault?
  by_cases hA : d.conversion = .newline ∧ (!d.flags.isEmpty || d.width.isSome)
  · -- a decorated `%n`
    rw [if_pos hA]
    simp only [reduceCtorEq, false_iff]
    intro ho
    obtain ⟨hf, hw⟩ := ho.newline hA.1
    simp [hf, hw] at hA
  rw [if_neg hA]
  cases hfind : d.flags.find? (fun f => f != .left && !(Flag.allowed d.conversion).contains f) with
  | some f =>
    -- a flag the conversion does not allow
    simp only [reduceCtorEq, false_iff]
    intro ho
    have hp := List.find?_some hfind
    simp at hp
    exact hp.2 (ho.allowed f (List.mem_of_find?_eq_some hfind) hp.1)
  | none =>
    simp only [List.find?_eq_none] at hfind
    simp only [has, Bool.or_eq_true, List.contains_iff_mem, Option.isNone_iff_eq_none,
      Bool.and_eq_true, Option.isSome_iff_ne_none]
    have hnewline : d.conversion = .newline → d.flags = [] ∧ d.width = none := fun hc => by
      simpa [hc, Option.isSome_iff_ne_none] using hA
    have hallowed : ∀ f ∈ d.flags, f ≠ .left → f ∈ Flag.allowed d.conversion := fun f hf hl => by
      simpa [hl] using hfind f hf
    constructor
    · intro h
      split_ifs at h with h₁ h₂ h₃ h₄
      exact ⟨hnewline, hallowed, fun hw hn => h₁ ⟨hw, hn⟩, fun hl hz => h₂ ⟨hl, hz⟩,
        fun hp hs => h₃ ⟨hp, hs⟩, fun hr => by_contra fun hne => h₄ ⟨hne, hr⟩⟩
    · intro ho
      rw [if_neg fun h => ho.width h.1 h.2, if_neg fun h => ho.left_zero h.1 h.2,
        if_neg fun h => ho.plus_space h.1 h.2, if_neg fun h => h.1 (ho.precision h.2)]

end Directive

/-- The units that a segment stands for in its template. -/
def Segment.units : Segment → Utf16
  | .literal l => l
  | .directive d => Utf16.ofString d.source

namespace Template

/-- The units of a directive after its `%`: the flags, the width, `.` and the precision,
and the letter. -/
def Spec.units (s : Spec) : Utf16 :=
  s.flagText ++ s.widthText ++ (s.precisionText.map (0x2E :: ·)).getD [] ++ [s.last]

/-- The parts of a directive as the grammar cuts them: flag characters, digits that do not
start with `0` (a flag, so the run of flags would take it), a `.` with a non-empty run of
digits, and a letter or `%`. -/
structure Spec.Shaped (s : Spec) : Prop where
  flags : ∀ u ∈ s.flagText, isFlag u
  digits : ∀ u ∈ s.widthText, isDigit u
  longest : ∀ u ∈ s.widthText.head?, isFlag u = false
  precision : ∀ p ∈ s.precisionText, p ≠ [] ∧ ∀ u ∈ p, isDigit u
  last : isEnd s.last

/-- The number that a run of decimal digits writes. -/
def decimal (ds : Utf16) : Nat := Nat.ofDigits 10 (ds.reverse.map fun u => u.toNat - 0x30)

/-- The directive that the parts of a directive text stand for: the conversion of its
letter, its distinct flags in order of first appearance, its width and precision as
decimal numbers, and the text itself; and it obeys the rules. -/
structure Spec.Denotes (s : Spec) (d : Directive) : Prop where
  shaped : s.Shaped
  conversion : Conversion.ofLetter? (Char.ofNat s.last.toNat) = some d.conversion
  flags : d.flags = (s.flagText.filterMap fun u => (asciiChar u).bind Flag.ofChar?).eraseDups
  width : d.width = if s.widthText = [] then none else some (decimal s.widthText)
  precision : d.precision = s.precisionText.map decimal
  source : d.source = s.source
  obeys : d.Obeys

/-- A unit of literal text before some segments: it starts the first of them when that is
literal text, and a literal of its own otherwise. -/
def consLit (u : UInt16) : List Segment → List Segment
  | .literal l :: segs => .literal (u :: l) :: segs
  | segs => .literal [u] :: segs

/-- How the grammar splits a template into segments: units other than `%` join into
literal text, and `%` starts a directive. -/
inductive Reads : Utf16 → List Segment → Prop
  | nil : Reads [] []
  | unit {u : UInt16} {rest : Utf16} {segs : List Segment} :
      u ≠ 0x25 → Reads rest segs → Reads (u :: rest) (consLit u segs)
  | directive {s : Spec} {d : Directive} {rest : Utf16} {segs : List Segment} :
      s.Denotes d → Reads rest segs → Reads (0x25 :: (s.units ++ rest)) (.directive d :: segs)

/-- Literal segments are non-empty, hold no `%`, and never follow each other. -/
def LiteralsApart : List Segment → Prop
  | [] => True
  | .literal l :: rest =>
    l ≠ [] ∧ 0x25 ∉ l ∧ (∀ l' rest', rest ≠ .literal l' :: rest') ∧ LiteralsApart rest
  | .directive _ :: rest => LiteralsApart rest

/-- Literal units in front of segments, one by one. -/
def withLit (p : Utf16) (segs : List Segment) : List Segment := p.foldr consLit segs

/-! ### Classes of units -/

section units

variable {u : UInt16}

theorem ascii_of_asciiChar {c : Char} (h : asciiChar u = some c) :
    u.toNat < 128 ∧ c = Char.ofNat u.toNat := by
  unfold asciiChar at h
  split at h
  · simp only [Option.some.injEq] at h
    exact ⟨‹_›, h.symm⟩
  · simp at h

theorem char_eq_of_ofChar? {c : Char} {f : Flag} (h : Flag.ofChar? c = some f) : f.char = c := by
  simpa using List.find?_some h

theorem ascii_of_isFlag (h : isFlag u) : u.toNat < 128 := by
  unfold isFlag at h
  cases hc : asciiChar u with
  | none => simp [hc] at h
  | some c => exact (ascii_of_asciiChar hc).1

theorem ascii_of_isEnd (h : isEnd u) : u.toNat < 128 := by
  unfold isEnd at h
  cases hc : asciiChar u with
  | none => simp [hc] at h
  | some c => exact (ascii_of_asciiChar hc).1

theorem ascii_of_isDigit (h : isDigit u) : u.toNat < 128 := by
  unfold isDigit at h
  simp at h
  omega

/-- A letter or `%` is no flag: the flag characters are punctuation, a space and `0`. -/
theorem isFlag_eq_false_of_isEnd (h : isEnd u) : isFlag u = false := by
  unfold isEnd at h
  unfold isFlag
  cases hc : asciiChar u with
  | none => simp [hc] at h
  | some c =>
    cases hf : Flag.ofChar? c with
    | none => simp [hf]
    | some f =>
      rw [hc] at h
      rw [← char_eq_of_ofChar? hf] at h
      cases f <;> simp [Flag.char] at h

/-- A letter or `%` is no digit. -/
theorem isDigit_eq_false_of_isEnd (h : isEnd u) : isDigit u = false := by
  have hend : ∀ n < 58, 48 ≤ n → (Char.ofNat n).isAlpha = false ∧ Char.ofNat n ≠ '%' := by
    decide
  unfold isEnd at h
  cases hc : asciiChar u with
  | none => simp [hc] at h
  | some c =>
    obtain ⟨-, rfl⟩ := ascii_of_asciiChar hc
    rw [hc] at h
    unfold isDigit
    by_contra hd
    simp only [Bool.not_eq_false, Bool.and_eq_true, decide_eq_true_eq] at hd
    obtain ⟨ha, hp⟩ := hend u.toNat (by omega) (by omega)
    simp [ha, hp] at h

theorem isFlag_dot : isFlag 0x2E = false := by decide

theorem isDigit_dot : isDigit 0x2E = false := by decide

theorem ne_dot_of_isEnd (h : isEnd u) : u ≠ 0x2E := by
  rintro rfl
  exact absurd h (by decide)

end units

/-! ### The text of a directive -/

theorem toNat_ofNat_ascii {n : Nat} (h : n < 128) : (Char.ofNat n).toNat = n := by
  rw [Char.ofNat, dif_pos (by simp [Nat.isValidChar]; omega)]
  rfl

theorem ofCodePoint_ascii {u : UInt16} (h : u.toNat < 128) :
    Utf16.ofCodePoint (Char.ofNat u.toNat).toNat = [u] := by
  rw [toNat_ofNat_ascii h]
  simp [Utf16.ofCodePoint, show u.toNat < 65536 by omega]

theorem Spec.Shaped.ascii {s : Spec} (hs : s.Shaped) : ∀ u ∈ s.units, u.toNat < 128 := by
  intro u hu
  simp only [Spec.units, List.mem_append, List.mem_singleton] at hu
  rcases hu with ((hu | hu) | hu) | rfl
  · exact ascii_of_isFlag (hs.flags u hu)
  · exact ascii_of_isDigit (hs.digits u hu)
  · cases hp : s.precisionText with
    | none => simp [hp] at hu
    | some p =>
      simp only [hp, Option.map_some, Option.getD_some, List.mem_cons] at hu
      rcases hu with rfl | hu
      · decide
      · exact ascii_of_isDigit ((hs.precision p hp).2 u hu)
  · exact ascii_of_isEnd hs.last

/-- The text of a directive is `%` and its parts, unit for unit. -/
theorem ofString_source {s : Spec} (hs : s.Shaped) : Utf16.ofString s.source = 0x25 :: s.units := by
  have hunits : ∀ us : Utf16, (∀ u ∈ us, u.toNat < 128) →
      (us.map fun u => Char.ofNat u.toNat).flatMap (fun c => Utf16.ofCodePoint c.toNat) = us := by
    intro us hus
    induction us with
    | nil => rfl
    | cons u us ih =>
      simp only [List.map_cons, List.flatMap_cons, List.forall_mem_cons] at hus ⊢
      rw [ofCodePoint_ascii hus.1, ih hus.2]
      rfl
  show (String.ofList ('%' :: s.units.map fun u => Char.ofNat u.toNat)).toList.flatMap _ = _
  rw [String.toList_ofList, List.flatMap_cons, hunits _ hs.ascii]
  rfl

/-! ### Reading the parts of a directive -/

theorem length_units (s : Spec) : s.units.length = s.size := by
  cases hp : s.precisionText <;> simp [Spec.units, Spec.size, hp] <;> omega

/-- Parts that the grammar cuts are read back from their units, whatever follows them. -/
theorem readSpec_units_append {s : Spec} (hs : s.Shaped) (rest : Utf16) :
    readSpec (s.units ++ rest) = some s := by
  obtain ⟨F, W, P, last⟩ := s
  set Y := (P.map (0x2E :: ·)).getD [] ++ last :: rest with hY
  have hsplit : Spec.units ⟨F, W, P, last⟩ ++ rest = F ++ (W ++ Y) := by simp [Spec.units, hY]
  -- the run of flags stops at the width, the `.` or the letter
  have hF : (F ++ (W ++ Y)).takeWhile isFlag = F := by
    rw [List.takeWhile_append_of_pos hs.flags]
    cases W with
    | cons w W =>
      rw [List.cons_append, List.takeWhile_cons_of_neg (by simp [hs.longest w (by simp)]),
        List.append_nil]
    | nil =>
      cases P with
      | none => simp [hY, isFlag_eq_false_of_isEnd hs.last]
      | some p => simp [hY, isFlag_dot]
  -- the run of digits stops at the `.` or the letter
  have hW : (W ++ Y).takeWhile isDigit = W := by
    rw [List.takeWhile_append_of_pos hs.digits]
    cases P with
    | none => simp [hY, isDigit_eq_false_of_isEnd hs.last]
    | some p => simp [hY, isDigit_dot]
  rw [hsplit]
  unfold readSpec
  simp only [hF, List.drop_left, hW]
  cases P with
  | none => simp [hY, ne_dot_of_isEnd hs.last, hs.last]
  | some p =>
    obtain ⟨hne, hdig⟩ := hs.precision p rfl
    obtain ⟨q, p', rfl⟩ := List.exists_cons_of_ne_nil hne
    -- the run of precision digits stops at the letter
    have hP : (p' ++ last :: rest).takeWhile isDigit = p' := by
      rw [List.takeWhile_append_of_pos fun u hu => hdig u (by simp [hu]),
        List.takeWhile_cons_of_neg (by simp [isDigit_eq_false_of_isEnd hs.last]), List.append_nil]
    simp [hY, hP, hdig q (by simp), hs.last]

theorem drop_length_takeWhile (p : UInt16 → Bool) (l : Utf16) :
    l.drop (l.takeWhile p).length = l.dropWhile p :=
  calc l.drop (l.takeWhile p).length
      = (l.takeWhile p ++ l.dropWhile p).drop (l.takeWhile p).length := by
        rw [List.takeWhile_append_dropWhile]
    _ = l.dropWhile p := List.drop_left

/-- What is read as the parts of a directive is cut as the grammar cuts it, from the front
of the units. -/
theorem readSpec_eq_some {cs : Utf16} {s : Spec} (h : readSpec cs = some s) :
    s.Shaped ∧ ∃ rest, cs = s.units ++ rest := by
  unfold readSpec at h
  simp only [drop_length_takeWhile] at h
  -- the run of flags ends before a unit that is no flag
  have hstop : ∀ x, (cs.dropWhile isFlag).head? = some x → isFlag x = false := by
    intro x hx
    have hne : cs.dropWhile isFlag ≠ [] := by
      intro h0
      simp [h0] at hx
    obtain rfl : x = _ := Option.some.inj (hx.symm.trans (List.head?_eq_some_head hne))
    exact List.head_dropWhile_not isFlag hne
  have hcs := (List.takeWhile_append_dropWhile (p := isFlag) (l := cs)).symm
  have hr₁ := (List.takeWhile_append_dropWhile (p := isDigit) (l := cs.dropWhile isFlag)).symm
  have hflags : ∀ u ∈ cs.takeWhile isFlag, isFlag u := fun u hu => List.mem_takeWhile_imp hu
  have hdigits : ∀ u ∈ (cs.dropWhile isFlag).takeWhile isDigit, isDigit u :=
    fun u hu => List.mem_takeWhile_imp hu
  generalize cs.takeWhile isFlag = F at h hcs hflags
  generalize cs.dropWhile isFlag = r₁ at h hcs hr₁ hdigits hstop
  generalize r₁.takeWhile isDigit = W at h hr₁ hdigits
  generalize r₁.dropWhile isDigit = r₂ at h hr₁
  subst hcs hr₁
  -- the width does not start with `0`, which the flags would have taken
  have hlongest : ∀ u ∈ W.head?, isFlag u = false := by
    intro u hu
    cases W with
    | nil => simp at hu
    | cons w W => exact hstop u (by simpa using hu)
  rcases r₂ with _ | ⟨u, r⟩
  · simp at h
  simp only at h
  split_ifs at h with hdot
  · -- a `.` and a precision
    simp only [Bool.and_eq_true, decide_eq_true_eq] at hdot
    obtain ⟨rfl, hfirst⟩ := hdot
    obtain ⟨v, r', rfl⟩ : ∃ v r', r = v :: r' := by
      cases r with
      | nil => simp at hfirst
      | cons v r' => exact ⟨v, r', rfl⟩
    simp only [List.head?_cons, Option.map_some, Option.getD_some] at hfirst
    have hP := (List.takeWhile_append_dropWhile (p := isDigit) (l := r')).symm
    have hPd : ∀ x ∈ r'.takeWhile isDigit, isDigit x := fun x hx => List.mem_takeWhile_imp hx
    simp only [List.takeWhile_cons_of_pos hfirst, List.dropWhile_cons_of_pos hfirst] at h
    generalize r'.takeWhile isDigit = P at h hP hPd
    generalize r'.dropWhile isDigit = r₃ at h hP
    subst hP
    rcases r₃ with _ | ⟨last, rest⟩
    · simp at h
    simp only at h
    split at h
    · rename_i hend
      simp only [Option.some.injEq] at h
      subst h
      refine ⟨⟨hflags, hdigits, hlongest, ?_, hend⟩, rest, by simp [Spec.units]⟩
      intro p hp
      simp only [Option.mem_def, Option.some.injEq] at hp
      subst hp
      exact ⟨by simp, by simpa [hfirst] using hPd⟩
    · simp at h
  · -- no precision: the letter follows the width
    simp only at h
    split at h
    · rename_i hend
      simp only [Option.some.injEq] at h
      subst h
      exact ⟨⟨hflags, hdigits, hlongest, by simp, hend⟩, r, by simp [Spec.units]⟩
    · simp at h

/-! ### The directive that parts stand for -/

theorem erase_eraseDups {α : Type} [DecidableEq α] (a : α) :
    ∀ l : List α, l.eraseDups.erase a = (l.filter fun b => !b == a).eraseDups
  | [] => by simp
  | b :: l => by
    -- the recursive call is on the tail with `b` filtered out, which is no longer
    have hlen : (l.filter fun x => !x == b).length < l.length + 1 :=
      Nat.lt_succ_of_le (List.length_filter_le _ _)
    rw [List.eraseDups_cons]
    by_cases hab : b = a
    · subst hab
      simp
    · rw [List.erase_cons_tail (by simpa using hab), erase_eraseDups a (l.filter fun x => !x == b)]
      simp [hab, List.eraseDups_cons, List.filter_filter, Bool.and_comm]
termination_by l => l.length

/-- The distinct members of a list in order of first appearance are its members with
duplicates erased. -/
theorem distinct_eq_eraseDups {α : Type} [DecidableEq α] (l : List α) :
    distinct l = l.eraseDups := by
  induction l with
  | nil => rfl
  | cons a l ih => rw [distinct, ih, erase_eraseDups, List.eraseDups_cons]

/-- A run of digits is read as the decimal number it writes. -/
theorem digitsValue_eq_decimal : digitsValue = decimal := by
  funext ds
  rw [digitsValue, decimal, List.foldl_eq_foldr_reverse]
  -- the last digit read is the first of the reversed run, the least significant one
  generalize ds.reverse = rs
  induction rs with
  | nil => rfl
  | cons u rs ih =>
    simp only [List.foldr_cons, List.map_cons, Nat.ofDigits_cons, ih]
    omega

/-- The directive that parts make with a given conversion, before its rules are checked. -/
def Spec.assemble (s : Spec) (c : Conversion) : Directive :=
  { source := s.source
    flags := distinct (s.flagText.filterMap fun u => (asciiChar u).bind Flag.ofChar?)
    width := if s.widthText.isEmpty then none else some (digitsValue s.widthText)
    precision := s.precisionText.map digitsValue
    conversion := c }

theorem directive_eq_assemble (s : Spec) :
    directive s = match Conversion.ofLetter? (Char.ofNat s.last.toNat) with
      | none => .error (.unknownConversion (Char.ofNat s.last.toNat) s.source)
      | some c => match (s.assemble c).fault? with
        | some fault => .error (.faulty s.source fault)
        | none => .ok (s.assemble c) := rfl

theorem Spec.Denotes.eq_assemble {s : Spec} {d : Directive} (hd : s.Denotes d) :
    d = s.assemble d.conversion := by
  obtain ⟨-, -, hf, hw, hp, hsrc, -⟩ := hd
  obtain ⟨source, flags, width, precision, conversion⟩ := d
  simp only at hf hw hp hsrc
  subst hf hw hp hsrc
  simp [Spec.assemble, distinct_eq_eraseDups, digitsValue_eq_decimal, List.isEmpty_iff]

theorem Spec.denotes_assemble {s : Spec} {c : Conversion} (hs : s.Shaped)
    (hc : Conversion.ofLetter? (Char.ofNat s.last.toNat) = some c) (ho : (s.assemble c).Obeys) :
    s.Denotes (s.assemble c) :=
  ⟨hs, hc, distinct_eq_eraseDups _, by simp [Spec.assemble, digitsValue_eq_decimal, List.isEmpty_iff],
    by simp [Spec.assemble, digitsValue_eq_decimal], rfl, ho⟩

/-- Parts that the grammar cuts make a directive exactly when they stand for it. -/
theorem directive_eq_ok_iff {s : Spec} {d : Directive} (hs : s.Shaped) :
    directive s = .ok d ↔ s.Denotes d := by
  rw [directive_eq_assemble]
  constructor
  · intro h
    split at h
    · cases h
    rename_i c hc
    split at h
    · cases h
    rename_i hfault
    cases h
    exact Spec.denotes_assemble hs hc (Directive.fault?_eq_none_iff.mp hfault)
  · intro hd
    have ho : (s.assemble d.conversion).Obeys := by
      rw [← hd.eq_assemble]
      exact hd.obeys
    rw [hd.conversion]
    simp only
    rw [Directive.fault?_eq_none_iff.mpr ho, ← hd.eq_assemble]

/-! ### Pending literal text -/

theorem withLit_append_singleton (p : Utf16) (u : UInt16) (segs : List Segment) :
    withLit (p ++ [u]) segs = withLit p (consLit u segs) := by
  simp [withLit]

theorem withLit_nil (p : Utf16) : withLit p [] = if p = [] then [] else [.literal p] := by
  induction p with
  | nil => rfl
  | cons u p ih =>
    rw [withLit, List.foldr_cons, ← withLit, ih]
    split <;> simp_all [consLit]

/-- Before segments that do not open with literal text, pending units stand on their own. -/
theorem withLit_of_apart (p : Utf16) {segs : List Segment}
    (hs : ∀ l rest, segs ≠ .literal l :: rest) : withLit p segs = withLit p [] ++ segs := by
  induction p with
  | nil => rfl
  | cons u p ih =>
    rw [withLit, List.foldr_cons, ← withLit, ih, withLit_nil, withLit_nil]
    by_cases hp : p = []
    · subst hp
      cases segs with
      | nil => rfl
      | cons seg segs =>
        cases seg with
        | literal l => exact absurd rfl (hs l segs)
        | directive d => rfl
    · simp [hp, consLit]

theorem withLit_directive (p : Utf16) (d : Directive) (segs : List Segment) :
    withLit p (.directive d :: segs) = withLit p [] ++ .directive d :: segs :=
  withLit_of_apart p (by simp)

@[simp] theorem withLit_nil_left (segs : List Segment) : withLit [] segs = segs := rfl

/-- The segments read so far, with the pending literal closed, in reading order. -/
theorem reverse_flush (pending : Utf16) (done : List Segment) :
    (flush pending done).reverse = done.reverse ++ withLit pending.reverse [] := by
  by_cases hp : pending = [] <;> simp [flush, withLit_nil, hp]

/-! ### The scanner and the grammar -/

theorem scan_nil (offset : Nat) (pending : Utf16) (done : List Segment) :
    scan [] offset pending done = .ok (flush pending done).reverse := by
  rw [scan]

theorem scan_unit {u : UInt16} (hu : u ≠ 0x25) (tail : Utf16) (offset : Nat) (pending : Utf16)
    (done : List Segment) :
    scan (u :: tail) offset pending done = scan tail (offset + 1) (u :: pending) done := by
  rw [scan, if_pos hu]

theorem scan_directive {tail : Utf16} {s : Spec} {d : Directive} (hs : readSpec tail = some s)
    (hd : directive s = .ok d) (offset : Nat) (pending : Utf16) (done : List Segment) :
    scan (0x25 :: tail) offset pending done =
      scan (tail.drop s.size) (offset + 1 + s.size) [] (.directive d :: flush pending done) := by
  rw [scan]
  simp [hs, hd]

theorem drop_size_units (s : Spec) (rest : Utf16) : (s.units ++ rest).drop s.size = rest := by
  rw [← length_units, List.drop_left]

/-- Whatever the grammar reads, the scanner reads, after any literal text left pending and
any segments already read. -/
theorem scan_of_reads {t : Utf16} {segs : List Segment} (h : Reads t segs) :
    ∀ offset pending done,
      scan t offset pending done = .ok (done.reverse ++ withLit pending.reverse segs) := by
  induction h with
  | nil =>
    intro offset pending done
    rw [scan_nil, reverse_flush]
  | unit hu _ ih =>
    intro offset pending done
    rw [scan_unit hu, ih, List.reverse_cons, withLit_append_singleton]
  | @directive s d rest segs hd _ ih =>
    intro offset pending done
    rw [scan_directive (readSpec_units_append hd.shaped rest) ((directive_eq_ok_iff hd.shaped).mpr hd),
      drop_size_units, ih, withLit_directive]
    simp [reverse_flush]

/-- Whatever the scanner returns, the grammar reads, after the literal text left pending and
the segments already read. -/
theorem reads_of_scan {t : Utf16} {offset : Nat} {pending : Utf16} {done segs : List Segment}
    (h : scan t offset pending done = .ok segs) :
    ∃ segs', Reads t segs' ∧ segs = done.reverse ++ withLit pending.reverse segs' := by
  fun_induction scan t offset pending done with
  | case1 offset pending done =>
    rw [Except.ok.injEq] at h
    exact ⟨[], .nil, by rw [← h, reverse_flush]⟩
  | case2 offset pending done u tail hu ih =>
    obtain ⟨segs', hr, rfl⟩ := ih h
    refine ⟨consLit u segs', .unit hu hr, ?_⟩
    rw [List.reverse_cons, withLit_append_singleton]
  | case3 => cases h
  | case4 => cases h
  | case5 offset pending done u tail hu s hs d hd ih =>
    obtain ⟨hshaped, rest, rfl⟩ := readSpec_eq_some hs
    have hu : u = 0x25 := by simpa using hu
    subst hu
    rw [drop_size_units] at ih h
    obtain ⟨segs', hr, rfl⟩ := ih h
    refine ⟨.directive d :: segs', .directive ((directive_eq_ok_iff hshaped).mp hd) hr, ?_⟩
    rw [withLit_directive]
    simp [reverse_flush]

/-- A template parses to exactly the segments the grammar reads it as. -/
theorem parse_eq_ok_iff_reads {t : Utf16} {segs : List Segment} :
    parse t = .ok segs ↔ Reads t segs := by
  unfold parse
  constructor
  · intro h
    obtain ⟨segs', hr, rfl⟩ := reads_of_scan h
    simpa using hr
  · intro h
    simpa using scan_of_reads h 0 [] []

/-- The grammar reads a template in one way at most. -/
theorem Reads.unique {t : Utf16} {segs₁ segs₂ : List Segment} (h₁ : Reads t segs₁)
    (h₂ : Reads t segs₂) : segs₁ = segs₂ :=
  Except.ok.inj ((parse_eq_ok_iff_reads.mpr h₁).symm.trans (parse_eq_ok_iff_reads.mpr h₂))

/-! ### What a reading says of its segments -/

theorem flatMap_consLit (u : UInt16) (segs : List Segment) :
    (consLit u segs).flatMap Segment.units = u :: segs.flatMap Segment.units := by
  unfold consLit
  split <;> simp [Segment.units]

/-- Put back together, the segments of a reading give its template. -/
theorem Reads.units {t : Utf16} {segs : List Segment} (h : Reads t segs) :
    segs.flatMap Segment.units = t := by
  induction h with
  | nil => rfl
  | unit _ _ ih => rw [flatMap_consLit, ih]
  | directive hd _ ih => simp [Segment.units, hd.source, ofString_source hd.shaped, ih]

theorem LiteralsApart.cons_unit {u : UInt16} {segs : List Segment} (hu : u ≠ 0x25)
    (h : LiteralsApart segs) : LiteralsApart (consLit u segs) := by
  rcases segs with _ | ⟨_ | _, rest⟩
  · simp [consLit, LiteralsApart, Ne.symm hu]
  · -- the unit joins the literal in front, which keeps its neighbours
    obtain ⟨-, hl, hnext, hrest⟩ := h
    simpa [consLit, LiteralsApart, Ne.symm hu, hl] using ⟨hnext, hrest⟩
  · simpa [consLit, LiteralsApart, Ne.symm hu] using h

/-- The literals of a reading are non-empty, free of %, and never side by side. -/
theorem Reads.apart {t : Utf16} {segs : List Segment} (h : Reads t segs) : LiteralsApart segs := by
  induction h with
  | nil => trivial
  | unit hu _ ih => exact ih.cons_unit hu
  | directive _ _ ih => exact ih

/-- A template that does not parse is refused before any argument is looked at. -/
theorem format_of_parse_error {t : Utf16} {e : TemplateError} (h : parse t = .error e)
    (args : List Value) : format t args = .error (.template e) := by
  rw [format, h]
  rfl

/-- The parser reads templates by the grammar of `Reads` and by nothing else: it accepts a
template exactly with the one reading the grammar gives it, that reading puts the template
back together and keeps its literals apart, and a template it refuses is refused by
`format` as a parsing error whatever the arguments. -/
theorem parse_follows_grammar (t : Utf16) :
    (∀ segs, parse t = .ok segs ↔ Reads t segs) ∧
    (∀ segs₁ segs₂, Reads t segs₁ → Reads t segs₂ → segs₁ = segs₂) ∧
    (∀ segs, parse t = .ok segs → segs.flatMap Segment.units = t ∧ LiteralsApart segs) ∧
    (∀ e, parse t = .error e → ∀ args, format t args = .error (.template e)) :=
  ⟨fun _ => parse_eq_ok_iff_reads, fun _ _ => Reads.unique,
    fun _ h => ⟨(parse_eq_ok_iff_reads.mp h).units, (parse_eq_ok_iff_reads.mp h).apart⟩,
    fun _ => format_of_parse_error⟩

end Template

end FolderSink
