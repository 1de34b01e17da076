import Mathlib
import FolderSink.Proofs.Format.Validation
/-!
Templates written one after the other. The reader reads a joined template as it reads its
two parts, the literal text that ends the first running on into the literal text that
starts the second (`glue`): the first part's directives keep their places, and the
directives that take an argument keep their positions in the argument list. Formatting the
joined template with the two argument lists one after the other writes the two texts one
after the other, provided the whole still fits in `maxLength`; a longer text is refused as
too long, although each part on its own was written.

Main statement, `format_of_joined_templates`.
-/

namespace FolderSink

namespace Template

/-- The segments of two templates read one after the other: literal text that ends the
first runs on into literal text that starts the second. -/
def glue : List Segment → List Segment → List Segment
  | [], segs₂ => segs₂
  | .literal l :: segs, segs₂ => withLit l (glue segs segs₂)
  | .directive d :: segs, segs₂ => .directive d :: glue segs segs₂

/-- The directives among the segments, in order. -/
def directives : List Segment → List Directive
  | [] => []
  | .literal _ :: segs => directives segs
  | .directive d :: segs => d :: directives segs

section glue

variable {segs₁ segs₂ : List Segment}

theorem glue_consLit (u : UInt16) (segs₁ segs₂ : List Segment) :
    glue (consLit u segs₁) segs₂ = consLit u (glue segs₁ segs₂) := by
  rcases segs₁ with _ | ⟨_ | _, _⟩ <;> rfl

@[simp] theorem directives_consLit (u : UInt16) (segs : List Segment) :
    directives (consLit u segs) = directives segs := by
  unfold consLit
  split <;> simp [directives]

@[simp] theorem directives_withLit (l : Utf16) (segs : List Segment) :
    directives (withLit l segs) = directives segs := by
  induction l with
  | nil => rfl
  | cons u l ih => rw [withLit, List.foldr_cons, ← withLit, directives_consLit, ih]

@[simp] theorem argumentDirectives_consLit (u : UInt16) (segs : List Segment) :
    argumentDirectives (consLit u segs) = argumentDirectives segs := by
  unfold consLit
  split <;> simp

@[simp] theorem argumentDirectives_withLit (l : Utf16) (segs : List Segment) :
    argumentDirectives (withLit l segs) = argumentDirectives segs := by
  induction l with
  | nil => rfl
  | cons u l ih => rw [withLit, List.foldr_cons, ← withLit, argumentDirectives_consLit, ih]

/-- Gluing keeps the directives of both parts, the first part's in front. -/
theorem directives_glue (segs₁ segs₂ : List Segment) :
    directives (glue segs₁ segs₂) = directives segs₁ ++ directives segs₂ := by
  induction segs₁ with
  | nil => rfl
  | cons seg segs ih => cases seg <;> simp [glue, directives, ih]

/-- Gluing keeps the directives that take an argument, the first part's in front, so each
keeps its position in the argument list. -/
theorem argumentDirectives_glue (segs₁ segs₂ : List Segment) :
    argumentDirectives (glue segs₁ segs₂) = argumentDirectives segs₁ ++ argumentDirectives segs₂ := by
  induction segs₁ with
  | nil => rfl
  | cons seg segs ih =>
    cases seg with
    | literal l => simp [glue, ih]
    | directive d => by_cases hd : d.takesArgument <;> simp [glue, hd, ih]

end glue

/-! ### Reading a joined template -/

section reads

variable {t₁ t₂ : Utf16} {segs₁ segs₂ : List Segment}

/-- The grammar reads two templates one after the other as the glued readings of each. -/
theorem Reads.append (h₁ : Reads t₁ segs₁) (h₂ : Reads t₂ segs₂) :
    Reads (t₁ ++ t₂) (glue segs₁ segs₂) := by
  induction h₁ with
  | nil => exact h₂
  | unit hu _ ih =>
    rw [glue_consLit]
    exact .unit hu ih
  | directive hd _ ih =>
    rw [List.cons_append, List.append_assoc]
    exact .directive hd ih

/-- A directive's parts are cut from its units alone, so two directives cut from the front
of one text are the same directive. -/
theorem Spec.Denotes.unique {s s' : Spec} {d d' : Directive} {rest rest' : Utf16}
    (hd : s.Denotes d) (hd' : s'.Denotes d') (he : s.units ++ rest = s'.units ++ rest') :
    s = s' ∧ d = d' ∧ rest = rest' := by
  have hs : s = s' := by
    have h := readSpec_units_append hd.shaped rest
    rwa [he, readSpec_units_append hd'.shaped rest', Option.some.injEq, eq_comm] at h
  subst hs
  have hdir := ((directive_eq_ok_iff hd.shaped).mpr hd).symm.trans
    ((directive_eq_ok_iff hd'.shaped).mpr hd')
  exact ⟨rfl, Except.ok.inj hdir, List.append_cancel_left he⟩

/-- What the grammar reads of a joined template is the glued reading of the first part and of
a reading of the second. -/
theorem Reads.of_append (h₁ : Reads t₁ segs₁) {segs : List Segment} (h : Reads (t₁ ++ t₂) segs) :
    ∃ segs₂, Reads t₂ segs₂ ∧ segs = glue segs₁ segs₂ := by
  induction h₁ generalizing segs with
  | nil => exact ⟨segs, h, rfl⟩
  | @unit u rest segs₁ hu _ ih =>
    -- a unit that is no `%` is read as literal text, whatever follows it
    generalize hx : (u :: rest) ++ t₂ = x at h
    cases h with
    | nil => cases hx
    | @unit u' rest' segs' hu' hrest =>
      obtain ⟨rfl, rfl⟩ := List.cons.inj hx
      obtain ⟨segs₂, hr₂, rfl⟩ := ih hrest
      exact ⟨segs₂, hr₂, (glue_consLit u _ _).symm⟩
    | directive _ _ =>
      obtain ⟨rfl, -⟩ := List.cons.inj hx
      exact absurd rfl hu
  | @directive s d rest segs₁ hd _ ih =>
    -- a `%` starts a directive, and the directive is cut as in the first part alone
    generalize hx : (0x25 :: (s.units ++ rest)) ++ t₂ = x at h
    cases h with
    | nil => cases hx
    | unit hu _ =>
      obtain ⟨rfl, -⟩ := List.cons.inj hx
      exact absurd rfl hu
    | @directive s' d' rest' segs' hd' hrest =>
      have he : s.units ++ (rest ++ t₂) = s'.units ++ rest' := by
        simpa using (List.cons.inj hx).2
      obtain ⟨rfl, rfl, rfl⟩ := hd.unique hd' he
      obtain ⟨segs₂, hr₂, rfl⟩ := ih hrest
      exact ⟨segs₂, hr₂, rfl⟩

/-- After a template that reads, a joined template reads exactly when its second part does,
and then as the glued readings. -/
theorem parse_append (h₁ : parse t₁ = .ok segs₁) {segs : List Segment} :
    parse (t₁ ++ t₂) = .ok segs ↔ ∃ segs₂, parse t₂ = .ok segs₂ ∧ segs = glue segs₁ segs₂ := by
  have hr₁ := parse_eq_ok_iff_reads.mp h₁
  simp only [parse_eq_ok_iff_reads]
  constructor
  · exact hr₁.of_append
  · rintro ⟨segs₂, hr₂, rfl⟩
    exact hr₁.append hr₂

end reads

/-! ### Rendering a joined template -/

section render

variable {args₁ args₂ : List Value}

theorem renderSegments_literal (l : Utf16) (segs : List Segment) (args : List Value) :
    renderSegments (.literal l :: segs) args = (l :: ·) <$> renderSegments segs args := rfl

theorem flatten_renderSegments_consLit (u : UInt16) (segs : List Segment) (args : List Value) :
    List.flatten <$> renderSegments (consLit u segs) args =
      (u :: ·) <$> (List.flatten <$> renderSegments segs args) := by
  unfold consLit
  split <;> simp [renderSegments_literal, Functor.map_map]

theorem flatten_renderSegments_withLit (l : Utf16) (segs : List Segment) (args : List Value) :
    List.flatten <$> renderSegments (withLit l segs) args =
      (l ++ ·) <$> (List.flatten <$> renderSegments segs args) := by
  induction l with
  | nil => simp
  | cons u l ih =>
    rw [withLit, List.foldr_cons, ← withLit, flatten_renderSegments_consLit, ih, Functor.map_map]
    rfl

theorem renderSegments_directive {d : Directive} (hd : d.takesArgument = true) (v : Value)
    (segs : List Segment) (args : List Value) :
    renderSegments (.directive d :: segs) (v :: args) =
      (Render.directive d v >>= fun t => (t :: ·) <$> renderSegments segs args) := by
  simp only [renderSegments, hd, if_true]
  cases Render.directive d v <;> cases renderSegments segs args <;> rfl

theorem renderSegments_plain {d : Directive} (hd : d.takesArgument = false)
    (segs : List Segment) (args : List Value) :
    renderSegments (.directive d :: segs) args =
      (Render.directive d .none >>= fun t => (t :: ·) <$> renderSegments segs args) := by
  simp only [renderSegments, hd]
  cases Render.directive d .none <;> cases renderSegments segs args <;> rfl

theorem except_map_ok {ε α β : Type} (f : α → β) (a : α) :
    (f <$> (Except.ok a : Except ε α)) = .ok (f a) := rfl

theorem flatten_map_cons (t : Utf16) (x : Except RenderError (List Utf16)) :
    List.flatten <$> ((t :: ·) <$> x) = (t ++ ·) <$> (List.flatten <$> x) := by
  cases x <;> rfl

/-- A text written in front of two renderings joined is written in front of the first. -/
theorem map_append_joined (t : Utf16) (x y : Except RenderError (List Utf16)) :
    (t ++ ·) <$> (x >>= fun p₁ => (fun p₂ => p₁.flatten ++ p₂.flatten) <$> y) =
      ((t :: ·) <$> x >>= fun p₁ => (fun p₂ => p₁.flatten ++ p₂.flatten) <$> y) := by
  cases x with
  | error e => rfl
  | ok p₁ =>
    cases y with
    | error e => rfl
    | ok p₂ => exact congrArg Except.ok (List.append_assoc _ _ _).symm

/-- Rendering glued segments, with the arguments of the first part followed by those of the
second, writes the first part's text and then the second's; it fails as the first part
fails, or else as the second does. -/
theorem flatten_renderSegments_glue (segs₁ segs₂ : List Segment)
    (hlen : (argumentDirectives segs₁).length = args₁.length) :
    List.flatten <$> renderSegments (glue segs₁ segs₂) (args₁ ++ args₂) =
      (renderSegments segs₁ args₁ >>= fun p₁ =>
        (fun p₂ => p₁.flatten ++ p₂.flatten) <$> renderSegments segs₂ args₂) := by
  -- by induction on the first part; its arguments shrink with its directives
  induction segs₁ generalizing args₁ with
  | nil =>
    obtain rfl : args₁ = [] := List.eq_nil_of_length_eq_zero hlen.symm
    rw [glue, List.nil_append]
    cases renderSegments segs₂ args₂ <;> rfl
  | cons seg segs ih =>
    cases seg with
    | literal l =>
      rw [glue, flatten_renderSegments_withLit, ih hlen, renderSegments_literal]
      exact map_append_joined l _ _
    | directive d =>
      cases hd : d.takesArgument with
      | true =>
        -- the directive takes the first argument of the first part
        simp only [argumentDirectives_directive, hd, if_true, List.length_cons] at hlen
        obtain ⟨v, args₁, rfl⟩ : ∃ v rest, args₁ = v :: rest := by
          cases args₁ with
          | nil => simp at hlen
          | cons v rest => exact ⟨v, rest, rfl⟩
        rw [glue, List.cons_append, renderSegments_directive hd, renderSegments_directive hd]
        cases Render.directive d v with
        | error e => rfl
        | ok t =>
          rw [except_ok_bind, except_ok_bind, flatten_map_cons, ih (Nat.succ.inj hlen)]
          exact map_append_joined t _ _
      | false =>
        simp only [argumentDirectives_directive, hd] at hlen
        rw [glue, renderSegments_plain hd, renderSegments_plain hd]
        cases Render.directive d .none with
        | error e => rfl
        | ok t =>
          rw [except_ok_bind, except_ok_bind, flatten_map_cons, ih hlen]
          exact map_append_joined t _ _

end render

/-! ### Formatting a joined template -/

section format

variable {t t₁ t₂ : Utf16} {args args₁ args₂ : List Value} {out out₁ out₂ : Utf16}

/-- A format that succeeds read its template, passed every check and rendered its segments;
the text is theirs joined, and it fits in `maxLength`. -/
theorem rendered_of_format_ok (h : format t args = .ok out) :
    ∃ segs pieces, parse t = .ok segs ∧ Accepted (argumentDirectives segs) args ∧
      renderSegments segs args = .ok pieces ∧ out = pieces.flatten ∧ out.length ≤ maxLength := by
  obtain ⟨segs, hp, hacc⟩ := checked_of_format_ok h
  have hlen := List.Forall₂.length_eq hacc
  rw [format_of_checked hp hlen ((firstMismatch_eq_none_iff hlen).mpr hacc)] at h
  cases hr : renderSegments segs args with
  | error e =>
    rw [hr] at h
    cases h
  | ok pieces =>
    rw [hr, except_mapError_ok, except_ok_bind, Render.bounded] at h
    split at h
    · cases h
    · obtain rfl := (Except.ok.inj h).symm
      exact ⟨segs, pieces, hp, hacc, hr, rfl, by omega⟩

/-- Two templates that format, joined, format to their texts joined, unless the whole is
longer than `maxLength`. -/
theorem format_append (h₁ : format t₁ args₁ = .ok out₁) (h₂ : format t₂ args₂ = .ok out₂) :
    format (t₁ ++ t₂) (args₁ ++ args₂) = (Render.bounded (out₁ ++ out₂)).mapError .render := by
  obtain ⟨segs₁, p₁, hp₁, hacc₁, hr₁, rfl, -⟩ := rendered_of_format_ok h₁
  obtain ⟨segs₂, p₂, hp₂, hacc₂, hr₂, rfl, -⟩ := rendered_of_format_ok h₂
  have hp := (parse_append hp₁).mpr ⟨segs₂, hp₂, rfl⟩
  have hacc : Accepted (argumentDirectives (glue segs₁ segs₂)) (args₁ ++ args₂) := by
    rw [argumentDirectives_glue]
    exact List.rel_append hacc₁ hacc₂
  have hlen := List.Forall₂.length_eq hacc
  rw [format_of_checked hp hlen ((firstMismatch_eq_none_iff hlen).mpr hacc)]
  -- the glued segments render to the two texts one after the other
  have hjoin : List.flatten <$> renderSegments (glue segs₁ segs₂) (args₁ ++ args₂) = _ :=
    flatten_renderSegments_glue segs₁ segs₂ (List.Forall₂.length_eq hacc₁)
  rw [hr₁, hr₂, except_ok_bind, except_map_ok] at hjoin
  cases hr : renderSegments (glue segs₁ segs₂) (args₁ ++ args₂) with
  | error e =>
    rw [hr] at hjoin
    cases hjoin
  | ok pieces =>
    rw [hr, except_map_ok] at hjoin
    rw [except_mapError_ok, except_ok_bind, Except.ok.inj hjoin]

/-- Formatting is compatible with writing templates one after the other. When two templates
format with their arguments, the joined template formats with the joined arguments to the
joined texts, or is refused as too long when those exceed `maxLength`. When the first
template reads, the joined one reads exactly when the second does, and then into the
segments of the first glued to those of the second: the first's directives come first and
in order, and so do those that take an argument, each at its old position. -/
theorem format_of_joined_templates (t₁ t₂ : Utf16) (args₁ args₂ : List Value) :
    (∀ out₁ out₂, format t₁ args₁ = .ok out₁ → format t₂ args₂ = .ok out₂ →
      format (t₁ ++ t₂) (args₁ ++ args₂) =
        if (out₁ ++ out₂).length ≤ maxLength then .ok (out₁ ++ out₂)
        else .error (.render .tooLong)) ∧
    ∀ segs₁, parse t₁ = .ok segs₁ →
      ((∃ segs, parse (t₁ ++ t₂) = .ok segs) ↔ ∃ segs₂, parse t₂ = .ok segs₂) ∧
      ∀ segs₂, parse t₂ = .ok segs₂ →
        parse (t₁ ++ t₂) = .ok (glue segs₁ segs₂) ∧
        directives (glue segs₁ segs₂) = directives segs₁ ++ directives segs₂ ∧
        argumentDirectives (glue segs₁ segs₂) =
          argumentDirectives segs₁ ++ argumentDirectives segs₂ := by
  refine ⟨fun out₁ out₂ h₁ h₂ => ?_, fun segs₁ hp₁ => ⟨?_, fun segs₂ hp₂ => ?_⟩⟩
  · rw [format_append h₁ h₂, Render.bounded]
    by_cases hfit : (out₁ ++ out₂).length ≤ maxLength
    · rw [if_neg (by omega), if_pos hfit]
      rfl
    · rw [if_pos (by omega), if_neg hfit]
      rfl
  · constructor
    · rintro ⟨segs, hp⟩
      obtain ⟨segs₂, hp₂, -⟩ := (parse_append hp₁).mp hp
      exact ⟨segs₂, hp₂⟩
    · rintro ⟨segs₂, hp₂⟩
      exact ⟨_, (parse_append hp₁).mpr ⟨segs₂, hp₂, rfl⟩⟩
  · exact ⟨(parse_append hp₁).mpr ⟨segs₂, hp₂, rfl⟩, directives_glue segs₁ segs₂,
      argumentDirectives_glue segs₁ segs₂⟩

/-- The joined text can be too long although each part is not: a space padded to
`maxLength` units and a letter each format, and joined they are refused. -/
theorem format_of_joined_templates_too_long :
    format (Utf16.ofString "%536870888s") [.str []] = .ok (Utf16.spaces 536870888) ∧
    format (Utf16.ofString "x") [] = .ok [0x78] ∧
    format (Utf16.ofString "%536870888s" ++ Utf16.ofString "x") ([.str []] ++ []) =
      .error (.render .tooLong) := by
  have hp : parse (Utf16.ofString "%536870888s") =
      .ok [.directive ⟨"%536870888s", [], some 536870888, none, .string⟩] := by
    cbv
  -- the padding is built and counted, never spelled out
  have hr : renderSegments [.directive ⟨"%536870888s", [], some 536870888, none, .string⟩]
      [.str []] = .ok [Utf16.spaces 536870888] := by
    simp only [renderSegments, Directive.takesArgument, Conversion.takesArgument, if_true,
      Render.directive, Value.toText, Value.render, Render.justify, Directive.has,
      Render.padStart, Bool.false_eq_true, if_false, List.contains_nil, List.length_nil,
      Nat.sub_zero, List.append_nil, Conversion.isUpper]
    rw [if_neg (by decide), if_neg (by decide)]
    rfl
  have h₁ : format (Utf16.ofString "%536870888s") [.str []] = .ok (Utf16.spaces 536870888) := by
    rw [format_of_checked hp rfl rfl, hr, except_mapError_ok, except_ok_bind, List.flatten_cons,
      List.flatten_nil, List.append_nil, Render.bounded,
      if_neg (by rw [Utf16.spaces, List.length_replicate, maxLength]; decide)]
    rfl
  have h₂ : format (Utf16.ofString "x") [] = .ok [0x78] := by
    cbv
  have hlong : (Utf16.spaces 536870888 ++ [0x78]).length > maxLength := by
    rw [List.length_append, Utf16.spaces, List.length_replicate, List.length_singleton, maxLength]
    decide
  refine ⟨h₁, h₂, ?_⟩
  rw [format_append h₁ h₂, Render.bounded, if_pos hlong]
  rfl

end format

end Template

end FolderSink
