import FolderSink.Proofs.Format.Grammar
import Mathlib.Data.List.Forall2
/-!
Formatting refuses a template in three phases before it renders anything: the template
must parse, there must be one argument for each directive that takes one, and each such
argument must be accepted by its conversion. Arguments that pass render; the only errors
left are the engine's limits (`RenderError.Limit`): a text longer than `maxLength`, and a
run of zeros whose count is infinite, which only a precision too large to be a finite
double makes.

Main statement, `format_checks_then_renders`.
-/

namespace FolderSink

namespace RenderError

/-- A limit of the engine: a text longer than `maxLength`, or, where `overflow` holds, a
count of zeros that overflows to infinity. -/
def Limit (overflow : Prop) (e : RenderError) : Prop :=
  e = .tooLong ∨ e = .infiniteCount ∧ overflow

end RenderError

namespace Directive

/-- The precision that float conversions use, 6 when none is written, is too large to be a
finite double. -/
def overflows (d : Directive) : Bool := !(Double.ofNat (d.precision.getD 6)).isFinite

theorem overflows_iff {d : Directive} :
    d.overflows ↔ ∃ p, d.precision = some p ∧ (Double.ofNat p).isFinite = false := by
  unfold overflows
  cases d.precision with
  | none =>
    have h6 : (Double.ofNat 6).isFinite = true := by decide
    simp [h6]
  | some p => simp

end Directive

namespace Render

/-- A rendering step that succeeds, or fails only on a limit of the engine, with counts
overflowing only where `overflow` holds. -/
def LimitOnly {α : Type} (overflow : Prop) (x : Except RenderError α) : Prop :=
  ∀ e, x = .error e → e.Limit overflow

section limitOnly

variable {α β : Type} {o o' : Prop}

theorem LimitOnly.ok (a : α) : LimitOnly o (.ok a : Except RenderError α) := by
  rintro e ⟨⟩

theorem LimitOnly.pure (a : α) : LimitOnly o (pure a : Except RenderError α) :=
  LimitOnly.ok a

theorem LimitOnly.tooLong : LimitOnly o (.error .tooLong : Except RenderError α) := by
  rintro e ⟨⟩
  exact .inl rfl

theorem LimitOnly.infiniteCount (h : o) :
    LimitOnly o (.error .infiniteCount : Except RenderError α) := by
  rintro e ⟨⟩
  exact .inr ⟨rfl, h⟩

theorem LimitOnly.mono {x : Except RenderError α} (h : o → o') (hx : LimitOnly o x) :
    LimitOnly o' x := by
  intro e he
  obtain htoo | ⟨hinf, ho⟩ := hx e he
  · exact .inl htoo
  · exact .inr ⟨hinf, h ho⟩

theorem LimitOnly.bind {x : Except RenderError α} {f : α → Except RenderError β}
    (hx : LimitOnly o x) (hf : ∀ a, LimitOnly o (f a)) : LimitOnly o (x >>= f) := by
  intro e he
  cases x with
  | error e' =>
    change Except.error e' = _ at he
    cases he
    exact hx _ rfl
  | ok a => exact hf a e he

theorem LimitOnly.map {x : Except RenderError α} (f : α → β) (hx : LimitOnly o x) :
    LimitOnly o (f <$> x) := by
  intro e he
  cases x with
  | error e' =>
    change Except.error e' = _ at he
    cases he
    exact hx _ rfl
  | ok a => cases he

theorem LimitOnly.ite {p : Prop} [Decidable p] {x y : Except RenderError α}
    (hx : LimitOnly o x) (hy : LimitOnly o y) : LimitOnly o (if p then x else y) := by
  split
  · exact hx
  · exact hy

end limitOnly

section texts

variable {o : Prop}

theorem bounded_limitOnly (t : Utf16) : LimitOnly o (bounded t) :=
  LimitOnly.ite LimitOnly.tooLong (LimitOnly.ok t)

theorem padStart_limitOnly (t : Utf16) (target : Nat) (fill : UInt16) :
    LimitOnly o (padStart t target fill) :=
  LimitOnly.ite (LimitOnly.ok t) (LimitOnly.ite LimitOnly.tooLong (LimitOnly.ok _))

theorem padEnd_limitOnly (t : Utf16) (target : Nat) : LimitOnly o (padEnd t target) :=
  LimitOnly.ite (LimitOnly.ok t) (LimitOnly.ite LimitOnly.tooLong (LimitOnly.ok _))

theorem justify_limitOnly (t : Utf16) (d : Directive) : LimitOnly o (justify t d) := by
  unfold justify
  split
  · exact LimitOnly.ok t
  · exact LimitOnly.ite (padEnd_limitOnly _ _) (padStart_limitOnly _ _ _)

theorem signed_limitOnly (body : Utf16) (negative : Bool) (flags : List Flag) (d : Directive) :
    LimitOnly o (signed body negative flags d) := by
  unfold signed
  split
  rename_i pre post _
  -- whatever body the zero padding leaves, the sign goes around it and the width after
  have hrest : ∀ body, LimitOnly o (do
      let t ← bounded (Utf16.ofString pre ++ body ++ Utf16.ofString post)
      justify t d) :=
    fun _ => (bounded_limitOnly _).bind fun t => justify_limitOnly t d
  simp only
  split
  · exact LimitOnly.ite ((padStart_limitOnly _ _ _).bind hrest) ((LimitOnly.pure _).bind hrest)
  · exact (LimitOnly.pure _).bind hrest

theorem integer_limitOnly (n : Int) (d : Directive) : LimitOnly o (integer n d) :=
  signed_limitOnly _ _ _ _

/-- A text that `%X` or another upper-case conversion puts in upper case, which may make it
longer. -/
theorem upper_limitOnly (c : Conversion) (t : Utf16) :
    LimitOnly o (if c.isUpper then bounded t.toUpper else pure t) :=
  LimitOnly.ite (bounded_limitOnly _) (LimitOnly.pure t)

theorem unsignedInteger_limitOnly (n : Int) (radix : Nat) (d : Directive) :
    LimitOnly o (unsignedInteger n radix d) := by
  unfold unsignedInteger
  have hrest : ∀ (pre : String) digits, LimitOnly o (do
      let t ← bounded (Utf16.ofString pre ++ digits)
      let t ← justify t d
      if d.conversion.isUpper then bounded t.toUpper else pure t) :=
    fun _ _ => (bounded_limitOnly _).bind fun _ =>
      (justify_limitOnly _ d).bind (upper_limitOnly _)
  simp only
  split
  · exact LimitOnly.ite ((padStart_limitOnly _ _ _).bind (hrest _)) ((LimitOnly.pure _).bind (hrest _))
  · exact (LimitOnly.pure _).bind (hrest _)

end texts

/-! Runs of zeros are where a count can overflow: only when the count is infinite. -/

theorem zeroRun_limitOnly (count : Nat) (infinite : Bool) :
    LimitOnly (infinite = true) (zeroRun count infinite) := by
  unfold zeroRun
  split
  · exact LimitOnly.infiniteCount ‹_›
  · exact LimitOnly.ite LimitOnly.tooLong (LimitOnly.ok _)

theorem fixedDigits_limitOnly (num den p : Nat) (infinite : Bool) :
    LimitOnly (infinite = true) (fixedDigits num den p infinite) := by
  unfold fixedDigits
  have hzeros : ∀ count t, LimitOnly (infinite = true) (do
      let zs ← zeroRun count infinite
      bounded (t ++ zs)) :=
    fun _ _ => (zeroRun_limitOnly _ _).bind fun _ => bounded_limitOnly _
  exact LimitOnly.ite (LimitOnly.ite (hzeros _ _) (LimitOnly.pure _))
    (LimitOnly.ite (hzeros _ _) (LimitOnly.pure _))

theorem expDigits_limitOnly (num den p : Nat) (infinite : Bool) :
    LimitOnly (infinite = true) (expDigits num den p infinite) := by
  unfold expDigits
  simp only
  generalize Decimal.scientific num den (min p 100) = r
  obtain ⟨n, e⟩ := r
  exact (zeroRun_limitOnly _ _).bind fun _ => (bounded_limitOnly _).bind fun _ => bounded_limitOnly _

theorem float_limitOnly (x : Double) (d : Directive) :
    LimitOnly (d.overflows = true) (float x d) := by
  unfold float
  split
  · exact signed_limitOnly _ _ _ _
  generalize x.magnitude = r
  obtain ⟨num, den⟩ := r
  -- whatever digits the conversion writes, the sign and the case come after them
  have hrest : ∀ body, LimitOnly (d.overflows = true) (do
      let t ← signed body x.signBit d.flags d
      if d.conversion.isUpper then bounded t.toUpper else pure t) :=
    fun _ => (signed_limitOnly _ _ _ _).bind (upper_limitOnly _)
  simp only
  split
  case h_1 =>
    exact (fixedDigits_limitOnly _ _ _ _).bind fun _ =>
      LimitOnly.ite ((bounded_limitOnly _).bind hrest) ((LimitOnly.pure _).bind hrest)
  case h_2 | h_3 =>
    exact (expDigits_limitOnly _ _ _ _).bind fun _ =>
      LimitOnly.ite ((LimitOnly.pure _).bind hrest) ((LimitOnly.pure _).bind hrest)
  case h_4 =>
    -- %g, positional or scientific by the exponent
    exact LimitOnly.ite ((fixedDigits_limitOnly _ _ _ _).bind hrest) (LimitOnly.ite
      ((fixedDigits_limitOnly _ _ _ _).bind fun _ => (LimitOnly.pure _).bind hrest)
      ((expDigits_limitOnly _ _ _ _).bind hrest))

theorem integralOf_eq_ok {v : Value} (h : v.typeName = .int) (c : Conversion) :
    ∃ n, integralOf v c = .ok n := by
  cases v with
  | num x =>
    have hx : x.isInteger = true := by
      by_contra hx
      simp [Value.typeName, hx] at h
    exact ⟨x.truncate, by simp [integralOf, hx]⟩
  | big n => exact ⟨n, rfl⟩
  | _ => simp [Value.typeName] at h

theorem integralOf_limitOnly {o : Prop} {v : Value} (h : v.typeName = .int) (c : Conversion) :
    LimitOnly o (integralOf v c) := by
  obtain ⟨n, hn⟩ := integralOf_eq_ok h c
  rw [hn]
  exact LimitOnly.ok n

/-- A directive renders an argument that its conversion accepts, or none when it takes
none, failing only on a limit of the engine, and on an infinite count only when its
precision overflows. -/
theorem directive_limitOnly {d : Directive} {v : Value}
    (hv : d.takesArgument → d.conversion.accepts v) :
    LimitOnly (d.overflows = true) (directive d v) := by
  obtain ⟨source, flags, width, precision, conversion⟩ := d
  cases conversion
  case percent => exact justify_limitOnly _ _
  case newline => exact LimitOnly.pure _
  case string | stringUpper | bool | boolUpper =>
    exact (justify_limitOnly _ _).bind (upper_limitOnly _)
  case char | charUpper =>
    simp only [directive]
    split
    · split
      · exact (LimitOnly.pure _).bind fun _ => (justify_limitOnly _ _).bind (upper_limitOnly _)
      · -- an accepted number is a code point
        rename_i hcode
        exact absurd (hv rfl) hcode
    · exact (LimitOnly.pure _).bind fun _ => (justify_limitOnly _ _).bind (upper_limitOnly _)
  case decimal =>
    exact (integralOf_limitOnly (by simpa [Conversion.accepts] using hv rfl) _).bind
      fun n => integer_limitOnly n _
  case octal | hex | hexUpper =>
    exact (integralOf_limitOnly (by simpa [Conversion.accepts] using hv rfl) _).bind
      fun n => unsignedInteger_limitOnly n _ _
  case sci | sciUpper | fixed | general | generalUpper =>
    simp only [directive]
    split
    · exact float_limitOnly _ _
    · exact float_limitOnly _ _
    · -- a float conversion accepts numbers only
      have hacc := hv rfl
      rename_i hnum hbig
      cases v <;> simp_all [Conversion.accepts, Value.typeName]

end Render

namespace Template

open Render

section walk

variable {ds : List Directive} {args : List Value}

/-- Each directive accepts the argument in its place. -/
abbrev Accepted (ds : List Directive) (args : List Value) : Prop :=
  List.Forall₂ (fun d v => d.conversion.accepts v = true) ds args

@[simp] theorem argumentDirectives_literal (t : Utf16) (segs : List Segment) :
    argumentDirectives (.literal t :: segs) = argumentDirectives segs := rfl

@[simp] theorem argumentDirectives_directive (d : Directive) (segs : List Segment) :
    argumentDirectives (.directive d :: segs) =
      if d.takesArgument then d :: argumentDirectives segs else argumentDirectives segs := by
  by_cases hd : d.takesArgument <;> simp [argumentDirectives, hd]

/-- With as many arguments as directives, no mismatch is found exactly when each directive
accepts its argument. -/
theorem firstMismatch_eq_none_iff (hlen : ds.length = args.length) :
    firstMismatch ds args = none ↔ Accepted ds args := by
  induction ds generalizing args with
  | nil =>
    cases args with
    | nil => simp [firstMismatch]
    | cons v args => simp at hlen
  | cons d ds ih =>
    cases args with
    | nil => simp at hlen
    | cons v args =>
      unfold Accepted
      rw [List.forall₂_cons, ← Accepted, ← ih (by simpa using hlen)]
      by_cases hacc : d.conversion.accepts v <;> simp [firstMismatch, hacc]

/-- The mismatch found is the first directive that refuses its argument. -/
theorem firstMismatch_append {ds₁ ds₂ : List Directive} {vs₁ vs₂ : List Value} {d : Directive}
    {v : Value} (h : Accepted ds₁ vs₁) (hd : d.conversion.accepts v = false) :
    firstMismatch (ds₁ ++ d :: ds₂) (vs₁ ++ v :: vs₂) = some (d.conversion, v) := by
  induction h with
  | nil => simp [firstMismatch, hd]
  | cons hacc _ ih => simp [firstMismatch, hacc, ih]

/-- Rendering the segments gives each directive that takes an argument the next one, so
arguments that pass the checks are the ones each directive renders. -/
theorem renderSegments_limitOnly {segs : List Segment}
    (h : Accepted (argumentDirectives segs) args) :
    LimitOnly (∃ d, .directive d ∈ segs ∧ d.overflows = true) (renderSegments segs args) := by
  induction segs generalizing args with
  | nil => exact LimitOnly.ok []
  | cons seg segs ih =>
    -- an overflowing directive further on overflows in the whole
    have htail : ∀ {x : Except RenderError (List Utf16)},
        LimitOnly (∃ d, .directive d ∈ segs ∧ d.overflows = true) x →
          LimitOnly (∃ d, .directive d ∈ seg :: segs ∧ d.overflows = true) x :=
      LimitOnly.mono fun ⟨d, hd, ho⟩ => ⟨d, List.mem_cons_of_mem _ hd, ho⟩
    cases seg with
    | literal t =>
      rw [argumentDirectives_literal] at h
      exact (htail (ih h)).map _
    | directive d =>
      have hhead : ∀ {x : Except RenderError Utf16}, LimitOnly (d.overflows = true) x →
          LimitOnly (∃ d', .directive d' ∈ .directive d :: segs ∧ d'.overflows = true) x :=
        LimitOnly.mono fun ho => ⟨d, List.mem_cons_self, ho⟩
      rw [argumentDirectives_directive] at h
      by_cases hd : d.takesArgument
      · rw [if_pos hd] at h
        cases h with
        | cons hacc hrest =>
          simp only [renderSegments, hd, if_true]
          exact (hhead (directive_limitOnly fun _ => hacc)).bind fun _ =>
            (htail (ih hrest)).bind fun _ => LimitOnly.pure _
      · rw [if_neg hd] at h
        simp only [renderSegments, hd]
        exact (hhead (directive_limitOnly fun h => absurd h hd)).bind fun _ =>
          (htail (ih h)).bind fun _ => LimitOnly.pure _

end walk

section phases

variable {t : Utf16} {args : List Value} {segs : List Segment}

theorem except_ok_bind {ε α β : Type} (a : α) (f : α → Except ε β) :
    (Except.ok a >>= f) = f a := rfl

theorem except_mapError_ok {ε ε' α : Type} (f : ε → ε') (a : α) :
    (Except.ok a : Except ε α).mapError f = .ok a := rfl

theorem except_throw_bind {ε α β : Type} (e : ε) (f : α → Except ε β) :
    (throw e >>= f) = throw e := rfl

theorem format_of_arity (hp : parse t = .ok segs)
    (hlen : (argumentDirectives segs).length ≠ args.length) :
    format t args = .error (.arity (argumentDirectives segs).length args.length) := by
  simp [format, hp, Except.mapError, except_ok_bind, except_throw_bind, hlen]
  rfl

theorem format_of_mismatch {c : Conversion} {v : Value} (hp : parse t = .ok segs)
    (hlen : (argumentDirectives segs).length = args.length)
    (hm : firstMismatch (argumentDirectives segs) args = some (c, v)) :
    format t args = .error (.type c v.typeName) := by
  simp [format, hp, Except.mapError, except_ok_bind, except_throw_bind, hlen, hm]
  rfl

theorem format_of_checked (hp : parse t = .ok segs)
    (hlen : (argumentDirectives segs).length = args.length)
    (hm : firstMismatch (argumentDirectives segs) args = none) :
    format t args = ((renderSegments segs args).mapError .render >>= fun pieces =>
      (bounded pieces.flatten).mapError .render) := by
  simp [format, hp, Except.mapError, except_ok_bind, except_throw_bind, hlen, hm]

/-- The type error names the first directive that refuses its argument. -/
theorem format_of_first_refusal {ds₁ ds₂ : List Directive} {vs₁ vs₂ : List Value}
    {d : Directive} {v : Value} (hp : parse t = .ok segs)
    (hds : argumentDirectives segs = ds₁ ++ d :: ds₂) (hlen : ds₂.length = vs₂.length)
    (hacc : Accepted ds₁ vs₁) (hd : d.conversion.accepts v = false) :
    format t (vs₁ ++ v :: vs₂) = .error (.type d.conversion v.typeName) := by
  have hlen' : (argumentDirectives segs).length = (vs₁ ++ v :: vs₂).length := by
    rw [hds]
    simp [List.Forall₂.length_eq hacc, hlen]
  exact format_of_mismatch hp hlen' (by rw [hds]; exact firstMismatch_append hacc hd)

/-- Arguments that pass every check render, unless the text is too long or a precision
too large to be a finite double makes a count of zeros infinite. -/
theorem format_of_accepted (hp : parse t = .ok segs) (h : Accepted (argumentDirectives segs) args) :
    (∃ out, format t args = .ok out) ∨ format t args = .error (.render .tooLong) ∨
      (format t args = .error (.render .infiniteCount) ∧
        ∃ d p, .directive d ∈ segs ∧ d.precision = some p ∧ (Double.ofNat p).isFinite = false) := by
  have hlen := List.Forall₂.length_eq h
  rw [format_of_checked hp hlen ((firstMismatch_eq_none_iff hlen).mpr h)]
  cases hr : renderSegments segs args with
  | error e =>
    obtain rfl | ⟨rfl, d, hd, ho⟩ := renderSegments_limitOnly h e hr
    · exact .inr (.inl rfl)
    · obtain ⟨p, hprec, hfin⟩ := Directive.overflows_iff.mp ho
      exact .inr (.inr ⟨rfl, d, p, hd, hprec, hfin⟩)
  | ok pieces =>
    -- the pieces joined may still be too long
    rw [except_mapError_ok, except_ok_bind]
    cases hb : bounded pieces.flatten with
    | error e =>
      obtain rfl | ⟨-, hfalse⟩ := bounded_limitOnly (o := False) _ e hb
      · exact .inr (.inl rfl)
      · exact hfalse.elim
    | ok out => exact .inl ⟨out, rfl⟩

/-- A format that succeeds passed every check. -/
theorem checked_of_format_ok {out : Utf16} (h : format t args = .ok out) :
    ∃ segs, parse t = .ok segs ∧ Accepted (argumentDirectives segs) args := by
  cases hp : parse t with
  | error e =>
    rw [format_of_parse_error hp] at h
    cases h
  | ok segs =>
    refine ⟨segs, rfl, ?_⟩
    by_cases hlen : (argumentDirectives segs).length = args.length
    · rcases hm : firstMismatch (argumentDirectives segs) args with _ | ⟨c, v⟩
      · exact (firstMismatch_eq_none_iff hlen).mp hm
      · rw [format_of_mismatch hp hlen hm] at h
        cases h
    · rw [format_of_arity hp hlen] at h
      cases h

end phases

/-- Formatting checks a template in phases, parsing, then the number of arguments, then
their types, and reports the first phase that fails, a type error naming the first
directive that refuses its argument; it succeeds only when every check passes, and
arguments that pass every check render, failing only when the text grows longer than
`maxLength` or a precision too large to be a finite double asks for infinitely many
zeros. -/
theorem format_checks_then_renders (t : Utf16) (args : List Value) :
    ((∃ out, format t args = .ok out) →
      ∃ segs, parse t = .ok segs ∧ Accepted (argumentDirectives segs) args) ∧
    (∀ e, parse t = .error e → format t args = .error (.template e)) ∧
    (∀ segs, parse t = .ok segs → (argumentDirectives segs).length ≠ args.length →
      format t args = .error (.arity (argumentDirectives segs).length args.length)) ∧
    (∀ segs ds₁ d ds₂ vs₁ v vs₂, parse t = .ok segs →
      argumentDirectives segs = ds₁ ++ d :: ds₂ → args = vs₁ ++ v :: vs₂ →
      ds₂.length = vs₂.length → Accepted ds₁ vs₁ → d.conversion.accepts v = false →
      format t args = .error (.type d.conversion v.typeName)) ∧
    (∀ segs, parse t = .ok segs → Accepted (argumentDirectives segs) args →
      (∃ out, format t args = .ok out) ∨ format t args = .error (.render .tooLong) ∨
        (format t args = .error (.render .infiniteCount) ∧
          ∃ d p, .directive d ∈ segs ∧ d.precision = some p ∧
            (Double.ofNat p).isFinite = false)) := by
  refine ⟨fun ⟨_, h⟩ => checked_of_format_ok h, fun _ h => format_of_parse_error h args,
    fun _ => format_of_arity, ?_, fun _ => format_of_accepted⟩
  rintro segs ds₁ d ds₂ vs₁ v vs₂ hp hds rfl hlen hacc hd
  exact format_of_first_refusal hp hds hlen hacc hd

end Template

end FolderSink
