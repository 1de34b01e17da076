import FolderSink.Format.Template
import FolderSink.Format.Render
/-! Formatting a template with its arguments, checked before anything is rendered: the
template must parse, the arguments must be exactly as many as the directives that take
one, and each argument must be accepted by its conversion. Only then are the segments
rendered, left to right, and joined. `FormatError` tells the three refusals apart from a
failure while rendering. -/
namespace FolderSink

/-- The phase of a refused template. -/
inductive FormatKind where
  | parsing
  | arity
  | type
deriving DecidableEq, Repr

/-- Why formatting fails: three refusals found before rendering, or a rendering failure. -/
inductive FormatError where
  | template (e : TemplateError)
  | arity (expected given : Nat)
  | type (c : Conversion) (actual : TypeName)
  | render (e : RenderError)
deriving Repr

namespace FormatKind

/-- The phase as the checker names it. -/
def text : FormatKind → String
  | .parsing => "syntax"
  | .arity => "arity"
  | .type => "type"

end FormatKind

namespace FormatError

/-- The phase of a refusal; none for a rendering failure. -/
def kind? : FormatError → Option FormatKind
  | .template _ => some .parsing
  | .arity .. => some .arity
  | .type .. => some .type
  | .render _ => none

/-- What a refusal says after the template. -/
def detail : FormatError → Utf16
  | .template e => e.detail
  | .arity n m =>
    Utf16.ofString ("expected " ++ toString n ++ " " ++ (if n = 1 then "argument" else "arguments") ++
      ", got " ++ toString m)
  | .type c t => Utf16.ofString (c.letter.toString ++ " != " ++ t.text)
  | .render e => Utf16.ofString e.message

/-- The message of a refusal, which quotes the template, or of a rendering failure. -/
def message (template : Utf16) : FormatError → Utf16
  | .render e => Utf16.ofString e.message
  | e => Utf16.ofString "Invalid format: " ++ template ++ Utf16.ofString ": " ++ e.detail

end FormatError

namespace Template

/-- The directives that take an argument, in order. -/
def argumentDirectives (segs : List Segment) : List Directive :=
  segs.filterMap fun
    | .directive d => if d.takesArgument then some d else none
    | .literal _ => none

/-- The first directive whose argument its conversion refuses. -/
def firstMismatch : List Directive → List Value → Option (Conversion × Value)
  | d :: ds, v :: vs => if d.conversion.accepts v then firstMismatch ds vs else some (d.conversion, v)
  | _, _ => none

/-- Render the segments left to right, each directive that takes an argument with the next. -/
def renderSegments : List Segment → List Value → Except RenderError (List Utf16)
  | [], _ => .ok []
  | .literal t :: rest, vs => (t :: ·) <$> renderSegments rest vs
  | .directive d :: rest, vs =>
    if d.takesArgument then
      match vs with
      | v :: vs' => do
        let t ← Render.directive d v
        pure (t :: (← renderSegments rest vs'))
      | [] => do
        let t ← Render.directive d .none
        pure (t :: (← renderSegments rest []))
    else do
      let t ← Render.directive d .none
      pure (t :: (← renderSegments rest vs))

/-- Format a template with its arguments (see the module note). -/
def format (t : Utf16) (args : List Value) : Except FormatError Utf16 := do
  let segs ← (parse t).mapError .template
  let ds := argumentDirectives segs
  if ds.length ≠ args.length then throw (.arity ds.length args.length)
  if let some (c, v) := firstMismatch ds args then throw (.type c v.typeName)
  let pieces ← (renderSegments segs args).mapError .render
  (Render.bounded pieces.flatten).mapError .render

end Template

end FolderSink
