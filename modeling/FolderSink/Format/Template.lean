import FolderSink.Format.Directive
/-! Reading a template into literal text and directives. A directive is `%`, the longest run
of flag characters, the longest run of ASCII digits (the width), optionally `.` and a
non-empty run of digits (the precision), and one ASCII letter or `%`. A `%` that does not
start such a text, a letter that is no conversion and a directive that breaks a rule of
`Directive.fault?` are the three ways a template is refused. Offsets count UTF-16 units. -/
namespace FolderSink

/-- Why a template is refused. -/
inductive TemplateError where
  | malformed (offset : Nat) (rest : Utf16)
  | unknownConversion (letter : Char) (source : String)
  | faulty (source : String) (fault : DirectiveFault)
deriving Repr

namespace TemplateError

/-- The reason as the checker words it; it quotes the template from the offending `%`. -/
def detail : TemplateError → Utf16
  | .malformed offset rest =>
    Utf16.ofString ("malformed directive at offset " ++ toString offset ++ ": '") ++ rest ++
      Utf16.ofString "'"
  | .unknownConversion c source =>
    Utf16.ofString ("unknown conversion '" ++ c.toString ++ "' in '" ++ source ++ "'")
  | .faulty source fault =>
    Utf16.ofString ("malformed directive '" ++ source ++ "': " ++ fault.text)

end TemplateError

namespace Template

/-- The character of an ASCII unit. -/
def asciiChar (u : UInt16) : Option Char := if u.toNat < 128 then some (Char.ofNat u.toNat) else none

/-- An ASCII digit. -/
def isDigit (u : UInt16) : Bool := 0x30 ≤ u.toNat && u.toNat ≤ 0x39

/-- A flag character. -/
def isFlag (u : UInt16) : Bool := ((asciiChar u).bind Flag.ofChar?).isSome

/-- A character that may end a directive: an ASCII letter or `%`. -/
def isEnd (u : UInt16) : Bool :=
  match asciiChar u with
  | some c => c.isAlpha || c == '%'
  | none => false

/-- The parts of a directive after its `%`, as written. -/
structure Spec where
  flagText : Utf16
  widthText : Utf16
  precisionText : Option Utf16
  last : UInt16

namespace Spec

/-- The number of units the parts take. -/
def size (s : Spec) : Nat :=
  s.flagText.length + s.widthText.length + (s.precisionText.map (·.length + 1)).getD 0 + 1

/-- The directive's text, `%` included. -/
def source (s : Spec) : String :=
  let units := s.flagText ++ s.widthText ++
    ((s.precisionText.map (0x2E :: ·)).getD []) ++ [s.last]
  String.ofList ('%' :: units.map (fun u => Char.ofNat u.toNat))

end Spec

/-- Read the parts of a directive from the units that follow its `%`. -/
def readSpec (cs : Utf16) : Option Spec :=
  let flagText := cs.takeWhile isFlag
  let r₁ := cs.drop flagText.length
  let widthText := r₁.takeWhile isDigit
  let r₂ := r₁.drop widthText.length
  let (precisionText, r₃) : Option Utf16 × Utf16 :=
    match r₂ with
    | u :: r =>
      if u = 0x2E && (r.head?.map isDigit).getD false then
        (some (r.takeWhile isDigit), r.drop (r.takeWhile isDigit).length)
      else (none, r₂)
    | [] => (none, [])
  match r₃ with
  | u :: _ => if isEnd u then some ⟨flagText, widthText, precisionText, u⟩ else none
  | [] => none

/-- The value of a run of decimal digits. -/
def digitsValue (ds : Utf16) : Nat := ds.foldl (fun n u => 10 * n + (u.toNat - 0x30)) 0

/-- The distinct members of a list, in order of first appearance. -/
def distinct {α : Type} [DecidableEq α] : List α → List α
  | [] => []
  | a :: rest => a :: (distinct rest).erase a

/-- The directive that parts make, or why they make none. -/
def directive (s : Spec) : Except TemplateError Directive :=
  let letter := Char.ofNat s.last.toNat
  match Conversion.ofLetter? letter with
  | none => .error (.unknownConversion letter s.source)
  | some conversion =>
    let d : Directive :=
      { source := s.source
        flags := distinct (s.flagText.filterMap (fun u => (asciiChar u).bind Flag.ofChar?))
        width := if s.widthText.isEmpty then none else some (digitsValue s.widthText)
        precision := s.precisionText.map digitsValue
        conversion }
    match d.fault? with
    | some fault => .error (.faulty s.source fault)
    | none => .ok d

/-- A pending literal (its units reversed) joins the segments read so far (reversed). -/
def flush (pending : Utf16) (done : List Segment) : List Segment :=
  if pending.isEmpty then done else .literal pending.reverse :: done

theorem size_pos (s : Spec) : 0 < s.size := by
  unfold Spec.size; omega

/-- Scan the rest of a template from a unit offset, with the pending literal and the
segments read so far, both reversed. -/
def scan (rest : Utf16) (offset : Nat) (pending : Utf16) (done : List Segment) :
    Except TemplateError (List Segment) :=
  match rest with
  | [] => .ok (flush pending done).reverse
  | u :: tail =>
    if u ≠ 0x25 then scan tail (offset + 1) (u :: pending) done
    else
      match readSpec tail with
      | none => .error (.malformed offset rest)
      | some spec =>
        match directive spec with
        | .error e => .error e
        | .ok d => scan (tail.drop spec.size) (offset + 1 + spec.size) [] (.directive d :: flush pending done)
termination_by rest.length
decreasing_by
  · simp
  · simp only [List.length_drop, List.length_cons]; omega

end Template

/-- The segments of a template, or why it is refused: literal text between directives, each
literal non-empty. -/
def Template.parse (t : Utf16) : Except TemplateError (List Segment) := Template.scan t 0 [] []

end FolderSink
