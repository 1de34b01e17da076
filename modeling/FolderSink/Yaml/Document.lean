import FolderSink.Yaml.Compose
import FolderSink.Yaml.Parser
import FolderSink.Text.Quoted
/-! Documents of a YAML stream. The stream's top-level tokens are taken in order:
directives change what the next document is read with, a document is composed, a
document end closes the current one, and stray tokens are problems. A problem belongs
to the document it was found in or, before the first one, to the next. A stream with no
document has one empty document. When a stream holds a second document, the first gets
one more problem that points at the second's start. -/
namespace FolderSink

namespace Yaml

/-- A composed document: its root node, its problems in the order found, the schema it
was read with, and where it starts and where its content ends. -/
structure Document where
  root : Node
  problems : Array Problem
  schema : Schema
  start : Nat
  contentEnd : Nat

/-- The state of reading a stream: the directives in force, whether directives came
since the last document, the problems not yet given to a document, the open document and
the closed ones. -/
structure Stream where
  directives : Directives := {}
  atDirectives : Bool := false
  pending : Array Problem := #[]
  current : Option Document := none
  closed : Array Document := #[]

/-- The fuel for composing a text: enough for every level of nesting it can hold. -/
def composeFuel (text : String) : Nat := 4 * (text.length + 2)

/-- Compose one document from its tokens with the directives it starts with. -/
def composeDocument (fuel : Nat) (directives : Directives) (offset : Nat) (start : List SourceToken)
    (value : Option Token) (trail : List SourceToken) : ComposeM (Node × Bool × Nat) := do
  let scope : Scope := ⟨directives.schema, directives⟩
  let next : Option Token := match value with
    | some v => some v
    | none => trail.head?.map Token.source
  let (props, probs) := readProps start
    { indicator := .docStart, next := next, offset := offset, parentIndent := 0, startOnNewline := true }
  report probs
  if props.found.isSome && isBlockToken value && !props.hasNewline then
    reportOne (problemAtUnit props.stop "Block collection cannot start on same line with directives-end marker")
  let root ← match value with
    | some v => composeNode fuel scope false true v props
    | none => composeEmpty scope false true props.stop (some start) props
  let contentEnd := root.span.nodeEnd
  let (_, probs) := readEnd trail contentEnd false
  report probs
  pure (root, props.found.isSome, contentEnd)

/-- Take in one top-level token. -/
def Stream.step (fuel : Nat) (s : Stream) (token : Token) : Stream :=
  match token with
  | .directive offset source =>
    let (d, probs) := s.directives.add source
    let len := unitLength source
    let errs := probs.filter (!·.warning) |>.map fun p => (⟨offset + p.offset, offset + len, p.message⟩ : Problem)
    { s with directives := d, atDirectives := true, pending := s.pending ++ errs.toArray }
  | .document offset start value trail =>
    let (docDirs, nextDirs) := s.directives.atDocument
    let ((root, docStart, contentEnd), c) := (composeDocument fuel docDirs offset start value trail).run {}
    let pending := s.pending ++ c.problems
    let pending := if s.atDirectives && !docStart then
        pending.push ⟨offset, offset + 1, "Missing directives-end/doc-start indicator line"⟩
      else pending
    let doc : Document := ⟨root, pending, docDirs.schema, offset, contentEnd⟩
    { s with directives := nextDirs, atDirectives := false, pending := #[], current := some doc,
             closed := match s.current with
               | some d => s.closed.push d
               | none => s.closed }
  | .error offset message source =>
    let msg := if source.isEmpty then message else message ++ ": " ++ Quoted.encode source
    let p : Problem := ⟨offset, offset + unitLength source, msg⟩
    match s.current with
    | some d => if s.atDirectives then { s with pending := s.pending.push p }
      else { s with current := some { d with problems := d.problems.push p } }
    | none => { s with pending := s.pending.push p }
  | .docEnd offset source trail =>
    match s.current with
    | none =>
      let p : Problem := ⟨offset, offset + unitLength source, "Unexpected doc-end without preceding document"⟩
      { s with pending := s.pending.push p }
    | some d =>
      let (_, probs) := readEnd trail (offset + unitLength source) true
      { s with pending := #[], current := some { d with problems := d.problems ++ s.pending ++ probs.toArray } }
  | .source t =>
    match t.kind with
    | .byteOrderMark | .space | .comment | .newline => s
    | k => { s with pending := s.pending.push (problemOn t ("Unsupported token " ++ k.name)) }
  | t => { s with pending := s.pending.push (problemOnToken t ("Unsupported token " ++ t.typeName)) }

/-- The documents of a stream, each with its problems. -/
def Stream.finish (s : Stream) (textLength : Nat) : Array Document :=
  match s.current with
  | some d => s.closed.push { d with problems := d.problems ++ s.pending }
  | none =>
    let pending := if s.atDirectives then
        s.pending.push ⟨textLength, textLength + 1, "Missing directives-end indicator line"⟩
      else s.pending
    let empty : Node := .scalar ⟨0, none, ⟨0, textLength, textLength⟩⟩ .null true false []
    s.closed.push ⟨empty, pending, s.directives.schema, 0, textLength⟩

/-- The first document of a text, with the line starts of the text. A second document
is a problem of the first. -/
def firstDocument (text : String) : Document × Array Nat :=
  let (tokens, lineStarts) := parseCst text
  let fuel := composeFuel text
  let stream := tokens.foldl (Stream.step fuel) {}
  let docs := stream.finish (unitLength text)
  match docs.toList with
  | first :: second :: _ =>
    let p : Problem :=
      ⟨second.start, second.contentEnd, "Source contains multiple documents; please use YAML.parseAllDocuments()"⟩
    ({ first with problems := first.problems.push p }, lineStarts)
  | [first] => (first, lineStarts)
  | [] => (⟨.scalar ⟨0, none, ⟨0, 0, 0⟩⟩ .null true false [], #[], .core, 0, 0⟩, lineStarts)

end Yaml

end FolderSink
