import FolderSink.Number.Double
import FolderSink.Text.Utf16
/-! The composed form of a YAML document: nodes with their spans, anchors and the data
their tags give them, and the problems found while reading. A scalar's datum is what
its tag made of its text; a mapping keeps its pairs in order, a pair's value may be
missing; an alias names an anchor and is resolved only when the document becomes a
value. Every node has a number unique in its document, so that anchors can be told
apart even when two carry the same name. -/
namespace FolderSink

namespace Yaml

/-- Where a node lies, in UTF-16 units: its start, the end of its value, and the end of
the node with the comments and line breaks after it. -/
structure Span where
  start : Nat
  valueEnd : Nat
  nodeEnd : Nat
deriving Repr, Inhabited, DecidableEq

/-- A problem found while reading, with the units it points at (`stop` is past the
last one). -/
structure Problem where
  start : Nat
  stop : Nat
  message : String
deriving Repr, Inhabited

/-- The data of a scalar once its tag is applied. -/
inductive Datum where
  | null
  | bool (b : Bool)
  | num (x : Double)
  | str (s : Utf16)
  /-- The merge key `<<`; no two are the same. -/
  | merge
  /-- Binary data; its bytes are never looked at, only that it is an object. -/
  | bytes
  /-- A timestamp; its instant is never looked at, only that it is an object. -/
  | date
deriving Repr, Inhabited

namespace Datum

/-- Whether two keys are the same: null, booleans, numbers and texts compare by value
(NaN is not itself, the two zeros agree); binary data, timestamps and merge keys are
objects of their own and never the same as another. -/
def same : Datum → Datum → Bool
  | .null, .null => true
  | .bool a, .bool b => a == b
  | .num x, .num y => x.order? y == some .eq
  | .str a, .str b => a == b
  | _, _ => false

end Datum

/-- What every node has: a number unique in its document, its anchor, and its span. -/
structure Head where
  id : Nat
  anchor : Option String
  span : Span
deriving Repr, Inhabited

/-- A node of a document. -/
inductive Node where
  /-- A scalar: its datum, whether it was written plain, whether it had a tag, and the
  text it was read from. -/
  | scalar (head : Head) (datum : Datum) (plain tagged : Bool) (text : Utf16)
  /-- An alias `*name`. -/
  | alias (head : Head) (name : String)
  /-- A mapping; `set` marks one tagged `!!set` whose values are all null. -/
  | map (head : Head) (set : Bool) (pairs : List (Node × Option Node))
  /-- A sequence. -/
  | seq (head : Head) (items : List Node)
  /-- A sequence of pairs: `!!omap` when `ordered`, else `!!pairs`. -/
  | pairs (head : Head) (ordered : Bool) (items : List (Node × Option Node))
deriving Repr

instance : Inhabited Node := ⟨.alias default ""⟩

namespace Node

/-- The node's head. -/
def head : Node → Head
  | .scalar h _ _ _ _ | .alias h _ | .map h _ _ | .seq h _ | .pairs h _ _ => h

/-- The node's span. -/
def span (n : Node) : Span := n.head.span

/-- The node with another head. -/
def withHead (n : Node) (h : Head) : Node :=
  match n with
  | .scalar _ d p t s => .scalar h d p t s
  | .alias _ a => .alias h a
  | .map _ s ps => .map h s ps
  | .seq _ xs => .seq h xs
  | .pairs _ o ps => .pairs h o ps

/-- The node with an anchor. -/
def withAnchor (n : Node) (a : Option String) : Node := n.withHead { n.head with anchor := a }

/-- The node with another span. -/
def withSpan (n : Node) (s : Span) : Node := n.withHead { n.head with span := s }

/-- The node's last unit of comment or line break after it moved to `e`. -/
def withNodeEnd (n : Node) (e : Nat) : Node := n.withSpan { n.span with nodeEnd := e }

/-- Whether a node is a scalar. -/
def isScalar : Node → Bool
  | .scalar .. => true
  | _ => false

/-- Whether a node is a mapping (a `!!set` included). -/
def isMap : Node → Bool
  | .map .. => true
  | _ => false

/-- Whether two keys are the same key of a mapping: both scalars of the same datum. -/
def sameKey : Node → Node → Bool
  | .scalar _ a _ _ _, .scalar _ b _ _ _ => a.same b
  | _, _ => false

end Node

end Yaml

end FolderSink
