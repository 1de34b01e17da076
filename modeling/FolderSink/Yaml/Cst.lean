import FolderSink.Yaml.Lexer
/-! The concrete syntax tree the YAML parser builds from lexemes. A source token is one
lexeme with its kind, its offset in UTF-16 units and the indentation of its line. The
tree's tokens are documents, document ends, directives, errors, flow scalars (plain,
quoted, aliases), block scalars, block maps and sequences, and flow collections. A
collection item keeps the tokens before it (`start`), its key, the tokens between key and
value (`sep`, present once a key or a `:` was seen), and its value. -/
namespace FolderSink

namespace Yaml

/-- The kinds of source tokens. -/
inductive Kind where
  | byteOrderMark | docMode | docStart | docEnd | space | comment | newline
  | directiveLine | anchor | tag | seqItemInd | explicitKeyInd | mapValueInd
  | flowMapStart | flowMapEnd | flowSeqStart | flowSeqEnd | flowErrorEnd | comma
  | blockScalarHeader | scalar | alias | singleQuoted | doubleQuoted
deriving Repr, DecidableEq, Inhabited

namespace Kind

/-- The kind's name as the library's messages spell it. -/
def name : Kind → String
  | .byteOrderMark => "byte-order-mark"
  | .docMode => "doc-mode"
  | .docStart => "doc-start"
  | .docEnd => "doc-end"
  | .space => "space"
  | .comment => "comment"
  | .newline => "newline"
  | .directiveLine => "directive-line"
  | .anchor => "anchor"
  | .tag => "tag"
  | .seqItemInd => "seq-item-ind"
  | .explicitKeyInd => "explicit-key-ind"
  | .mapValueInd => "map-value-ind"
  | .flowMapStart => "flow-map-start"
  | .flowMapEnd => "flow-map-end"
  | .flowSeqStart => "flow-seq-start"
  | .flowSeqEnd => "flow-seq-end"
  | .flowErrorEnd => "flow-error-end"
  | .comma => "comma"
  | .blockScalarHeader => "block-scalar-header"
  | .scalar => "scalar"
  | .alias => "alias"
  | .singleQuoted => "single-quoted-scalar"
  | .doubleQuoted => "double-quoted-scalar"

/-- Whether a kind is a flow scalar's: an alias, a plain or a quoted scalar. -/
def isFlowScalar : Kind → Bool
  | .alias | .scalar | .singleQuoted | .doubleQuoted => true
  | _ => false

end Kind

/-- The kind of a lexeme's text, if it is a token at all. -/
def kindOf (s : String) : Option Kind :=
  match s with
  | "\uFEFF" => some .byteOrderMark
  | "\x02" => some .docMode
  | "\x18" => some .flowErrorEnd
  | "\x1f" => some .scalar
  | "---" => some .docStart
  | "..." => some .docEnd
  | "" | "\n" | "\r\n" => some .newline
  | "-" => some .seqItemInd
  | "?" => some .explicitKeyInd
  | ":" => some .mapValueInd
  | "\x7b" => some .flowMapStart
  | "\x7d" => some .flowMapEnd
  | "[" => some .flowSeqStart
  | "]" => some .flowSeqEnd
  | "," => some .comma
  | _ =>
    match s.toList.head? with
    | some ' ' | some '\t' => some .space
    | some '#' => some .comment
    | some '%' => some .directiveLine
    | some '*' => some .alias
    | some '&' => some .anchor
    | some '!' => some .tag
    | some '\'' => some .singleQuoted
    | some '"' => some .doubleQuoted
    | some '|' | some '>' => some .blockScalarHeader
    | _ => none

/-- The length of a text in UTF-16 units. -/
def unitLength (s : String) : Nat :=
  s.toList.foldl (fun n c => n + (if c.toNat ≥ 0x10000 then 2 else 1)) 0

/-- The UTF-16 offsets just after each line feed of a text. -/
def lineFeedEnds (s : String) : List Nat :=
  let (_, acc) := s.toList.foldl (fun (n, acc) c =>
    let n' := n + (if c.toNat ≥ 0x10000 then 2 else 1)
    (n', if c == '\n' then n' :: acc else acc)) (0, [])
  acc.reverse

/-- One lexeme as a token: its kind, offset, line indentation and text. -/
structure SourceToken where
  kind : Kind
  offset : Nat
  indent : Nat
  source : String
deriving Repr, Inhabited

/-- The kinds of flow scalars. -/
inductive FlowKind where
  | alias | plain | singleQuoted | doubleQuoted
deriving Repr, DecidableEq, Inhabited

mutual

/-- A token of the syntax tree. -/
inductive Token where
  | source (t : SourceToken)
  | directive (offset : Nat) (source : String)
  | error (offset : Nat) (message : String) (source : String)
  | docEnd (offset : Nat) (source : String) (trail : List SourceToken)
  | document (offset : Nat) (start : List SourceToken) (value : Option Token) (trail : List SourceToken)
  | flowScalar (kind : FlowKind) (offset indent : Nat) (source : String) (trail : List SourceToken)
  | blockScalar (offset indent : Nat) (props : List Token) (source : String)
  | blockMap (offset indent : Nat) (items : List Item)
  | blockSeq (offset indent : Nat) (items : List Item)
  | flowCollection (offset indent : Nat) (start : SourceToken) (items : List Item) (trail : List SourceToken)

/-- An item of a collection: the tokens before it, whether it has an explicit `?` key,
its key (with `sep` present once a key or `:` was seen), and its value. -/
inductive Item where
  | mk (start : List SourceToken) (explicitKey : Bool) (key : Option Token)
      (sep : Option (List SourceToken)) (value : Option Token)

end

instance : Inhabited Token := ⟨.error 0 "" ""⟩

namespace Item

/-- An item with only leading tokens. -/
def ofStart (start : List SourceToken) : Item := .mk start false none none none

/-- The leading tokens. -/
def start : Item → List SourceToken
  | .mk s _ _ _ _ => s

/-- Whether the key was marked with `?`. -/
def explicitKey : Item → Bool
  | .mk _ e _ _ _ => e

/-- The key. -/
def key : Item → Option Token
  | .mk _ _ k _ _ => k

/-- The tokens between key and value, once there is a key or a `:`. -/
def sep : Item → Option (List SourceToken)
  | .mk _ _ _ s _ => s

/-- The value. -/
def value : Item → Option Token
  | .mk _ _ _ _ v => v

/-- Replace the leading tokens. -/
def withStart (it : Item) (s : List SourceToken) : Item := .mk s it.explicitKey it.key it.sep it.value

/-- Replace the separator tokens. -/
def withSep (it : Item) (s : Option (List SourceToken)) : Item := .mk it.start it.explicitKey it.key s it.value

/-- Replace the value. -/
def withValue (it : Item) (v : Option Token) : Item := .mk it.start it.explicitKey it.key it.sep v

/-- Set the key and separator. -/
def withKey (it : Item) (k : Option Token) (s : List SourceToken) : Item :=
  .mk it.start it.explicitKey k (some s) it.value

end Item

namespace Token

/-- The token's offset. -/
def offset : Token → Nat
  | .source t => t.offset
  | .directive o _ | .error o _ _ | .docEnd o _ _ | .document o _ _ _ => o
  | .flowScalar _ o _ _ _ | .blockScalar o _ _ _ | .blockMap o _ _ | .blockSeq o _ _ => o
  | .flowCollection o _ _ _ _ => o

/-- The indentation of a node token, if it has one. -/
def indent? : Token → Option Nat
  | .flowScalar _ _ i _ _ | .blockScalar _ i _ _ | .blockMap _ i _ | .blockSeq _ i _ => some i
  | .flowCollection _ i _ _ _ => some i
  | _ => none

/-- The kind name of a token, as the library's messages spell it. -/
def typeName : Token → String
  | .source t => t.kind.name
  | .directive _ _ => "directive"
  | .error _ _ _ => "error"
  | .docEnd _ _ _ => "doc-end"
  | .document _ _ _ _ => "document"
  | .flowScalar k _ _ _ _ => match k with
    | .alias => "alias"
    | .plain => "scalar"
    | .singleQuoted => "single-quoted-scalar"
    | .doubleQuoted => "double-quoted-scalar"
  | .blockScalar _ _ _ _ => "block-scalar"
  | .blockMap _ _ _ => "block-map"
  | .blockSeq _ _ _ => "block-seq"
  | .flowCollection _ _ _ _ _ => "flow-collection"

/-- Whether a token is a flow scalar or a flow collection. -/
def isFlow : Token → Bool
  | .flowScalar _ _ _ _ _ | .flowCollection _ _ _ _ _ => true
  | _ => false

/-- The text of a token that has one (for error positions its length matters). -/
def source? : Token → Option String
  | .source t => some t.source
  | .directive _ s | .error _ _ s | .docEnd _ s _ | .flowScalar _ _ _ s _ | .blockScalar _ _ _ s => some s
  | _ => none

/-- Whether a token is a block map or a block sequence. -/
def isBlockCollection : Token → Bool
  | .blockMap _ _ _ | .blockSeq _ _ _ => true
  | _ => false

end Token

/-- Whether some token of a list has a kind. -/
def hasKind (ts : List SourceToken) (k : Kind) : Bool := ts.any (·.kind == k)

/-- The index of the first token that is not a space, comment or line break. -/
def firstContent (ts : List SourceToken) : Option Nat :=
  ts.findIdx? fun t => !(t.kind == .space || t.kind == .comment || t.kind == .newline)

/-- Split the properties that start a key from the tokens before them: the tokens after
the last document start, indicator or line break (spaces right after it excluded) move
to the key. Gives the tokens kept and the tokens moved. -/
def splitKeyStart (prev : List SourceToken) : List SourceToken × List SourceToken :=
  if prev.isEmpty then (prev, [])
  else
    let stops : List Kind := [.docStart, .explicitKeyInd, .mapValueInd, .seqItemInd, .newline]
    let last := ((List.range prev.length).reverse.find? fun i =>
      match prev[i]? with
      | some t => stops.contains t.kind
      | none => false)
    let from0 := match last with
      | some i => i + 1
      | none => 0
    let rest := prev.drop from0
    let spaces := (rest.takeWhile (·.kind == .space)).length
    let cut := from0 + spaces
    (prev.take cut, prev.drop cut)

end Yaml

end FolderSink
