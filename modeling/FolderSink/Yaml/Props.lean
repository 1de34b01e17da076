import FolderSink.Yaml.Cst
import FolderSink.Yaml.Node
/-! What the tokens around a node say about it. Before a node stand its properties (an
anchor `&a` and a tag `!t`), the indicator that introduces it (`-`, `?`, `:` or a
document start), commas in flow collections, blanks, comments and line breaks; after it,
blanks, comments and line breaks. Reading them finds the properties and the indicator,
where the node may start, and the problems of their order and spacing: properties not
followed by a blank, a comment not after a blank, a tab used as indentation. -/
namespace FolderSink

namespace Yaml

/-- The units a source token covers. -/
def SourceToken.span (t : SourceToken) : Nat × Nat := (t.offset, t.offset + unitLength t.source)

/-- A problem covering a source token. -/
def problemOn (t : SourceToken) (message : String) : Problem :=
  ⟨t.offset, t.offset + unitLength t.source, message⟩

/-- A problem at one unit. -/
def problemAtUnit (o : Nat) (message : String) : Problem := ⟨o, o + 1, message⟩

/-- The units a syntax tree token covers, for problems that point at it: its text when it
has one, else its first unit. -/
def Token.problemSpan (t : Token) : Nat × Nat :=
  match t.source? with
  | some s => (t.offset, t.offset + unitLength s)
  | none => (t.offset, t.offset + 1)

/-- A problem covering a syntax tree token. -/
def problemOnToken (t : Token) (message : String) : Problem :=
  let (a, b) := t.problemSpan
  ⟨a, b, message⟩

/-- What the tokens before a node hold. -/
structure Props where
  comma : Option SourceToken := none
  found : Option SourceToken := none
  hasComment : Bool := false
  hasNewline : Bool := false
  anchor : Option SourceToken := none
  tag : Option SourceToken := none
  newlineAfterProp : Option SourceToken := none
  stop : Nat := 0
  start : Nat := 0
deriving Inhabited

/-- Where the properties are read: in a flow collection (its name), which indicator may
introduce the node, the token after them, the offset to use when there are none, the
indentation of the enclosing collection, and whether reading starts at a line start. -/
structure PropsPlace where
  flow : Option String := none
  indicator : Kind
  next : Option Token := none
  offset : Nat
  parentIndent : Nat
  startOnNewline : Bool

/-- The state of reading properties. -/
structure PropsState where
  props : Props := {}
  atNewline : Bool
  hasSpace : Bool
  reqSpace : Bool := false
  tab : Option SourceToken := none
  problems : Array Problem := #[]

/-- The kind of a syntax tree token, when it is a source token. -/
def Token.kind? : Token → Option Kind
  | .source t => some t.kind
  | _ => none

/-- Whether a token is a blank, a line break or a comma. -/
def separates (k : Kind) : Bool := k == .space || k == .newline || k == .comma

/-- Read one token before a node. -/
def propsStep (place : PropsPlace) (st : PropsState) (token : SourceToken) : PropsState :=
  let st := if st.reqSpace then
      let st := if !separates token.kind then
          { st with problems := st.problems.push (problemAtUnit token.offset
            "Tags and anchors must be separated from the next token by white space") }
        else st
      { st with reqSpace := false }
    else st
  let st := match st.tab with
    | some tab =>
      let st := if st.atNewline && token.kind != Kind.comment && token.kind != Kind.newline then
          { st with problems := st.problems.push (problemOn tab "Tabs are not allowed as indentation") }
        else st
      { st with tab := none }
    | none => st
  let p := st.props
  match token.kind with
  | .space =>
    let docFlow := place.indicator == Kind.docStart &&
      (match place.next with | some (.flowCollection ..) => true | _ => false)
    let tab := if place.flow.isNone && !docFlow && token.source.contains '\t' then some token else st.tab
    { st with tab := tab, hasSpace := true }
  | .comment =>
    let st := if !st.hasSpace then
        { st with problems := st.problems.push (problemOn token
          "Comments must be separated from other tokens by white space characters") }
      else st
    { st with props := { p with hasComment := true }, atNewline := false }
  | .newline =>
    let after := if p.anchor.isSome || p.tag.isSome then some token else p.newlineAfterProp
    { st with props := { p with hasNewline := true, newlineAfterProp := after }, atNewline := true, hasSpace := true }
  | .anchor =>
    let probs := if p.anchor.isSome then st.problems.push (problemOn token "A node can have at most one anchor")
      else st.problems
    let start := if p.anchor.isNone && p.tag.isNone then token.offset else p.start
    { st with
      props := { p with anchor := some token, start := start }
      problems := probs, atNewline := false, hasSpace := false, reqSpace := true }
  | .tag =>
    let probs := if p.tag.isSome then st.problems.push (problemOn token "A node can have at most one tag")
      else st.problems
    let start := if p.anchor.isNone && p.tag.isNone then token.offset else p.start
    { st with
      props := { p with tag := some token, start := start }
      problems := probs, atNewline := false, hasSpace := false, reqSpace := true }
  | k =>
    if k == place.indicator then
      let probs := if p.anchor.isSome || p.tag.isSome then
          st.problems.push (problemOn token ("Anchors and tags must be after the " ++ token.source ++ " indicator"))
        else st.problems
      let probs := if p.found.isSome then
          probs.push (problemOn token ("Unexpected " ++ token.source ++ " in " ++ place.flow.getD "collection"))
        else probs
      { st with
        props := { p with found := some token }, problems := probs
        atNewline := place.indicator == Kind.seqItemInd || place.indicator == Kind.explicitKeyInd, hasSpace := false }
    else if k == .comma && place.flow.isSome then
      let probs := if p.comma.isSome then
          st.problems.push (problemOn token ("Unexpected , in " ++ place.flow.getD ""))
        else st.problems
      { st with props := { p with comma := some token }, problems := probs, atNewline := false, hasSpace := false }
    else
      { st with
        problems := st.problems.push (problemOn token ("Unexpected " ++ k.name ++ " token"))
        atNewline := false, hasSpace := false }

/-- Read the tokens before a node: its properties, its indicator, where it may start and
the problems among them. -/
def readProps (tokens : List SourceToken) (place : PropsPlace) : Props × List Problem :=
  let init : PropsState := { atNewline := place.startOnNewline, hasSpace := place.startOnNewline, props := { start := 0 } }
  let st := tokens.foldl (propsStep place) init
  let stop := match tokens.getLast? with
    | some t => t.offset + unitLength t.source
    | none => place.offset
  let probs := st.problems
  let nextSpaced := match place.next with
    | some (.source t) => separates t.kind
    | some (.flowScalar .plain _ _ "" _) => true
    | _ => false
  let probs := match place.next with
    | some n => if st.reqSpace && !nextSpaced then
        probs.push (problemAtUnit n.offset "Tags and anchors must be separated from the next token by white space")
      else probs
    | none => probs
  let probs := match st.tab with
    | some tab =>
      let blockNext := match place.next with
        | some (.blockMap ..) | some (.blockSeq ..) => true
        | _ => false
      if (st.atNewline && tab.indent ≤ place.parentIndent) || blockNext then
        probs.push (problemOn tab "Tabs are not allowed as indentation")
      else probs
    | none => probs
  let p := st.props
  let started := p.anchor.isSome || p.tag.isSome
  ({ p with stop := stop, start := if started then p.start else stop }, probs.toList)

/-- The end of a node's trailing tokens (blanks, comments, line breaks), from the end of
its value, with the problems among them: a comment not after a blank when blanks are
required, and any other token. -/
def readEnd (trail : List SourceToken) (offset : Nat) (reqSpace : Bool) : Nat × List Problem :=
  let (o, _, probs) := trail.foldl (fun (o, hasSpace, probs) (t : SourceToken) =>
    let (hasSpace, probs) := match t.kind with
      | .space => (true, probs)
      | .comment =>
        (hasSpace, if reqSpace && !hasSpace then
          probs.push (problemOn t "Comments must be separated from other tokens by white space characters")
          else probs)
      | .newline => (true, probs)
      | k => (hasSpace, probs.push (problemOn t ("Unexpected " ++ k.name ++ " at node end")))
    (o + unitLength t.source, hasSpace, probs)) (offset, false, (#[] : Array Problem))
  (o, probs.toList)

/-- Where an empty node stands: after the last token before it that is not a blank,
comment or line break, and after the blanks that follow that token. -/
def emptyScalarPosition (offset : Nat) (before : List SourceToken) : Nat :=
  let width (ts : List SourceToken) : Nat := ts.foldl (fun n t => n + unitLength t.source) 0
  let rev := before.reverse
  let trailing := rev.takeWhile fun t => t.kind == .space || t.kind == .comment || t.kind == .newline
  if trailing.length == rev.length then
    offset - width trailing
  else
    let back := offset - width trailing
    let spaces := trailing.reverse.takeWhile (·.kind == .space)
    back + width spaces

mutual

/-- Whether a key spans more than one line. -/
def Token.containsNewline : Token → Bool
  | .flowScalar _ _ _ source trail => source.contains '\n' || hasKind trail .newline
  | .flowCollection _ _ _ items _ => Item.listContainsNewline items
  | _ => true

/-- Whether some item of a flow collection spans more than one line. -/
def Item.listContainsNewline : List Item → Bool
  | [] => false
  | .mk start _ key sep value :: rest =>
    hasKind start .newline || hasKind (sep.getD []) .newline ||
      (match key with | some k => k.containsNewline | none => false) ||
      (match value with | some v => v.containsNewline | none => false) ||
      Item.listContainsNewline rest

end

end Yaml

end FolderSink
