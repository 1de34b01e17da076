import FolderSink.Yaml.FlowScalar
import FolderSink.Yaml.BlockScalar
import FolderSink.Yaml.Directives
import FolderSink.Number.Decimal
/-! Composing nodes from the syntax tree. A scalar's text is read (flow or block style),
its tag found (the written one, or for plain text the first of the schema's tags whose
test it passes) and applied. A collection's items are composed in order with the
properties before each: block mappings check that their keys share a column, stay on
one line and are unique; block sequences that every item has its `-`; flow collections
their commas, colons and closing bracket. A written `!!omap`, `!!pairs` or `!!set`
turns the collection into that kind. Every problem is recorded with the units it points
at, in the order met. Recursion is bounded by fuel that the caller computes from the
length of the text: each level of nesting takes a line's worth at least. -/
namespace FolderSink

namespace Yaml

/-- What composing a document knows: its schema and its directives. -/
structure Scope where
  schema : Schema
  directives : Directives

/-- The state of composing: the problems found, in order, and the next node number. -/
structure Composer where
  problems : Array Problem := #[]
  nextId : Nat := 0

/-- Composing steps. -/
abbrev ComposeM := StateM Composer

/-- Record problems. -/
def report (ps : List Problem) : ComposeM Unit :=
  modify fun c => { c with problems := c.problems ++ ps.toArray }

/-- Record one problem. -/
def reportOne (p : Problem) : ComposeM Unit := report [p]

/-- A fresh node number. -/
def fresh : ComposeM Nat := modifyGet fun c => (c.nextId, { c with nextId := c.nextId + 1 })

/-- The name of an anchor token, without its `&`. -/
def anchorName (t : SourceToken) : String := String.ofList (t.source.toList.drop 1)

/-- The full name of a tag token, recording what makes it unusable. -/
def tagNameOf (scope : Scope) (t : SourceToken) : ComposeM (Option String) := do
  let (name, probs) := scope.directives.tagName t.source
  report (probs.map (problemOn t))
  pure name

/-- A problem covering a span's value. -/
def problemOnSpan (s : Span) (message : String) : Problem := ⟨s.start, s.valueEnd, message⟩

/-- A collection as read, before a tag turns it into a special kind. -/
inductive Collection where
  | map (span : Span) (pairs : List (Node × Option Node))
  | seq (span : Span) (items : List Node)

/-- Whether a token is a block mapping or a block sequence. -/
def isBlockToken : Option Token → Bool
  | some (.blockMap ..) | some (.blockSeq ..) => true
  | _ => false

/-- Compose a scalar from its token and the tag written on it. `atKey` is whether it is
a key, `atRoot` whether it is the document's only node. -/
def composeScalar (scope : Scope) (atKey atRoot : Bool) (token : Token) (tagTok : Option SourceToken) :
    ComposeM Node := do
  let (value, plain, span) ← match token with
    | .blockScalar off ind props src =>
      let (v, span, probs) := BlockScalar.resolve off ind props src atRoot
      report probs
      pure (v, false, span)
    | .flowScalar k off _ src trail =>
      let units := Utf16.ofString src
      let (v, probs) := match k with
        | .singleQuoted => FlowScalar.singleQuoted off units
        | .doubleQuoted => FlowScalar.doubleQuoted off units
        | _ => FlowScalar.plain off units
      report probs
      let valueEnd := off + units.length
      let (e, probs) := readEnd trail valueEnd true
      report probs
      pure (v, k == .plain, (⟨off, valueEnd, e⟩ : Span))
    | t => pure (([] : Utf16), true, (⟨t.offset, t.offset, t.offset⟩ : Span))
  let tagName ← match tagTok with
    | some t => tagNameOf scope t
    | none => pure none
  let tag := match tagName with
    | some "!" => strTag
    | some n => (scope.schema.byName n value).getD strTag
    | none => if plain then scope.schema.byTest atKey value else strTag
  let datum ← match tag.resolve value with
    | .ok d => pure d
    | .error msg => do
      match tagTok with
      | some t => reportOne (problemOn t msg)
      | none => reportOne (problemOnToken token msg)
      pure (Datum.str value)
  let id ← fresh
  pure (.scalar ⟨id, none, span⟩ datum plain tagName.isSome value)

/-- Compose an alias `*name`. -/
def composeAlias (off : Nat) (src : String) (trail : List SourceToken) : ComposeM Node := do
  let name := String.ofList (src.toList.drop 1)
  if name.isEmpty then reportOne (problemAtUnit off "Alias cannot be an empty string")
  let valueEnd := off + unitLength src
  let (e, probs) := readEnd trail valueEnd true
  report probs
  let id ← fresh
  pure (.alias ⟨id, none, ⟨off, valueEnd, e⟩⟩ name)

/-- Give a node the anchor of its properties, recording an empty one. -/
def applyAnchor (props : Props) (n : Node) : ComposeM Node := do
  match props.anchor with
  | some a =>
    if anchorName a == "" then reportOne (problemOn a "Anchor cannot be an empty string")
    pure (n.withAnchor (some (anchorName a)))
  | none => pure n

/-- Compose an empty node where no token stands: after the tokens `before` it, or at
`offset`. -/
def composeEmpty (scope : Scope) (atKey atRoot : Bool) (offset : Nat) (before : Option (List SourceToken))
    (props : Props) : ComposeM Node := do
  let pos := match before with
    | some b => emptyScalarPosition offset b
    | none => offset
  let n ← composeScalar scope atKey atRoot (.flowScalar .plain pos 0 "" []) props.tag
  let n ← applyAnchor props n
  pure (if props.hasComment then n.withNodeEnd props.stop else n)

/-- The first pair of each item of a sequence tagged as pairs; a mapping with more than
one pair is a problem. -/
def pairsOf (tagTok : Option SourceToken) (items : List Node) : ComposeM (List (Node × Option Node)) :=
  items.mapM fun item => do
    match item with
    | .map _ _ ps =>
      if ps.length > 1 then
        match tagTok with
        | some t => reportOne (problemOn t "Each pair must have its own sequence indicator")
        | none => pure ()
      match ps with
      | p :: _ => pure p
      | [] => do
        let id ← fresh
        pure (.scalar ⟨id, none, ⟨0, 0, 0⟩⟩ .null true false [], none)
    | n => pure (n, none)

/-- The text of a key's datum as it shows in a message. -/
def Datum.text : Datum → String
  | .null => "null"
  | .bool b => if b then "true" else "false"
  | .num x => x.toText
  | .str s => s.toText
  | _ => "[object Object]"

/-- Whether two data are the same member of a collection of keys: like `Datum.same`,
except that NaN is itself. -/
def Datum.sameMember (a b : Datum) : Bool :=
  match a, b with
  | .num x, .num y => x.isNaN && y.isNaN || a.same b
  | _, _ => a.same b

/-- The keys of an ordered map that repeat an earlier one. -/
def repeatedKeys (ps : List (Node × Option Node)) : List Datum :=
  let (_, reps) := ps.foldl (fun (seen, reps) (k, _) =>
    match k with
    | .scalar _ d _ _ _ => if seen.any (Datum.sameMember d) then (seen, reps ++ [d]) else (seen ++ [d], reps)
    | _ => (seen, reps)) (([] : List Datum), ([] : List Datum))
  reps

/-- Whether every value of a mapping is null, untagged, or missing. -/
def allNullValues (ps : List (Node × Option Node)) : Bool :=
  ps.all fun (_, v) => match v with
    | none => true
    | some (.scalar _ .null _ tagged _) => !tagged
    | some _ => false

mutual

/-- Compose a node from its token and the properties before it. -/
def composeNode (fuel : Nat) (scope : Scope) (atKey atRoot : Bool) (token : Token) (props : Props) :
    ComposeM Node := do
  match fuel with
  | 0 => composeEmpty scope atKey atRoot token.offset none props
  | f + 1 =>
    let n ← match token with
      | .flowScalar .alias off _ src trail => do
        let n ← composeAlias off src trail
        if props.anchor.isSome || props.tag.isSome then
          reportOne (problemOnToken token "An alias node must not specify any properties")
        pure n
      | .flowScalar .. | .blockScalar .. => do
        let n ← composeScalar scope atKey atRoot token props.tag
        applyAnchor props n
      | .blockMap .. | .blockSeq .. | .flowCollection .. => do
        let n ← composeCollection f scope atRoot token props
        applyAnchor props n
      | .error _ msg _ => do
        reportOne (problemOnToken token msg)
        composeEmpty scope atKey atRoot token.offset none props
      | t => do
        reportOne (problemOnToken t ("Unsupported token (type: " ++ t.typeName ++ ")"))
        composeEmpty scope atKey atRoot token.offset none props
    pure n

/-- Compose a collection and apply its tag. -/
def composeCollection (fuel : Nat) (scope : Scope) (atRoot : Bool) (token : Token) (props : Props) :
    ComposeM Node := do
  match fuel with
  | 0 => composeEmpty scope false atRoot token.offset none props
  | f + 1 =>
    let tagName ← match props.tag with
      | some t => tagNameOf scope t
      | none => pure none
    match token with
    | .blockSeq .. =>
      let last := match props.anchor, props.tag with
        | some a, some t => some (if a.offset > t.offset then a else t)
        | some a, none => some a
        | none, t => t
      match last with
      | some lp =>
        let lateNewline : Bool := match props.newlineAfterProp with
          | some nl => nl.offset < lp.offset
          | none => true
        if lateNewline then reportOne (problemOn lp "Missing newline after block sequence props")
      | none => pure ()
    | _ => pure ()
    let forMap := match token with
      | .blockMap .. => true
      | .flowCollection _ _ st _ _ => st.source == "\x7b"
      | _ => false
    let special := match tagName with
      | some n => if n == "!" then none else Schema.collectionTag n forMap
      | none => none
    let coll ← match token with
      | .blockMap off ind items => blockMap f scope off ind items
      | .blockSeq off ind items => blockSeq f scope off ind items
      | .flowCollection off ind st items trail => flowCollection f scope atRoot off ind st items trail
      | t => pure (.seq ⟨t.offset, t.offset, t.offset⟩ [])
    let id ← fresh
    match coll, special with
    | .map span ps, some .set =>
      if !allNullValues ps then
        match props.tag with
        | some t => reportOne (problemOn t "Set items must all have null values")
        | none => pure ()
      pure (.map ⟨id, none, span⟩ true ps)
    | .map span ps, _ => pure (.map ⟨id, none, span⟩ false ps)
    | .seq span items, some .omap =>
      let ps ← pairsOf props.tag items
      for d in repeatedKeys ps do
        match props.tag with
        | some t => reportOne (problemOn t ("Ordered maps must not include duplicate keys: " ++ d.text))
        | none => pure ()
      pure (.pairs ⟨id, none, span⟩ true ps)
    | .seq span items, some .pairs =>
      let ps ← pairsOf props.tag items
      pure (.pairs ⟨id, none, span⟩ false ps)
    | .seq span items, _ => pure (.seq ⟨id, none, span⟩ items)

/-- Compose the items of a block mapping. -/
def blockMap (fuel : Nat) (scope : Scope) (off indent : Nat) (items : List Item) : ComposeM Collection := do
  match fuel with
  | 0 => pure (.map ⟨off, off, off⟩ [])
  | f + 1 =>
    let startColMsg := "All mapping items must start at the same column"
    let mut offset := off
    let mut commentEnd : Option Nat := none
    let mut pairs : Array (Node × Option Node) := #[]
    for it in items do
      let start := it.start
      let key := it.key
      let sep := it.sep
      let value := it.value
      let next : Option Token := match key with
        | some k => some k
        | none => (sep.bind (·.head?)).map Token.source
      let (keyProps, probs) := readProps start
        { indicator := .explicitKeyInd, next := next, offset := offset, parentIndent := indent, startOnNewline := true }
      report probs
      let implicitKey := keyProps.found.isNone
      if implicitKey then
        match key with
        | some (.blockSeq ..) =>
          reportOne (problemAtUnit offset "A block sequence may not be used as an implicit map key")
        | some k =>
          match k.indent? with
          | some i => if i != indent then reportOne (problemAtUnit offset startColMsg)
          | none => pure ()
        | none => pure ()
        if keyProps.anchor.isNone && keyProps.tag.isNone && sep.isNone then
          commentEnd := some keyProps.stop
          continue
        let multiline := keyProps.newlineAfterProp.isSome || (key.map Token.containsNewline).getD false
        if multiline then
          match key, start.getLast? with
          | some k, _ => reportOne (problemOnToken k "Implicit keys need to be on a single line")
          | none, some t => reportOne (problemOn t "Implicit keys need to be on a single line")
          | none, none => pure ()
      else
        match keyProps.found with
        | some fnd => if fnd.indent != indent then reportOne (problemAtUnit offset startColMsg)
        | none => pure ()
      let keyStart := keyProps.stop
      let keyNode ← match key with
        | some k => composeNode f scope true false k keyProps
        | none => composeEmpty scope true false keyStart (some start) keyProps
      if pairs.any (fun (k, _) => k.sameKey keyNode) then
        reportOne (problemAtUnit keyStart "Map keys must be unique")
      let blockKey := match key with
        | some (.blockScalar ..) => true
        | none => true
        | _ => false
      let (valueProps, probs) := readProps (sep.getD [])
        { indicator := .mapValueInd, next := value, offset := keyNode.span.nodeEnd, parentIndent := indent,
          startOnNewline := blockKey }
      report probs
      offset := valueProps.stop
      match valueProps.found with
      | some fnd =>
        if implicitKey then
          match value with
          | some (.blockMap ..) =>
            if !valueProps.hasNewline then
              reportOne (problemAtUnit offset "Nested mappings are not allowed in compact mappings")
          | _ => pure ()
          if keyProps.start + 1024 < fnd.offset then
            reportOne (problemOnSpan keyNode.span
              "The : indicator must be at most 1024 chars after the start of an implicit block mapping key")
        let valueNode ← match value with
          | some v => composeNode f scope false false v valueProps
          | none => composeEmpty scope false false offset sep valueProps
        offset := valueNode.span.nodeEnd
        pairs := pairs.push (keyNode, some valueNode)
      | none =>
        if implicitKey then
          reportOne (problemOnSpan keyNode.span "Implicit map keys need to be followed by map values")
        pairs := pairs.push (keyNode, none)
    match commentEnd with
    | some c => if c < offset then reportOne (problemAtUnit c "Map comment with trailing content")
    | none => pure ()
    pure (.map ⟨off, offset, commentEnd.getD offset⟩ pairs.toList)

/-- Compose the items of a block sequence. -/
def blockSeq (fuel : Nat) (scope : Scope) (off indent : Nat) (items : List Item) : ComposeM Collection := do
  match fuel with
  | 0 => pure (.seq ⟨off, off, off⟩ [])
  | f + 1 =>
    let mut offset := off
    let mut commentEnd : Option Nat := none
    let mut nodes : Array Node := #[]
    for it in items do
      let start := it.start
      let value := it.value
      let (props, probs) := readProps start
        { indicator := .seqItemInd, next := value, offset := offset, parentIndent := indent, startOnNewline := true }
      report probs
      if props.found.isNone then
        if props.anchor.isSome || props.tag.isSome || value.isSome then
          match value with
          | some (.blockSeq ..) =>
            reportOne (problemAtUnit props.stop "All sequence items must start at the same column")
          | _ => reportOne (problemAtUnit offset "Sequence item without - indicator")
        else
          commentEnd := some props.stop
          continue
      let node ← match value with
        | some v => composeNode f scope false false v props
        | none => composeEmpty scope false false props.stop (some start) props
      offset := node.span.nodeEnd
      nodes := nodes.push node
    pure (.seq ⟨off, offset, commentEnd.getD offset⟩ nodes.toList)

/-- Compose the items of a flow collection and check its closing bracket. -/
def flowCollection (fuel : Nat) (scope : Scope) (atRoot : Bool) (off indent : Nat) (open_ : SourceToken)
    (items : List Item) (trail : List SourceToken) : ComposeM Collection := do
  match fuel with
  | 0 => pure (.seq ⟨off, off, off⟩ [])
  | f + 1 =>
    let isMap := open_.source == "\x7b"
    let fcName := if isMap then "flow map" else "flow sequence"
    let blockMsg := "Block collections are not allowed within flow collections"
    let count := items.length
    let mut offset := off + unitLength open_.source
    let mut pairs : Array (Node × Option Node) := #[]
    let mut nodes : Array Node := #[]
    let mut i := 0
    for it in items do
      let start := it.start
      let key := it.key
      let sep := it.sep
      let value := it.value
      let index := i
      i := i + 1
      let next : Option Token := match key with
        | some k => some k
        | none => (sep.bind (·.head?)).map Token.source
      let (props, probs) := readProps start
        { flow := some fcName, indicator := .explicitKeyInd, next := next, offset := offset,
          parentIndent := indent, startOnNewline := false }
      report probs
      if props.found.isNone then
        if props.anchor.isNone && props.tag.isNone && sep.isNone && value.isNone then
          match props.comma with
          | some c =>
            if index == 0 then reportOne (problemOn c ("Unexpected , in " ++ fcName))
            else if index + 1 < count then reportOne (problemAtUnit props.start ("Unexpected empty item in " ++ fcName))
          | none =>
            if index + 1 < count then reportOne (problemAtUnit props.start ("Unexpected empty item in " ++ fcName))
          offset := props.stop
          continue
        if !isMap then
          match key with
          | some k =>
            if k.containsNewline then
              reportOne (problemOnToken k "Implicit keys of flow sequence pairs need to be on a single line")
          | none => pure ()
      if index == 0 then
        match props.comma with
        | some c => reportOne (problemOn c ("Unexpected , in " ++ fcName))
        | none => pure ()
      else if props.comma.isNone then
        reportOne (problemAtUnit props.start ("Missing , between " ++ fcName ++ " items"))
      if !isMap && sep.isNone && props.found.isNone then
        let valueNode ← match value with
          | some v => composeNode f scope false false v props
          | none => composeEmpty scope false false props.stop none props
        nodes := nodes.push valueNode
        offset := valueNode.span.nodeEnd
        if isBlockToken value then reportOne (problemOnSpan valueNode.span blockMsg)
      else
        let keyStart := props.stop
        let keyNode ← match key with
          | some k => composeNode f scope true false k props
          | none => composeEmpty scope true false keyStart (some start) props
        if isBlockToken key then reportOne (problemOnSpan keyNode.span blockMsg)
        let (valueProps, probs) := readProps (sep.getD [])
          { flow := some fcName, indicator := .mapValueInd, next := value, offset := keyNode.span.nodeEnd,
            parentIndent := indent, startOnNewline := false }
        report probs
        match valueProps.found with
        | some fnd =>
          if !isMap && props.found.isNone then
            let before := (sep.getD []).takeWhile fun t => t.offset != fnd.offset
            match before.find? (·.kind == .newline) with
            | some nl => reportOne (problemOn nl "Implicit keys of flow sequence pairs need to be on a single line")
            | none => pure ()
            if props.start + 1024 < fnd.offset then
              reportOne (problemOn fnd
                "The : indicator must be at most 1024 chars after the start of an implicit flow sequence key")
        | none =>
          match value with
          | some v =>
            if (v.source?.bind (·.toList.head?)) == some ':' then
              reportOne (problemOnToken v ("Missing space after : in " ++ fcName))
            else reportOne (problemAtUnit valueProps.start ("Missing , or : between " ++ fcName ++ " items"))
          | none => pure ()
        let valueNode ← match value with
          | some v => some <$> composeNode f scope false false v valueProps
          | none =>
            if valueProps.found.isSome then some <$> composeEmpty scope false false valueProps.stop sep valueProps
            else pure none
        match valueNode with
        | some vn => if isBlockToken value then reportOne (problemOnSpan vn.span blockMsg)
        | none => pure ()
        if isMap then
          if pairs.any (fun (k, _) => k.sameKey keyNode) then
            reportOne (problemAtUnit keyStart "Map keys must be unique")
          pairs := pairs.push (keyNode, valueNode)
        else
          let id ← fresh
          let endSpan := (valueNode.getD keyNode).span
          nodes := nodes.push (.map ⟨id, none, ⟨keyNode.span.start, endSpan.valueEnd, endSpan.nodeEnd⟩⟩ false
            [(keyNode, valueNode)])
        offset := match valueNode with
          | some vn => vn.span.nodeEnd
          | none => valueProps.stop
    let expectedEnd := if isMap then "\x7d" else "]"
    let name := if isMap then "Flow map" else "Flow sequence"
    let missing := if atRoot then name ++ " must end with a " ++ expectedEnd
      else name ++ " in block collection must be sufficiently indented and end with a " ++ expectedEnd
    let (cePos, rest) ← match trail with
      | ce :: ee =>
        if ce.source == expectedEnd then pure (ce.offset + unitLength ce.source, ee)
        else do
          reportOne (problemAtUnit offset missing)
          pure (offset, if unitLength ce.source != 1 then ce :: ee else ee)
      | [] => do
        reportOne (problemAtUnit offset missing)
        pure (offset, [])
    let span : Span ← if rest.isEmpty then pure ⟨off, cePos, cePos⟩
      else do
        let (e, probs) := readEnd rest cePos true
        report probs
        pure ⟨off, cePos, e⟩
    if isMap then pure (.map span pairs.toList) else pure (.seq span nodes.toList)

end

end Yaml

end FolderSink
