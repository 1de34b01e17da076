import FolderSink.Yaml.Cst
/-! The YAML parser: it turns lexemes into the concrete syntax tree, one lexeme at a time,
with a stack of open tokens (the innermost on top). Each lexeme becomes a source token
with its offset (in UTF-16 units) and the indentation of its line; the open token on top
decides what the lexeme means for it, and a token that cannot take it is closed (popped
into the token below) and the lexeme tried again there. Closed documents, and stream
level comments, directives and errors, are the output, in order. The parser also records
where each line starts, for positions in error messages.

Recursion is bounded by the stack: a lexeme is retried only after a token was popped. -/
namespace FolderSink

namespace Yaml

/-- The parser's state. -/
structure Parser where
  stack : List Token := []
  atNewLine : Bool := true
  atScalar : Bool := false
  indent : Nat := 0
  offset : Nat := 0
  onKeyLine : Bool := false
  source : String := ""
  kind : Kind := .newline
  out : Array Token := #[]
  lineStarts : Array Nat := #[0]

/-- Parsing steps. -/
abbrev ParseM := StateM Parser

/-- Replace the last element of a list. -/
def setLast {α : Type} (xs : List α) (x : α) : List α := xs.dropLast ++ [x]

/-- Add tokens to the trailing tokens of a flow scalar, flow collection or document. -/
def Token.addTrail (t : Token) (xs : List SourceToken) : Token :=
  match t with
  | .flowScalar k o i s tr => .flowScalar k o i s (tr ++ xs)
  | .flowCollection o i st items tr => .flowCollection o i st items (tr ++ xs)
  | .document o st v tr => .document o st v (tr ++ xs)
  | .docEnd o s tr => .docEnd o s (tr ++ xs)
  | t => t

/-- Whether a token's trailing tokens end with a comment. -/
def Token.trailEndsInComment : Token → Bool
  | .flowScalar _ _ _ _ tr | .flowCollection _ _ _ _ tr => (tr.getLast?.map (·.kind == .comment)).getD false
  | _ => false

/-- Whether a token has a list of trailing tokens: a flow collection always, a flow scalar
once something trails it. -/
def Token.hasTrailList : Token → Bool
  | .flowCollection _ _ _ _ _ => true
  | .flowScalar _ _ _ _ tr => !tr.isEmpty
  | _ => false

/-- In a flow sequence, an item with a separator but no value and no `?` or `:` is a plain
value: its key becomes the value and the separator trails it. -/
def fixFlowSeqItems (t : Token) : Token :=
  match t with
  | .flowCollection o i st items tr =>
    if st.kind != .flowSeqStart then t
    else
      let fix (it : Item) : Item :=
        match it.sep with
        | some sep =>
          if it.value.isNone && !hasKind it.start .explicitKeyInd && !hasKind sep .mapValueInd then
            match it.key with
            | some k =>
              if k.isFlow then .mk it.start it.explicitKey none none (some (k.addTrail sep))
              else .mk (it.start ++ sep) it.explicitKey none none (some k)
            | none => .mk (it.start ++ sep) it.explicitKey none none none
          else it
        | none => it
      .flowCollection o i st (items.map fix) tr
  | t => t

/-- The properties before a child of a parent token: a document's start, the separator
(or start) of a map's last item, the start of a sequence's last item. -/
def prevProps : Token → List SourceToken
  | .document _ st _ _ => st
  | .blockMap _ _ items => match items.getLast? with
    | some it => it.sep.getD it.start
    | none => []
  | .blockSeq _ _ items => match items.getLast? with
    | some it => it.start
    | none => []
  | _ => []

/-- Write back the properties returned by `prevProps`. -/
def withPrevProps (t : Token) (ps : List SourceToken) : Token :=
  match t with
  | .document o _ v tr => .document o ps v tr
  | .blockMap o i items => match items.getLast? with
    | some it => .blockMap o i (setLast items (if it.sep.isSome then it.withSep (some ps) else it.withStart ps))
    | none => t
  | .blockSeq o i items => match items.getLast? with
    | some it => .blockSeq o i (setLast items (it.withStart ps))
    | none => t
  | t => t

/-- The current lexeme as a source token. -/
def sourceToken : ParseM SourceToken := do
  let p ← get
  pure ⟨p.kind, p.offset, p.indent, p.source⟩

/-- Output a token. -/
def yieldToken (t : Token) : ParseM Unit := modify fun p => { p with out := p.out.push t }

/-- Open a token. -/
def pushToken (t : Token) : ParseM Unit := modify fun p => { p with stack := t :: p.stack }

/-- Replace the open token on top. -/
def setTop (t : Token) : ParseM Unit :=
  modify fun p => { p with stack := match p.stack with
    | _ :: r => t :: r
    | [] => [t] }

/-- Replace the second open token. -/
def setSecond (t : Token) : ParseM Unit :=
  modify fun p => { p with stack := match p.stack with
    | a :: _ :: r => a :: t :: r
    | s => s }

/-- Record a line start. -/
def addLineStart (o : Nat) : ParseM Unit := modify fun p => { p with lineStarts := p.lineStarts.push o }

/-- Set whether the parser is on a key's line. -/
def setKeyLine (b : Bool) : ParseM Unit := modify fun p => { p with onKeyLine := b }

/-- A closed collection's last item holding only blank and comment tokens (comments not
less indented than the collection) moves up to the parent. Gives the collection without
it and the tokens moved. -/
def splitTrailingItem (token : Token) : Token × Option (List SourceToken) :=
  let check (ind : Nat) (items : List Item) : Option (List SourceToken) :=
    match items.getLast? with
    | some last =>
      if last.sep.isNone && last.value.isNone && !last.start.isEmpty &&
          (firstContent last.start).isNone &&
          (ind == 0 || last.start.all fun st => st.kind != .comment || st.indent < ind) then
        some last.start
      else none
    | none => none
  match token with
  | .blockMap o i items =>
    match check i items with
    | some s => (.blockMap o i items.dropLast, some s)
    | none => (token, none)
  | .blockSeq o i items =>
    match check i items with
    | some s => (.blockSeq o i items.dropLast, some s)
    | none => (token, none)
  | t => (t, none)

/-- Close the top token into the one below it (or output it), or, given an error token,
put the error into the top token. -/
def pop : Nat → Option Token → ParseM Unit
  | 0, _ => pure ()
  | f + 1, err => do
    let p ← get
    let (token?, stack) : Option Token × List Token := match err with
      | some t => (some t, p.stack)
      | none => match p.stack with
        | t :: r => (some t, r)
        | [] => (none, [])
    set { p with stack }
    match token? with
    | none => yieldToken (.error p.offset "Tried to pop an empty stack" "")
    | some token =>
      match stack with
      | [] => yieldToken token
      | top :: _ =>
        let token := match token, top with
          | .blockScalar o _ props s, _ => .blockScalar o (top.indent?.getD 0) props s
          | .flowCollection o _ st items tr, .document _ _ _ _ => .flowCollection o 0 st items tr
          | t, _ => t
        let token := fixFlowSeqItems token
        let moveUp := match top with
          | .document _ _ _ _ | .blockMap _ _ _ | .blockSeq _ _ _ => true
          | _ => false
        let (fixed, extra) := if moveUp then splitTrailingItem token else (token, none)
        match top with
        | .document o st _ tr => setTop (.document o st (some fixed) (extra.getD tr))
        | .blockScalar o i props s => setTop (.blockScalar o i (props ++ [token]) s)
        | .blockMap o i items =>
          let it := items.getLast?.getD (Item.ofStart [])
          if it.value.isSome then
            setTop (.blockMap o i (items ++ [.mk [] false (some token) (some []) none]))
            setKeyLine true
          else if it.sep.isSome then
            let items := setLast items (it.withValue (some fixed))
            setTop (.blockMap o i (items ++ (extra.map fun s => [Item.ofStart s]).getD []))
          else
            setTop (.blockMap o i (setLast items (it.withKey (some token) [])))
            setKeyLine !it.explicitKey
        | .blockSeq o i items =>
          let items := match items.getLast? with
            | some it =>
              if it.value.isSome then items ++ [.mk [] false none none (some fixed)]
              else setLast items (it.withValue (some fixed))
            | none => [.mk [] false none none (some fixed)]
          setTop (.blockSeq o i (items ++ (extra.map fun s => [Item.ofStart s]).getD []))
        | .flowCollection o i st items tr =>
          let items := match items.getLast? with
            | none => [.mk [] false (some token) (some []) none]
            | some it =>
              if it.value.isSome then items ++ [.mk [] false (some token) (some []) none]
              else if it.sep.isSome then setLast items (it.withValue (some token))
              else setLast items (it.withKey (some token) [])
          setTop (.flowCollection o i st items tr)
        | _ =>
          pop f none
          pop f (some token)

/-- Close every open token. -/
def popAll : Nat → ParseM Unit
  | 0 => pure ()
  | f + 1 => do
    if (← get).stack.isEmpty then pure ()
    else
      pop ((← get).stack.length + 2) none
      popAll f

/-- A flow scalar token of the current lexeme; its line breaks start lines. -/
def flowScalarToken (k : FlowKind) : ParseM Token := do
  let p ← get
  for e in lineFeedEnds p.source do addLineStart (p.offset + e)
  pure (.flowScalar k p.offset p.indent p.source [])

/-- The flow kind of a token kind. -/
def flowKindOf : Kind → FlowKind
  | .alias => .alias
  | .singleQuoted => .singleQuoted
  | .doubleQuoted => .doubleQuoted
  | _ => .plain

/-- Start a value of the top token with the current lexeme, if it can start one. An
explicit key or a `:` takes the key properties from the top token. -/
def startBlockValue : ParseM (Option Token) := do
  let p ← get
  let st ← sourceToken
  let takeKeyStart : ParseM (List SourceToken) := do
    setKeyLine true
    match (← get).stack with
    | top :: _ =>
      let (kept, moved) := splitKeyStart (prevProps top)
      setTop (withPrevProps top kept)
      pure moved
    | [] => pure []
  match p.kind with
  | .alias | .scalar | .singleQuoted | .doubleQuoted => some <$> flowScalarToken (flowKindOf p.kind)
  | .blockScalarHeader => pure (some (.blockScalar p.offset p.indent [.source st] ""))
  | .flowMapStart | .flowSeqStart => pure (some (.flowCollection p.offset p.indent st [] []))
  | .seqItemInd => pure (some (.blockSeq p.offset p.indent [Item.ofStart [st]]))
  | .explicitKeyInd =>
    let moved ← takeKeyStart
    pure (some (.blockMap p.offset p.indent [.mk (moved ++ [st]) true none none none]))
  | .mapValueInd =>
    let moved ← takeKeyStart
    pure (some (.blockMap p.offset p.indent [.mk moved false none (some [st]) none]))
  | _ => pure none

/-- The end of a line for a document, flow collection or flow scalar: separators close
it; anything else trails it, and a line break closes it. -/
def lineEnd (token : Token) (restep : ParseM Unit) : ParseM Unit := do
  let p ← get
  match p.kind with
  | .comma | .docStart | .docEnd | .flowSeqEnd | .flowMapEnd | .mapValueInd => restep
  | k =>
    if k == .newline then setKeyLine false
    let st ← sourceToken
    setTop (token.addTrail [st])
    if k == .newline then pop ((← get).stack.length + 2) none

/-- The stream level: directives, blank and comment tokens, and document starts. -/
def streamStep : ParseM Unit := do
  let p ← get
  let st ← sourceToken
  match p.kind with
  | .directiveLine => yieldToken (.directive p.offset p.source)
  | .byteOrderMark | .space | .comment | .newline => yieldToken (.source st)
  | .docMode => pushToken (.document p.offset [] none [])
  | .docStart => pushToken (.document p.offset [st] none [])
  | k => yieldToken (.error p.offset ("Unexpected " ++ k.name ++ " token in YAML stream") p.source)

/-- A document on top. -/
def documentStep (doc : Token) (restep : ParseM Unit) : ParseM Unit := do
  match doc with
  | .document o start value tr =>
    if value.isSome then lineEnd doc restep
    else
      let p ← get
      let st ← sourceToken
      match p.kind with
      | .docStart =>
        if (firstContent start).isSome then restep
        else setTop (.document o (start ++ [st]) none tr)
      | .anchor | .tag | .space | .comment | .newline => setTop (.document o (start ++ [st]) none tr)
      | k =>
        match ← startBlockValue with
        | some bv => pushToken bv
        | none => yieldToken (.error p.offset ("Unexpected " ++ k.name ++ " token in YAML document") p.source)
  | _ => restep

/-- A flow scalar on top: a `:` makes it the key of a new block map. -/
def scalarStep (scalar : Token) (restep : ParseM Unit) : ParseM Unit := do
  let p ← get
  match scalar with
  | .flowScalar k o i s tr =>
    if p.kind == .mapValueInd then
      let st ← sourceToken
      let moved ← match p.stack with
        | _ :: second :: _ =>
          let (kept, moved) := splitKeyStart (prevProps second)
          setSecond (withPrevProps second kept)
          pure moved
        | _ => pure []
      setKeyLine true
      setTop (.blockMap o i [.mk moved false (some (.flowScalar k o i s [])) (some (tr ++ [st])) none])
    else lineEnd scalar restep
  | _ => restep

/-- A block scalar on top: header trailing tokens, then its body. -/
def blockScalarStep (bs : Token) (restep : ParseM Unit) : ParseM Unit := do
  let p ← get
  match bs with
  | .blockScalar o i props _ =>
    match p.kind with
    | .space | .comment | .newline =>
      let st ← sourceToken
      setTop (.blockScalar o i (props ++ [.source st]) "")
    | .scalar =>
      setTop (.blockScalar o i props p.source)
      modify fun p => { p with atNewLine := true, indent := 0 }
      for e in lineFeedEnds p.source do addLineStart (p.offset + e)
      pop ((← get).stack.length + 2) none
    | _ => restep
  | _ => restep

/-- Whether the current comment is indented past a collection and follows only blank
tokens, so that it belongs to the previous item's value. -/
def atIndentedComment (start : List SourceToken) (indent : Nat) : ParseM Bool := do
  let p ← get
  pure (p.kind == .comment && p.indent > indent &&
    start.all fun st => st.kind == .newline || st.kind == .space)

/-- Line breaks that follow an empty value at the map's indentation belong to the next
item: the separator is cut after its second line break (a comment more indented than the
map does not count, other tokens reset the count). Gives the item and the tokens cut. -/
def splitEmptyValue (it : Item) (mapIndent : Nat) : Item × List SourceToken :=
  match it.sep with
  | some sep =>
    let (_, nl) := sep.foldl (fun (i, nl) st =>
      let nl := match st.kind with
        | .newline => nl ++ [i]
        | .space => nl
        | .comment => if st.indent > mapIndent then [] else nl
        | _ => []
      (i + 1, nl)) (0, ([] : List Nat))
    match nl[1]? with
    | some k => (it.withSep (some (sep.take k)), sep.drop k)
    | none => (it, [])
  | none => (it, [])

/-- A block map on top. -/
def blockMapStep (map : Token) (restep : ParseM Unit) : ParseM Unit := do
  match map with
  | .blockMap o ind items =>
    let p ← get
    let st ← sourceToken
    let it := items.getLast?.getD (Item.ofStart [])
    match p.kind with
    | .newline =>
      setKeyLine false
      match it.value with
      | some v =>
        if v.trailEndsInComment then setTop (.blockMap o ind (setLast items (it.withValue (some (v.addTrail [st])))))
        else setTop (.blockMap o ind (items ++ [Item.ofStart [st]]))
      | none =>
        match it.sep with
        | some sep => setTop (.blockMap o ind (setLast items (it.withSep (some (sep ++ [st])))))
        | none => setTop (.blockMap o ind (setLast items (it.withStart (it.start ++ [st]))))
    | .space | .comment =>
      if it.value.isSome then setTop (.blockMap o ind (items ++ [Item.ofStart [st]]))
      else match it.sep with
        | some sep => setTop (.blockMap o ind (setLast items (it.withSep (some (sep ++ [st])))))
        | none =>
          let moved ← if ← atIndentedComment it.start ind then
              match items[items.length - 2]? with
              | some prev =>
                match prev.value with
                | some v =>
                  if v.hasTrailList then
                    let prev := prev.withValue (some (v.addTrail (it.start ++ [st])))
                    setTop (.blockMap o ind (items.dropLast.dropLast ++ [prev]))
                    pure true
                  else pure false
                | none => pure false
              | none => pure false
            else pure false
          if !moved then setTop (.blockMap o ind (setLast items (it.withStart (it.start ++ [st]))))
    | k =>
      if p.indent ≥ ind then
        let atMapIndent := !p.onKeyLine && p.indent == ind
        let atNextItem := atMapIndent && (it.sep.isSome || it.explicitKey) && k != .seqItemInd
        let (it, start) := if atNextItem && it.sep.isSome && it.value.isNone then splitEmptyValue it ind
          else (it, [])
        let items := setLast items it
        setTop (.blockMap o ind items)
        match k with
        | .anchor | .tag =>
          if atNextItem || it.value.isSome then
            setTop (.blockMap o ind (items ++ [Item.ofStart (start ++ [st])]))
            setKeyLine true
          else match it.sep with
            | some sep => setTop (.blockMap o ind (setLast items (it.withSep (some (sep ++ [st])))))
            | none => setTop (.blockMap o ind (setLast items (it.withStart (it.start ++ [st]))))
        | .explicitKeyInd =>
          if it.sep.isNone && !it.explicitKey then
            setTop (.blockMap o ind (setLast items (.mk (it.start ++ [st]) true it.key it.sep it.value)))
          else if atNextItem || it.value.isSome then
            setTop (.blockMap o ind (items ++ [.mk (start ++ [st]) true none none none]))
          else pushToken (.blockMap p.offset p.indent [.mk [st] true none none none])
          setKeyLine true
        | .mapValueInd =>
          if it.explicitKey then
            match it.sep with
            | none =>
              if hasKind it.start .newline then
                setTop (.blockMap o ind (setLast items (it.withKey none [st])))
              else
                let (kept, moved) := splitKeyStart it.start
                setTop (.blockMap o ind (setLast items (it.withStart kept)))
                pushToken (.blockMap p.offset p.indent [.mk moved false none (some [st]) none])
            | some sep =>
              if it.value.isSome then
                setTop (.blockMap o ind (items ++ [.mk [] false none (some [st]) none]))
              else if hasKind sep .mapValueInd then
                pushToken (.blockMap p.offset p.indent [.mk start false none (some [st]) none])
              else if (it.key.map Token.isFlow).getD false && !hasKind sep .newline then
                let (kept, moved) := splitKeyStart it.start
                setTop (.blockMap o ind (setLast items (.mk kept it.explicitKey none none it.value)))
                pushToken (.blockMap p.offset p.indent [.mk moved false it.key (some (sep ++ [st])) none])
              else if !start.isEmpty then
                setTop (.blockMap o ind (setLast items (it.withSep (some (sep ++ start ++ [st])))))
              else
                setTop (.blockMap o ind (setLast items (it.withSep (some (sep ++ [st])))))
          else
            match it.sep with
            | none => setTop (.blockMap o ind (setLast items (it.withKey none [st])))
            | some sep =>
              if it.value.isSome || atNextItem then
                setTop (.blockMap o ind (items ++ [.mk start false none (some [st]) none]))
              else if hasKind sep .mapValueInd then
                pushToken (.blockMap p.offset p.indent [.mk [] false none (some [st]) none])
              else setTop (.blockMap o ind (setLast items (it.withSep (some (sep ++ [st])))))
          setKeyLine true
        | .alias | .scalar | .singleQuoted | .doubleQuoted =>
          let fs ← flowScalarToken (flowKindOf k)
          if atNextItem || it.value.isSome then
            setTop (.blockMap o ind (items ++ [.mk start false (some fs) (some []) none]))
            setKeyLine true
          else if it.sep.isSome then pushToken fs
          else
            setTop (.blockMap o ind (setLast items (it.withKey (some fs) [])))
            setKeyLine true
        | _ =>
          match ← startBlockValue with
          | some bv =>
            let isSeq := match bv with
              | .blockSeq _ _ _ => true
              | _ => false
            if isSeq && !it.explicitKey && it.sep.isSome && !hasKind (it.sep.getD []) .newline then
              pop ((← get).stack.length + 2)
                (some (.error p.offset "Unexpected block-seq-ind on same line with key" p.source))
            else
              if !isSeq && atMapIndent then
                match (← get).stack with
                | .blockMap o' i' items' :: _ => setTop (.blockMap o' i' (items' ++ [Item.ofStart start]))
                | _ => pure ()
              pushToken bv
          | none => restep
      else restep
  | _ => restep

/-- A block sequence on top. -/
def blockSeqStep (seq : Token) (restep : ParseM Unit) : ParseM Unit := do
  match seq with
  | .blockSeq o ind items =>
    let p ← get
    let st ← sourceToken
    let it := items.getLast?.getD (Item.ofStart [])
    let fallback : ParseM Unit := do
      if p.indent > ind then
        match ← startBlockValue with
        | some bv => pushToken bv
        | none => restep
      else restep
    match p.kind with
    | .newline =>
      match it.value with
      | some v =>
        if v.trailEndsInComment then setTop (.blockSeq o ind (setLast items (it.withValue (some (v.addTrail [st])))))
        else setTop (.blockSeq o ind (items ++ [Item.ofStart [st]]))
      | none => setTop (.blockSeq o ind (setLast items (it.withStart (it.start ++ [st]))))
    | .space | .comment =>
      if it.value.isSome then setTop (.blockSeq o ind (items ++ [Item.ofStart [st]]))
      else
        let moved ← if ← atIndentedComment it.start ind then
            match items[items.length - 2]? with
            | some prev =>
              match prev.value with
              | some v =>
                if v.hasTrailList then
                  let prev := prev.withValue (some (v.addTrail (it.start ++ [st])))
                  setTop (.blockSeq o ind (items.dropLast.dropLast ++ [prev]))
                  pure true
                else pure false
              | none => pure false
            | none => pure false
          else pure false
        if !moved then setTop (.blockSeq o ind (setLast items (it.withStart (it.start ++ [st]))))
    | .anchor | .tag =>
      if it.value.isSome || p.indent ≤ ind then fallback
      else setTop (.blockSeq o ind (setLast items (it.withStart (it.start ++ [st]))))
    | .seqItemInd =>
      if p.indent != ind then fallback
      else if it.value.isSome || hasKind it.start .seqItemInd then
        setTop (.blockSeq o ind (items ++ [Item.ofStart [st]]))
      else setTop (.blockSeq o ind (setLast items (it.withStart (it.start ++ [st]))))
    | _ => fallback
  | _ => restep

/-- A flow collection on top. -/
def flowCollectionStep (fc : Token) (restep : ParseM Unit) : ParseM Unit := do
  match fc with
  | .flowCollection o ind fst items tr =>
    let p ← get
    let st ← sourceToken
    if p.kind == .flowErrorEnd then
      let rec closeFlows : Nat → ParseM Unit
        | 0 => pure ()
        | f + 1 => do
          pop ((← get).stack.length + 2) none
          match (← get).stack with
          | .flowCollection _ _ _ _ _ :: _ => closeFlows f
          | _ => pure ()
      closeFlows ((← get).stack.length + 1)
    else if tr.isEmpty then
      let it := items.getLast?
      let upd (items : List Item) : ParseM Unit := setTop (.flowCollection o ind fst items tr)
      match p.kind with
      | .comma | .explicitKeyInd =>
        match it with
        | some it =>
          if it.sep.isSome then upd (items ++ [Item.ofStart [st]])
          else upd (setLast items (it.withStart (it.start ++ [st])))
        | none => upd [Item.ofStart [st]]
      | .mapValueInd =>
        match it with
        | some it =>
          if it.value.isSome then upd (items ++ [.mk [] false none (some [st]) none])
          else match it.sep with
            | some sep => upd (setLast items (it.withSep (some (sep ++ [st]))))
            | none => upd (setLast items (it.withKey none [st]))
        | none => upd [.mk [] false none (some [st]) none]
      | .space | .comment | .newline | .anchor | .tag =>
        match it with
        | some it =>
          if it.value.isSome then upd (items ++ [Item.ofStart [st]])
          else match it.sep with
            | some sep => upd (setLast items (it.withSep (some (sep ++ [st]))))
            | none => upd (setLast items (it.withStart (it.start ++ [st])))
        | none => upd [Item.ofStart [st]]
      | .alias | .scalar | .singleQuoted | .doubleQuoted =>
        let fs ← flowScalarToken (flowKindOf p.kind)
        match it with
        | some it =>
          if it.value.isSome then upd (items ++ [.mk [] false (some fs) (some []) none])
          else if it.sep.isSome then pushToken fs
          else upd (setLast items (it.withKey (some fs) []))
        | none => upd [.mk [] false (some fs) (some []) none]
      | .flowMapEnd | .flowSeqEnd => setTop (.flowCollection o ind fst items [st])
      | _ =>
        match ← startBlockValue with
        | some bv => pushToken bv
        | none => restep
    else
      match p.stack with
      | _ :: parent :: _ =>
        let parentMap : Option (Nat × Bool) := match parent with
          | .blockMap _ pi pitems =>
            some (pi, (pitems.getLast?.map fun (it : Item) => it.sep.isSome).getD false)
          | _ => none
        let closes : Bool := match parentMap with
          | some (pi, lastHasSep) =>
            (p.kind == Kind.mapValueInd && pi == ind) || (p.kind == Kind.newline && !lastHasSep)
          | none => false
        let parentIsFlow := match parent with
          | .flowCollection _ _ _ _ _ => true
          | _ => false
        if closes then restep
        else if p.kind == Kind.mapValueInd && !parentIsFlow then
          let (kept, moved) := splitKeyStart (prevProps parent)
          setSecond (withPrevProps parent kept)
          let key := fixFlowSeqItems (.flowCollection o ind fst items (tr.take 1))
          setKeyLine true
          setTop (.blockMap o ind [.mk moved false (some key) (some (tr.drop 1 ++ [st])) none])
        else lineEnd fc restep
      | _ => lineEnd fc restep
  | _ => restep

/-- A document end marker on top: it takes the rest of its line. -/
def docEndStep (de : Token) : ParseM Unit := do
  let p ← get
  if p.kind != .docMode then
    let st ← sourceToken
    setTop (de.addTrail [st])
    if p.kind == .newline then pop ((← get).stack.length + 2) none

/-- Handle the current lexeme. -/
def step : Nat → ParseM Unit
  | 0 => pure ()
  | f + 1 => do
    let p ← get
    let restep : ParseM Unit := do
      pop ((← get).stack.length + 2) none
      step f
    let topIsDocEnd := match p.stack with
      | .docEnd _ _ _ :: _ => true
      | _ => false
    if p.kind == .docEnd && !topIsDocEnd then
      popAll (p.stack.length + 1)
      pushToken (.docEnd p.offset p.source [])
    else
      match p.stack with
      | [] => streamStep
      | top :: _ =>
        match top with
        | .document _ _ _ _ => documentStep top restep
        | .flowScalar _ _ _ _ _ => scalarStep top restep
        | .blockScalar _ _ _ _ => blockScalarStep top restep
        | .blockMap _ _ _ => blockMapStep top restep
        | .blockSeq _ _ _ => blockSeqStep top restep
        | .flowCollection _ _ _ _ _ => flowCollectionStep top restep
        | .docEnd _ _ _ => docEndStep top
        | _ => pop (p.stack.length + 2) none

/-- Feed one lexeme to the parser. -/
def feed (lx : Lexeme) : ParseM Unit := do
  let src := match lx with
    | .docMode => "\x02"
    | .flowErrorEnd => "\x18"
    | .scalarMark => "\x1f"
    | .text s => s
  modify fun p => { p with source := src }
  let len := unitLength src
  let p ← get
  if p.atScalar then
    modify fun p => { p with atScalar := false }
    step (p.stack.length + 3)
    modify fun p => { p with offset := p.offset + len }
  else
    match kindOf src with
    | none =>
      pop (p.stack.length + 2) (some (.error p.offset ("Not a YAML token: " ++ src) src))
      modify fun p => { p with offset := p.offset + len }
    | some .scalar =>
      modify fun p => { p with atNewLine := false, atScalar := true, kind := .scalar }
    | some k =>
      modify fun p => { p with kind := k }
      step (p.stack.length + 3)
      match k with
      | .newline =>
        modify fun p => { p with atNewLine := true, indent := 0 }
        addLineStart (p.offset + len)
        modify fun p => { p with offset := p.offset + len }
      | .space =>
        modify fun p => { p with
          indent := if p.atNewLine && src.startsWith " " then p.indent + len else p.indent,
          offset := p.offset + len }
      | .explicitKeyInd | .mapValueInd | .seqItemInd =>
        modify fun p => { p with
          indent := if p.atNewLine then p.indent + len else p.indent,
          offset := p.offset + len }
      | .docMode | .flowErrorEnd => pure ()
      | _ => modify fun p => { p with atNewLine := false, offset := p.offset + len }

/-- The syntax tree of a text: its top-level tokens, and where its lines start. -/
def parseCst (text : String) : Array Token × Array Nat :=
  let lexemes := lex text
  let run : ParseM Unit := do
    for lx in lexemes do feed lx
    popAll ((← get).stack.length + 1)
  let ((), p) := run.run {}
  (p.out, p.lineStarts)

end Yaml

end FolderSink
