/-! The YAML lexer: it cuts a source text into lexemes, the raw pieces the parser turns
into tokens. A lexeme is a piece of the text (an indicator, a run of blanks, a comment, a
line break, a tag, an anchor, an alias, a scalar's source) or one of three markers: the
start of a document's content, the forced end of a flow collection whose lines are not
indented enough, and the mark that the next lexeme is a plain or block scalar's source.

The lexer is a small state machine over the text (stream, document, flow collection),
tracking the indentation a continuation line needs (`indentNext`), the current line's
indentation, the depth of flow collections and whether a flow key has just been read.
Every state step reads at least one character or hands over to a step that does, so the
length of the text bounds the number of steps. -/
namespace FolderSink

namespace Yaml

/-- A piece of lexed text or a marker. -/
inductive Lexeme where
  | docMode
  | flowErrorEnd
  | scalarMark
  | text (s : String)
deriving Repr, DecidableEq, Inhabited

/-- What the lexer does next. -/
inductive LexState where
  | stream
  | doc
  | flow
deriving Repr, DecidableEq

/-- A blank for the lexer: the end of the text, a space, a tab or a line break. -/
def isBlankAt : Option Char → Bool
  | none => true
  | some c => c == ' ' || c == '\n' || c == '\r' || c == '\t'

/-- A flow indicator: `,`, `[`, `]`, `{` or `}`. -/
def isFlowChar (c : Char) : Bool :=
  c == ',' || c == '[' || c == ']' || c == '\x7b' || c == '\x7d'

/-- Whether a character is optional and is a flow indicator. -/
def isFlowAt : Option Char → Bool
  | some c => isFlowChar c
  | none => false

/-- Whether a character ends an anchor or alias name. -/
def endsAnchorAt : Option Char → Bool
  | none => true
  | some c => c == ' ' || c == '\n' || c == '\r' || c == '\t' || isFlowChar c

/-- A hex digit. -/
def isHexChar (c : Char) : Bool :=
  c.isDigit || ('a' ≤ c && c ≤ 'f') || ('A' ≤ c && c ≤ 'F')

/-- A character allowed in a tag without escaping. -/
def isTagChar (c : Char) : Bool :=
  c.isAlphanum || "-#;/?:@&=+$_.!~*'()".toList.contains c

/-- The first index from `i` whose character fails `test`, or the end. -/
def scanWhile (src : Array Char) (test : Char → Bool) (i : Nat) : Nat :=
  if h : i < src.size then
    if test src[i] then scanWhile src test (i + 1) else i
  else i
termination_by src.size - i

/-- The end of a tag's name from `i`: tag characters and `%` escapes of two hex digits. -/
def tagEnd (src : Array Char) (i : Nat) : Nat :=
  if h : i < src.size then
    if isTagChar src[i] then tagEnd src (i + 1)
    else if src[i] == '%' && (src[i + 1]?.map isHexChar).getD false &&
        (src[i + 2]?.map isHexChar).getD false then tagEnd src (i + 3)
    else i
  else i
termination_by src.size - i

/-- The first index at or after `i` holding `c`. -/
def indexFrom (src : Array Char) (c : Char) (i : Nat) : Option Nat :=
  let j := scanWhile src (· != c) i
  if j < src.size then some j else none

/-- The lexer's state over a text. -/
structure Lexer where
  src : Array Char
  pos : Nat := 0
  flowKey : Bool := false
  flowLevel : Nat := 0
  indentNext : Nat := 0
  indentValue : Nat := 0
  blockIndent : Option Nat := none
  blockKeep : Bool := false
  out : Array Lexeme := #[]

/-- Lexing steps. -/
abbrev LexM := StateM Lexer

namespace Lexer

/-- The character at an absolute index, if any. -/
def charAt (l : Lexer) (i : Int) : Option Char :=
  if i < 0 then none else l.src[i.toNat]?

/-- The character `n` places after the current one. -/
def ahead (l : Lexer) (n : Nat) : Option Char := l.src[l.pos + n]?

/-- The text between two indices. -/
def slice (l : Lexer) (a b : Nat) : String := String.ofList (l.src.extract a b).toList

/-- The rest of the current line, without its line break (and a carriage return before
it). -/
def restOfLine (l : Lexer) : Array Char :=
  match indexFrom l.src '\n' l.pos with
  | some e =>
    let e := if e > l.pos && l.src[e - 1]? == some '\r' then e - 1 else e
    l.src.extract l.pos e
  | none => l.src.extract l.pos l.src.size

/-- Whether only blanks and maybe a comment are left on the line. -/
def atLineEnd (l : Lexer) : Bool :=
  let i := scanWhile l.src (fun c => c == ' ' || c == '\t') l.pos
  match l.src[i]? with
  | none => true
  | some '#' => true
  | some '\n' => true
  | some '\r' => l.src[i + 1]? == some '\n'
  | some _ => false

/-- Where a scalar may go on after a line break at `offset`: past the indentation when
the next line is indented enough (or empty), -1 when the scalar ends there, which it also
does at a document marker in an unindented context. -/
def continueScalar (l : Lexer) (offset : Nat) : Int :=
  if l.indentNext > 0 then
    let e := scanWhile l.src (· == ' ') offset
    let indent := e - offset
    match l.src[e]? with
    | some '\r' =>
      if l.src[e + 1]? == some '\n' then (e + 1 : Nat)
      else if indent ≥ l.indentNext then (e : Nat) else -1
    | some '\n' => (e : Nat)
    | _ => if indent ≥ l.indentNext then (e : Nat) else -1
  else
    match l.src[offset]? with
    | some '-' | some '.' =>
      let dt := l.slice offset (offset + 3)
      if (dt == "---" || dt == "...") && isBlankAt l.src[offset + 3]? then -1 else (offset : Int)
    | _ => (offset : Int)

end Lexer

/-- Emit a lexeme. -/
def emit (x : Lexeme) : LexM Unit := modify fun l => { l with out := l.out.push x }

/-- Emit the next `n` characters. -/
def pushCount (n : Nat) : LexM Nat := do
  if n > 0 then
    let l ← get
    emit (.text (l.slice l.pos (l.pos + n)))
    modify fun l => { l with pos := l.pos + n }
    pure n
  else pure 0

/-- Emit the characters up to index `i`; nothing to emit gives an empty lexeme when
`allowEmpty`. -/
def pushToIndex (i : Int) (allowEmpty : Bool) : LexM Nat := do
  let l ← get
  let stop := min i.toNat l.src.size
  if i > l.pos && stop > l.pos then
    emit (.text (l.slice l.pos stop))
    modify fun l => { l with pos := stop }
    pure (stop - l.pos)
  else
    if allowEmpty then emit (.text "")
    pure 0

/-- Emit a run of spaces (and tabs, when allowed). -/
def pushSpaces (allowTabs : Bool) : LexM Nat := do
  let l ← get
  let e := scanWhile l.src (fun c => c == ' ' || (allowTabs && c == '\t')) l.pos
  let n := e - l.pos
  if n > 0 then
    emit (.text (l.slice l.pos e))
    modify fun l => { l with pos := e }
  pure n

/-- Emit a line break, `\n` or `\r\n`. -/
def pushNewline : LexM Nat := do
  let l ← get
  match l.ahead 0, l.ahead 1 with
  | some '\n', _ => pushCount 1
  | some '\r', some '\n' => pushCount 2
  | _, _ => pure 0

/-- Emit characters up to the first one that passes `test` (or the end). -/
def pushUntil (test : Option Char → Bool) : LexM Nat := do
  let l ← get
  let e := scanWhile l.src (fun c => !test (some c)) l.pos
  pushToIndex e false

/-- Emit a tag: `!<…>` verbatim, or `!` and tag characters. -/
def pushTag : LexM Nat := do
  let l ← get
  if l.ahead 1 == some '<' then
    let i := scanWhile l.src (fun c => !isBlankAt (some c) && c != '>') (l.pos + 2)
    pushToIndex (if l.src[i]? == some '>' then i + 1 else i) false
  else pushToIndex (tagEnd l.src (l.pos + 1)) false

/-- Emit the node properties and indicators at the current place: tags, anchors, and
`-`, `?` or `:` followed by a blank (or, in a flow collection, by a flow indicator). -/
def pushIndicators : Nat → LexM Nat
  | 0 => pure 0
  | f + 1 => do
    let l ← get
    match l.ahead 0 with
    | some '!' =>
      let a ← pushTag
      let b ← pushSpaces true
      let c ← pushIndicators f
      pure (a + b + c)
    | some '&' =>
      let a ← pushUntil endsAnchorAt
      let b ← pushSpaces true
      let c ← pushIndicators f
      pure (a + b + c)
    | some '-' | some '?' | some ':' =>
      let inFlow := l.flowLevel > 0
      let ch1 := l.ahead 1
      if isBlankAt ch1 || (inFlow && isFlowAt ch1) then
        if !inFlow then modify fun l => { l with indentNext := l.indentValue + 1 }
        else if l.flowKey then modify fun l => { l with flowKey := false }
        let a ← pushCount 1
        let b ← pushSpaces true
        let c ← pushIndicators f
        pure (a + b + c)
      else pure 0
    | _ => pure 0

/-- The indicators `-`, `?` and `:` that open block nodes at the start of a line. -/
def parseBlockStart : Nat → LexM LexState
  | 0 => pure .doc
  | f + 1 => do
    let l ← get
    let ch0 := l.ahead 0
    let ch1 := l.ahead 1
    if (ch0 == some '-' || ch0 == some '?' || ch0 == some ':') && isBlankAt ch1 then
      let a ← pushCount 1
      let b ← pushSpaces true
      modify fun l => { l with indentNext := l.indentValue + 1, indentValue := l.indentValue + a + b }
      parseBlockStart f
    else pure .doc

/-- The start of a line: a document marker, or the indentation and block indicators. -/
def parseLineStart : LexM LexState := do
  let l ← get
  let ch := l.ahead 0
  let marker := l.slice l.pos (l.pos + 3)
  if (ch == some '-' || ch == some '.') && (marker == "---" || marker == "...") && isBlankAt (l.ahead 3) then
    let _ ← pushCount 3
    modify fun l => { l with indentValue := 0, indentNext := 0 }
    pure (if marker == "---" then .doc else .stream)
  else
    let n ← pushSpaces false
    modify fun l => { l with indentValue := n }
    let l ← get
    if l.indentNext > l.indentValue && !isBlankAt (l.ahead 1) then
      modify fun l => { l with indentNext := l.indentValue }
    parseBlockStart (l.src.size + 1)

/-- The end of a quoted scalar opening at `pos`: the matching quote (a doubled single
quote and a backslash-escaped double quote do not close), cut short at a line that is not
indented enough; an unclosed scalar runs to the end of the text. -/
def quotedEnd (l : Lexer) : Int :=
  let quote := (l.ahead 0).getD '"'
  let rec single : Nat → Option Nat → Option Nat
    | 0, e => e
    | f + 1, some e => if l.src[e + 1]? == some '\'' then single f (indexFrom l.src '\'' (e + 2)) else some e
    | _ + 1, none => none
  let rec double : Nat → Option Nat → Option Nat
    | 0, e => e
    | f + 1, some e =>
      let backslashes := e - (((List.range e).reverse.find? fun k => l.src[k]? != some '\\').map (· + 1)).getD 0
      if backslashes % 2 == 0 then some e else double f (indexFrom l.src '"' (e + 1))
    | _ + 1, none => none
  let first := indexFrom l.src quote (l.pos + 1)
  let e := if quote == '\'' then single (l.src.size + 1) first else double (l.src.size + 1) first
  match e with
  | none => l.src.size
  | some e =>
    let nlIn (from_ : Nat) : Option Nat :=
      match indexFrom l.src '\n' from_ with
      | some k => if k < e then some k else none
      | none => none
    let rec scan : Nat → Option Nat → Option Nat
      | 0, nl => nl
      | f + 1, some nl =>
        let cs := l.continueScalar (nl + 1)
        if cs < 0 then some nl else scan f (nlIn cs.toNat)
      | _ + 1, none => none
    match scan (l.src.size + 1) (nlIn l.pos) with
    | some nl => (nl : Int) - (if nl > 0 && l.src[nl - 1]? == some '\r' then 2 else 1)
    | none => e

/-- A quoted scalar. -/
def parseQuotedScalar : LexM LexState := do
  let l ← get
  let e := quotedEnd l
  let _ ← pushToIndex (e + 1) false
  pure (if l.flowLevel > 0 then .flow else .doc)

/-- A block scalar header's indicators (`|` or `>` with an indentation digit and `+` or
`-`), remembered for its body. -/
def parseBlockScalarHeader : LexM Nat := do
  let l ← get
  let ind := (l.src.extract (l.pos + 1) l.src.size).toList.takeWhile
    (fun c => c == '+' || c == '-' || ('1' ≤ c && c ≤ '9'))
  let keep := ind.contains '+'
  let digit := (ind.filter fun c => '1' ≤ c && c ≤ '9').getLast?
  modify fun l => { l with blockKeep := keep, blockIndent := digit.map fun c => c.toNat - 49 }
  pushUntil fun c => isBlankAt c || c == some '#'

/-- Step back over spaces from index `i`. -/
def backOverSpaces (l : Lexer) : Nat → Int → Int
  | 0, i => i
  | f + 1, i => if l.charAt i == some ' ' then backOverSpaces l f (i - 1) else i

/-- Drop trailing lines of a block scalar that are empty and not more indented. -/
def dropEmptyTail (l : Lexer) (indent : Nat) : Nat → Int → Int
  | 0, nl => nl
  | f + 1, nl =>
    let i := nl - 1
    let i := if l.charAt i == some '\r' then i - 1 else i
    let lastChar := i
    let i := backOverSpaces l (l.src.size + 1) i
    if l.charAt i == some '\n' && i ≥ l.pos && i + 1 + indent > lastChar then dropEmptyTail l indent f i
    else nl

/-- The leading blank lines of a block scalar body from index `i`: the last line break
seen and the indentation of the first line with content. -/
def blockLead (l : Lexer) : Nat → Nat → Int → Nat → Int × Nat
  | 0, _, nl, indent => (nl, indent)
  | f + 1, i, nl, indent =>
    match l.src[i]? with
    | some ' ' => blockLead l f (i + 1) nl (indent + 1)
    | some '\n' => blockLead l f (i + 1) (i : Int) 0
    | some '\r' => if l.src[i + 1]? == some '\n' then blockLead l f (i + 1) nl indent else (nl, indent)
    | _ => (nl, indent)

/-- The last line break of a block scalar body whose lines continue from `nl`. -/
def blockBody (l : Lexer) : Nat → Int → Int
  | 0, nl => nl
  | f + 1, nl =>
    let cs := l.continueScalar (nl + 1).toNat
    if cs < 0 then nl
    else match indexFrom l.src '\n' cs.toNat with
      | some k => blockBody l f (k : Int)
      | none => (l.src.size : Int)

/-- The end of a block scalar body: the lines after the header that are indented enough
(or empty); trailing under-indented tab lines are kept so that the composer rejects them,
and trailing empty lines are left out unless the header keeps them. -/
def blockScalarEnd (l : Lexer) : Lexer × Int :=
  let (nl0, indent) := blockLead l (l.src.size + 1) l.pos ((l.pos : Int) - 1) 0
  let (l, nl) :=
    if indent ≥ l.indentNext then
      let l := { l with indentNext := match l.blockIndent with
        | none => indent
        | some b => b + (if l.indentNext == 0 then 1 else l.indentNext) }
      (l, blockBody l (l.src.size + 1) nl0)
    else (l, nl0)
  let i := scanWhile l.src (· == ' ') (nl + 1).toNat
  if l.src[i]? == some '\t' then
    let j := scanWhile l.src (fun c => c == '\t' || c == ' ' || c == '\r' || c == '\n') i
    (l, (j : Int) - 1)
  else if !l.blockKeep then (l, dropEmptyTail l indent (l.src.size + 1) nl)
  else (l, nl)

/-- A block scalar's body, after its header line. -/
def parseBlockScalar : LexM LexState := do
  let l ← get
  let (l, nl) := blockScalarEnd l
  set l
  emit .scalarMark
  let _ ← pushToIndex (nl + 1) true
  parseLineStart

/-- The end of a plain scalar from `pos`: it stops before `: ` (or `:` before a flow
indicator in a flow collection), before ` #`, at a flow indicator in a flow collection,
and at a line that cannot continue it; trailing blanks are not part of it. -/
def plainEnd (l : Lexer) : Int :=
  let inFlow := l.flowLevel > 0
  let rec go : Nat → Nat → Int → Int
    | 0, _, e => e
    | f + 1, i, e =>
      match l.src[i]? with
      | none => e
      | some ch =>
        if ch == ':' then
          let next := l.src[i + 1]?
          if isBlankAt next || (inFlow && isFlowAt next) then e else go f (i + 1) i
        else if isBlankAt (some ch) then
          let (i, ch, next, e) :=
            if ch == '\r' then
              if l.src[i + 1]? == some '\n' then (i + 1, '\n', l.src[i + 2]?, e)
              else (i, ch, l.src[i + 1]?, (i : Int))
            else (i, ch, l.src[i + 1]?, e)
          if next == some '#' || (inFlow && isFlowAt next) then e
          else if ch == '\n' then
            let cs := l.continueScalar (i + 1)
            if cs < 0 then e else go f ((max (i : Int) (cs - 2)).toNat + 1) e
          else go f (i + 1) e
        else if inFlow && isFlowChar ch then e
        else go f (i + 1) i
  go (l.src.size + 1) l.pos ((l.pos : Int) - 1)

/-- A plain scalar. -/
def parsePlainScalar : LexM LexState := do
  let l ← get
  let e := plainEnd l
  emit .scalarMark
  let _ ← pushToIndex (e + 1) true
  pure (if l.flowLevel > 0 then .flow else .doc)

/-- The end of a directive's text on its line: before a comment that follows a blank,
and without trailing blanks. -/
def directiveEnd (row : Array Char) : Nat :=
  let hashes := (List.range row.size).filter fun k => row[k]? == some '#'
  let cut := (hashes.find? fun k => k > 0 && (row[k - 1]? == some ' ' || row[k - 1]? == some '\t')).map (· - 1)
  let e := cut.getD row.size
  let rec trim : Nat → Nat → Nat
    | 0, e => e
    | f + 1, e => if e > 0 && (row[e - 1]? == some ' ' || row[e - 1]? == some '\t') then trim f (e - 1) else e
  trim (row.size + 1) e

/-- Between documents: a byte-order mark, directive lines, blank and comment lines; any
other line starts a document's content. -/
def parseStream : LexM LexState := do
  let l ← get
  let row := l.restOfLine
  let row ← if row[0]? == some '\uFEFF' then do
      let _ ← pushCount 1
      pure (row.extract 1 row.size)
    else pure row
  if row[0]? == some '%' then
    let d := directiveEnd row
    let a ← pushCount d
    let b ← pushSpaces true
    let _ ← pushCount (row.size - (a + b))
    pure .stream
  else if (← get).atLineEnd then
    let sp ← pushSpaces true
    let _ ← pushCount (row.size - sp)
    let _ ← pushNewline
    pure .stream
  else
    emit .docMode
    parseLineStart

/-- Inside a document, outside flow collections. -/
def parseDocument : LexM LexState := do
  let _ ← pushSpaces true
  let row := (← get).restOfLine
  let n ← pushIndicators ((← get).src.size + 1)
  match row[n]? with
  | some '#' =>
    let _ ← pushCount (row.size - n)
    let _ ← pushNewline
    parseLineStart
  | none =>
    let _ ← pushNewline
    parseLineStart
  | some '\x7b' | some '[' =>
    let _ ← pushCount 1
    modify fun l => { l with flowKey := false, flowLevel := 1 }
    pure .flow
  | some '\x7d' | some ']' =>
    let _ ← pushCount 1
    pure .doc
  | some '*' =>
    let _ ← pushUntil endsAnchorAt
    pure .doc
  | some '"' | some '\'' => parseQuotedScalar
  | some '|' | some '>' =>
    let h ← parseBlockScalarHeader
    let s ← pushSpaces true
    let _ ← pushCount (row.size - (n + h + s))
    let _ ← pushNewline
    parseBlockScalar
  | some _ => parsePlainScalar

/-- Line breaks and blanks inside a flow collection: the indentation after the last
break, and what was read. -/
def flowBlanks : Nat → Int → LexM Int
  | 0, indent => pure indent
  | f + 1, indent => do
    let nl ← pushNewline
    let (sp, indent) ← if nl > 0 then do
        let sp ← pushSpaces false
        modify fun l => { l with indentValue := sp }
        pure (sp, (sp : Int))
      else pure (0, indent)
    let sp2 ← pushSpaces true
    if nl + sp + sp2 > 0 then flowBlanks f indent else pure indent

/-- Commas at the front of a flow line. -/
def flowCommas : Nat → Nat → LexM Nat
  | 0, n => pure n
  | f + 1, n => do
    let l ← get
    if l.ahead 0 == some ',' then
      let a ← pushCount 1
      let b ← pushSpaces true
      modify fun l => { l with flowKey := false }
      flowCommas f (n + a + b)
    else pure n

/-- Inside a flow collection. A line indented less than the collection needs (or a
document marker at column 0) ends every open collection, except for a closing bracket
one column short at the first level. -/
def parseFlowCollection : LexM LexState := do
  let indent ← flowBlanks ((← get).src.size + 1) (-1)
  let l ← get
  let row := l.restOfLine
  let starts (s : String) : Bool := (row.extract 0 3).toList == s.toList
  if (indent != -1 && indent < l.indentNext && row[0]? != some '#') ||
      (indent == 0 && (starts "---" || starts "...") && isBlankAt row[3]?) then
    let atEndMarker := indent == (l.indentNext : Int) - 1 && l.flowLevel == 1 &&
      (row[0]? == some ']' || row[0]? == some '\x7d')
    if !atEndMarker then
      modify fun l => { l with flowLevel := 0 }
      emit .flowErrorEnd
      return (← parseLineStart)
  let n ← flowCommas (l.src.size + 1) 0
  let n := n + (← pushIndicators (l.src.size + 1))
  match row[n]? with
  | none => pure .flow
  | some '#' =>
    let _ ← pushCount (row.size - n)
    pure .flow
  | some '\x7b' | some '[' =>
    let _ ← pushCount 1
    modify fun l => { l with flowKey := false, flowLevel := l.flowLevel + 1 }
    pure .flow
  | some '\x7d' | some ']' =>
    let _ ← pushCount 1
    modify fun l => { l with flowKey := true, flowLevel := l.flowLevel - 1 }
    pure (if (← get).flowLevel > 0 then .flow else .doc)
  | some '*' =>
    let _ ← pushUntil endsAnchorAt
    pure .flow
  | some '"' | some '\'' =>
    modify fun l => { l with flowKey := true }
    parseQuotedScalar
  | some ':' =>
    let l ← get
    let next := l.ahead 1
    if l.flowKey || isBlankAt next || next == some ',' then
      modify fun l => { l with flowKey := false }
      let _ ← pushCount 1
      let _ ← pushSpaces true
      pure .flow
    else
      modify fun l => { l with flowKey := false }
      parsePlainScalar
  | some _ =>
    modify fun l => { l with flowKey := false }
    parsePlainScalar

/-- One step of the lexer in a state. -/
def lexStep : LexState → LexM LexState
  | .stream => parseStream
  | .doc => parseDocument
  | .flow => parseFlowCollection

/-- Run the lexer until the text is used up. -/
def lexLoop : Nat → LexState → LexM Unit
  | 0, _ => pure ()
  | f + 1, s => do
    if (← get).pos < (← get).src.size then
      let s ← lexStep s
      lexLoop f s

/-- The lexemes of a text. -/
def lex (text : String) : Array Lexeme :=
  let src := text.toList.toArray
  let ((), l) := (lexLoop (4 * src.size + 8) .stream).run { src }
  l.out

end Yaml

end FolderSink
