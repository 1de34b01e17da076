import FolderSink.Yaml.Schema
import FolderSink.Text.Blank
import FolderSink.Text.Quoted
/-! Writing a string as a YAML document, in UTF-16 units. A string is written plain
unless it would read back as another type or as syntax; then it is quoted, with single
quotes when it holds `"` but no `'`, else with double quotes and escapes (control
characters and lone surrogates always force double quotes). A string of several lines
is a block scalar: literal (`|`), or folded (`>`) when a line is longer than 80 units,
with a chomping indicator for its final line breaks and an indentation indicator when
it starts with a space; text that could start or end a document (`---`, `...`, `%` at
a line start) is indented by two spaces. Plain, quoted and folded text is folded at
spaces to lines of at most 80 units where it can be. -/
namespace FolderSink

namespace Yaml

namespace Emit

/-- The width lines are folded to, and the least text a folded line keeps. -/
def lineWidth : Nat := 80

/-- The least width of a line's content. -/
def minContentWidth : Nat := 20

/-- The unit of an ASCII character. -/
def u (c : Char) : UInt16 := c.toNat.toUInt16

/-- The units of an ASCII text. -/
def us (s : String) : List UInt16 := s.toList.map u

/-- Whether a unit is one of the characters of a text. -/
def oneOf (s : String) (x : UInt16) : Bool := s.toList.any fun c => u c == x

/-- Whether a unit ends a line for a line-start test: line feed, carriage return, or the
line and paragraph separators. -/
def isLineEnd (x : UInt16) : Bool := x == 10 || x == 13 || x == 0x2028 || x == 0x2029

/-- Whether some line of a text starts like a document marker: `%`, `---` or `...`. -/
def containsDocumentMarker (v : List UInt16) : Bool :=
  let arr := v.toArray
  let marker (i : Nat) : Bool :=
    arr.getD i 0 == u '%' || (arr.extract i (i + 3)).toList == us "---" || (arr.extract i (i + 3)).toList == us "..."
  (List.range arr.size).any fun i => (i == 0 || isLineEnd (arr.getD (i - 1) 0)) && marker i

/-- Whether a text holds a unit that must be escaped: a control character other than tab
and line feed, a C1 control, or a surrogate that stands alone. -/
def forcesDouble (v : List UInt16) : Bool :=
  let n := v.length
  let arr := v.toArray
  (List.range n).any fun i =>
    let x := (arr.getD i 0).toNat
    let control := x ≤ 8 || (11 ≤ x && x ≤ 31) || (0x7F ≤ x && x ≤ 0x9F)
    let high := Utf16.isHigh (arr.getD i 0)
    let low := Utf16.isLow (arr.getD i 0)
    let lone := (high && !(i + 1 < n && Utf16.isLow (arr.getD (i + 1) 0))) ||
      (low && !(i > 0 && Utf16.isHigh (arr.getD (i - 1) 0)))
    control || lone

/-- Whether a string cannot be written plain as it stands: it starts with an indicator or
a blank, is a lone `?` or `-`, starts with `? ` or `- `, holds `: `, a blank before a line
feed or `#` after a blank, or ends with a blank or `:`. -/
def needsQuotes (v : List UInt16) : Bool :=
  let first := match v.head? with
    | some c => oneOf "\n\t ,[]\x7b\x7d#&*!|>'\"%@" c || c.toNat == 96
    | none => false
  let lone := v == [u '?'] || v == [u '-']
  let dashSpace := match v with
    | c :: d :: _ => (c == u '?' || c == u '-') && (d == u ' ' || d == u '\t')
    | _ => false
  let pairs := (v.zip v.tail).any fun (a, b) =>
    ((a == 10 || a == u ':') && (b == u ' ' || b == u '\t')) ||
    ((a == u ' ' || a == u '\t') && b == 10) || (oneOf "\n\t " a && b == u '#')
  let last := match v.getLast? with
    | some c => oneOf "\n\t :" c
    | none => false
  first || lone || dashSpace || pairs || last

/-- A text with `extra` inserted after every run of line feeds. -/
def afterBreaks (extra : List UInt16) : List UInt16 → List UInt16
  | [] => []
  | c :: rest =>
    if c == 10 then
      match rest with
      | d :: _ => if d == 10 then c :: afterBreaks extra rest else c :: extra ++ afterBreaks extra rest
      | [] => c :: extra
    else c :: afterBreaks extra rest

/-- A text with `extra` inserted after every run of line feeds but a final one. -/
def afterInnerBreaks (extra : List UInt16) : List UInt16 → List UInt16
  | [] => []
  | c :: rest =>
    if c == 10 then
      match rest with
      | d :: _ => if d == 10 then c :: afterInnerBreaks extra rest else c :: extra ++ afterInnerBreaks extra rest
      | [] => [c]
    else c :: afterInnerBreaks extra rest

/-- How text is folded: plain, inside double quotes (an escape is never split, and a
fold inside quotes ends with `\`), or in a block scalar (more-indented lines are kept). -/
inductive FoldMode where
  | flow
  | quoted
  | block
deriving DecidableEq

/-- The index of the line feed that ends the run of more-indented lines after index `i`
(-1 for before the text), or `i` itself when the next line is not more indented. -/
def moreIndentedEnd (text : Array UInt16) (i : Int) (indent : Nat) : Int := Id.run do
  let at_ (k : Int) : UInt16 := if k < 0 then 0 else text.getD k.toNat 0
  let mut stop := i
  let mut start := i + 1
  let mut j := i
  let mut ch := at_ start
  for _ in [0:text.size + 2] do
    if !(ch == u ' ' || ch == u '\t') then break
    if j < start + indent then
      j := j + 1
      ch := at_ j
    else
      for _ in [0:text.size + 1] do
        j := j + 1
        ch := at_ j
        if ch == 0 || ch == 10 then break
      stop := j
      start := j + 1
      ch := at_ start
  stop

/-- Fold a text to lines of at most 80 units where it can be, each new line starting
with `indent` spaces. `indentAtStart` is the column the text starts at when that is
known. Gives the text and whether some line stays too long. -/
def foldLines (text : List UInt16) (indent : Nat) (mode : FoldMode) (indentAtStart : Option Nat) :
    List UInt16 × Bool := Id.run do
  let arr := text.toArray
  let n := arr.size
  let minContent := if lineWidth < minContentWidth then 0 else minContentWidth
  let endStep : Nat := max (1 + minContent) (1 + lineWidth - indent)
  if n ≤ endStep then return (text, false)
  let at_ (k : Int) : UInt16 := if k < 0 then 0 else arr.getD k.toNat 0
  let mut folds : Array Int := #[]
  let mut escaped : List Int := []
  let mut stop : Int := lineWidth - indent
  match indentAtStart with
  | some s =>
    if s > lineWidth - max 2 minContent then folds := folds.push 0
    else stop := lineWidth - s
  | none => pure ()
  let mut split : Option Int := none
  let mut prev : UInt16 := 0
  let mut overflow := false
  let mut i : Int := -1
  let mut escStart : Int := -1
  let mut escEnd : Int := -1
  if mode == .block then
    i := moreIndentedEnd arr i indent
    if i != -1 then stop := i + endStep
  for _ in [0:n + 1] do
    i := i + 1
    if i ≥ n then break
    let mut ch := at_ i
    if mode == .quoted && ch == u '\\' then
      escStart := i
      let next := at_ (i + 1)
      i := i + (if next == u 'x' then 3 else if next == u 'u' then 5 else if next == u 'U' then 9 else 1)
      escEnd := i
    if ch == 10 then
      if mode == .block then i := moreIndentedEnd arr i indent
      stop := i + indent + endStep
      split := none
    else
      if ch == u ' ' && prev != 0 && prev != u ' ' && prev != 10 && prev != u '\t' then
        let next := at_ (i + 1)
        if next != 0 && next != u ' ' && next != 10 && next != u '\t' then split := some i
      if i ≥ stop then
        match split with
        | some sp =>
          folds := folds.push sp
          stop := sp + endStep
          split := none
        | none =>
          if mode == .quoted then
            for _ in [0:n + 1] do
              if !(prev == u ' ' || prev == u '\t') then break
              prev := ch
              i := i + 1
              ch := at_ i
              overflow := true
            let j := if i > escEnd + 1 then i - 2 else escStart - 1
            if escaped.contains j then return (text, overflow)
            folds := folds.push j
            escaped := j :: escaped
            stop := j + endStep
            split := none
          else overflow := true
    prev := ch
  if folds.isEmpty then return (text, overflow)
  let slice (a b : Int) : List UInt16 := (arr.extract a.toNat b.toNat).toList
  let pad := List.replicate indent (u ' ')
  let mut res : List UInt16 := slice 0 (folds.getD 0 0)
  for k in [0:folds.size] do
    let fold := folds.getD k 0
    let next := folds.getD (k + 1) 0
    let e : Int := if next == 0 then n else next
    if fold == 0 then res := [10] ++ pad ++ slice 0 e
    else
      if mode == .quoted && escaped.contains fold then res := res ++ [at_ fold, u '\\']
      res := res ++ [10] ++ pad ++ slice (fold + 1) e
  (res, overflow)

/-- A string in double quotes, with JSON's escapes written the YAML way; line feeds
become real line breaks in long strings. -/
def doubleQuoted (v : List UInt16) (indent : Nat) : List UInt16 := Id.run do
  let json := (Quoted.encodeUnits v).toArray
  let n := json.size
  let at_ (k : Nat) : UInt16 := json.getD k 0
  let mut out : List UInt16 := []
  let mut start := 0
  let mut i := 0
  for _ in [0:n + 1] do
    if i ≥ n then break
    let mut ch := at_ i
    if ch == u ' ' && at_ (i + 1) == u '\\' && at_ (i + 2) == u 'n' then
      out := out ++ (json.extract start i).toList ++ us "\\ "
      i := i + 1
      start := i
      ch := u '\\'
    if ch == u '\\' then
      let next := at_ (i + 1)
      if next == u 'u' then
        out := out ++ (json.extract start i).toList
        let code := (json.extract (i + 2) (i + 6)).toList
        out := out ++ (if code == us "0000" then us "\\0"
          else if code == us "0007" then us "\\a"
          else if code == us "000b" then us "\\v"
          else if code == us "001b" then us "\\e"
          else if code == us "0085" then us "\\N"
          else if code == us "00a0" then us "\\_"
          else if code == us "2028" then us "\\L"
          else if code == us "2029" then us "\\P"
          else if code.take 2 == us "00" then us "\\x" ++ code.drop 2
          else (json.extract i (i + 6)).toList)
        i := i + 5
        start := i + 1
      else if next == u 'n' then
        if at_ (i + 2) == u '"' || n < 40 then i := i + 1
        else
          out := out ++ (json.extract start i).toList ++ [10, 10]
          for _ in [0:n] do
            if at_ (i + 2) == u '\\' && at_ (i + 3) == u 'n' && at_ (i + 4) != u '"' then
              out := out ++ [10]
              i := i + 2
            else break
          out := out ++ List.replicate indent (u ' ')
          if at_ (i + 2) == u ' ' then out := out ++ [u '\\']
          i := i + 1
          start := i + 1
      else i := i + 1
    i := i + 1
  let str := if start == 0 then json.toList else out ++ (json.extract start n).toList
  (foldLines str indent .quoted none).1

/-- The indentation of quoted text at the top of a document: two spaces when it could
start or end a document, else none. -/
def quoteIndent (v : List UInt16) : Nat := if containsDocumentMarker v then 2 else 0

/-- A string in single quotes (`'` doubled), or in double quotes when a line break meets
a blank. -/
def singleQuoted (v : List UInt16) : List UInt16 :=
  let blankBreak := (v.zip v.tail).any fun (a, b) =>
    ((a == u ' ' || a == u '\t') && b == 10) || (a == 10 && (b == u ' ' || b == u '\t'))
  if blankBreak then doubleQuoted v (quoteIndent v)
  else
    let indent := quoteIndent v
    let doubled := v.flatMap fun c => if c == u '\'' then [c, c] else [c]
    let text := afterBreaks ([10] ++ List.replicate indent (u ' ')) doubled
    (foldLines ([u '\''] ++ text ++ [u '\'']) indent .flow none).1

/-- A string quoted: single quotes when it holds `"` but no `'`, else double quotes. -/
def quoted (v : List UInt16) : List UInt16 :=
  if v.contains (u '"') && !v.contains (u '\'') then singleQuoted v else doubleQuoted v (quoteIndent v)

/-- Whether some line of a text is longer than `80 - indent` units. -/
def lineOverLimit (v : List UInt16) (indent : Nat) : Bool :=
  let limit := lineWidth - indent
  (v.splitOn 10).any (·.length > limit)

/-- Whether a unit is a space or a tab. -/
def isSpaceOrTab (x : UInt16) : Bool := x == u ' ' || x == u '\t'

/-- Whether a unit ends a line for a line-bounded match: line feed, carriage return, or
the line and paragraph separators. -/
def endsMatchLine (x : UInt16) : Bool := isLineEnd x

/-- Undo the doubled line breaks around more-indented lines of folded text: a line
that starts with a blank keeps single breaks before and after it. -/
def keepIndentedBreaks (v : List UInt16) : List UInt16 := Id.run do
  let arr := v.toArray
  let n := arr.size
  let mut out : Array UInt16 := #[]
  let mut p := 0
  for _ in [0:n + 1] do
    if p ≥ n then break
    let lead : Option Nat :=
      if p == 0 && isSpaceOrTab (arr.getD 0 0) then some 0
      else if arr.getD p 0 == 10 && p + 1 < n && isSpaceOrTab (arr.getD (p + 1) 0) then some 1
      else none
    match lead with
    | some k =>
      let q := p + k
      let mut r := q + 1
      for _ in [0:n] do
        if r < n && !endsMatchLine (arr.getD r 0) then r := r + 1 else break
      let mut t := r
      for _ in [0:n] do
        let c := arr.getD t 0
        if t < n && (c == 10 || isSpaceOrTab c) then t := t + 1 else break
      if t > r && arr.getD (t - 1) 0 == 10 then
        out := out ++ arr.extract q r ++ arr.extract r (t - 1)
        p := t
      else
        out := out ++ arr.extract q r
        p := r
    | none =>
      out := out.push (arr.getD p 0)
      p := p + 1
  out.toList

/-- A string of several lines as a block scalar (see the module note); a string that is
all blanks, or whose last line is only blanks, is quoted instead. -/
def blockScalar (v : List UInt16) (forceIndent : Bool) : List UInt16 :=
  let rev := v.reverse
  let trailingBlanks := rev.takeWhile isSpaceOrTab
  let blankLastLine := !trailingBlanks.isEmpty && (rev.drop trailingBlanks.length).head? == some 10
  if blankLastLine || v.all (fun c => isBlank (Char.ofNat c.toNat)) then quoted v
  else
    let indent := if forceIndent || containsDocumentMarker v then 2 else 0
    let pad := List.replicate indent (u ' ')
    let literal := !lineOverLimit v indent
    let endRun := (rev.takeWhile fun c => c == 10 || isSpaceOrTab c).reverse
    let chomp : List UInt16 :=
      match endRun.findIdx? (· == 10) with
      | none => [u '-']
      | some k => if endRun.length == v.length || k != endRun.length - 1 then [u '+'] else []
    let value := v.take (v.length - endRun.length)
    let tail := if endRun.getLast? == some 10 then endRun.dropLast else endRun
    let tail := afterInnerBreaks pad tail
    let leadRun := value.takeWhile fun c => c == u ' ' || c == 10
    let startWithSpace := leadRun.contains (u ' ')
    let startLen := match (leadRun.reverse.findIdx? (· == 10)) with
      | some k => leadRun.length - k
      | none => 0
    let start := afterBreaks pad (value.take startLen)
    let value := value.drop startLen
    let header := (if startWithSpace then [u (if indent > 0 then '2' else '1')] else []) ++ chomp
    let folded :=
      if literal then none
      else
        let fv := afterBreaks pad (keepIndentedBreaks (afterBreaks [10] value))
        let (body, overflow) := foldLines (start ++ fv ++ tail) indent .block (some 0)
        if overflow then none else some ([u '>'] ++ header ++ [10] ++ pad ++ body)
    match folded with
    | some b => b
    | none => [u '|'] ++ header ++ [10] ++ pad ++ start ++ afterBreaks pad value ++ tail

/-- Whether plain text would read back as another type of the core schema. -/
def readsAsOther (v : List UInt16) : Bool :=
  let cs := (Utf16.toText v).toList
  Schema.core.scalarTags.any fun t =>
    t.name != typeTag "str" && t.implicit != .never && (t.test.map (· cs)).getD false

/-- A string written plain where it can be (see the module note). -/
def plain (v : List UInt16) : List UInt16 :=
  if needsQuotes v then (if v.contains 10 then blockScalar v false else quoted v)
  else if v.contains 10 then blockScalar v false
  else if containsDocumentMarker v then blockScalar v true
  else if readsAsOther v then quoted v
  else (foldLines v 0 .flow none).1

end Emit

/-- A text of UTF-16 units written as a YAML document, with its final line break. -/
def stringify (v : Utf16) : String :=
  let body := if Emit.forcesDouble v then Emit.doubleQuoted v (Emit.quoteIndent v) else Emit.plain v
  Utf16.toText body ++ "\n"


end Yaml

end FolderSink
