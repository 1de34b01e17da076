import FolderSink.Yaml.Node
/-! The values of flow scalars, read from their source text in UTF-16 units. Line breaks
inside a plain or quoted scalar fold: one break becomes a space, and each further empty
line a line feed, with the blanks around the breaks dropped. A single-quoted scalar
writes `'` as `''`; a double-quoted one has escapes (`\n`, `\x41`, `é`,
`\U0001F600`, an escaped line break that joins lines, …), and blanks before a break are
kept only when escaped. Problems point at offsets from the scalar's start: a plain
scalar that starts with a reserved character, a quote that is not closed, an escape
that is not one. -/
namespace FolderSink

namespace Yaml

namespace FlowScalar

/-- Whether a unit is the ASCII character `c`. -/
def isChar (u : UInt16) (c : Char) : Bool := u.toNat == c.toNat

/-- Whether a unit is a space or a tab. -/
def isBlankUnit (u : UInt16) : Bool := isChar u ' ' || isChar u '\t'

/-- The lines of a text, split at line feeds (the line feeds dropped). -/
def lines (u : List UInt16) : List (List UInt16) := u.splitOn 10

/-- A line without one carriage return at its end. -/
def dropReturn (l : List UInt16) : List UInt16 :=
  if l.getLast? == some 13 then l.dropLast else l

/-- A line without its trailing blanks. -/
def dropTrailingBlanks (l : List UInt16) : List UInt16 := (l.reverse.dropWhile isBlankUnit).reverse

/-- Fold the lines of a multi-line scalar: the first keeps its leading blanks, the last
its trailing ones; a line break between two non-empty lines is a space, and every empty
line between them a line feed. A text without a line feed stays as it is. -/
def foldLines (u : List UInt16) : List UInt16 :=
  match lines u with
  | [] | [_] => u
  | first :: rest =>
    let middle := rest.dropLast
    let last := (rest.getLast?.getD []).dropWhile isBlankUnit
    let start := dropTrailingBlanks (dropReturn first)
    let (res, sep) := middle.foldl (fun (res, sep) l =>
      let content := dropTrailingBlanks ((dropReturn l).dropWhile isBlankUnit)
      if content.isEmpty then
        if sep == [10] then (res ++ sep, sep) else (res, [10])
      else (res ++ sep ++ content, [32])) (start, [32])
    res ++ sep ++ last

/-- A problem at an offset from a scalar's start, one unit long. -/
def problemAt (offset rel : Nat) (message : String) : Problem :=
  ⟨offset + rel, offset + rel + 1, message⟩

/-- The value of a plain scalar, and a problem when it starts with a character that
cannot start one. -/
def plain (offset : Nat) (src : List UInt16) : Utf16 × List Problem :=
  let bad : Option String := match src.head? with
    | some u =>
      if isChar u '\t' then some "a tab character"
      else if isChar u ',' then some "flow indicator character ,"
      else if isChar u '%' then some "directive indicator character %"
      else if isChar u '|' || isChar u '>' then some ("block scalar indicator " ++ (Char.ofNat u.toNat).toString)
      else if isChar u '@' || u.toNat == 96 then some ("reserved character " ++ (Char.ofNat u.toNat).toString)
      else none
    | none => none
  (foldLines src, (bad.map fun b => problemAt offset 0 ("Plain value cannot start with " ++ b)).toList)

/-- A text with every `''` made one `'`. -/
def undoubleQuotes : List UInt16 → List UInt16
  | a :: b :: rest => if isChar a '\'' && isChar b '\'' then a :: undoubleQuotes rest else a :: undoubleQuotes (b :: rest)
  | xs => xs

/-- The value of a single-quoted scalar, and a problem when its quote is not closed. -/
def singleQuoted (offset : Nat) (src : List UInt16) : Utf16 × List Problem :=
  let closed := src.length > 1 && (src.getLast?.map (isChar · '\'')).getD false
  let inner := (src.drop 1).dropLast
  (undoubleQuotes (foldLines inner),
    if closed then [] else [problemAt offset src.length "Missing closing 'quote"])

/-- The character an escape letter stands for, if it is one of the one-letter escapes. -/
def escapeOf (u : UInt16) : Option Nat :=
  match Char.ofNat u.toNat with
  | '0' => some 0
  | 'a' => some 7
  | 'b' => some 8
  | 'e' => some 0x1B
  | 'f' => some 0x0C
  | 'n' => some 0x0A
  | 'r' => some 0x0D
  | 't' => some 0x09
  | 'v' => some 0x0B
  | 'N' => some 0x85
  | '_' => some 0xA0
  | 'L' => some 0x2028
  | 'P' => some 0x2029
  | ' ' => some 0x20
  | '"' => some 0x22
  | '/' => some 0x2F
  | '\\' => some 0x5C
  | '\t' => some 0x09
  | _ => none

/-- The value of a hex digit unit. -/
def hexValue (u : UInt16) : Option Nat :=
  let n := u.toNat
  if 48 ≤ n && n ≤ 57 then some (n - 48)
  else if 97 ≤ n && n ≤ 102 then some (n - 87)
  else if 65 ≤ n && n ≤ 70 then some (n - 55)
  else none

/-- The code point of `length` hex digits, if they are all there and name one. -/
def charCode (digits : List UInt16) (length : Nat) : Option Nat :=
  if digits.length != length then none
  else
    match digits.foldl (fun acc u => acc.bind fun a => (hexValue u).map (a * 16 + ·)) (some 0) with
    | some n => if n ≤ 0x10FFFF then some n else none
    | none => none

/-- The state of reading a double-quoted scalar: the value so far, the problems, and
the index of the next unit to read. -/
structure DoubleState where
  value : Array UInt16 := #[]
  problems : Array Problem := #[]
  next : Nat := 1

/-- The blanks and line breaks after a line feed at `i`: the line feeds among them, and
the index of the last unit they take (a carriage return not before a line feed ends
them). -/
def foldBreak (src : Array UInt16) (i : Nat) : List UInt16 × Nat := Id.run do
  let mut fold : List UInt16 := []
  let mut j := i
  for _ in [0:src.size] do
    let ch := src.getD (j + 1) 0
    if !(isBlankUnit ch || isChar ch '\n' || isChar ch '\r') then break
    if isChar ch '\r' && !isChar (src.getD (j + 2) 0) '\n' then break
    if isChar ch '\n' then fold := fold ++ [10]
    j := j + 1
  (if fold.isEmpty then [32] else fold, j)

/-- The index after the blanks that follow index `i`. -/
def skipBlanks (src : Array UInt16) (i : Nat) : Nat := Id.run do
  let mut j := i
  for _ in [0:src.size] do
    if isBlankUnit (src.getD (j + 1) 0) then j := j + 1 else break
  j

/-- Read the unit at the state's index and those it takes with it. -/
def doubleStep (offset : Nat) (src : Array UInt16) (st : DoubleState) : DoubleState :=
  let i := st.next
  let ch := src.getD i 0
  let at_ (k : Nat) : UInt16 := src.getD k 0
  if isChar ch '\r' && isChar (at_ (i + 1)) '\n' then { st with next := i + 1 }
  else if isChar ch '\n' then
    let (fold, j) := foldBreak src i
    { st with value := st.value ++ fold.toArray, next := j + 1 }
  else if isChar ch '\\' then
    let next := at_ (i + 1)
    match escapeOf next with
    | some c => { st with value := st.value ++ (Utf16.ofCodePoint c).toArray, next := i + 2 }
    | none =>
      if isChar next '\n' then { st with next := skipBlanks src (i + 1) + 1 }
      else if isChar next '\r' && isChar (at_ (i + 2)) '\n' then { st with next := skipBlanks src (i + 2) + 1 }
      else if isChar next 'x' || isChar next 'u' || isChar next 'U' then
        let length := if isChar next 'x' then 2 else if isChar next 'u' then 4 else 8
        let digits := (src.extract (i + 2) (i + 2 + length)).toList
        match charCode digits length with
        | some c => { st with value := st.value ++ (Utf16.ofCodePoint c).toArray, next := i + 2 + length }
        | none =>
          let raw := (src.extract i (i + 2 + length)).toList
          { value := st.value ++ raw.toArray, next := i + 2 + length,
            problems := st.problems.push
              (problemAt offset i ("Invalid escape sequence " ++ Utf16.toText raw)) }
      else
        let raw := (src.extract i (i + 2)).toList
        { value := st.value ++ raw.toArray, next := i + 2,
          problems := st.problems.push (problemAt offset i ("Invalid escape sequence " ++ Utf16.toText raw)) }
  else if isBlankUnit ch then
    let j := skipBlanks src i
    let after := at_ (j + 1)
    let atBreak := isChar after '\n' || (isChar after '\r' && isChar (at_ (j + 2)) '\n')
    { st with value := if atBreak then st.value else st.value ++ src.extract i (j + 1), next := j + 1 }
  else { st with value := st.value.push ch, next := i + 1 }

/-- The value of a double-quoted scalar, and its problems. -/
def doubleQuoted (offset : Nat) (src : List UInt16) : Utf16 × List Problem :=
  let arr := src.toArray
  let stop := arr.size - 1
  let st := Id.run do
    let mut st : DoubleState := {}
    for _ in [0:arr.size] do
      if st.next ≥ stop then break
      st := doubleStep offset arr st
    st
  let closed := arr.size > 1 && (src.getLast?.map (isChar · '"')).getD false
  (st.value.toList, st.problems.toList ++
    (if closed then [] else [problemAt offset arr.size "Missing closing \"quote"]))

end FlowScalar

end Yaml

end FolderSink
