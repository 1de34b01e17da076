import FolderSink.Yaml.Document
import FolderSink.Yaml.Load
/-! Reading a YAML text as a value: its first document is composed and loaded. A text
with problems gives the first of them as a message with its place: the line and column
(from 1, columns in UTF-16 units), then the line itself (cut to 80 units around the place,
with `…` where it is cut, and with the line before when the place is at the start of
its line) and a row of `^` under the units the problem covers. -/
namespace FolderSink

namespace Yaml

/-- The line and column, both from 1, of an offset, given where the lines start. -/
def linePos (lineStarts : Array Nat) (offset : Nat) : Nat × Nat :=
  let low := (lineStarts.toList.filter (· < offset)).length
  if lineStarts[low]? == some offset then (low + 1, 1)
  else if low == 0 then (0, offset)
  else (low, offset - lineStarts.getD (low - 1) 0 + 1)

/-- The units of a text from one offset up to another, or to its end. -/
def unitsBetween (src : Array UInt16) (a : Option Nat) (b : Option Nat) : List UInt16 :=
  let a := a.getD 0
  (src.extract a (b.getD src.size)).toList

/-- A problem's message with its place (see the module note). -/
def Problem.describe (p : Problem) (text : String) (lineStarts : Array Nat) : String :=
  let src := (Utf16.ofString text).toArray
  let (line, col) := linePos lineStarts p.start
  let head := p.message ++ " at line " ++ toString line ++ ", column " ++ toString col
  let ci := col - 1
  let raw := unitsBetween src lineStarts[line - 1]? lineStarts[line]?
  let lineUnits := (raw.reverse.dropWhile fun u => u == 10 || u == 13).reverse
  let ellipsis : List UInt16 := [0x2026]
  let (lineUnits, ci) :=
    if ci ≥ 60 && lineUnits.length > 80 then
      let trimStart := min (ci - 39) (lineUnits.length - 79)
      (ellipsis ++ lineUnits.drop trimStart, ci - (trimStart - 1))
    else (lineUnits, ci)
  let lineUnits := if lineUnits.length > 80 then lineUnits.take 79 ++ ellipsis else lineUnits
  let lineUnits :=
    if line > 1 && (lineUnits.take ci).all (· == 32) then
      let prev := unitsBetween src lineStarts[line - 2]? lineStarts[line - 1]?
      let prev := if prev.length > 80 then prev.take 79 ++ ellipsis ++ [10] else prev
      prev ++ lineUnits
    else lineUnits
  if lineUnits.any (· != 32) then
    let (endLine, endCol) := linePos lineStarts p.stop
    let count := if endLine == line && endCol > col then max 1 (min (endCol - col) (80 - ci)) else 1
    head ++ ":\n\n" ++ Utf16.toText lineUnits ++ "\n" ++ String.ofList (List.replicate ci ' ') ++
      String.ofList (List.replicate count '^') ++ "\n"
  else head

/-- Read a YAML text as a value, or give the message of its first problem. -/
def parse (text : String) : Except String Value :=
  let (doc, lineStarts) := firstDocument text
  match doc.problems[0]? with
  | some p => .error (p.describe text lineStarts)
  | none => doc.root.load (doc.schema == .legacy)

end Yaml

end FolderSink
