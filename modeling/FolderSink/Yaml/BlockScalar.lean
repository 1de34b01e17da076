import FolderSink.Yaml.Props
/-! The values of block scalars (`|` literal, `>` folded). The header gives the style, an
optional chomping indicator (`-` strips the final line breaks, `+` keeps them all, none
keeps one) and an optional indentation; without one, the first non-empty line sets the
indentation. A literal scalar keeps its lines; a folded one joins lines of the same
indentation with spaces, and keeps the breaks around more-indented lines. Problems: extra
characters in the header, lines indented less than the content, and a scalar in a
collection that is not indented at all. -/
namespace FolderSink

namespace Yaml

namespace BlockScalar

/-- A block scalar's header: literal or folded, the chomping indicator, the explicit
indentation (0 when none), the units the header's tokens take, and its problems. -/
structure Header where
  literal : Bool
  chomp : Option Char
  indent : Nat
  length : Nat
  problems : List Problem

/-- Read the header tokens of a block scalar at `offset`. -/
def header (offset : Nat) (props : List Token) : Option Header :=
  match props with
  | .source h :: rest =>
    if h.kind != .blockScalarHeader then none
    else
      let cs := h.source.toList
      let (chomp, indent, err, _) := (cs.drop 1).foldl (fun (chomp, indent, err, i) c =>
        if chomp.isNone && (c == '-' || c == '+') then (some c, indent, err, i + 1)
        else
          let n := if '1' ≤ c && c ≤ '9' then c.toNat - 48 else 0
          if indent == 0 && n != 0 then (chomp, n, err, i + 1)
          else (chomp, indent, (if err.isNone then some (offset + i) else err), i + 1))
        ((none : Option Char), 0, (none : Option Nat), 1)
      let probs : List Problem := match err with
        | some e => [problemAtUnit e ("Block scalar header includes extra characters: " ++ h.source)]
        | none => []
      let (length, _, probs) := rest.foldl (fun (length, hasSpace, probs) (t : Token) =>
        match t with
        | .source s =>
          match s.kind with
          | .space => (length + unitLength s.source, true, probs)
          | .newline => (length + unitLength s.source, hasSpace, probs)
          | .comment =>
            (length + unitLength s.source, hasSpace, if !hasSpace then
              probs ++ [problemOn s "Comments must be separated from other tokens by white space characters"]
              else probs)
          | k => (length + unitLength s.source, hasSpace,
              probs ++ [problemOn s ("Unexpected token in block scalar header: " ++ k.name)])
        | .error o msg src => (length + unitLength src, hasSpace, probs ++ [⟨o, o + unitLength src, msg⟩])
        | t => (length + ((t.source?.map unitLength).getD 0), hasSpace,
            probs ++ [problemOnToken t ("Unexpected token in block scalar header: " ++ t.typeName)]))
        (unitLength h.source, false, probs)
      some ⟨cs.head? == some '|', chomp, indent, length, probs⟩
  | _ => none

/-- The lines of a block scalar's body: each with its leading spaces and the rest. -/
def splitLines (source : String) : List (Nat × List UInt16) :=
  (Utf16.ofString source).splitOn 10 |>.map fun l =>
    let sp := l.takeWhile (· == 32)
    (sp.length, l.drop sp.length)

/-- Whether the rest of a line is empty (or only a carriage return). -/
def isEmptyContent (c : List UInt16) : Bool := c.isEmpty || c == [13]

/-- The value of a block scalar, its span and its problems. `atRoot` is whether it is a
document's only node. -/
def resolve (offset indent : Nat) (props : List Token) (source : String) (atRoot : Bool) :
    Utf16 × Span × List Problem :=
  match header offset props with
  | none => ([], ⟨offset, offset, offset⟩, [problemAtUnit offset "Block scalar header not found"])
  | some h =>
    let lines := if source.isEmpty then [] else splitLines source
    let stop := offset + h.length + unitLength source
    let span : Span := ⟨offset, stop, stop⟩
    let chompStart0 := lines.length - (lines.reverse.takeWhile fun (_, c) => isEmptyContent c).length
    if chompStart0 == 0 then
      let value : Utf16 := if h.chomp == some '+' && lines.length > 0 then
          List.replicate (max 1 (lines.length - 1)) 10 else []
      (value, span, h.problems)
    else
      -- the indentation to trim, and where the content starts
      let (trimIndent, contentStart, lead, probs) := Id.run do
        let mut trim := indent + h.indent
        let mut pos := offset + h.length
        let mut start := 0
        let mut probs : Array Problem := #[]
        for i in [0:chompStart0] do
          let (ind, content) := lines.getD i (0, [])
          if isEmptyContent content then
            if h.indent == 0 && ind > trim then trim := ind
          else
            if ind < trim then
              probs := probs.push (problemAtUnit (pos + ind)
                "Block scalars with more-indented leading empty lines must use an explicit indentation indicator")
            if h.indent == 0 then trim := ind
            start := i
            if trim == 0 && !atRoot then
              probs := probs.push (problemAtUnit pos "Block scalar values in collections must be indented")
            break
          pos := pos + ind + content.length + 1
        (trim, start, pos, probs)
      -- trailing empty lines more indented than the content belong to it
      let chompStart := (List.range (lines.length - chompStart0)).foldl (fun cs k =>
        let i := lines.length - 1 - k
        if (lines.getD i (0, [])).1 > trimIndent then max cs (i + 1) else cs) chompStart0
      let chompStart := if chompStart > chompStart0 then chompStart else chompStart0
      let leading : Utf16 := (List.range contentStart).foldl (fun v i =>
        v ++ List.replicate ((lines.getD i (0, [])).1 - trimIndent) 32 ++ [10]) []
      let (value, _, _, _, probs) := (List.range (chompStart - contentStart)).foldl
        (fun (value, sep, moreIndented, pos, probs) k =>
          let (ind, content) := lines.getD (contentStart + k) (0, [])
          let lineStart := pos
          let pos := pos + ind + content.length + 1
          let content := if content.getLast? == some 13 then content.dropLast else content
          let (ind, probs) := if !content.isEmpty && ind < trimIndent then
              (0, probs.push (problemAtUnit (lineStart + ind) ("Block scalar lines must not be less indented than their " ++
                (if h.indent != 0 then "explicit indentation indicator" else "first line"))))
            else (ind, probs)
          let pad : Utf16 := List.replicate (ind - trimIndent) 32
          if h.literal then (value ++ sep ++ pad ++ content, [10], moreIndented, pos, probs)
          else if ind > trimIndent || content.head? == some 9 then
            let sep := if sep == [32] then [10] else if !moreIndented && sep == [10] then [10, 10] else sep
            (value ++ sep ++ pad ++ content, [10], true, pos, probs)
          else if content.isEmpty then
            if sep == [10] then (value ++ [10], sep, moreIndented, pos, probs) else (value, [10], moreIndented, pos, probs)
          else (value ++ sep ++ content, [32], false, pos, probs))
        (leading, ([] : Utf16), false, lead, probs)
      let value := match h.chomp with
        | some '-' => value
        | some '+' =>
          let v := (List.range (lines.length - chompStart)).foldl (fun v k =>
            v ++ [10] ++ List.replicate ((lines.getD (chompStart + k) (0, [])).1 - trimIndent) 32) value
          if v.getLast? == some 10 then v else v ++ [10]
        | _ => value ++ [10]
      (value, span, h.problems ++ probs.toList)

end BlockScalar

end Yaml

end FolderSink
