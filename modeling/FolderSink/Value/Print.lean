import FolderSink.Value.Basic
import FolderSink.Number.Decimal
import FolderSink.Text.Quoted
/-! How the configuration language prints a value: `None`, `True` and `False`, numbers in
their shortest text, integers in decimal, a top-level string as itself, and lists
`[a, b]` and dictionaries `{"k": v}` whose strings and keys are quoted. -/
namespace FolderSink

namespace Value

mutual

/-- The printed form of a value; `nested` quotes a string, as inside a list or dictionary. -/
def render (nested : Bool) : Value → Utf16
  | .none => Utf16.ofString "None"
  | .bool b => Utf16.ofString (if b then "True" else "False")
  | .num x => Utf16.ofString x.toText
  | .big n => Utf16.ofString (toString n)
  | .str s => if nested then Quoted.encodeUnits s else s
  | .list items => Utf16.ofString "[" ++ renderItems items ++ Utf16.ofString "]"
  | .dict entries => Utf16.ofString "\x7b" ++ renderEntries entries ++ Utf16.ofString "\x7d"

/-- List items, separated by a comma and a space. -/
def renderItems : List Value → Utf16
  | [] => []
  | [v] => render true v
  | v :: rest => render true v ++ Utf16.ofString ", " ++ renderItems rest

/-- Dictionary entries `"key": value`, separated by a comma and a space. -/
def renderEntries : List (String × Value) → Utf16
  | [] => []
  | [(k, v)] => Quoted.encodeUnits (Utf16.ofString k) ++ Utf16.ofString ": " ++ render true v
  | (k, v) :: rest =>
    Quoted.encodeUnits (Utf16.ofString k) ++ Utf16.ofString ": " ++ render true v ++
      Utf16.ofString ", " ++ renderEntries rest

end

/-- The printed form of a top-level value. -/
def toText (v : Value) : Utf16 := render false v

end Value

end FolderSink
