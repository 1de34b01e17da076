/-! Text as UTF-16 code units. Templates are scanned unit by unit, offsets and field
widths are counted in units, and a rendered character may be a surrogate that stands
alone, so the format engine keeps its text in this form rather than as `String`.
`length_ofCodePoint` says that a code point takes one or two units. -/
namespace FolderSink

/-- A sequence of UTF-16 code units. -/
abbrev Utf16 := List UInt16

namespace Utf16

/-- A unit in the high-surrogate range D800–DBFF. -/
def isHigh (u : UInt16) : Bool := 0xD800 ≤ u.toNat && u.toNat ≤ 0xDBFF

/-- A unit in the low-surrogate range DC00–DFFF. -/
def isLow (u : UInt16) : Bool := 0xDC00 ≤ u.toNat && u.toNat ≤ 0xDFFF

/-- The units of one code point: itself below U+10000 (a surrogate code point included),
else a high and a low surrogate. -/
def ofCodePoint (n : Nat) : Utf16 :=
  if n < 0x10000 then [n.toUInt16]
  else [(0xD800 + (n - 0x10000) / 0x400).toUInt16, (0xDC00 + (n - 0x10000) % 0x400).toUInt16]

/-- The units of a well-formed string. -/
def ofString (s : String) : Utf16 := s.toList.flatMap (fun c => ofCodePoint c.toNat)

/-- The code points of a text: a high surrogate directly followed by a low one makes one
code point, and every other unit is a code point of its own. -/
def codePoints : Utf16 → List Nat
  | [] => []
  | [u] => [u.toNat]
  | u :: v :: rest =>
    if isHigh u && isLow v then
      (0x10000 + (u.toNat - 0xD800) * 0x400 + (v.toNat - 0xDC00)) :: codePoints rest
    else u.toNat :: codePoints (v :: rest)

/-- The well-formed string of a text, as it is encoded when it leaves the program: a
surrogate that stands alone becomes U+FFFD. -/
def toText (u : Utf16) : String :=
  String.ofList (u.codePoints.map fun n =>
    if 0xD800 ≤ n ∧ n ≤ 0xDFFF then Char.ofNat 0xFFFD else Char.ofNat n)

/-- The text of a list of code points. -/
def ofCodePoints (ns : List Nat) : Utf16 := ns.flatMap ofCodePoint

/-- A text of `n` spaces. -/
def spaces (n : Nat) : Utf16 := List.replicate n 0x20

/-- A text of `n` zero digits. -/
def zeros (n : Nat) : Utf16 := List.replicate n 0x30

theorem length_ofCodePoint (n : Nat) :
    (ofCodePoint n).length = if n < 0x10000 then 1 else 2 := by
  unfold ofCodePoint; split <;> rfl

end Utf16

end FolderSink
