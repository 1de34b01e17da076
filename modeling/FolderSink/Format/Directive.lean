import FolderSink.Value.Basic
import FolderSink.Text.Utf16
/-! Directives of a format template: `%`, flags, an optional width, an optional precision
and a conversion letter. This module holds the vocabulary (conversions and flags), the
rules a directive must satisfy (`Directive.fault?`) and which arguments a conversion
takes (`Conversion.accepts`). -/
namespace FolderSink

/-- The conversion letters: strings, booleans and characters (lower and upper case),
integers in decimal, octal and hex, floats in scientific, fixed and general form, a
literal percent sign and a line break. -/
inductive Conversion where
  | string | stringUpper | bool | boolUpper | char | charUpper
  | decimal | octal | hex | hexUpper
  | sci | sciUpper | fixed | general | generalUpper
  | percent | newline
deriving DecidableEq, Repr

namespace Conversion

/-- The letter that writes a conversion. -/
def letter : Conversion → Char
  | .string => 's' | .stringUpper => 'S' | .bool => 'b' | .boolUpper => 'B'
  | .char => 'c' | .charUpper => 'C' | .decimal => 'd' | .octal => 'o'
  | .hex => 'x' | .hexUpper => 'X' | .sci => 'e' | .sciUpper => 'E'
  | .fixed => 'f' | .general => 'g' | .generalUpper => 'G'
  | .percent => '%' | .newline => 'n'

/-- All conversions. -/
def all : List Conversion :=
  [.string, .stringUpper, .bool, .boolUpper, .char, .charUpper, .decimal, .octal, .hex,
   .hexUpper, .sci, .sciUpper, .fixed, .general, .generalUpper, .percent, .newline]

/-- The conversion a letter writes, if any. -/
def ofLetter? (c : Char) : Option Conversion := all.find? (·.letter == c)

/-- Whether a directive of this conversion consumes an argument (`%%` and `%n` do not). -/
def takesArgument : Conversion → Bool
  | .percent | .newline => false
  | _ => true

/-- Whether a precision is refused. -/
def refusesPrecision : Conversion → Bool
  | .char | .charUpper | .decimal | .octal | .hex | .hexUpper | .percent | .newline => true
  | _ => false

/-- Whether the conversion writes its text in upper case. -/
def isUpper : Conversion → Bool
  | .stringUpper | .boolUpper | .charUpper | .hexUpper | .sciUpper | .generalUpper => true
  | _ => false

end Conversion

/-- The flags: left alignment, alternate form, plus sign, space sign, zero padding,
grouping and parentheses around negatives. -/
inductive Flag where
  | left | alternate | plus | space | zero | grouping | parens
deriving DecidableEq, Repr

namespace Flag

/-- The character that writes a flag. -/
def char : Flag → Char
  | .left => '-' | .alternate => '#' | .plus => '+' | .space => ' '
  | .zero => '0' | .grouping => ',' | .parens => '('

/-- The flag a character writes, if any. -/
def ofChar? (c : Char) : Option Flag :=
  [Flag.left, .alternate, .plus, .space, .zero, .grouping, .parens].find? (·.char == c)

/-- The flags a conversion takes besides `-`. -/
def allowed : Conversion → List Flag
  | .decimal => [.plus, .space, .zero, .grouping, .parens]
  | .octal | .hex | .hexUpper => [.alternate, .zero]
  | .sci | .sciUpper => [.alternate, .plus, .space, .zero, .parens]
  | .fixed => [.alternate, .plus, .space, .zero, .grouping, .parens]
  | .general | .generalUpper => [.plus, .space, .zero, .grouping, .parens]
  | _ => []

end Flag

/-- A directive as parsed: its text, its distinct flags in order of first appearance, the
width and precision as written in decimal, and the conversion. -/
structure Directive where
  source : String
  flags : List Flag
  width : Option Nat
  precision : Option Nat
  conversion : Conversion
deriving Repr

/-- A template is literal text and directives. -/
inductive Segment where
  | literal (text : Utf16)
  | directive (d : Directive)
deriving Repr

/-- Why a directive is malformed. -/
inductive DirectiveFault where
  | newlineDecorated
  | flagNotAllowed (f : Flag) (c : Conversion)
  | needsWidth (f : Flag)
  | leftWithZero
  | plusWithSpace
  | precisionRefused (c : Conversion)
deriving DecidableEq, Repr

namespace DirectiveFault

/-- The reason as the checker words it. -/
def text : DirectiveFault → String
  | .newlineDecorated => "%n takes no flags or width"
  | .flagNotAllowed f c => "flag '" ++ f.char.toString ++ "' does not apply to %" ++ c.letter.toString
  | .needsWidth f => "flag '" ++ f.char.toString ++ "' requires a width"
  | .leftWithZero => "flags '-' and '0' cannot be combined"
  | .plusWithSpace => "flags '+' and ' ' cannot be combined"
  | .precisionRefused c => "%" ++ c.letter.toString ++ " takes no precision"

end DirectiveFault

namespace Directive

/-- Whether the directive has a flag. -/
def has (d : Directive) (f : Flag) : Bool := d.flags.contains f

/-- The first rule the directive breaks, checked in this order: `%n` takes no flags or
width; every flag but `-` must be allowed for the conversion (in the order of the flags);
`-` and `0` need a width (`-` is named when both are present); `-` excludes `0`; `+`
excludes a space; some conversions take no precision. -/
def fault? (d : Directive) : Option DirectiveFault :=
  if d.conversion = .newline ∧ (!d.flags.isEmpty || d.width.isSome) then some .newlineDecorated
  else
    match d.flags.find? (fun f => f != .left && !(Flag.allowed d.conversion).contains f) with
    | some f => some (.flagNotAllowed f d.conversion)
    | none =>
      if (d.has .left || d.has .zero) && d.width.isNone then
        some (.needsWidth (if d.has .left then .left else .zero))
      else if d.has .left && d.has .zero then some .leftWithZero
      else if d.has .plus && d.has .space then some .plusWithSpace
      else if d.precision.isSome && d.conversion.refusesPrecision then
        some (.precisionRefused d.conversion)
      else none

/-- Whether the directive consumes an argument. -/
def takesArgument (d : Directive) : Bool := d.conversion.takesArgument

end Directive

namespace Conversion

/-- Whether a value is one character: a string of exactly one code point (a lone
surrogate counts as one), or an integral
number (not a big integer) from 0 to 0x10FFFF. -/
def isCharacter : Value → Bool
  | .str s => s.codePoints.length == 1
  | .num x => x.isInteger && Double.le (Double.ofNat 0) x && Double.le x (Double.ofNat 0x10FFFF)
  | _ => false

/-- Whether a conversion renders a value: strings and booleans take anything, integer
conversions take an `int`, float conversions an `int` or a `float`, character conversions
one character, and `%%` and `%n` no argument at all. -/
def accepts (c : Conversion) (v : Value) : Bool :=
  match c with
  | .string | .stringUpper | .bool | .boolUpper => true
  | .decimal | .octal | .hex | .hexUpper => v.typeName == .int
  | .sci | .sciUpper | .fixed | .general | .generalUpper =>
    v.typeName == .int || v.typeName == .float
  | .char | .charUpper => isCharacter v
  | .percent | .newline => false

end Conversion

end FolderSink
