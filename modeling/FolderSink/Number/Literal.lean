import FolderSink.Number.Double
import FolderSink.Text.Blank
/-! Reading numbers from text. `Double.ofDecimal` rounds an exact decimal once;
`Double.ofLiteral` reads a whole numeric literal: blanks around it are ignored, an empty
text is zero, and besides decimals with an optional sign, point and exponent it takes
`Infinity` and the unsigned prefixed integers `0x`, `0o` and `0b`. Anything else is NaN. -/
namespace FolderSink

namespace Double

/-- The number nearest to `digits · 10^exp`. Exponents far outside the range of doubles
are settled by the digit count alone, before any power of ten is built. -/
def ofDecimal (neg : Bool) (digits : Nat) (exp : Int) : Double :=
  if digits = 0 then zero neg
  else
    let n : Int := (Nat.repr digits).length
    if n + exp > 310 then infinity neg
    else if n + exp < -330 then zero neg
    else if exp ≥ 0 then ofRatio neg (digits * Nat.pow 10 exp.toNat) 1
    else ofRatio neg digits (Nat.pow 10 (-exp).toNat)

end Double

namespace Literal

/-- The value of a digit in a radix, if it is one. -/
def digitValue (radix : Nat) (c : Char) : Option Nat :=
  let v :=
    if '0' ≤ c ∧ c ≤ '9' then c.toNat - '0'.toNat
    else if 'a' ≤ c ∧ c ≤ 'z' then c.toNat - 'a'.toNat + 10
    else if 'A' ≤ c ∧ c ≤ 'Z' then c.toNat - 'A'.toNat + 10
    else radix
  if v < radix then some v else none

/-- The value of a non-empty run of digits of a radix. -/
def digitsValue (radix : Nat) (cs : List Char) : Option Nat :=
  if cs.isEmpty then none
  else cs.foldl (fun acc c => acc.bind fun a => (digitValue radix c).map (a * radix + ·)) (some 0)

/-- A decimal literal without its sign: digits with an optional point and fraction (at least
one digit in all), then an optional exponent. The result is the digits as one integer and
the power of ten that scales it. -/
def unsignedDecimal (cs : List Char) : Option (Nat × Int) :=
  let whole := cs.takeWhile Char.isDigit
  let rest := cs.dropWhile Char.isDigit
  let (frac, rest) := match rest with
    | '.' :: r => (r.takeWhile Char.isDigit, r.dropWhile Char.isDigit)
    | _ => ([], rest)
  if whole.isEmpty ∧ frac.isEmpty then none
  else
    let exp : Option Int := match rest with
      | [] => some 0
      | e :: r =>
        if e = 'e' ∨ e = 'E' then
          match r with
          | '+' :: ds => (digitsValue 10 ds).map (fun v => (v : Int))
          | '-' :: ds => (digitsValue 10 ds).map (fun v => -(v : Int))
          | ds => (digitsValue 10 ds).map (fun v => (v : Int))
        else none
    exp.map fun x =>
      ((digitsValue 10 (whole ++ frac)).getD 0, x - frac.length)

/-- The unsigned part of a literal: `Infinity` or a decimal. -/
def unsigned (neg : Bool) (cs : List Char) : Double :=
  if cs = "Infinity".toList then Double.infinity neg
  else
    match unsignedDecimal cs with
    | some (d, e) => Double.ofDecimal neg d e
    | none => Double.nan

end Literal

namespace Double

/-- The number a text denotes as a whole numeric literal (see the module note); NaN when it
is none. -/
def ofLiteral (s : String) : Double :=
  match (trimBlank s).toList with
  | [] => zero false
  | '0' :: p :: ds =>
    let radix := if p = 'x' ∨ p = 'X' then 16 else if p = 'o' ∨ p = 'O' then 8
      else if p = 'b' ∨ p = 'B' then 2 else 0
    if radix = 0 then Literal.unsigned false ('0' :: p :: ds)
    else
      match Literal.digitsValue radix ds with
      | some v => ofNat v
      | none => nan
  | '+' :: cs => Literal.unsigned false cs
  | '-' :: cs => Literal.unsigned true cs
  | cs => Literal.unsigned false cs

end Double

end FolderSink
