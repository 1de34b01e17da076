import FolderSink.Format.Directive
import FolderSink.Value.Print
import FolderSink.Number.Decimal
import FolderSink.Text.Upper
/-! Rendering one directive with its argument. Padding to the width counts UTF-16 units;
numbers are written from their exact values (`Decimal`), integers in full. Every text the
engine builds is bounded by `maxLength`: a padding, a run of zeros or a join that would
exceed it fails with `RenderError.tooLong`, and a run of zeros whose count overflows to
infinity fails with `RenderError.infiniteCount`. The other errors occur only for an
argument that the conversion does not accept. -/
namespace FolderSink

/-- The longest text the engine builds, in UTF-16 units. -/
def maxLength : Nat := 536870888

/-- Why rendering fails. -/
inductive RenderError where
  | tooLong
  | infiniteCount
  | needsNumber (c : Conversion)
  | invalidCodePoint (x : Double)
  | notInteger (x : Double)
deriving Repr

namespace RenderError

/-- The class of the error as the engine names it. -/
def errorClass : RenderError → String
  | .needsNumber _ => "TypeError"
  | _ => "RangeError"

/-- The engine's message. -/
def message : RenderError → String
  | .tooLong => "Invalid string length"
  | .infiniteCount => "Invalid count value: Infinity"
  | .needsNumber c => "%" ++ c.letter.toString ++ " needs a number"
  | .invalidCodePoint x => "Invalid code point " ++ x.toText
  | .notInteger x => "The number " ++ x.toText ++ " cannot be converted to a BigInt because it is not an integer"

end RenderError

namespace Render

/-- A text, refused when longer than `maxLength`. -/
def bounded (t : Utf16) : Except RenderError Utf16 :=
  if t.length > maxLength then .error .tooLong else .ok t

/-- A run of `count` zero digits; the count is infinite when `infinite` is set. -/
def zeroRun (count : Nat) (infinite : Bool) : Except RenderError Utf16 :=
  if infinite then .error .infiniteCount
  else if count > maxLength then .error .tooLong
  else .ok (Utf16.zeros count)

/-- A text padded in front with `fill` to `target` units. -/
def padStart (t : Utf16) (target : Nat) (fill : UInt16) : Except RenderError Utf16 :=
  if target ≤ t.length then .ok t
  else if target > maxLength then .error .tooLong
  else .ok (List.replicate (target - t.length) fill ++ t)

/-- A text padded at the end with spaces to `target` units. -/
def padEnd (t : Utf16) (target : Nat) : Except RenderError Utf16 :=
  if target ≤ t.length then .ok t
  else if target > maxLength then .error .tooLong
  else .ok (t ++ Utf16.spaces (target - t.length))

/-- Pad a text with spaces to the directive's width: after it with `-`, else before it. -/
def justify (t : Utf16) (d : Directive) : Except RenderError Utf16 :=
  match d.width with
  | none => .ok t
  | some w => if d.has .left then padEnd t w else padStart t w 0x20

/-- Digits with a comma before every group of three counted from the right. -/
def group (ds : List Char) : List Char :=
  let rec go : List Char → List Char
    | a :: b :: c :: rest@(_ :: _) => a :: b :: c :: ',' :: go rest
    | rest => rest
  (go ds.reverse).reverse

/-- Group the integer part of a positional number when the directive asks for it. -/
def withGrouping (fixed : List Char) (d : Directive) : List Char :=
  if d.has .grouping then
    group (fixed.takeWhile (· ≠ '.')) ++ fixed.dropWhile (· ≠ '.')
  else fixed

/-- Sign, zero padding and width around the unsigned text of a number: `(…)` or `-` for a
negative number, else `+` or a space when asked; zeros go between the sign and the digits. -/
def signed (body : Utf16) (negative : Bool) (flags : List Flag) (d : Directive) :
    Except RenderError Utf16 := do
  let (pre, post) : String × String :=
    if negative then (if flags.contains .parens then ("(", ")") else ("-", ""))
    else if flags.contains .plus then ("+", "")
    else if flags.contains .space then (" ", "")
    else ("", "")
  let body ← match d.width with
    | some w => if flags.contains .zero then padStart body (w - pre.length - post.length) 0x30 else pure body
    | none => pure body
  let t ← bounded (Utf16.ofString pre ++ body ++ Utf16.ofString post)
  justify t d

/-- An integer in decimal, grouped when asked, with sign and padding. -/
def integer (n : Int) (d : Directive) : Except RenderError Utf16 :=
  signed (Utf16.ofString (String.ofList (withGrouping (Nat.repr n.natAbs).toList d))) (n < 0) d.flags d

/-- The unsigned reading of an integer: itself when not negative, else its two's complement
in 32 bits from -2^31 up and in 64 bits below. -/
def unsignedOf (n : Int) : Nat :=
  if n ≥ 0 then n.toNat
  else if n ≥ -Int.pow 2 31 then (n + Int.pow 2 32).toNat
  else (n % Int.pow 2 64).toNat

/-- An integer in octal or hex (`radix` 8 or 16), with the alternate prefix `0` or `0x`, zero
padding after the prefix, and upper case for `%X`. -/
def unsignedInteger (n : Int) (radix : Nat) (d : Directive) : Except RenderError Utf16 := do
  let pre : String := if d.has .alternate then (if radix = 16 then "0x" else "0") else ""
  let digits := Utf16.ofString (String.ofList (Nat.toDigits radix (unsignedOf n)))
  let digits ← match d.width with
    | some w => if d.has .zero then padStart digits (w - pre.length) 0x30 else pure digits
    | none => pure digits
  let t ← bounded (Utf16.ofString pre ++ digits)
  let t ← justify t d
  if d.conversion.isUpper then bounded t.toUpper else pure t

/-- The ratio `num / den` with `p` places, as a text of zeros and digits: the exact integer and `p`
zeros from 10^21 up, else rounded (a half going up) with at most 100 places computed and
the rest zeros. `infinite` says that `p` overflows to infinity. -/
def fixedDigits (num den p : Nat) (infinite : Bool) : Except RenderError Utf16 := do
  if num ≥ Nat.pow 10 21 * den then
    let whole := Utf16.ofString (Nat.repr (num / den))
    if p > 0 then
      let zs ← zeroRun p infinite
      bounded (whole ++ [0x2E] ++ zs)
    else pure whole
  else if p > 100 then
    let zs ← zeroRun (p - 100) infinite
    bounded (Utf16.ofString (Decimal.fixedText num den 100) ++ zs)
  else pure (Utf16.ofString (Decimal.fixedText num den p))

/-- The ratio `num / den` in scientific form with `p` places: at most 100 computed and the rest zeros,
then `e`, a sign and an exponent of at least two digits. -/
def expDigits (num den p : Nat) (infinite : Bool) : Except RenderError Utf16 := do
  let computed := min p 100
  let (n, e) := Decimal.scientific num den computed
  let ds := if num = 0 then Decimal.zeros (computed + 1) else Nat.repr n
  let rounded := if computed = 0 then ds
    else String.ofList (ds.toList.take 1) ++ "." ++ String.ofList (ds.toList.drop 1)
  let zs ← zeroRun (p - computed) infinite
  let mantissa ← bounded (Utf16.ofString rounded ++ zs)
  let expText := Nat.repr e.natAbs
  let expText := if expText.length < 2 then "0" ++ expText else expText
  bounded (mantissa ++ Utf16.ofString ("e" ++ (if e < 0 then "-" else "+") ++ expText))

/-- Insert a point before the first `e`. -/
def pointBeforeExponent : Utf16 → Utf16
  | [] => []
  | u :: rest => if u = 0x65 then 0x2E :: u :: rest else u :: pointBeforeExponent rest

/-- A float conversion (`%e %E %f %g %G`) of a number. NaN and the infinities are written as
words with the sign flags and without zero padding; `%g` takes `P` significant digits (the
precision, at least 1) and is positional when the decimal exponent `X` of the value
rounded to `P` digits has `-4 ≤ X < P`. -/
def float (x : Double) (d : Directive) : Except RenderError Utf16 := do
  if !x.isFinite then
    let word := if x.isNaN then "NaN" else "Infinity"
    signed (Utf16.ofString word) (x.lt (Double.zero false)) (d.flags.filter (· != .zero)) d
  else
    let (num, den) := x.magnitude
    let p := d.precision.getD 6
    let infinite := !(Double.ofNat p).isFinite
    let body ← match d.conversion with
      | .fixed => do
        let t ← fixedDigits num den p infinite
        let t := Utf16.ofString (String.ofList (withGrouping (t.map (fun u => Char.ofNat u.toNat)) d))
        if d.has .alternate && p = 0 then bounded (t ++ [0x2E]) else pure t
      | .sci | .sciUpper => do
        let t ← expDigits num den p infinite
        if d.has .alternate && p = 0 then pure (pointBeforeExponent t) else pure t
      | _ => do
        let sig := if p = 0 then 1 else p
        if num = 0 then fixedDigits 0 1 (sig - 1) infinite
        else
          let ex := (Decimal.scientific num den (min (sig - 1) 100)).2
          if -4 ≤ ex ∧ ex < sig then do
            let t ← fixedDigits num den (((sig : Int) - 1 - ex).toNat) infinite
            pure (Utf16.ofString (String.ofList (withGrouping (t.map (fun u => Char.ofNat u.toNat)) d)))
          else expDigits num den (sig - 1) infinite
    let t ← signed body x.signBit d.flags d
    if d.conversion.isUpper then bounded t.toUpper else pure t

/-- The integer of an integral argument. -/
def integralOf (v : Value) (c : Conversion) : Except RenderError Int :=
  match v with
  | .big n => .ok n
  | .num x => if x.isInteger then .ok x.truncate else .error (.notInteger x)
  | _ => .error (.needsNumber c)

/-- The text of one directive with its argument (ignored by `%%` and `%n`). -/
def directive (d : Directive) (v : Value) : Except RenderError Utf16 := do
  match d.conversion with
  | .percent => justify (Utf16.ofString "%") d
  | .newline => pure (Utf16.ofString "\n")
  | .string | .stringUpper =>
    let s := v.toText
    let s := match d.precision with
      | some p => Utf16.ofCodePoints (s.codePoints.take p)
      | none => s
    let t ← justify s d
    if d.conversion.isUpper then bounded t.toUpper else pure t
  | .bool | .boolUpper =>
    let s := match v with
      | .none | .bool false => "false"
      | _ => "true"
    let s := match d.precision with
      | some p => String.ofList (s.toList.take p)
      | none => s
    let t ← justify (Utf16.ofString s) d
    if d.conversion.isUpper then bounded t.toUpper else pure t
  | .char | .charUpper =>
    let c ← match v with
      | .num x =>
        if x.isInteger && Double.le (Double.ofNat 0) x && Double.le x (Double.ofNat 0x10FFFF) then
          pure (Utf16.ofCodePoint x.truncate.toNat)
        else .error (.invalidCodePoint x)
      | _ => pure v.toText
    let t ← justify c d
    if d.conversion.isUpper then bounded t.toUpper else pure t
  | .decimal => integer (← integralOf v d.conversion) d
  | .octal => unsignedInteger (← integralOf v d.conversion) 8 d
  | .hex | .hexUpper => unsignedInteger (← integralOf v d.conversion) 16 d
  | _ =>
    match v with
    | .num x => float x d
    | .big n => float (Double.ofInt n) d
    | _ => .error (.needsNumber d.conversion)

end Render

end FolderSink
