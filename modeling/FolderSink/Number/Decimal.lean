import FolderSink.Number.Double
/-! Decimal digits of exact non-negative ratios `num / den`: the decimal exponent
(`exponent10`), rounding to a number of places or of significant digits with a tie going
up (`fixedText`, `scientific`), and the fewest digits that read back to the same double
(`shortest`). On top of them, `Double.toText` writes a number the way the configuration
language prints it. -/
namespace FolderSink

namespace Decimal

/-- The power `10^e` as a ratio of naturals. -/
def tenPow (e : Int) : Nat × Nat :=
  if e ≥ 0 then (Nat.pow 10 e.toNat, 1) else (1, Nat.pow 10 (-e).toNat)

/-- Whether `10^e ≤ num / den`. -/
def atLeastTenPow (num den : Nat) (e : Int) : Bool :=
  (tenPow e).1 * den ≤ num * (tenPow e).2

/-- Move a guess of the decimal exponent until `10^e ≤ num / den < 10^(e+1)`. -/
def settle (num den : Nat) : Nat → Int → Int
  | 0, e => e
  | fuel + 1, e =>
    if !atLeastTenPow num den e then settle num den fuel (e - 1)
    else if atLeastTenPow num den (e + 1) then settle num den fuel (e + 1)
    else e

/-- The decimal exponent of a positive ratio: the `e` with `10^e ≤ num / den < 10^(e+1)`.
The guess from the binary logarithms is off by at most two. -/
def exponent10 (num den : Nat) : Int :=
  let l : Int := (Nat.log2 num : Int) - Nat.log2 den
  settle num den 8 ((l * 30103).fdiv 100000)

/-- The ratio `num / den` rounded to an integer, a half going up. -/
def roundHalfUp (num den : Nat) : Nat := (2 * num + den) / (2 * den)

/-- A text of `n` zero digits. -/
def zeros (n : Nat) : String := String.ofList (List.replicate n '0')

/-- The ratio `num / den` rounded to `f` places (a half going up), in positional notation with `f`
digits after the point and at least one before it. -/
def fixedText (num den f : Nat) : String :=
  let ds := Nat.repr (roundHalfUp (num * Nat.pow 10 f) den)
  if f = 0 then ds
  else
    let ds := if ds.length ≤ f then zeros (f + 1 - ds.length) ++ ds else ds
    String.ofList (ds.toList.take (ds.length - f)) ++ "." ++ String.ofList (ds.toList.drop (ds.length - f))

/-- The ratio `num / den` rounded to `f + 1` significant digits, a half going up: the digits as an
integer of exactly `f + 1` digits and the decimal exponent of the first one. Zero gives
`(0, 0)`. -/
def scientific (num den f : Nat) : Nat × Int :=
  if num = 0 then (0, 0)
  else
    let d := exponent10 num den
    let g := tenPow ((f : Int) - d)
    let n := roundHalfUp (num * g.1) (den * g.2)
    if n ≥ Nat.pow 10 (f + 1) then (n / 10, d + 1) else (n, d)

/-- Scientific notation with `f` digits after the point: one digit, the point and the
others when `f > 0`, then `e`, the exponent's sign and its digits. -/
def scientificText (num den f : Nat) : String :=
  let (n, e) := scientific num den f
  let ds := if num = 0 then zeros (f + 1) else Nat.repr n
  let mant := if f = 0 then ds
    else String.ofList (ds.toList.take 1) ++ "." ++ String.ofList (ds.toList.drop 1)
  mant ++ "e" ++ (if e ≥ 0 then "+" else "-") ++ Nat.repr e.natAbs

/-- Drop the trailing zeros of `s · 10^t`. -/
def trim (s : Nat) (t : Int) : Nat → Nat × Int
  | 0 => (s, t)
  | fuel + 1 => if s ≠ 0 ∧ s % 10 = 0 then trim (s / 10) (t + 1) fuel else (s, t)

/-- Order of `a / b` and `c / d`. -/
def cmpRatio (a b c d : Nat) : Ordering := compare (a * d) (c * b)

/-- The `k`-digit candidates for `x = xn / xd` whose value `s · 10^t` lies between the bounds
`lo` and `hi` (both over `xd`), each end included when `closed`; of two, the nearer to `x`,
an exact tie going to the even one. -/
def candidate (xn xd lo hi : Nat) (closed : Bool) (t : Int) : Option Nat :=
  let (gn, gd) := tenPow t
  let s := xn * gd / (xd * gn)
  let inside (s : Nat) : Bool :=
    let a := cmpRatio lo xd (s * gn) gd
    let b := cmpRatio (s * gn) gd hi xd
    (a == .lt || (closed && a == .eq)) && (b == .lt || (closed && b == .eq))
  match inside s, inside (s + 1) with
  | true, true =>
    match cmpRatio (2 * xn) xd ((2 * s + 1) * gn) gd with
    | .lt => some s
    | .gt => some (s + 1)
    | .eq => some (if s % 2 = 0 then s else s + 1)
  | true, false => some s
  | false, true => some (s + 1)
  | false, false => none

/-- The fewest significant digits `s · 10^t` that lie strictly inside the interval of reals
rounding to the double `m · 2^e` (ends included when `m` is even), the nearest such when
there are two; `lowerHalf` says that the gap below is half the gap above, as at a power
of two. Seventeen digits always suffice. -/
def shortest (m : Nat) (e : Int) (lowerHalf : Bool) : Nat × Int :=
  let q := e - 2
  let scale : Nat := if q ≥ 0 then Nat.pow 2 q.toNat else 1
  let xd : Nat := if q ≥ 0 then 1 else Nat.pow 2 (-q).toNat
  let xn := 4 * m * scale
  let hi := (4 * m + 2) * scale
  let lo := (if lowerHalf then 4 * m - 1 else 4 * m - 2) * scale
  let d := exponent10 xn xd
  let found := (List.range 17).findSome? fun (i : Nat) =>
    let t := d - (i : Int)
    (candidate xn xd lo hi (m % 2 = 0) t).map (fun s => (s, t))
  let (s, t) := found.getD (roundHalfUp (xn * (tenPow (d - 16)).2) (xd * (tenPow (d - 16)).1), d - 16)
  trim s t 20

/-- Positional or scientific text of `s · 10^t`, where `s` has no trailing zero: positional
when the point falls from six places before the first digit to 21 places after it,
otherwise one digit, the others after a point, and a signed exponent. -/
def shortestText (s : Nat) (t : Int) : String :=
  let ds := Nat.repr s
  let k : Int := ds.length
  let n := t + k
  if k ≤ n ∧ n ≤ 21 then ds ++ zeros (n - k).toNat
  else if 0 < n ∧ n ≤ 21 then
    String.ofList (ds.toList.take n.toNat) ++ "." ++ String.ofList (ds.toList.drop n.toNat)
  else if -6 < n ∧ n ≤ 0 then "0." ++ zeros (-n).toNat ++ ds
  else
    let x := n - 1
    let mant := if k = 1 then ds
      else String.ofList (ds.toList.take 1) ++ "." ++ String.ofList (ds.toList.drop 1)
    mant ++ "e" ++ (if x ≥ 0 then "+" else "-") ++ Nat.repr x.natAbs

end Decimal

namespace Double

/-- The text of a number: `NaN`, `Infinity`, `0` for either zero, else a minus sign for a
negative number and the shortest digits that read back (`Decimal.shortestText`). -/
def toText (x : Double) : String :=
  match x.kind with
  | .nan => "NaN"
  | .infinite neg => if neg then "-Infinity" else "Infinity"
  | .finite neg m e =>
    if m = 0 then "0"
    else
      let (s, t) := Decimal.shortest m e (m = Nat.pow 2 52 ∧ e > -1074)
      (if neg then "-" else "") ++ Decimal.shortestText s t

/-- The exact magnitude of a finite number as `num / den`; zero for the others. -/
def magnitude (x : Double) : Nat × Nat :=
  match x.ratio? with
  | some (n, d) => (n.natAbs, d)
  | none => (0, 1)

end Double

end FolderSink
