/-! Binary64 numbers, kept as their IEEE 754 bit patterns. A pattern denotes NaN, a signed
infinity, or the exact rational `(-1)^neg · mant · 2^exp`; every arithmetic result here is
that exact value rounded once to the nearest pattern, a tie going to the even mantissa
(`ofRatio`). Comparison and integrality are decided on the exact values, so no step
relies on hardware floating point. -/
namespace FolderSink

/-- An IEEE 754 binary64 number, held as its 64-bit pattern. -/
structure Double where
  bits : UInt64
deriving DecidableEq, Repr

namespace Double

/-- What a bit pattern denotes. A finite number is `(-1)^neg · mant · 2^exp`, with
`mant < 2^53`. -/
inductive Kind where
  | nan
  | infinite (neg : Bool)
  | finite (neg : Bool) (mant : Nat) (exp : Int)
deriving DecidableEq, Repr

/-- The sign bit. -/
def signBit (x : Double) : Bool := x.bits.toNat ≥ Nat.pow 2 63

/-- The biased exponent field, 11 bits. -/
def biased (x : Double) : Nat := x.bits.toNat / Nat.pow 2 52 % 2048

/-- The fraction field, 52 bits. -/
def fraction (x : Double) : Nat := x.bits.toNat % Nat.pow 2 52

/-- Decode a pattern: exponent field 2047 is NaN or infinity, 0 is a subnormal or zero. -/
def kind (x : Double) : Kind :=
  if x.biased = 2047 then
    if x.fraction = 0 then .infinite x.signBit else .nan
  else if x.biased = 0 then .finite x.signBit x.fraction (-1074)
  else .finite x.signBit (x.fraction + Nat.pow 2 52) ((x.biased : Int) - 1075)

/-- Assemble a pattern from sign, biased exponent and fraction. -/
def pack (neg : Bool) (biased fraction : Nat) : Double :=
  ⟨((if neg then Nat.pow 2 63 else 0) + biased * Nat.pow 2 52 + fraction).toUInt64⟩

/-- The quiet NaN that every operation here produces. -/
def nan : Double := pack false 2047 (Nat.pow 2 51)

/-- Positive or negative infinity. -/
def infinity (neg : Bool) : Double := pack neg 2047 0

/-- Positive or negative zero. -/
def zero (neg : Bool) : Double := pack neg 0 0

/-- The ratio `num / den` scaled down by `2^k`, as quotient and remainder of one exact division. -/
def scaledDiv (num den : Nat) (k : Int) : Nat × Nat × Nat :=
  let n := if k < 0 then num * Nat.pow 2 (-k).toNat else num
  let d := if k < 0 then den else den * Nat.pow 2 k.toNat
  (n / d, n % d, d)

/-- Round a quotient with remainder `r` of divisor `d` to the nearest integer, ties to even. -/
def roundEven (q r d : Nat) : Nat :=
  if 2 * r > d then q + 1 else if 2 * r < d then q else q + q % 2

/-- The number nearest to `num / den` with the given sign, ties to even; a magnitude from
`2^1024 - 2^970` up becomes infinity, and below the least subnormal half it becomes zero. -/
def ofRatio (neg : Bool) (num den : Nat) : Double :=
  if num = 0 ∨ den = 0 then zero neg
  else
    let k₀ : Int := max ((Nat.log2 num : Int) - Nat.log2 den - 53) (-1074)
    let k₁ : Int := if (scaledDiv num den k₀).1 ≥ Nat.pow 2 53 then k₀ + 1 else k₀
    let (q, r, d) := scaledDiv num den k₁
    let m := roundEven q r d
    let (m, k) := if m = Nat.pow 2 53 then (Nat.pow 2 52, k₁ + 1) else (m, k₁)
    if m < Nat.pow 2 52 then pack neg 0 m
    else if k + 1075 ≥ 2047 then infinity neg
    else pack neg (k + 1075).toNat (m - Nat.pow 2 52)

/-- The number nearest to an integer. -/
def ofInt (n : Int) : Double := ofRatio (n < 0) n.natAbs 1

/-- The number nearest to a natural number. -/
def ofNat (n : Nat) : Double := ofRatio false n 1

/-- NaN. -/
def isNaN (x : Double) : Bool := x.kind == .nan

/-- Neither NaN nor infinite. -/
def isFinite (x : Double) : Bool :=
  match x.kind with
  | .finite .. => true
  | _ => false

/-- The exact value of a finite number as `num / den`, `den` a power of two. -/
def ratio? (x : Double) : Option (Int × Nat) :=
  match x.kind with
  | .finite neg m e =>
    let n : Int := if neg then -(m : Int) else m
    if e < 0 then some (n, Nat.pow 2 (-e).toNat) else some (n * Nat.pow 2 e.toNat, 1)
  | _ => none

/-- A finite number without a fractional part (either zero included). -/
def isInteger (x : Double) : Bool :=
  match x.ratio? with
  | some (n, d) => n % d == 0
  | none => false

/-- The integer a finite number truncates to; NaN and infinities give zero. -/
def truncate (x : Double) : Int :=
  match x.ratio? with
  | some (n, d) => n.tdiv d
  | none => 0

/-- The same number with the sign flipped (NaN included). -/
def neg (x : Double) : Double := ⟨x.bits ^^^ 0x8000000000000000⟩

/-- The magnitude: the same number with the sign bit cleared. -/
def abs (x : Double) : Double := ⟨x.bits &&& 0x7FFFFFFFFFFFFFFF⟩

/-- Negative zero, whose sign shows only in the bit pattern. -/
def isNegZero (x : Double) : Bool := x.kind == .finite true 0 (-1074)

/-- Order of two finite exact values `a / b` and `c / d` with positive denominators. -/
def compareRatio (a : Int) (b : Nat) (c : Int) (d : Nat) : Ordering :=
  compare (a * d) (c * b)

/-- The order of two numbers as the reals they denote, the infinities at the ends; `none`
when either is NaN. Both zeros are equal. -/
def order? (x y : Double) : Option Ordering :=
  match x.kind, y.kind with
  | .nan, _ => none
  | _, .nan => none
  | .infinite a, .infinite b => some (if a == b then .eq else if a then .lt else .gt)
  | .infinite a, _ => some (if a then .lt else .gt)
  | _, .infinite b => some (if b then .gt else .lt)
  | _, _ =>
    match x.ratio?, y.ratio? with
    | some (a, b), some (c, d) => some (compareRatio a b c d)
    | _, _ => none

/-- Whether `x < y`, false when either is NaN. -/
def lt (x y : Double) : Bool := x.order? y == some .lt

/-- Whether `x ≤ y`, false when either is NaN. -/
def le (x y : Double) : Bool := x.order? y == some .lt || x.order? y == some .eq

/-- The product, rounded once; NaN for NaN or zero times infinity. -/
def mul (x y : Double) : Double :=
  match x.kind, y.kind with
  | .nan, _ => nan
  | _, .nan => nan
  | .infinite a, .finite b m _ => if m = 0 then nan else infinity (a != b)
  | .finite a m _, .infinite b => if m = 0 then nan else infinity (a != b)
  | .infinite a, .infinite b => infinity (a != b)
  | .finite a _ _, .finite b _ _ =>
    match x.ratio?, y.ratio? with
    | some (n₁, d₁), some (n₂, d₂) => ofRatio (a != b) (n₁ * n₂).natAbs (d₁ * d₂)
    | _, _ => nan

/-- The sum, rounded once. Opposite infinities give NaN; an exact zero sum is `-0` only
when both terms are `-0`. -/
def add (x y : Double) : Double :=
  match x.kind, y.kind with
  | .nan, _ => nan
  | _, .nan => nan
  | .infinite a, .infinite b => if a == b then infinity a else nan
  | .infinite a, _ => infinity a
  | _, .infinite b => infinity b
  | .finite a _ _, .finite b _ _ =>
    match x.ratio?, y.ratio? with
    | some (n₁, d₁), some (n₂, d₂) =>
      let n := n₁ * d₂ + n₂ * d₁
      if n = 0 then zero (a && b) else ofRatio (n < 0) n.natAbs (d₁ * d₂)
    | _, _ => nan

/-- The difference `x - y`, rounded once. -/
def sub (x y : Double) : Double := add x y.neg

end Double

end FolderSink
