import Std.Data.HashSet
import FolderSink.Text.Utf16
/-! Brace expansion of glob patterns, as the shell does it: `a{b,c}d` becomes `abd acd`,
`{1..3}` and `{a..c}` count (with an optional step, and zero padding when a bound is
written with a leading zero), options nest, and a brace set after `$` or without a comma
or a range is kept as written. A backslash protects a following `\`, `{`, `}`, `,` or `.`;
after expansion a protected backslash pair stands as one backslash. The first and the
innermost complete brace pair decide each step, as `balanced` finds them. Expansion stops
at a nesting depth of `maxDepth`, keeping the deeper text as written, and one step gives at
most `maxResults` results. -/
namespace FolderSink

namespace Brace

/-- A unit of a pattern under expansion: a plain unit, or one of the protected pairs. -/
inductive Item where
  | unit (u : UInt16)
  | backslash | openBrace | closeBrace | comma | period
deriving DecidableEq, Repr

/-- The units an item stands for after expansion. -/
def Item.restore : Item → UInt16
  | .unit u => u
  | .backslash => 0x5C
  | .openBrace => 0x7B
  | .closeBrace => 0x7D
  | .comma => 0x2C
  | .period => 0x2E

/-- Replace each backslash followed by `c` (left to right, without overlap) by `tok`. -/
def protect (c : UInt16) (tok : Item) : List Item → List Item
  | .unit 0x5C :: .unit d :: rest =>
    if d = c then tok :: protect c tok rest else .unit 0x5C :: protect c tok (.unit d :: rest)
  | i :: rest => i :: protect c tok rest
  | [] => []

/-- The items of a pattern, its protected pairs replaced in the order `\\`, `\{`, `\}`,
`\,`, `\.`. -/
def items (p : Utf16) : List Item :=
  let xs := p.map Item.unit
  let xs := protect 0x5C .backslash xs
  let xs := protect 0x7B .openBrace xs
  let xs := protect 0x7D .closeBrace xs
  let xs := protect 0x2C .comma xs
  protect 0x2E .period xs

/-- Index of the first plain unit `u` at or after `start`. -/
def indexFrom (xs : List Item) (u : UInt16) (start : Nat) : Option Nat :=
  ((xs.drop start).findIdx? (· == .unit u)).map (· + start)

/-- The scan of `balanced`: the pair of the first `{` with the `}` that closes it, or, when
braces are left open, the innermost complete pair seen. -/
def pairScan (xs : List Item) : Nat → Option Nat → Option Nat → List Nat → Nat → Option Nat →
    Option (Nat × Nat)
  | 0, _, _, _, _, _ => none
  | fuel + 1, ai, bi, begs, left, right =>
    let i := match ai, bi with
      | some a, some b => if a < b then some a else some b
      | some a, none => some a
      | none, b => b
    match i with
    | none => if begs.isEmpty then none else right.map (fun r => (left, r))
    | some i =>
      if ai = some i then
        pairScan xs fuel (indexFrom xs 0x7B (i + 1)) bi (i :: begs) left right
      else
        match begs with
        | [b] => some (b, i)
        | b :: rest =>
          let (left, right) := if b < left then (b, some i) else (left, right)
          pairScan xs fuel ai (indexFrom xs 0x7D (i + 1)) rest left right
        | [] => none

/-- The brace pair that expansion works on, as positions of `{` and `}`. -/
def balanced (xs : List Item) : Option (Nat × Nat) :=
  let ai := indexFrom xs 0x7B 0
  let bi := indexFrom xs 0x7D ((ai.map (· + 1)).getD 0)
  match ai, bi with
  | some _, some b => if b > 0 then pairScan xs (2 * xs.length + 2) ai bi [] xs.length none else none
  | _, _ => none

/-- Text before, inside and after a brace pair. -/
structure Split where
  pre : List Item
  body : List Item
  post : List Item

/-- The split at the pair that `balanced` finds. -/
def split? (xs : List Item) : Option Split :=
  (balanced xs).map fun (a, b) => ⟨xs.take a, (xs.drop (a + 1)).take (b - a - 1), xs.drop (b + 1)⟩

/-- Split a list at every item `sep`. -/
def splitOn (sep : Item) (xs : List Item) : List (List Item) :=
  xs.splitOn sep

/-- The plain digit units. -/
def isDigit : Item → Bool
  | .unit u => 0x30 ≤ u.toNat && u.toNat ≤ 0x39
  | _ => false

/-- A plain ASCII letter. -/
def isLetter : Item → Bool
  | .unit u => (0x41 ≤ u.toNat && u.toNat ≤ 0x5A) || (0x61 ≤ u.toNat && u.toNat ≤ 0x7A)
  | _ => false

/-- An optional minus sign and at least one digit. -/
def isInteger : List Item → Bool
  | .unit 0x2D :: ds => !ds.isEmpty && ds.all isDigit
  | ds => !ds.isEmpty && ds.all isDigit

/-- The parts of a body between `..` separators. -/
def rangeParts (body : List Item) : List (List Item) :=
  let rec go : List Item → List Item → List (List Item)
    | .unit 0x2E :: .unit 0x2E :: rest, acc => acc.reverse :: go rest []
    | i :: rest, acc => go rest (i :: acc)
    | [], acc => [acc.reverse]
  go body []

/-- A numeric range `a..b` or `a..b..step`. -/
def isNumericRange (body : List Item) : Bool :=
  match rangeParts body with
  | [a, b] => isInteger a && isInteger b
  | [a, b, c] => isInteger a && isInteger b && isInteger c
  | _ => false

/-- A letter range `x..y` or `x..y..step`. -/
def isLetterRange (body : List Item) : Bool :=
  match rangeParts body with
  | [[a], [b]] => isLetter a && isLetter b
  | [[a], [b], c] => isLetter a && isLetter b && isInteger c
  | _ => false

/-- The units of plain items. -/
def unitsOf (xs : List Item) : Utf16 := xs.map Item.restore

/-- The integer an integer text denotes. -/
def intValue (xs : List Item) : Int :=
  match xs with
  | .unit 0x2D :: ds => -((ds.foldl (fun n i => 10 * n + (i.restore.toNat - 0x30)) 0 : Nat) : Int)
  | ds => ((ds.foldl (fun n i => 10 * n + (i.restore.toNat - 0x30)) 0 : Nat) : Int)

/-- The value of a range bound: its integer, or the code of its letter. -/
def boundValue (xs : List Item) : Int :=
  if isInteger xs then intValue xs else
    match xs with
    | i :: _ => (i.restore.toNat : Int)
    | [] => 0

/-- A bound written with a leading zero, which asks for padding. -/
def isPadded : List Item → Bool
  | .unit 0x2D :: .unit 0x30 :: d :: _ => isDigit d
  | .unit 0x30 :: d :: _ => isDigit d
  | _ => false

/-- The decimal text of an integer, padded with zeros after the sign to `width`. -/
def paddedText (i : Int) (width : Nat) (pad : Bool) : Utf16 :=
  let digits := Utf16.ofString (Nat.repr i.natAbs)
  let sign : Utf16 := if i < 0 then [0x2D] else []
  let len := sign.length + digits.length
  if pad ∧ width > len then sign ++ Utf16.zeros (width - len) ++ digits else sign ++ digits

/-- The deepest nesting of expansion steps; a text reached deeper is kept as written. -/
def maxDepth : Nat := 1000

/-- The most results one expansion step gives. -/
def maxResults : Nat := 100000

/-- The members of a range: from the first bound towards the second by the step (a step
of zero counts as one), at most `maxResults` of them. -/
def rangeMembers (parts : List (List Item)) (letters : Bool) : List (List Item) :=
  match parts with
  | a :: b :: rest =>
    let x := boundValue a
    let y := boundValue b
    let step : Int := match rest with
      | c :: _ => max (intValue c).natAbs 1
      | [] => 1
    let step := if y < x then -step else step
    let width := max a.length b.length
    let pad := parts.any isPadded
    let count := min ((y - x).natAbs / step.natAbs + 1) maxResults
    (List.range count).map fun (k : Nat) =>
      let i := x + step * (k : Int)
      if letters then
        (if i = 0x5C then [] else [Item.unit i.toNat.toUInt16])
      else (paddedText i width pad).map Item.unit
  | _ => []

/-- The comma-separated parts of a body, a nested brace pair kept whole. -/
def commaParts : Nat → List Item → List (List Item)
  | 0, xs => [xs]
  | fuel + 1, xs =>
    if xs.isEmpty then [[]]
    else
      match split? xs with
      | none => splitOn (.unit 0x2C) xs
      | some s =>
        let p := splitOn (.unit 0x2C) s.pre
        let p := p.dropLast ++ [p.getLastD [] ++ [.unit 0x7B] ++ s.body ++ [.unit 0x7D]]
        if s.post.isEmpty then p
        else
          match commaParts fuel s.post with
          | first :: more => p.dropLast ++ [p.getLastD [] ++ first] ++ more
          | [] => p

/-- Whether a comma not followed by another comma is later followed by `}` on the same
line. -/
def commaBeforeClose (xs : List Item) : Bool :=
  let isBreak (i : Item) : Bool :=
    i == .unit 0x0A || i == .unit 0x0D || i == .unit 0x2028 || i == .unit 0x2029
  let rec go : List Item → Bool
    | .unit 0x2C :: rest =>
      (rest.head? != some (.unit 0x2C) &&
        ((rest.takeWhile (fun i => !isBreak i)).contains (.unit 0x7D))) || go rest
    | _ :: rest => go rest
    | [] => false
  go xs

/-- Expand a pattern under expansion at nesting `depth`; `top` drops empty results of
option sets. -/
def expand : Nat → List Item → Bool → Nat → List (List Item)
  | 0, xs, _, _ => [xs]
  | fuel + 1, xs, top, depth =>
    if depth > maxDepth then [xs] else
    match split? xs with
    | none => [xs]
    | some s =>
      let post := if s.post.isEmpty then [[]] else expand fuel s.post false (depth + 1)
      if s.pre.getLast? = some (.unit 0x24) then
        (post.take maxResults).map fun p => s.pre ++ [.unit 0x7B] ++ s.body ++ [.unit 0x7D] ++ p
      else
        let numeric := isNumericRange s.body
        let letters := isLetterRange s.body
        let isRange := numeric || letters
        let isOptions := s.body.contains (.unit 0x2C)
        if !isRange && !isOptions then
          if commaBeforeClose s.post then
            expand fuel (s.pre ++ [.unit 0x7B] ++ s.body ++ [.closeBrace] ++ s.post) top (depth + 1)
          else [xs]
        else
          let embrace (e : List Item) : List Item := [.unit 0x7B] ++ e ++ [.unit 0x7D]
          let parts : List (List Item) :=
            if isRange then []
            else
              match commaParts (xs.length + 1) s.body with
              | [only] => (expand fuel only false (depth + 1)).map embrace
              | parts => parts
          match isRange, parts with
          | false, [one] => post.map fun p => s.pre ++ one ++ p
          | _, _ =>
            let members : List (List Item) :=
              if isRange then rangeMembers (rangeParts s.body) letters
              else parts.flatMap (fun part => expand fuel part false (depth + 1))
            let all := members.flatMap fun m =>
              (post.map fun p => s.pre ++ m ++ p).filter fun e => !top || isRange || !e.isEmpty
            all.take maxResults

/-- Whether a pattern holds a brace pair worth expanding: `{`, then characters other than
`{` and line breaks, then `}`. -/
def hasBraceSet (p : Utf16) : Bool :=
  let rec go : Utf16 → Bool
    | 0x7B :: rest =>
      let run := rest.takeWhile (fun u => u != 0x7B && u != 0x0A && u != 0x0D && u != 0x2028 && u != 0x2029)
      run.contains 0x7D || go rest
    | _ :: rest => go rest
    | [] => false
  go p

end Brace

/-- The patterns a pattern's braces expand to, in order and without repeats. A pattern
without a brace pair stands for itself; one that starts with `{}` keeps those two. -/
def braceExpand (p : Utf16) : List Utf16 :=
  if !Brace.hasBraceSet p then [p]
  else
    let xs := Brace.items p
    let xs := match xs with
      | .unit 0x7B :: .unit 0x7D :: rest => .openBrace :: .closeBrace :: rest
      | _ => xs
    let out := (Brace.expand (2 * xs.length + 2) xs true 0).map Brace.unitsOf
    let (kept, _) := out.foldl (fun (kept, seen) e =>
      if seen.contains e then (kept, seen) else (e :: kept, seen.insert e))
      (([] : List Utf16), (∅ : Std.HashSet Utf16))
    kept.reverse

end FolderSink
