import FolderSink.Number.Double
import FolderSink.Value.Coerce
import FolderSink.Destination.DateText
/-! Moments as whole milliseconds from 1970-01-01T00:00:00Z, and the folder stamp
`YYYY_MM_DD_HH_MM_SS` of a moment in UTC. A number becomes a moment when it is finite and
at most 8.64e15 in size, truncated toward zero; anything else is no moment, whose fields
all read `NaN`. Days are counted in the proleptic Gregorian calendar, so years before 1
are 0, -1, and so on. -/
namespace FolderSink

/-- The largest distance from the epoch a moment may have, in milliseconds. -/
def maxMoment : Nat := 8640000000000000

/-- The moment a number denotes, if any. -/
def Double.toMoment (x : Double) : Option Int :=
  match x.ratio? with
  | some (n, d) =>
    if n.natAbs ≤ maxMoment * d then some (n.tdiv d) else none
  | none => none

/-- The moment a value denotes as a clock reading: numbers as above, null as the epoch,
booleans as 0 and 1 ms, and text read as a date (`momentOfText`). A list is read through
its text (its items joined by commas) and a dictionary through `[object Object]`, which
is no date. A big integer is refused. -/
def Value.toMoment : Value → Except String (Option Int)
  | .num x => .ok x.toMoment
  | .none => .ok (some 0)
  | .bool b => .ok (some (if b then 1 else 0))
  | .big _ => .error "Cannot convert a BigInt value to a number"
  | .str s => .ok (momentOfText s)
  | .list xs => .ok (momentOfText (Utf16.ofString (Value.joinItems xs)))
  | .dict _ => .ok (momentOfText (Utf16.ofString "[object Object]"))

/-- A date and time of day in UTC. -/
structure CivilTime where
  year : Int
  month : Nat
  day : Nat
  hour : Nat
  minute : Nat
  second : Nat
deriving DecidableEq, Repr

namespace CivilTime

/-- The year, month and day of a count of days from 1970-01-01. -/
def ofDays (days : Int) : Int × Nat × Nat :=
  let z := days + 719468
  let era := z / 146097
  let doe := (z - era * 146097).toNat
  let yoe := (doe - doe / 1460 + doe / 36524 - doe / 146096) / 365
  let doy := doe - (365 * yoe + yoe / 4 - yoe / 100)
  let mp := (5 * doy + 2) / 153
  let d := doy - (153 * mp + 2) / 5 + 1
  let m := if mp < 10 then mp + 3 else mp - 9
  let y : Int := yoe + era * 400
  (if m ≤ 2 then y + 1 else y, m, d)

/-- The date and time of a moment. -/
def ofMoment (t : Int) : CivilTime :=
  let days := t / 86400000
  let ms := (t % 86400000).toNat
  let (y, m, d) := ofDays days
  ⟨y, m, d, ms / 3600000, ms / 60000 % 60, ms / 1000 % 60⟩

end CivilTime

/-- A field padded in front with zeros to `width` characters. -/
def padField (s : String) (width : Nat) : String :=
  String.ofList (List.replicate (width - s.length) '0') ++ s

/-- The folder stamp of a moment: year (four characters at least, a minus sign counted),
month, day, hour, minute and second (two each), joined by `_`. No moment gives `NaN` in
every field. -/
def folderStamp : Option Int → String
  | some t =>
    let c := CivilTime.ofMoment t
    "_".intercalate [padField (toString c.year) 4, padField (toString c.month) 2,
      padField (toString c.day) 2, padField (toString c.hour) 2, padField (toString c.minute) 2,
      padField (toString c.second) 2]
  | none => "_".intercalate [padField "NaN" 4, "NaN", "NaN", "NaN", "NaN", "NaN"]

end FolderSink
