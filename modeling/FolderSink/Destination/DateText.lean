import FolderSink.Text.Utf16
/-! Reading a moment from text, the way the language's date constructor reads a string.

The text is cut into tokens: numbers (leading zeros skipped, at most nine significant
digits kept, every digit counted), the symbols `: - + . )`, words (runs of units from `A`
upwards that are not white space, known by their first three letters), white space, and
anything else; a parenthesised run is skipped as one token and a NUL unit ends the text.

The tokens are first read as an ISO date-time
`[±yyyyyy|yyyy][-MM[-DD]][THH:mm[:ss[.s…]][Z|±hh:mm|±hhmm]]`. A date alone is UTC, a date
with a time is local time (which is UTC here). Whatever the ISO reading cannot take is
handed, with the parts read so far, to a permissive reader that accepts numbers, month
names, `am`/`pm`, zone names and offsets in almost any order. Two-digit years of that
reader are 1950 to 2049; missing month and day are 1, missing time fields 0. A moment is
whole milliseconds from the epoch and at most 8.64e15 in size. -/
namespace FolderSink

namespace DateText

/-- What a word means: a month from 1 to 12, `am` or `pm` (an hour offset of 0 or 12), a
zone with its offset in hours, the ISO time separator `T`, or nothing known. -/
inductive Keyword where
  | month (m : Nat)
  | meridiem (offset : Nat)
  | zone (hours : Int)
  | timeSeparator
  | unknown
deriving DecidableEq, Repr

/-- A token of date text. A number keeps its value and its count of digits; a word keeps
its meaning and its length in units. -/
inductive Token where
  | number (value : Nat) (length : Nat)
  | symbol (c : Char)
  | word (k : Keyword) (length : Nat)
  | space
  | unknown
deriving DecidableEq, Repr

/-- The known words, looked up by their first three letters in this order. -/
def keywords : List (String × Keyword) :=
  [("jan", .month 1), ("feb", .month 2), ("mar", .month 3), ("apr", .month 4),
   ("may", .month 5), ("jun", .month 6), ("jul", .month 7), ("aug", .month 8),
   ("sep", .month 9), ("oct", .month 10), ("nov", .month 11), ("dec", .month 12),
   ("am", .meridiem 0), ("pm", .meridiem 12), ("ut", .zone 0), ("utc", .zone 0),
   ("z", .zone 0), ("gmt", .zone 0), ("cdt", .zone (-5)), ("cst", .zone (-6)),
   ("edt", .zone (-4)), ("est", .zone (-5)), ("mdt", .zone (-6)), ("mst", .zone (-7)),
   ("pdt", .zone (-7)), ("pst", .zone (-8)), ("t", .timeSeparator)]

/-- Three codes of a word's start, padded with zeros. -/
def prefixCodes (cs : List Nat) : List Nat := (cs ++ [0, 0, 0]).take 3

/-- Whether a meaning is a month; only month names may be longer than their three letters. -/
def Keyword.isMonth : Keyword → Bool
  | .month _ => true
  | _ => false

/-- The meaning of a word from its lower-cased first three units and its length. -/
def lookup (pre : List Nat) (len : Nat) : Keyword :=
  match keywords.find? (fun (w, k) =>
      prefixCodes (w.toList.map Char.toNat) == pre && (len ≤ 3 || k.isMonth)) with
  | some (_, k) => k
  | none => .unknown

/-- A decimal digit unit. -/
def isDigitUnit (u : UInt16) : Bool := 0x30 ≤ u.toNat && u.toNat ≤ 0x39

/-- White space of the language (line terminators apart). -/
def isSpaceUnit (u : UInt16) : Bool :=
  let n := u.toNat
  n == 0x09 || n == 0x0B || n == 0x0C || n == 0x20 || n == 0xA0 || n == 0xFEFF ||
    n == 0x1680 || (0x2000 ≤ n && n ≤ 0x200A) || n == 0x202F || n == 0x205F || n == 0x3000

/-- A line terminator. -/
def isLineEndUnit (u : UInt16) : Bool :=
  let n := u.toNat
  n == 0x0A || n == 0x0D || n == 0x2028 || n == 0x2029

/-- A unit that continues a word. -/
def isWordUnit (u : UInt16) : Bool := 0x41 ≤ u.toNat && !isSpaceUnit u

/-- A number at the front: the value of its first nine significant digits, its count of
digits, and the units after it. -/
def readNumber (us : List UInt16) : Nat × Nat × List UInt16 :=
  let ds := us.takeWhile isDigitUnit
  let value := ((ds.dropWhile (· == 0x30)).take 9).foldl (fun n u => n * 10 + (u.toNat - 0x30)) 0
  (value, ds.length, us.drop ds.length)

/-- A word at the front: its meaning, its length and the units after it. Letters are
lower-cased by setting bit 5, as the lookup expects. -/
def readWord (us : List UInt16) : Keyword × Nat × List UInt16 :=
  let w := us.takeWhile isWordUnit
  (lookup (prefixCodes ((w.take 3).map fun u => u.toNat ||| 0x20)) w.length, w.length,
    us.drop w.length)

/-- The units after a parenthesised run that starts here: nesting is counted and the run
ends where it closes, or at the end of the text. -/
def skipParens (balance : Int) : List UInt16 → List UInt16
  | [] => []
  | u :: rest =>
    let b := if u.toNat == 0x29 then balance - 1 else if u.toNat == 0x28 then balance + 1 else balance
    if b > 0 then skipParens b rest else rest

/-- The first token of some units and the units after it. -/
def scan : List UInt16 → Option (Token × List UInt16)
  | [] => none
  | u :: rest =>
    let n := u.toNat
    if isDigitUnit u then
      let (v, len, r) := readNumber (u :: rest)
      some (.number v len, r)
    else if n == 0x3A then some (.symbol ':', rest)
    else if n == 0x2D then some (.symbol '-', rest)
    else if n == 0x2B then some (.symbol '+', rest)
    else if n == 0x2E then some (.symbol '.', rest)
    else if n == 0x29 then some (.symbol ')', rest)
    else if isWordUnit u then
      let (k, len, r) := readWord (u :: rest)
      some (.word k len, r)
    else if isSpaceUnit u || isLineEndUnit u then some (.space, rest)
    else if n == 0x28 then some (.unknown, skipParens 0 (u :: rest))
    else some (.unknown, rest)

/-- The tokens of some units; every token takes at least one unit, so the length of the
text is enough fuel. -/
def tokens : Nat → List UInt16 → List Token
  | 0, _ => []
  | f + 1, us =>
    match scan us with
    | none => []
    | some (t, r) => t :: tokens f r

/-- A fraction of a second as milliseconds: its first three digits, scaled up when it has
fewer. -/
def millis (n len : Nat) : Nat :=
  if len == 1 then n * 100
  else if len == 2 then n * 10
  else if len ≤ 3 then n
  else n / Nat.pow 10 (min len 9 - 3)

/-- The date fields read so far: up to three numbers, a named month, and whether the date
was read as ISO (which fixes the field order and keeps the year as written). -/
structure DayParts where
  comps : List Int := []
  named : Option Nat := none
  iso : Bool := false
deriving Repr

/-- The time fields read so far: up to four numbers (hour, minute, second, millisecond)
and the hour offset of `am` or `pm`. -/
structure TimeParts where
  comps : List Nat := []
  meridiem : Option Nat := none
deriving Repr

/-- The zone read so far: a sign, hours and minutes, each possibly missing. -/
structure ZoneParts where
  sign : Option Int := none
  hour : Option Nat := none
  minute : Option Nat := none
deriving Repr

/-- Everything read so far. -/
structure Parts where
  day : DayParts := {}
  time : TimeParts := {}
  zone : ZoneParts := {}
deriving Repr

namespace DayParts

/-- Add a field; a fourth is refused. -/
def add (d : DayParts) (n : Int) : Option DayParts :=
  if d.comps.length < 3 then some { d with comps := d.comps ++ [n] } else none

/-- The year, month (1 to 12) and day of the fields. Missing fields are 1. Without a
month name an ISO date, or one whose first field cannot be a day, is year-month-day, and
any other is month-day-year; with a month name the first field is the year when it
cannot be a day, else the day. Outside ISO a year up to 49 is in the 2000s and one from
50 to 99 in the 1900s. -/
def write (d : DayParts) : Option (Int × Nat × Nat) :=
  if d.comps.isEmpty then none else
  let c := d.comps ++ List.replicate (3 - d.comps.length) 1
  let c0 := c.getD 0 1
  let c1 := c.getD 1 1
  let c2 := c.getD 2 1
  let isDay (x : Int) : Bool := 1 ≤ x && x ≤ 31
  let (y, m, dd) : Int × Int × Int :=
    match d.named with
    | none => if d.iso || !isDay c0 then (c0, c1, c2) else (c2, c0, c1)
    | some nm => if !isDay c0 then (c0, nm, c1) else (c1, nm, c0)
  let y := if d.iso then y
    else if 0 ≤ y && y ≤ 49 then y + 2000
    else if 50 ≤ y && y ≤ 99 then y + 1900
    else y
  if 1 ≤ m && m ≤ 12 && isDay dd then some (y, m.toNat, dd.toNat) else none

end DayParts

namespace TimeParts

/-- Add a field; a fifth is refused. -/
def add (t : TimeParts) (n : Nat) : Option TimeParts :=
  if t.comps.length < 4 then some { t with comps := t.comps ++ [n] } else none

/-- Add a last field and fill the rest with zeros; with all four fields present nothing
changes. -/
def final (t : TimeParts) (n : Nat) : TimeParts :=
  match t.add n with
  | some t => { t with comps := t.comps ++ List.replicate (4 - t.comps.length) 0 }
  | none => t

/-- Whether a number fits as the next field: a minute or a second after one or two
fields, a millisecond after three. -/
def expects (t : TimeParts) (n : Nat) : Bool :=
  (t.comps.length == 1 && n ≤ 59) || (t.comps.length == 2 && n ≤ 59) ||
    (t.comps.length == 3 && n ≤ 999)

/-- Hour, minute, second and millisecond, missing fields 0. With `am` or `pm` the hour
must be at most 12 and counts modulo 12 from the offset. `24:00:00.000` is allowed. -/
def write (t : TimeParts) : Option (Nat × Nat × Nat × Nat) :=
  let c := t.comps ++ List.replicate (4 - t.comps.length) 0
  let h := c.getD 0 0
  let m := c.getD 1 0
  let s := c.getD 2 0
  let ms := c.getD 3 0
  let hour : Option Nat := match t.meridiem with
    | none => some h
    | some off => if h ≤ 12 then some (h % 12 + off) else none
  hour.bind fun h =>
    if (h ≤ 23 && m ≤ 59 && s ≤ 59 && ms ≤ 999) || (h == 24 && m == 0 && s == 0 && ms == 0) then
      some (h, m, s, ms)
    else none

end TimeParts

namespace ZoneParts

/-- A zone of a whole number of hours. -/
def fixed (hours : Int) : ZoneParts :=
  ⟨some (if hours < 0 then -1 else 1), some hours.natAbs, some 0⟩

/-- Whether a number can be the zone's minutes: hours are there and minutes are not. -/
def expects (z : ZoneParts) (n : Nat) : Bool := z.hour.isSome && z.minute.isNone && n ≤ 59

/-- Whether the zone is exactly UTC. -/
def isUtc (z : ZoneParts) : Bool := z.hour == some 0 && z.minute == some 0

/-- The offset in seconds, none for local time. The size is taken in 32-bit unsigned
arithmetic and must fit a small integer. -/
def write (z : ZoneParts) : Option (Option Int) :=
  match z.sign with
  | none => some none
  | some s =>
    let total : Nat := (z.hour.getD 0 * 3600 + z.minute.getD 0 * 60) % Nat.pow 2 32
    if total > Nat.pow 2 31 - 1 then none else some (some (s * (total : Int)))

end ZoneParts

/-- The sign of a token `+` or `-`. -/
def signOf : Token → Option Int
  | .symbol '+' => some 1
  | .symbol '-' => some (-1)
  | _ => none

/-- Whether a token is the zone word `Z`. -/
def isZoneZ : Token → Bool
  | .word (.zone h) 1 => h == 0
  | _ => false

/-- What the ISO reading leaves: failure, or the parts read and the tokens the legacy
reader goes on with. -/
inductive IsoOutcome where
  | invalid
  | rest (p : Parts) (ts : List Token)

/-- The ISO year: a signed six-digit year (minus zero refused) or four digits. Otherwise
the tokens go to the legacy reader as they are; a refused signed year leaves its sign. -/
def isoYear : List Token → Sum (List Token) (Int × List Token)
  | t :: rest =>
    match signOf t, rest with
    | some s, .number y 6 :: r => if s < 0 && y == 0 then .inl (t :: r) else .inr (s * y, r)
    | some _, _ => .inl (t :: rest)
    | none, _ =>
      match t with
      | .number y 4 => .inr (y, rest)
      | _ => .inl (t :: rest)
  | [] => .inl []

/-- An ISO month and day after the year. `.inl` hands what is left to the legacy reader,
`.inr` goes on to the time. -/
def isoMonthDay (d : DayParts) : List Token → Sum (DayParts × List Token) (DayParts × List Token)
  | .symbol '-' :: rest =>
    match rest with
    | .number m 2 :: r =>
      if 1 ≤ m && m ≤ 12 then
        let d := { d with comps := d.comps ++ [(m : Int)] }
        match r with
        | .symbol '-' :: r2 =>
          match r2 with
          | .number dd 2 :: r3 =>
            if 1 ≤ dd && dd ≤ 31 then .inr ({ d with comps := d.comps ++ [(dd : Int)] }, r3)
            else .inl (d, r2)
          | _ => .inl (d, r2)
        | _ => .inr (d, r)
      else .inl (d, rest)
    | _ => .inl (d, rest)
  | ts => .inr (d, ts)

/-- ISO seconds and fraction after the minutes: the fields and the tokens after them. An
hour of 24 allows only zeros. -/
def isoSeconds (h24 : Bool) : List Token → Option (List Nat × List Token)
  | .symbol ':' :: rest =>
    match rest with
    | .number s 2 :: r =>
      if s > 59 || (h24 && s > 0) then none
      else match r with
        | .symbol '.' :: r2 =>
          match r2 with
          | .number f len :: r3 => if h24 && f > 0 then none else some ([s, millis f len], r3)
          | _ => none
        | _ => some ([s], r)
    | _ => none
  | ts => some ([], ts)

/-- An ISO zone: `Z`, `±hhmm` or `±hh:mm`, or none at all. -/
def isoZone : List Token → Option (ZoneParts × List Token)
  | t :: rest =>
    if isZoneZ t then some (ZoneParts.fixed 0, rest)
    else match signOf t with
      | some s =>
        match rest with
        | .number hm 4 :: r =>
          if hm / 100 ≤ 23 && hm % 100 ≤ 59 then some (⟨some s, some (hm / 100), some (hm % 100)⟩, r)
          else none
        | .number h 2 :: .symbol ':' :: .number m 2 :: r =>
          if h ≤ 23 && m ≤ 59 then some (⟨some s, some h, some m⟩, r) else none
        | _ => none
      | none => some ({}, t :: rest)
  | [] => some ({}, [])

/-- The ISO time after `T`: hours, minutes, optional seconds and fraction, an optional
zone, and then the end of the text. -/
def isoClock (d : DayParts) : List Token → IsoOutcome
  | .number h 2 :: .symbol ':' :: .number m 2 :: rest =>
    if h > 24 || m > 59 || (h == 24 && m > 0) then .invalid
    else match isoSeconds (h == 24) rest with
      | none => .invalid
      | some (secs, r) =>
        match isoZone r with
        | some (z, []) => .rest ⟨{ d with iso := true }, ⟨[h, m] ++ secs, none⟩, z⟩ []
        | _ => .invalid
  | _ => .invalid

/-- The ISO reading of the tokens. -/
def isoRead (ts : List Token) : IsoOutcome :=
  match isoYear ts with
  | .inl r => .rest {} r
  | .inr (y, r) =>
    match isoMonthDay { comps := [y] } r with
    | .inl (d, r) => .rest { day := d } r
    | .inr (d, r) =>
      match r with
      | [] => .rest ⟨{ d with iso := true }, {}, ZoneParts.fixed 0⟩ []
      | .word .timeSeparator _ :: r => isoClock d r
      | r => .rest { day := d } r

/-- Drop a `-` at the front. -/
def skipDash : List Token → List Token
  | .symbol '-' :: r => r
  | r => r

/-- Whether a token may directly follow a time's last field. -/
def endsTime : List Token → Bool
  | [] => true
  | t :: _ => t == .space || isZoneZ t || (signOf t).isSome

/-- The legacy reader, one token at a time; `read` says whether a number was read. A
number followed by `:` is an hour or minute, one followed by `.` a second with its
fraction, a number the zone or the time expects goes there, and any other number is a
date field. Words are month names, `am`/`pm` after a time, zone names after a number, or
garbage, allowed only before the first number and not right before one. A sign after a
time or after UTC starts an offset; another sign or `)` after a number is an error. -/
def legacy : Nat → Bool → Parts → List Token → Option Parts
  | 0, _, p, _ => some p
  | _, _, p, [] => some p
  | f + 1, read, p, tok :: rest =>
    match tok with
    | .number n _ =>
      match rest with
      | .symbol ':' :: r1 =>
        match r1 with
        | .symbol ':' :: r2 =>
          if p.time.comps.isEmpty then legacy f true { p with time := { p.time with comps := [n, 0] } } r2
          else none
        | _ =>
          match p.time.add n with
          | none => none
          | some t =>
            legacy f true { p with time := t } (match r1 with | .symbol '.' :: r2 => r2 | _ => r1)
      | _ =>
        let (dot, r1) : Bool × List Token := match rest with
          | .symbol '.' :: r => (true, r)
          | r => (false, r)
        if dot && p.time.expects n then
          match r1 with
          | .number m len :: r2 =>
            legacy f true { p with time := (p.time.final n).final (millis m len) } r2
          | _ => none
        else if p.zone.expects n then legacy f true { p with zone := { p.zone with minute := some n } } r1
        else if p.time.expects n then
          if endsTime r1 then legacy f true { p with time := p.time.final n } r1 else none
        else match p.day.add n with
          | none => none
          | some d => legacy f true { p with day := d } (skipDash r1)
    | .word k _ =>
      let garbage : Option Parts :=
        if read then none
        else match rest with
          | .number _ _ :: _ => none
          | _ => legacy f read p rest
      match k with
      | .meridiem off =>
        if p.time.comps.isEmpty then garbage
        else legacy f read { p with time := { p.time with meridiem := some off } } rest
      | .month m => legacy f read { p with day := { p.day with named := some m } } (skipDash rest)
      | .zone h => if read then legacy f read { p with zone := ZoneParts.fixed h } rest else garbage
      | _ => garbage
    | t =>
      match signOf t with
      | some s =>
        if p.zone.isUtc || !p.time.comps.isEmpty then
          let (n, len, r1) : Nat × Nat × List Token := match rest with
            | .number n len :: r => (n, len, r)
            | r => (0, 0, r)
          let z := { p.zone with sign := some s }
          match r1 with
          | .symbol ':' :: _ => legacy f true { p with zone := { z with hour := some n, minute := none } } r1
          | _ =>
            if len == 1 || len == 2 then
              legacy f true { p with zone := { z with hour := some n, minute := some 0 } } r1
            else if len == 3 || len == 4 then
              legacy f true { p with zone := { z with hour := some (n / 100), minute := some (n % 100) } } r1
            else none
        else if read then none
        else legacy f read p rest
      | none =>
        if t == .symbol ')' && read then none else legacy f read p rest

/-- Days from 1970-01-01 to a date of the proleptic Gregorian calendar. -/
def daysFromCivil (y : Int) (m d : Nat) : Int :=
  let y := if m ≤ 2 then y - 1 else y
  let era := y / 400
  let yoe := y - era * 400
  let mp : Int := ((m + 9) % 12 : Nat)
  let doy := (153 * mp + 2) / 5 + d - 1
  let doe := yoe * 365 + yoe / 4 - yoe / 100 + doy
  era * 146097 + doe - 719468

/-- The moment of the parts read: every field must be valid, the year within a million
of zero, and the moment, its offset taken away, within 8.64e15 ms of the epoch. -/
def Parts.moment (p : Parts) : Option Int := do
  let (y, m, d) ← p.day.write
  let (h, mi, s, ms) ← p.time.write
  let off ← p.zone.write
  if y < -1000000 || y > 1000000 then none
  let t := (daysFromCivil y m 1 + (d - 1 : Int)) * 86400000 +
    ((h * 3600000 + mi * 60000 + s * 1000 + ms : Nat) : Int) - off.getD 0 * 1000
  if t.natAbs ≤ 8640000000000000 then some t else none

end DateText

/-- The moment a text denotes, if it reads as a date (see the module note). -/
def momentOfText (s : Utf16) : Option Int :=
  let us := s.takeWhile (· != 0)
  let ts := DateText.tokens (us.length + 1) us
  match DateText.isoRead ts with
  | .invalid => none
  | .rest p r => (DateText.legacy (r.length + 1) (!p.day.comps.isEmpty) p r).bind DateText.Parts.moment

end FolderSink
