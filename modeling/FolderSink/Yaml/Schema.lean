import FolderSink.Yaml.Node
import FolderSink.Number.Literal
/-! The two schemas a document can be read with, and the scalar tags they hold. The YAML
1.2 core schema reads untagged plain text as null (`~`, `null`, nothing), a boolean
(`true`, `False`, …), an integer (decimal with a sign, `0o` octal, `0x` hex) or a float
(`.inf`, `.nan`, a decimal with a point or an exponent); the YAML 1.1 schema, chosen by
`%YAML 1.1`, adds `yes`/`no`/`on`/`off`, binary and sexagesimal (`1:20`) numbers,
underscores in digits, timestamps, and `<<` as the merge key. Everything else is a
string. Each tag has a test on the text for when it applies unwritten, and a reading of
the text; a tag written on a node is looked up by its full name. -/
namespace FolderSink

namespace Yaml

/-- The full name of a tag of the YAML type repository. -/
def typeTag (short : String) : String := "tag:yaml.org,2002:" ++ short

/-- When a scalar tag applies to untagged plain text whose test it passes. -/
inductive Implicit where
  | always
  | atKey
  | never
deriving DecidableEq, Repr

/-- A scalar tag: its full name, when it applies unwritten, its test on the text, and
how it reads the text (or why it cannot). -/
structure ScalarTag where
  name : String
  implicit : Implicit
  test : Option (List Char → Bool)
  resolve : Utf16 → Except String Datum

/-- The schema a document is read with. -/
inductive Schema where
  /-- The YAML 1.2 core schema. -/
  | core
  /-- The YAML 1.1 types. -/
  | legacy
deriving DecidableEq, Repr

/-- The collection tags beyond the plain mapping and sequence. -/
inductive CollectionTag where
  /-- The tag `!!omap`: a sequence of single pairs with distinct keys. -/
  | omap
  /-- The tag `!!pairs`: a sequence of single pairs. -/
  | pairs
  /-- The tag `!!set`: a mapping whose values are all null. -/
  | set
deriving DecidableEq, Repr

namespace Text

/-- Without one leading sign, and whether it was a minus. -/
def unsign : List Char → Bool × List Char
  | '-' :: r => (true, r)
  | '+' :: r => (false, r)
  | r => (false, r)

/-- Whether a character is an ASCII digit. -/
def digit (c : Char) : Bool := '0' ≤ c && c ≤ '9'

/-- Whether a character is a hex digit. -/
def hexDigit (c : Char) : Bool := digit c || ('a' ≤ c && c ≤ 'f') || ('A' ≤ c && c ≤ 'F')

/-- One or more characters, all passing a test. -/
def some1 (p : Char → Bool) (cs : List Char) : Bool := !cs.isEmpty && cs.all p

/-- Digits as `[0-9][0-9_]*`: a digit, then digits and underscores. -/
def leadDigit : List Char → Bool
  | c :: r => digit c && r.all fun d => digit d || d == '_'
  | [] => false

/-- Whether a text is a null of both schemas: `~`, `null`, `Null`, `NULL` or nothing. -/
def isNull (cs : List Char) : Bool :=
  cs.isEmpty || cs == ['~'] || cs == "null".toList || cs == "Null".toList || cs == "NULL".toList

/-- Whether a text is `.inf`, `.nan` or one of their spellings, infinities with an optional sign. -/
def isSpecialFloat (cs : List Char) : Bool :=
  let infs := [".inf", ".Inf", ".INF"].map String.toList
  infs.contains (unsign cs).2 && cs.length ≤ 5 ||
    [".nan", ".NaN", ".NAN"].any fun s => s.toList == cs

/-- The core schema's exponent float: a mantissa (`.5`, `1`, `1.`, `1.5`), then `e` or
`E`, a sign and digits. -/
def isCoreExp (cs : List Char) : Bool :=
  match (unsign cs).2.span fun c => c != 'e' && c != 'E' with
  | (mant, _ :: ex) =>
    let mantOk := match mant with
      | '.' :: frac => some1 digit frac
      | _ => match mant.span digit with
        | (whole, []) => !whole.isEmpty
        | (whole, '.' :: frac) => !whole.isEmpty && frac.all digit
        | _ => false
    mantOk && some1 digit (unsign ex).2
  | _ => false

/-- The core schema's pointed float: `.5`, `1.` or `1.5`, with an optional sign. -/
def isCoreFloat (cs : List Char) : Bool :=
  match (unsign cs).2 with
  | '.' :: frac => some1 digit frac
  | r => match r.span digit with
    | (whole, '.' :: frac) => !whole.isEmpty && frac.all digit
    | _ => false

/-- The YAML 1.1 float: optional digits with underscores, a point, more of them. -/
def isLegacyFloat (cs : List Char) : Bool :=
  match (unsign cs).2.span (· != '.') with
  | (whole, '.' :: frac) => (whole.isEmpty || leadDigit whole) && frac.all fun c => digit c || c == '_'
  | _ => false

/-- The YAML 1.1 exponent float: an optional 1.1 mantissa, `e`, a sign and digits. -/
def isLegacyExp (cs : List Char) : Bool :=
  match (unsign cs).2.span fun c => c != 'e' && c != 'E' with
  | (mant, _ :: ex) =>
    let mantOk := match mant.span (· != '.') with
      | (whole, []) => whole.isEmpty || leadDigit whole
      | (whole, '.' :: frac) => (whole.isEmpty || leadDigit whole) && frac.all fun c => digit c || c == '_'
      | _ => false
    mantOk && some1 digit (unsign ex).2
  | _ => false

/-- The groups after the first of a sexagesimal number: each `:` and one digit, or two
whose first is at most 5. -/
def sexagesimalGroups (gs : List (List Char)) : Bool :=
  !gs.isEmpty && gs.all fun g => match g with
    | [d] => digit d
    | [a, b] => '0' ≤ a && a ≤ '5' && digit b
    | _ => false

/-- A YAML 1.1 sexagesimal integer: `190:20:30`. -/
def isSexagesimalInt (cs : List Char) : Bool :=
  match (unsign cs).2.splitOn ':' with
  | first :: rest => leadDigit first && sexagesimalGroups rest
  | [] => false

/-- A YAML 1.1 sexagesimal float: `190:20:30.15`. -/
def isSexagesimalFloat (cs : List Char) : Bool :=
  match (unsign cs).2.span (· != '.') with
  | (whole, '.' :: frac) => isSexagesimalInt whole && frac.all fun c => digit c || c == '_'
  | _ => false

/-- At most `n` digits from the front, at least one. -/
def digitsUpTo (n : Nat) (cs : List Char) : Option (List Char) :=
  let ds := (cs.takeWhile digit).take n
  if ds.isEmpty then none else some (cs.drop ds.length)

/-- A time zone after a timestamp: `Z`, or a sign, an hour (a second digit only after
`0`, `1` or `2`) and optional `:` minutes; blanks may come before it. -/
def isZone (cs : List Char) : Bool :=
  let minutes (r : List Char) : Bool := r.isEmpty || (match r with
    | [':', a, b] => digit a && digit b
    | _ => false)
  match cs.dropWhile fun c => c == ' ' || c == '\t' with
  | ['Z'] => true
  | s :: r =>
    (s == '-' || s == '+') && (match r with
      | a :: b :: rest => (('0' ≤ a && a ≤ '2') && digit b && minutes rest) || (digit a && minutes (b :: rest))
      | [a] => digit a
      | [] => false)
  | [] => cs.isEmpty

/-- A YAML 1.1 timestamp: `2001-12-14`, optionally followed by `t`, `T` or blanks, a
time `21:59:43.10`, and a zone. -/
def isTimestamp (cs : List Char) : Bool :=
  let date := do
    let r ← digitsUpTo 4 cs
    if cs.length - r.length != 4 then none
    let r ← match r with | '-' :: r => some r | _ => none
    let r ← digitsUpTo 2 r
    let r ← match r with | '-' :: r => some r | _ => none
    digitsUpTo 2 r
  match date with
  | none => false
  | some [] => true
  | some r =>
    let afterSep := match r with
      | 't' :: r | 'T' :: r => some r
      | c :: _ => if c == ' ' || c == '\t' then some (r.dropWhile fun c => c == ' ' || c == '\t') else none
      | [] => none
    let time := do
      let r ← afterSep
      let r ← digitsUpTo 2 r
      let r ← match r with | ':' :: r => some r | _ => none
      let r ← digitsUpTo 2 r
      let r ← match r with | ':' :: r => some r | _ => none
      let r ← digitsUpTo 2 r
      match r with
      | '.' :: f => if (f.takeWhile digit).isEmpty then none else some (f.dropWhile digit)
      | _ => some r
    match time with
    | none => false
    | some r => r.isEmpty || isZone r

end Text

namespace Number

/-- The integer of digits of a radix; NaN when there are none. -/
def ofDigits (radix : Nat) (cs : List Char) : Double :=
  match Literal.digitsValue radix cs with
  | some v => Double.ofNat v
  | none => Double.nan

/-- The longest prefix of a text that reads as a decimal number, read; NaN when no
prefix does. A sign, digits with an optional point and fraction, and an exponent whose
digits are there; `Infinity` too. -/
def ofDecimalPrefix (cs : List Char) : Double :=
  let (neg, r) := Text.unsign cs
  if "Infinity".toList.isPrefixOf r then Double.infinity neg
  else
    let whole := r.takeWhile Text.digit
    let r1 := r.drop whole.length
    let (frac, r2) := match r1 with
      | '.' :: f => (some (f.takeWhile Text.digit), f.dropWhile Text.digit)
      | _ => (none, r1)
    let fracDigits := frac.getD []
    if whole.isEmpty && fracDigits.isEmpty then Double.nan
    else
      let expText : List Char := match r2 with
        | e :: rest =>
          if e == 'e' || e == 'E' then
            let (eneg, ds) := Text.unsign rest
            let ds := ds.takeWhile Text.digit
            if ds.isEmpty then [] else [e] ++ (if eneg then ['-'] else []) ++ ds
          else []
        | [] => []
      let mant := whole ++ (match frac with | some f => '.' :: f | none => [])
      Literal.unsigned neg (mant ++ expText)

/-- A sexagesimal number: the groups between `:` read as numbers and each one multiplied
by sixty before the next is added, then the sign applied. -/
def ofSexagesimal (cs : List Char) : Double :=
  let (neg, r) := Text.unsign cs
  let groups := (r.filter (· != '_')).splitOn ':'
  let sixty := Double.ofNat 60
  let v := groups.foldl (fun acc g => (acc.mul sixty).add (Double.ofLiteral (String.ofList g)))
    (Double.zero false)
  if neg then v.neg else v

/-- A YAML 1.1 integer: the sign, then after `skip` prefix characters the digits of the
radix without underscores; a minus negates (so `-0` is the negative zero). -/
def ofLegacyInt (skip radix : Nat) (cs : List Char) : Double :=
  let (neg, r) := Text.unsign cs
  let v := ofDigits radix ((r.drop skip).filter (· != '_'))
  if neg then v.neg else v

end Number

/-- A scalar tag that applies unwritten whenever its test passes. -/
def implicitTag (short : String) (test : List Char → Bool) (resolve : List Char → Datum) : ScalarTag :=
  ⟨typeTag short, .always, some test, fun t => .ok (resolve t.toText.toList)⟩

/-- The string tag: every text reads as itself. -/
def strTag : ScalarTag := ⟨typeTag "str", .always, none, fun t => .ok (.str t)⟩

/-- The null tag of both schemas. -/
def nullTag : ScalarTag := implicitTag "null" Text.isNull fun _ => .null

/-- The floats `.inf`, `-.inf` and `.nan` of both schemas. -/
def specialFloatTag : ScalarTag :=
  implicitTag "float" Text.isSpecialFloat fun cs =>
    let low := (cs.drop (cs.length - 3)).map Char.toLower
    if low == "nan".toList then .num Double.nan
    else .num (Double.infinity (cs.head? == some '-'))

/-- Binary data (`!!binary`). -/
def binaryTag : ScalarTag := ⟨typeTag "binary", .never, none, fun _ => .ok .bytes⟩

/-- The merge key `<<`, which applies unwritten only to keys. -/
def mergeTag : ScalarTag := ⟨typeTag "merge", .atKey, some (· == ['<', '<']), fun _ => .ok .merge⟩

/-- Timestamps: a text that is no timestamp cannot be read with this tag. -/
def timestampTag (implicit : Implicit) : ScalarTag :=
  ⟨typeTag "timestamp", implicit, some Text.isTimestamp, fun t =>
    if Text.isTimestamp t.toText.toList then .ok .date
    else .error "!!timestamp expects a date, starting with yyyy-mm-dd"⟩

/-- The scalar tags of the core schema, in the order they are tried. -/
def coreTags : List ScalarTag :=
  [strTag, nullTag,
   implicitTag "bool" (fun cs => ["true", "True", "TRUE", "false", "False", "FALSE"].any (·.toList == cs))
     fun cs => .bool (cs.head? == some 't' || cs.head? == some 'T'),
   implicitTag "int" (fun cs => cs.take 2 == ['0', 'o'] && Text.some1 (fun c => '0' ≤ c && c ≤ '7') (cs.drop 2))
     fun cs => .num (Number.ofDigits 8 (cs.drop 2)),
   implicitTag "int" (fun cs => Text.some1 Text.digit (Text.unsign cs).2)
     fun cs => let (neg, r) := Text.unsign cs
       let v := Number.ofDigits 10 r
       .num (if neg then v.neg else v),
   implicitTag "int" (fun cs => cs.take 2 == ['0', 'x'] && Text.some1 Text.hexDigit (cs.drop 2))
     fun cs => .num (Number.ofDigits 16 (cs.drop 2)),
   specialFloatTag,
   implicitTag "float" Text.isCoreExp fun cs => .num (Number.ofDecimalPrefix cs),
   implicitTag "float" Text.isCoreFloat fun cs => .num (Number.ofDecimalPrefix cs)]

/-- The scalar tags of the YAML 1.1 schema, in the order they are tried. -/
def legacyTags : List ScalarTag :=
  let underscored (p : Char → Bool) (cs : List Char) : Bool := Text.some1 (fun c => p c || c == '_') cs
  [strTag, nullTag,
   implicitTag "bool" (fun cs => ["Y", "y", "Yes", "yes", "YES", "True", "true", "TRUE", "On", "on", "ON"].any (·.toList == cs))
     fun _ => .bool true,
   implicitTag "bool" (fun cs => ["N", "n", "No", "no", "NO", "False", "false", "FALSE", "Off", "off", "OFF"].any (·.toList == cs))
     fun _ => .bool false,
   implicitTag "int" (fun cs => let r := (Text.unsign cs).2
       r.take 2 == ['0', 'b'] && underscored (fun c => c == '0' || c == '1') (r.drop 2))
     fun cs => .num (Number.ofLegacyInt 2 2 cs),
   implicitTag "int" (fun cs => let r := (Text.unsign cs).2
       r.take 1 == ['0'] && underscored (fun c => '0' ≤ c && c ≤ '7') (r.drop 1))
     fun cs => .num (Number.ofLegacyInt 1 8 cs),
   implicitTag "int" (fun cs => Text.leadDigit (Text.unsign cs).2)
     fun cs => .num (Number.ofLegacyInt 0 10 cs),
   implicitTag "int" (fun cs => let r := (Text.unsign cs).2
       r.take 2 == ['0', 'x'] && underscored Text.hexDigit (r.drop 2))
     fun cs => .num (Number.ofLegacyInt 2 16 cs),
   specialFloatTag,
   implicitTag "float" Text.isLegacyExp fun cs => .num (Number.ofDecimalPrefix (cs.filter (· != '_'))),
   implicitTag "float" Text.isLegacyFloat fun cs => .num (Number.ofDecimalPrefix (cs.filter (· != '_'))),
   binaryTag, mergeTag,
   implicitTag "int" Text.isSexagesimalInt fun cs => .num (Number.ofSexagesimal cs),
   implicitTag "float" Text.isSexagesimalFloat fun cs => .num (Number.ofSexagesimal cs),
   timestampTag .always]

namespace Schema

/-- The scalar tags of a schema, in the order they are tried. -/
def scalarTags : Schema → List ScalarTag
  | .core => coreTags
  | .legacy => legacyTags

/-- The tags the core schema knows by name only: written, they apply; unwritten, never. -/
def knownScalar : Schema → String → Option ScalarTag
  | .core, name =>
    if name == typeTag "binary" then some binaryTag
    else if name == typeTag "merge" then some mergeTag
    else if name == typeTag "timestamp" then some (timestampTag .never)
    else none
  | .legacy, _ => none

/-- Whether a tag applies unwritten to a text, at a key or elsewhere. -/
def applies (atKey : Bool) (t : ScalarTag) (cs : List Char) : Bool :=
  (t.implicit == .always || (atKey && t.implicit == .atKey)) && (t.test.map (· cs)).getD false

/-- The tag of an untagged plain scalar: the first that applies, else the string tag. -/
def byTest (s : Schema) (atKey : Bool) (text : Utf16) : ScalarTag :=
  let cs := text.toText.toList
  (s.scalarTags.find? fun t => applies atKey t cs).getD strTag

/-- The tag a written tag name gives a scalar: of the schema's tags of that name, the
first with no test (or not applying unwritten), else the first whose test the text
passes; else a known tag of that name. -/
def byName (s : Schema) (name : String) (text : Utf16) : Option ScalarTag :=
  let named := s.scalarTags.filter (·.name == name)
  let tested (t : ScalarTag) : Bool := t.implicit != .never && t.test.isSome
  match named.find? fun t => !tested t with
  | some t => some t
  | none =>
    let cs := text.toText.toList
    match named.find? fun t => (t.test.map (· cs)).getD false with
    | some t => some t
    | none => s.knownScalar name

/-- The collection tag a written tag name gives a mapping (`forMap`) or a sequence. -/
def collectionTag (name : String) (forMap : Bool) : Option CollectionTag :=
  if forMap then (if name == typeTag "set" then some .set else none)
  else if name == typeTag "omap" then some .omap
  else if name == typeTag "pairs" then some .pairs
  else none

end Schema

end Yaml

end FolderSink
