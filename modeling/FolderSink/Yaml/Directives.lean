import FolderSink.Yaml.Schema
import FolderSink.Text.Blank
/-! The directives of a YAML stream and the names of tags. `%YAML 1.1` selects the YAML
1.1 schema for the next document (1.2 is the default); `%TAG !h! prefix` makes the handle
`!h!` stand for a prefix; `!!` stands for the YAML type repository. A written tag becomes
a full name: `!` alone is the non-specific tag, `!<…>` is taken verbatim, and
`handle` + `suffix` is the handle's prefix followed by the suffix with its `%XX`
escapes decoded as UTF-8; a tag whose handle is just `!` is local and stays as written. -/
namespace FolderSink

namespace Yaml

/-- The directives in force: whether the YAML 1.1 schema was selected, whether a `%YAML`
directive was given, the tag handles, and whether the next directive starts afresh. -/
structure Directives where
  legacy : Bool := false
  explicit : Bool := false
  handles : List (String × String) := [("!!", typeTag "")]
  atNextDocument : Bool := false
deriving Inhabited

/-- A problem of a directive: its offset in the directive's text, the message, and
whether it is only a warning. -/
structure DirectiveProblem where
  offset : Nat
  message : String
  warning : Bool

namespace Directives

/-- Whether a text is digits, a point and digits. -/
def isVersion (s : String) : Bool :=
  match s.toList.span Char.isDigit with
  | (a, '.' :: b) => !a.isEmpty && !b.isEmpty && b.all Char.isDigit
  | _ => false

/-- The words of a directive line: blank-trimmed and split at runs of spaces and tabs. -/
def words (line : String) : List String :=
  let parts := (trimBlank line).splitOn " " |>.flatMap (·.splitOn "\t")
  match parts.filter (· != "") with
  | [] => [""]
  | ws => ws

/-- Take in one directive line. -/
def add (d : Directives) (line : String) : Directives × List DirectiveProblem :=
  let d : Directives := if d.atNextDocument then {} else d
  match words line with
  | "%TAG" :: parts =>
    let probs := if parts.length != 2 then [⟨0, "%TAG directive should contain exactly two parts", false⟩] else []
    match parts with
    | handle :: pre :: _ => ({ d with handles := (handle, pre) :: d.handles.filter (·.1 != handle) }, probs)
    | _ => (d, probs)
  | "%YAML" :: parts =>
    let d := { d with explicit := true }
    match parts with
    | [v] =>
      if v == "1.1" then ({ d with legacy := true }, [])
      else if v == "1.2" then ({ d with legacy := false }, [])
      else (d, [⟨6, "Unsupported YAML version " ++ v, isVersion v⟩])
    | _ => (d, [⟨0, "%YAML directive should contain exactly one part", false⟩])
  | name :: _ => (d, [⟨0, "Unknown directive " ++ name, true⟩])
  | [] => (d, [])

/-- The directives a document starts with, and those in force after it: after a YAML 1.1
document the next directive starts afresh; after a 1.2 one everything is reset. -/
def atDocument (d : Directives) : Directives × Directives :=
  if d.legacy then (d, { d with atNextDocument := true })
  else (d, {})

/-- The schema of a document with these directives. -/
def schema (d : Directives) : Schema := if d.explicit && d.legacy then .legacy else .core

end Directives

namespace Percent

/-- The value of a hex digit. -/
def hexValue (c : Char) : Option Nat :=
  if '0' ≤ c && c ≤ '9' then some (c.toNat - 48)
  else if 'a' ≤ c && c ≤ 'f' then some (c.toNat - 87)
  else if 'A' ≤ c && c ≤ 'F' then some (c.toNat - 55)
  else none

/-- The text split into characters and escaped bytes (`%XX`); none when a `%` is not
followed by two hex digits. -/
def pieces : List Char → Option (List (Char ⊕ Nat))
  | [] => some []
  | '%' :: a :: b :: rest => do
    let hi ← hexValue a
    let lo ← hexValue b
    let r ← pieces rest
    pure (.inr (hi * 16 + lo) :: r)
  | '%' :: _ => none
  | c :: rest => (pieces rest).map (.inl c :: ·)

/-- The number of continuation bytes a leading byte announces, with its payload bits;
none for a byte that cannot lead. -/
def lead (b : Nat) : Option (Nat × Nat) :=
  if b < 0x80 then some (0, b)
  else if 0xC0 ≤ b && b < 0xE0 then some (1, b - 0xC0)
  else if 0xE0 ≤ b && b < 0xF0 then some (2, b - 0xE0)
  else if 0xF0 ≤ b && b < 0xF8 then some (3, b - 0xF0)
  else none

/-- Decode escaped bytes as UTF-8: a character must be encoded in the fewest bytes, and
be neither a surrogate nor above U+10FFFF. -/
def decode : List (Char ⊕ Nat) → Option (List Char)
  | [] => some []
  | .inl c :: rest => (decode rest).map (c :: ·)
  | .inr b :: rest => do
    let (n, bits) ← lead b
    let tail := rest.take n
    let conts ← tail.mapM fun p => match p with
      | .inr c => if 0x80 ≤ c && c < 0xC0 then some (c - 0x80) else none
      | .inl _ => none
    if conts.length != n then none
    let cp := conts.foldl (fun a c => a * 64 + c) bits
    let least := match n with
      | 0 => 0
      | 1 => 0x80
      | 2 => 0x800
      | _ => 0x10000
    if cp < least || (0xD800 ≤ cp && cp ≤ 0xDFFF) || cp > 0x10FFFF then none
    let r ← decode (rest.drop n)
    pure (Char.ofNat cp :: r)
termination_by ps => ps.length
decreasing_by all_goals (simp only [List.length_cons, List.length_drop]; omega)

/-- A text with its `%XX` escapes decoded as UTF-8, if they are well formed. -/
def decodeText (s : String) : Option String := do
  let ps ← pieces s.toList
  let cs ← decode ps
  pure (String.ofList cs)

end Percent

/-- The full name of a written tag, with the problems that make it unusable (an unusable
tag has no name). -/
def Directives.tagName (d : Directives) (source : String) : Option String × List String :=
  if source == "!" then (some "!", [])
  else if !source.startsWith "!" then (none, ["Not a valid tag: " ++ source])
  else
    let cs := source.toList
    if (cs.drop 1).head? == some '<' then
      let verbatim := String.ofList ((cs.drop 2).dropLast)
      if verbatim == "!" || verbatim == "!!" then
        (none, ["Verbatim tags aren't resolved, so " ++ source ++ " is invalid."])
      else
        let name := if verbatim.isEmpty then none else some verbatim
        (name, if cs.getLast? != some '>' then ["Verbatim tags must end with a >"] else [])
    else
      let suffixRev := cs.reverse.takeWhile (· != '!')
      let suffix := String.ofList suffixRev.reverse
      let handle := String.ofList (cs.take (cs.length - suffixRev.length))
      let probs := if suffix.isEmpty then ["The " ++ source ++ " tag has no suffix"] else []
      match d.handles.lookup handle with
      | some pre =>
        match Percent.decodeText suffix with
        | some s => (some (pre ++ s), probs)
        | none => (none, probs ++ ["URIError: URI malformed"])
      | none =>
        if handle == "!" then (some source, probs)
        else (none, probs ++ ["Could not resolve tag: " ++ source])

end Yaml

end FolderSink
