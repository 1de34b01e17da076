import FolderSink.Glob.Category
import FolderSink.Text.Utf16
/-! The regular expressions that glob patterns compile to, read from their source text and
matched against a name. The reader knows characters and escapes, `.`, character classes
with ranges and category escapes, groups, alternation, the quantifiers `*`, `+`, `?`, the
anchors `^` and `$`, and lookahead. In the default mode a pattern and a subject are
sequences of UTF-16 units; in the Unicode mode (`unicode`) they are code points, and an
escape of a character that has no meaning is an error. A test succeeds when a match
starts anywhere in the subject; matching collects every end position, so greedy and lazy
quantifiers do not differ. -/
namespace FolderSink

namespace Regex

/-- A member of a character class. -/
inductive ClassItem where
  | single (c : Nat)
  | range (lo hi : Nat)
  | category (k : Category)
deriving Repr

/-- A regular expression. -/
inductive Node where
  | empty
  | char (c : Nat)
  | anyChar
  | charClass (negated : Bool) (items : List ClassItem)
  | seq (a b : Node)
  | alt (a b : Node)
  | rep (r : Node) (min : Nat) (max : Option Nat)
  | lineStart
  | lineEnd
  | lookahead (negated : Bool) (r : Node)
deriving Repr

/-- Why a source is not a regular expression. -/
inductive SyntaxFault where
  | nothingToRepeat
  | invalidEscape
  | invalidClassEscape
  | loneBracket
  | unterminatedGroup
  | unmatchedParen
  | unterminatedClass
  | rangeOutOfOrder
  | invalidPropertyName
  | invalidGroup
  | trailingBackslash
  | tooDeep
deriving DecidableEq, Repr

namespace SyntaxFault

/-- The fault as the engine words it. -/
def text : SyntaxFault → String
  | .nothingToRepeat => "Nothing to repeat"
  | .invalidEscape => "Invalid escape"
  | .invalidClassEscape => "Invalid class escape"
  | .loneBracket => "Lone quantifier brackets"
  | .unterminatedGroup => "Unterminated group"
  | .unmatchedParen => "Unmatched ')'"
  | .unterminatedClass => "Unterminated character class"
  | .rangeOutOfOrder => "Range out of order in character class"
  | .invalidPropertyName => "Invalid property name"
  | .invalidGroup => "Invalid group"
  | .trailingBackslash => "\\ at end of pattern"
  | .tooDeep => "Regular expression too large"

end SyntaxFault

/-- Characters with a meaning of their own: `^ $ \ . * + ? ( ) [ ] { } |` and `/`. -/
def isSyntaxChar (c : Nat) : Bool :=
  [0x5E, 0x24, 0x5C, 0x2E, 0x2A, 0x2B, 0x3F, 0x28, 0x29, 0x5B, 0x5D, 0x7B, 0x7D, 0x7C, 0x2F].contains c

/-- The control character of an escape letter `t n r v f`. -/
def controlEscape (c : Nat) : Option Nat :=
  if c = 0x74 then some 9 else if c = 0x6E then some 10 else if c = 0x72 then some 13
  else if c = 0x76 then some 11 else if c = 0x66 then some 12 else none

/-- The value of a hex digit. -/
def hexValue (c : Nat) : Option Nat :=
  if 0x30 ≤ c ∧ c ≤ 0x39 then some (c - 0x30)
  else if 0x61 ≤ c ∧ c ≤ 0x66 then some (c - 0x61 + 10)
  else if 0x41 ≤ c ∧ c ≤ 0x46 then some (c - 0x41 + 10)
  else none

/-- A class atom: one character or a category, with what follows. -/
def classAtom (unicode : Bool) : List Nat → Except SyntaxFault (ClassItem × List Nat)
  | 0x5C :: c :: rest =>
    if c = 0x62 then .ok (.single 8, rest)
    else if let some v := controlEscape c then .ok (.single v, rest)
    else if c = 0x78 then
      match rest with
      | h₁ :: h₂ :: r =>
        match hexValue h₁, hexValue h₂ with
        | some a, some b => .ok (.single (16 * a + b), r)
        | _, _ => if unicode then .error .invalidClassEscape else .ok (.single c, rest)
      | _ => if unicode then .error .invalidClassEscape else .ok (.single c, rest)
    else if unicode ∧ c = 0x70 then
      match rest with
      | 0x7B :: r =>
        let name := r.takeWhile (· ≠ 0x7D)
        let after := r.drop name.length
        match after with
        | 0x7D :: r' =>
          match Category.ofName? (String.ofList (name.map Char.ofNat)) with
          | some k => .ok (.category k, r')
          | none => .error .invalidPropertyName
        | _ => .error .invalidPropertyName
      | _ => .error .invalidPropertyName
    else if unicode ∧ !(isSyntaxChar c || c = 0x2D) then .error .invalidClassEscape
    else .ok (.single c, rest)
  | [0x5C] => .error .trailingBackslash
  | c :: rest => .ok (.single c, rest)
  | [] => .error .unterminatedClass

/-- The members of a class up to its closing `]`, with what follows it. -/
def classItems (unicode : Bool) : Nat → List Nat → Except SyntaxFault (List ClassItem × List Nat)
  | 0, _ => .error .tooDeep
  | _, 0x5D :: rest => .ok ([], rest)
  | fuel + 1, cs => do
    let (a, rest) ← classAtom unicode cs
    match rest with
    | 0x2D :: r@(c :: _) =>
      if c = 0x5D then
        let (more, r') ← classItems unicode fuel r
        pure (a :: .single 0x2D :: more, r')
      else
        let (b, r') ← classAtom unicode r
        match a, b with
        | .single lo, .single hi =>
          if lo > hi then throw .rangeOutOfOrder
          let (more, r'') ← classItems unicode fuel r'
          pure (.range lo hi :: more, r'')
        | _, _ =>
          if unicode then throw .invalidClassEscape
          let (more, r'') ← classItems unicode fuel r'
          pure (a :: .single 0x2D :: b :: more, r'')
    | _ =>
      let (more, r') ← classItems unicode fuel rest
      pure (a :: more, r')

/-- A quantifier after an atom, if any: its bounds and what follows it (a lazy `?`
dropped). -/
def quantifier (cs : List Nat) : Option ((Nat × Option Nat) × List Nat) :=
  let bounds : Option ((Nat × Option Nat) × List Nat) :=
    match cs with
    | 0x2A :: r => some ((0, none), r)
    | 0x2B :: r => some ((1, none), r)
    | 0x3F :: r => some ((0, some 1), r)
    | _ => none
  bounds.map fun (b, r) =>
    match r with
    | 0x3F :: r' => (b, r')
    | _ => (b, r)

/-- Whether a character starts a quantifier. -/
def isQuantifierStart (c : Nat) : Bool := c = 0x2A || c = 0x2B || c = 0x3F

/-- An atom with the quantifier that follows it. -/
def quantified (atom : Node) (cs : List Nat) : Except SyntaxFault (Node × List Nat) :=
  match quantifier cs with
  | some ((lo, hi), r) =>
    if (r.head?.map isQuantifierStart).getD false then .error .nothingToRepeat
    else .ok (.rep atom lo hi, r)
  | none => .ok (atom, cs)

mutual

/-- Alternatives separated by `|`, up to a `)` or the end. -/
def disjunction (unicode : Bool) : Nat → List Nat → Except SyntaxFault (Node × List Nat)
  | 0, _ => .error .tooDeep
  | fuel + 1, cs => do
    let (a, rest) ← alternative unicode fuel cs
    match rest with
    | 0x7C :: r =>
      let (b, r') ← disjunction unicode fuel r
      pure (.alt a b, r')
    | _ => pure (a, rest)

/-- A sequence of terms, up to a `|`, a `)` or the end. -/
def alternative (unicode : Bool) : Nat → List Nat → Except SyntaxFault (Node × List Nat)
  | 0, _ => .error .tooDeep
  | _, [] => .ok (.empty, [])
  | _, cs@(0x7C :: _) => .ok (.empty, cs)
  | _, cs@(0x29 :: _) => .ok (.empty, cs)
  | fuel + 1, cs => do
    let (t, rest) ← term unicode fuel cs
    let (more, rest') ← alternative unicode fuel rest
    pure (.seq t more, rest')

/-- One term: an assertion, or an atom with an optional quantifier. -/
def term (unicode : Bool) : Nat → List Nat → Except SyntaxFault (Node × List Nat)
  | 0, _ => .error .tooDeep
  | fuel + 1, cs => do
    match cs with
    | 0x5E :: r =>
      if (r.head?.map isQuantifierStart).getD false then throw .nothingToRepeat
      pure (.lineStart, r)
    | 0x24 :: r =>
      if (r.head?.map isQuantifierStart).getD false then throw .nothingToRepeat
      pure (.lineEnd, r)
    | 0x28 :: 0x3F :: 0x21 :: r =>
      let (inner, r') ← group unicode fuel r
      if unicode ∧ (r'.head?.map isQuantifierStart).getD false then throw .nothingToRepeat
      quantified (.lookahead true inner) r'
    | 0x28 :: 0x3F :: 0x3D :: r =>
      let (inner, r') ← group unicode fuel r
      if unicode ∧ (r'.head?.map isQuantifierStart).getD false then throw .nothingToRepeat
      quantified (.lookahead false inner) r'
    | 0x28 :: 0x3F :: 0x3A :: r =>
      let (inner, r') ← group unicode fuel r
      quantified inner r'
    | 0x28 :: 0x3F :: _ => throw .invalidGroup
    | 0x28 :: r =>
      let (inner, r') ← group unicode fuel r
      quantified inner r'
    | 0x5B :: 0x5E :: r =>
      let (items, r') ← classItems unicode (r.length + 1) r
      quantified (.charClass true items) r'
    | 0x5B :: r =>
      let (items, r') ← classItems unicode (r.length + 1) r
      quantified (.charClass false items) r'
    | 0x2E :: r => quantified .anyChar r
    | 0x5C :: c :: r =>
      if let some v := controlEscape c then quantified (.char v) r
      else if unicode ∧ !isSyntaxChar c then throw .invalidEscape
      else quantified (.char c) r
    | [0x5C] => throw .trailingBackslash
    | c :: r =>
      if isQuantifierStart c then throw .nothingToRepeat
      if unicode ∧ (c = 0x7B ∨ c = 0x7D ∨ c = 0x5D) then throw .loneBracket
      quantified (.char c) r
    | [] => pure (.empty, [])

/-- The inside of a group and what follows its `)`. -/
def group (unicode : Bool) : Nat → List Nat → Except SyntaxFault (Node × List Nat)
  | 0, _ => .error .tooDeep
  | fuel + 1, cs => do
    let (inner, rest) ← disjunction unicode fuel cs
    match rest with
    | 0x29 :: r => pure (inner, r)
    | _ => throw .unterminatedGroup

end

/-- Read a whole source. -/
def parse (unicode : Bool) (cs : List Nat) : Except SyntaxFault Node := do
  let (n, rest) ← disjunction unicode (4 * cs.length + 8) cs
  match rest with
  | [] => pure n
  | _ => throw .unmatchedParen

/-- Line terminators, which `.` does not match. -/
def isLineBreak (c : Nat) : Bool := c = 10 || c = 13 || c = 0x2028 || c = 0x2029

/-- Whether a class member holds a character. -/
def ClassItem.holds (c : Nat) : ClassItem → Bool
  | .single d => c == d
  | .range lo hi => lo ≤ c && c ≤ hi
  | .category k => k.contains c

/-- Add positions to a sorted list without repeats. -/
def addAll (xs ys : List Nat) : List Nat :=
  ys.foldl (fun acc y => if acc.contains y then acc else acc ++ [y]) xs

/-- All end positions of matches of a node that start at `i` in `s`. -/
def ends (s : Array Nat) : Node → Nat → List Nat
  | .empty, i => [i]
  | .char c, i => if s[i]? = some c then [i + 1] else []
  | .anyChar, i =>
    match s[i]? with
    | some c => if isLineBreak c then [] else [i + 1]
    | none => []
  | .charClass neg items, i =>
    match s[i]? with
    | some c => if items.any (·.holds c) != neg then [i + 1] else []
    | none => []
  | .seq a b, i => (ends s a i).foldl (fun acc j => addAll acc (ends s b j)) []
  | .alt a b, i => addAll (ends s a i) (ends s b i)
  | .rep r lo hi, i =>
    let step (ps : List Nat) : List Nat := ps.foldl (fun acc p => addAll acc (ends s r p)) []
    let mandatory := (List.range lo).foldl (fun ps _ => step ps) [i]
    let rounds := match hi with
      | some h => h - lo
      | none => s.size + 1
    let (_, acc) := (List.range rounds).foldl (fun (frontier, acc) _ =>
      let next := (step frontier).filter (fun p => !acc.contains p)
      (next, acc ++ next)) (mandatory, mandatory)
    acc
  | .lineStart, i => if i = 0 then [i] else []
  | .lineEnd, i => if i = s.size then [i] else []
  | .lookahead neg r, i => if (ends s r i).isEmpty == neg then [i] else []

/-- Whether a match starts somewhere in the subject. -/
def test (n : Node) (s : Array Nat) : Bool :=
  (List.range (s.size + 1)).any fun i => !(ends s n i).isEmpty

end Regex

/-- A compiled regular expression: its source (`^…$` included), its mode, and its node. -/
structure CompiledRegex where
  source : Utf16
  unicode : Bool
  node : Regex.Node

namespace CompiledRegex

/-- Compile a source, or give the engine's message for a malformed one. -/
def compile (source : Utf16) (unicode : Bool) : Except Utf16 CompiledRegex :=
  let cs := if unicode then source.codePoints else source.map UInt16.toNat
  match Regex.parse unicode cs with
  | .ok n => .ok ⟨source, unicode, n⟩
  | .error f =>
    .error (Utf16.ofString "Invalid regular expression: /" ++ source ++
      Utf16.ofString ("/" ++ (if unicode then "u" else "") ++ ": " ++ f.text))

/-- Whether the expression matches somewhere in a subject. -/
def test (r : CompiledRegex) (subject : Utf16) : Bool :=
  let s := if r.unicode then subject.codePoints else subject.map UInt16.toNat
  Regex.test r.node s.toArray

end CompiledRegex

end FolderSink
