import FolderSink.Glob.Regex
/-! One segment of a glob pattern (the text between slashes), compiled to a test on one
name. `**` stands for any number of names; a segment without wildcards is compared as
text; the common shapes `*`, `*.ext`, `???.ext`, `*.*` and `.*` have direct tests; every
other segment becomes a regular expression. Names may start with a dot, but `*`, `?` and
classes at the start of a segment never match `.` or `..`.

Extended groups `?(…)`, `*(…)`, `+(…)`, `@(…)` and `!(…)` are read into a tree, simplified
(a group whose only alternative is a single group may absorb it), and a negated group
takes a copy of everything that follows it in the segment, so that it refuses a name only
when the whole rest matches. When a simplification moves a negation's alternatives into
another group, they still take what follows the group that holds them. -/
namespace FolderSink

namespace Glob

/-- The kinds of extended group: `?` at most one, `+` one or more, `*` any number, `@`
exactly one, `!` none of the alternatives. -/
inductive ExtKind where
  | optional | oneOrMore | zeroOrMore | exactlyOne | negation
deriving DecidableEq, Repr

namespace ExtKind

/-- The character that introduces a group. -/
def unit : ExtKind → UInt16
  | .optional => 0x3F | .oneOrMore => 0x2B | .zeroOrMore => 0x2A
  | .exactlyOne => 0x40 | .negation => 0x21

/-- The group a character introduces, if any. -/
def ofUnit? (u : UInt16) : Option ExtKind :=
  [ExtKind.optional, .oneOrMore, .zeroOrMore, .exactlyOne, .negation].find? (·.unit == u)

/-- The kinds whose lone inner group a group of this kind absorbs while reading. -/
def absorbsWhileReading : ExtKind → List ExtKind
  | .negation => [.optional, .exactlyOne]
  | .optional => [.optional, .exactlyOne]
  | .exactlyOne => [.optional, .exactlyOne]
  | .zeroOrMore => [.zeroOrMore, .oneOrMore, .optional, .exactlyOne]
  | .oneOrMore => [.oneOrMore, .exactlyOne, .optional, .zeroOrMore]

/-- The kinds whose alternatives a group of this kind takes over as its own. -/
def adopts : ExtKind → List ExtKind
  | .negation => [.exactlyOne]
  | .optional => [.optional, .exactlyOne]
  | .exactlyOne => [.exactlyOne]
  | .zeroOrMore => [.zeroOrMore, .oneOrMore, .optional, .exactlyOne]
  | .oneOrMore => [.oneOrMore, .exactlyOne]

/-- The kinds whose alternatives a group takes over together with an empty alternative. -/
def adoptsWithEmpty : ExtKind → List ExtKind
  | .negation => [.optional]
  | .exactlyOne => [.optional]
  | .oneOrMore => [.optional, .zeroOrMore]
  | _ => []

/-- The kind a group with a single alternative takes when that alternative is one group of
kind `inner`. -/
def replacedBy (outer inner : ExtKind) : Option ExtKind :=
  match outer, inner with
  | .negation, .negation => some .exactlyOne
  | .optional, .zeroOrMore => some .zeroOrMore
  | .optional, .oneOrMore => some .zeroOrMore
  | .exactlyOne, k => some k
  | .oneOrMore, .optional => some .zeroOrMore
  | .oneOrMore, .zeroOrMore => some .zeroOrMore
  | _, _ => none

/-- The takers that a group of this kind, numbered `me`, gives its alternatives: itself
when it is a negation. -/
def takersOf (kind : ExtKind) (me : Nat) : List Nat := if kind = .negation then [me] else []

end ExtKind

mutual

/-- A piece of a segment: text, or a node. -/
inductive Piece where
  | text (s : Utf16)
  | node (a : Ast)

/-- A node of a segment: plain (`kind = none`, holding text and groups) or a group (holding
plain alternatives). `index` is the place it was given in its first parent; `emptyExt`
marks a group whose last alternative ended empty; `negation` is the reading number of a
group read as `!(…)`. `takers` names negations by reading number: on an alternative, the
negations that count it among their alternatives and so hand it what follows them; on a
group, the negations that count every alternative of the group as theirs, including ones
the group takes over later. A negation absorbed into another group keeps its alternatives,
so the marks sit on the alternatives rather than on the group. -/
inductive Ast where
  | mk (kind : Option ExtKind) (parts : List Piece) (index : Nat) (emptyExt : Bool)
      (negation : Option Nat) (takers : List Nat)

end

namespace Ast

def kind : Ast → Option ExtKind | mk k .. => k
def parts : Ast → List Piece | mk _ ps .. => ps
def index : Ast → Nat | mk _ _ i .. => i
def emptyExt : Ast → Bool | mk _ _ _ e .. => e
def negation : Ast → Option Nat | mk _ _ _ _ n _ => n
def takers : Ast → List Nat | mk _ _ _ _ _ t => t

/-- The same node with other parts. -/
def withParts (a : Ast) (ps : List Piece) : Ast := mk a.kind ps a.index a.emptyExt a.negation a.takers

/-- The same node with more negations among its takers. -/
def addTakers (ks : List Nat) (a : Ast) : Ast :=
  mk a.kind a.parts a.index a.emptyExt a.negation (a.takers ++ ks)

/-- Add a piece at the end; empty text is not added. -/
def push (ps : List Piece) : Piece → List Piece
  | .text s => if s.isEmpty then ps else ps ++ [.text s]
  | p => ps ++ [p]

end Ast

/-- A piece whose node, if any, has more negations among its takers. -/
def Piece.addTakers (ks : List Nat) : Piece → Piece
  | .node a => .node (a.addTakers ks)
  | p => p

/-! ## Reading -/

/-- The bracket and escape state of a scan: inside a backslash escape, inside `[…]` (with
the position after its `[` and whether it starts with a negation). -/
structure ScanState where
  escaping : Bool := false
  inBracket : Bool := false
  bracketStart : Nat := 0
  bracketNeg : Bool := false

/-- Step the scan state over a character whose successor is at `i`; `none` when the
character is live (not escaped and not inside brackets). -/
def ScanState.step (st : ScanState) (c : UInt16) (i : Nat) : Option ScanState :=
  if st.escaping || c = 0x5C then some { st with escaping := !st.escaping }
  else if st.inBracket then
    if i = st.bracketStart + 1 then
      some (if c = 0x5E || c = 0x21 then { st with bracketNeg := true } else st)
    else if c = 0x5D && !(i = st.bracketStart + 2 && st.bracketNeg) then
      some { st with inBracket := false }
    else some st
  else if c = 0x5B then some { st with inBracket := true, bracketStart := i, bracketNeg := false }
  else none

/-- The deepest nesting of groups that is read as groups. -/
def maxExtDepth : Nat := 2

/-- A group read to the end of the text without its `)`: plain text from its kind
character on. -/
def unfinished (s : Array UInt16) (pos index : Nat) : Ast :=
  .mk none [.text (s.toList.drop (pos - 1))] index false none []

/-- Read a group whose `(` is at `pos`, as the `index`-th part of its parent, at nesting
`depth`, numbered `me` among the groups; the scan is at `i` with the pending text `acc`
(last unit first) of the current alternative `part` and the finished alternatives `alts`,
and `count` groups have been numbered. Gives the node, the position after it and the new count. -/
def readGroup (s : Array UInt16) (kind : ExtKind) (pos index depth me : Nat) :
    Nat → Nat → ScanState → Utf16 → List Piece → List Piece → Nat → Ast × Nat × Nat
  | 0, _, _, _, _, _, count => (unfinished s pos index, s.size, count)
  | f + 1, i, st, acc, part, alts, count =>
    match s[i]? with
    | none => (unfinished s pos index, s.size, count)
    | some c =>
      match st.step c (i + 1) with
      | some st' => readGroup s kind pos index depth me f (i + 1) st' (c :: acc) part alts count
      | none =>
        match ExtKind.ofUnit? c, s[i + 1]? with
        | some k, some 0x28 =>
          if depth ≤ maxExtDepth ∨ kind.absorbsWhileReading.contains k then
            let depthAdd := if kind.absorbsWhileReading.contains k then 0 else 1
            let part := Ast.push part (.text acc.reverse)
            let (child, i', count') :=
              readGroup s k (i + 1) part.length (depth + depthAdd) count f (i + 2) {} [] [] [] (count + 1)
            readGroup s kind pos index depth me f i' {} [] (part ++ [.node child]) alts count'
          else readGroup s kind pos index depth me f (i + 1) st (c :: acc) part alts count
        | _, _ =>
          if c = 0x7C then
            let part := Ast.push part (.text acc.reverse)
            readGroup s kind pos index depth me f (i + 1) st [] [] (alts ++ [.node (.mk none part 0 false none (kind.takersOf me))]) count
          else if c = 0x29 then
            let part := Ast.push part (.text acc.reverse)
            let alts := alts ++ [.node (.mk none part 0 false none (kind.takersOf me))]
            (.mk (some kind) alts index acc.isEmpty (if kind = .negation then some me else none)
              (kind.takersOf me), i + 1, count)
          else readGroup s kind pos index depth me f (i + 1) st (c :: acc) part alts count

/-- Read the root of a segment from `i`: text, with a group wherever a group character is
followed by `(`; `acc` holds the pending text, last unit first. -/
def readRootLoop (s : Array UInt16) : Nat → Nat → ScanState → Utf16 → List Piece → Nat → List Piece
  | 0, _, _, acc, parts, _ => Ast.push parts (.text acc.reverse)
  | f + 1, i, st, acc, parts, count =>
    match s[i]? with
    | none => Ast.push parts (.text acc.reverse)
    | some c =>
      match st.step c (i + 1) with
      | some st' => readRootLoop s f (i + 1) st' (c :: acc) parts count
      | none =>
        match ExtKind.ofUnit? c, s[i + 1]? with
        | some k, some 0x28 =>
          let parts := Ast.push parts (.text acc.reverse)
          let (child, i', count') :=
            readGroup s k (i + 1) parts.length 1 count (2 * s.size + 2) (i + 2) {} [] [] [] (count + 1)
          readRootLoop s f i' st [] (parts ++ [.node child]) count'
        | _, _ => readRootLoop s f (i + 1) st (c :: acc) parts count

/-- Read a segment into its tree. -/
def readRoot (s : Array UInt16) : Ast :=
  .mk none (readRootLoop s (s.size + 1) 0 {} [] [] 0) 0 false none []

/-! ## Simplifying groups -/

namespace Ast

/-- The group that a lone-group alternative holds: the alternative is plain, has one part,
and that part is a group; the outer node is a group too. -/
def loneGroup? (outer child : Ast) : Option (ExtKind × ExtKind × Ast) :=
  match outer.kind, child.kind, child.parts with
  | some k, none, [.node gc] =>
    match gc.kind with
    | some gk => some (k, gk, gc)
    | none => none
  | _, _, _ => none

/-- Put a group's alternatives in place of the alternative at `i`. -/
def adopt (a gc : Ast) (i : Nat) : Ast :=
  a.withParts (a.parts.take i ++ gc.parts.map (Piece.addTakers a.takers) ++ a.parts.drop (i + 1))

/-- One simplification of the alternative at `i` of a group, if any applies: take over the
alternatives of a lone inner group, with an empty one added for some kinds, or become the
inner group when the group has this single alternative. -/
def simplifyAt (a child : Ast) (i : Nat) : Option Ast :=
  match loneGroup? a child with
  | some (k, gk, gc) =>
    if k.adopts.contains gk then some (adopt a gc i)
    else if k.adoptsWithEmpty.contains gk then
      let blank : Ast := .mk none [.text []] gc.parts.length false none gc.takers
      some (adopt a (gc.withParts (gc.parts ++ [.node blank])) i)
    else if a.parts.length = 1 then
      (ExtKind.replacedBy k gk).map fun nt =>
        let own := if nt = .negation then a.negation.toList else []
        .mk (some nt) (gc.parts.map (Piece.addTakers own)) a.index false a.negation (gc.takers ++ own)
    else none
  | none => none

mutual

/-- Simplify every group of a tree, inner groups first. -/
def flatten : Nat → Ast → Ast
  | 0, a => a
  | f + 1, .mk none ps i e n t => .mk none (flattenParts f ps) i e n t
  | f + 1, a@(.mk (some _) _ _ _ _ _) => flattenGroup f 10 a

/-- Simplify the nodes of a list of pieces. -/
def flattenParts : Nat → List Piece → List Piece
  | 0, ps => ps
  | _, [] => []
  | f + 1, .text t :: rest => .text t :: flattenParts f rest
  | f + 1, .node a :: rest => .node (flatten f a) :: flattenParts f rest

/-- Passes over a group's alternatives until one changes nothing, at most `rounds`. -/
def flattenGroup : Nat → Nat → Ast → Ast
  | 0, _, a => a
  | f + 1, rounds, a =>
    let (a', changed) := flattenPass f a 0 false
    if changed ∧ rounds > 1 then flattenGroup f (rounds - 1) a' else a'

/-- One pass over a group's alternatives from `i`, each simplified and then, if possible,
absorbed; the parts are read afresh after every change. -/
def flattenPass : Nat → Ast → Nat → Bool → Ast × Bool
  | 0, a, _, changed => (a, changed)
  | f + 1, a, i, changed =>
    match a.parts[i]? with
    | none => (a, changed)
    | some (.text _) => flattenPass f a (i + 1) changed
    | some (.node c) =>
      let c := flatten f c
      let a := a.withParts (a.parts.set i (.node c))
      match simplifyAt a c i with
      | some a' => flattenPass f a' (i + 1) true
      | none => flattenPass f a (i + 1) changed

end

/-! ## Negations take what follows -/

mutual

/-- A copy of a node as the `index`-th part of a new parent: fresh places for its parts,
and no negation marks. -/
def copy : Nat → Ast → Nat → Ast
  | 0, a, index => .mk a.kind a.parts index false none []
  | f + 1, a, index => .mk a.kind (copyParts f a.parts []) index false none []

/-- Copies of pieces appended one by one to `acc`. -/
def copyParts : Nat → List Piece → List Piece → List Piece
  | 0, _, acc => acc
  | _, [], acc => acc
  | f + 1, .text t :: rest, acc => copyParts f rest (push acc (.text t))
  | f + 1, .node a :: rest, acc => copyParts f rest (acc ++ [.node (copy f a acc.length)])

end

/-- Append copies of pieces to a plain alternative. -/
def appendCopies (fuel : Nat) (alt : Ast) (pieces : List Piece) : Ast :=
  alt.withParts (copyParts fuel pieces alt.parts)

/-- The negations that some alternative in a tree names as a taker. -/
def takerMarks : Nat → Ast → List Nat
  | 0, _ => []
  | f + 1, a =>
    (if a.kind.isNone then a.takers else []) ++ a.parts.flatMap fun
      | .node c => takerMarks f c
      | .text _ => []

/-- Whether a group holds an alternative that negation `k` takes. -/
def holdsTaken (k : Nat) (a : Ast) : Bool :=
  a.kind.isSome && a.parts.any fun
    | .node alt => alt.takers.contains k
    | .text _ => false

/-- The pieces that follow the group holding the alternatives negation `k` takes, nearest
ancestor first: for each plain ancestor, its parts after the place of the child on the way
down. `none` when that group is not below. -/
def following (k : Nat) : Nat → Ast → Option (List Piece)
  | 0, _ => none
  | f + 1, a =>
    if holdsTaken k a then some []
    else
      a.parts.findSome? fun
        | .node c =>
          (following k f c).map fun below =>
            below ++ (if a.kind.isNone then a.parts.drop (c.index + 1) else [])
        | .text _ => none

/-- Give the alternatives that negation `k` takes copies of `pieces`. -/
def appendAt (k : Nat) (pieces : List Piece) : Nat → Ast → Ast
  | 0, a => a
  | f + 1, a =>
    if a.kind.isNone && a.takers.contains k then appendCopies f a pieces
    else
      a.withParts (a.parts.map fun
        | .node c => .node (appendAt k pieces f c)
        | p => p)

/-- Every negation, the last read first, takes copies of what follows it. -/
def fillNegations (fuel : Nat) (root : Ast) : Ast :=
  let orders := (takerMarks fuel root).eraseDups.mergeSort (fun x y => x ≥ y)
  orders.foldl (fun r k =>
    match following k fuel r with
    | some pieces => appendAt k pieces fuel r
    | none => r) root

/-- The text a node was written as. -/
def toText : Nat → Ast → Utf16
  | 0, _ => []
  | f + 1, a =>
    let inner (p : Piece) : Utf16 := match p with
      | .text t => t
      | .node c => toText f c
    match a.kind with
    | none => a.parts.flatMap inner
    | some k => [k.unit, 0x28] ++ ((a.parts.map inner).intersperse [0x7C]).flatten ++ [0x29]

end Ast

/-! ## Regular expression text -/

namespace Source

/-- The units of an ASCII string. -/
def ascii (s : String) : Utf16 := Utf16.ofString s

/-- Characters that keep a backslash when they follow one in a pattern. -/
def keepsEscape (u : UInt16) : Bool := (ascii "().*{}+?[]^$\\!").contains u

/-- White space as regular expressions know it. -/
def isSpace (u : UInt16) : Bool :=
  let n := u.toNat
  (9 ≤ n && n ≤ 13) || n == 0x20 || n == 0xA0 || n == 0x1680 || (0x2000 ≤ n && n ≤ 0x200A) ||
    n == 0x2028 || n == 0x2029 || n == 0x202F || n == 0x205F || n == 0x3000 || n == 0xFEFF

/-- A character as literal regular expression text. -/
def literal (u : UInt16) : Utf16 :=
  if (ascii "-[]\x7b\x7d()*+?.,\\^$|#").contains u || isSpace u then [0x5C, u] else [u]

/-- Text inside a class: `[`, `]`, `\` and `-` take a backslash. -/
def classLiteral (t : Utf16) : Utf16 :=
  t.flatMap fun u => if (ascii "[]\\-").contains u then [0x5C, u] else [u]

/-- Any one character but `/`. -/
def anyOne : Utf16 := ascii "[^/]"

/-- Any run of characters without `/`. -/
def anyRun : Utf16 := ascii "[^/]*?"

/-- A non-empty run of characters without `/`. -/
def someRun : Utf16 := ascii "[^/]+?"

/-- Refuses `.` and `..` as a whole name. -/
def noTraversal : Utf16 := ascii "(?!(?:^|/)\\.\\.?(?:$|/))"

/-- The end of a name, for the alternatives of a negation. -/
def nameEnd : Utf16 := ascii "(?:$|\\/)"

/-- The named classes `[:name:]` with their members as class text, whether they need the
Unicode mode, and whether they are a negated set. -/
def namedClasses : List (String × String × Bool × Bool) :=
  [("[:alnum:]", "\\p\x7bL\x7d\\p\x7bNl\x7d\\p\x7bNd\x7d", true, false),
   ("[:alpha:]", "\\p\x7bL\x7d\\p\x7bNl\x7d", true, false),
   ("[:ascii:]", "\\x00-\\x7f", false, false),
   ("[:blank:]", "\\p\x7bZs\x7d\\t", true, false),
   ("[:cntrl:]", "\\p\x7bCc\x7d", true, false),
   ("[:digit:]", "\\p\x7bNd\x7d", true, false),
   ("[:graph:]", "\\p\x7bZ\x7d\\p\x7bC\x7d", true, true),
   ("[:lower:]", "\\p\x7bLl\x7d", true, false),
   ("[:print:]", "\\p\x7bC\x7d", true, false),
   ("[:punct:]", "\\p\x7bP\x7d", true, false),
   ("[:space:]", "\\p\x7bZ\x7d\\t\\r\\n\\v\\f", true, false),
   ("[:upper:]", "\\p\x7bLu\x7d", true, false),
   ("[:word:]", "\\p\x7bL\x7d\\p\x7bNl\x7d\\p\x7bNd\x7d\\p\x7bPc\x7d", true, false),
   ("[:xdigit:]", "A-Fa-f0-9", false, false)]

/-- The result of reading a bracket class: its regular expression text, whether it needs
the Unicode mode, how many units it took (zero when it is no class), and whether it
matches more than one character. -/
structure ClassRead where
  src : Utf16
  unicode : Bool
  consumed : Nat
  magic : Bool

/-- The state of reading a class: members, negated named classes, the pending start of a
range, and the flags. -/
structure ClassState where
  ranges : List Utf16 := []
  negs : List Utf16 := []
  negate : Bool := false
  sawStart : Bool := false
  escaping : Bool := false
  unicode : Bool := false
  rangeStart : Option UInt16 := none

/-- Read a bracket class that starts at `pos` (its `[`). A class that does not end is no
class; one with no members matches nothing and takes the rest of the segment; a single
plain member is that character. Ranges written backwards are dropped. -/
def readClass (g : Array UInt16) (pos : Nat) : ClassRead :=
  let rest (i : Nat) : Utf16 := g.toList.drop i
  let rec loop : Nat → Nat → ClassState → Option (ClassState × Nat) ⊕ ClassRead
    | 0, _, _ => .inl none
    | f + 1, i, st =>
      match g[i]? with
      | none => .inl none
      | some c =>
        if (c = 0x21 ∨ c = 0x5E) ∧ i = pos + 1 then loop f (i + 1) { st with negate := true }
        else if c = 0x5D ∧ st.sawStart ∧ !st.escaping then .inl (some (st, i + 1))
        else
          let st := { st with sawStart := true }
          if c = 0x5C ∧ !st.escaping then loop f (i + 1) { st with escaping := true }
          else
            let named := if c = 0x5B ∧ !st.escaping then
                namedClasses.find? (fun (name, _) => (ascii name).isPrefixOf (rest i))
              else none
            match named with
            | some (name, members, u, neg) =>
              if st.rangeStart.isSome then .inr ⟨ascii "$.", false, g.size - pos, true⟩
              else
                let st := if neg then { st with negs := st.negs ++ [ascii members] }
                  else { st with ranges := st.ranges ++ [ascii members] }
                loop f (i + (ascii name).length) { st with unicode := st.unicode || u }
            | none =>
              let st := { st with escaping := false }
              match st.rangeStart with
              | some r =>
                let st := if c > r then { st with ranges := st.ranges ++ [classLiteral [r] ++ [0x2D] ++ classLiteral [c]] }
                  else if c = r then { st with ranges := st.ranges ++ [classLiteral [c]] }
                  else st
                loop f (i + 1) { st with rangeStart := none }
              | none =>
                if [0x2D, 0x5D].isPrefixOf (rest (i + 1)) then
                  loop f (i + 2) { st with ranges := st.ranges ++ [classLiteral [c, 0x2D]] }
                else if [0x2D].isPrefixOf (rest (i + 1)) then
                  loop f (i + 2) { st with rangeStart := some c }
                else loop f (i + 1) { st with ranges := st.ranges ++ [classLiteral [c]] }
  match loop (g.size + 1) (pos + 1) {} with
  | .inr r => r
  | .inl none => ⟨[], false, 0, false⟩
  | .inl (some (st, endPos)) =>
    if st.ranges.isEmpty ∧ st.negs.isEmpty then ⟨ascii "$.", false, g.size - pos, true⟩
    else
      let single : Option UInt16 :=
        match st.negs, st.ranges, st.negate with
        | [], [[u]], false => if Regex.isLineBreak u.toNat then none else some u
        | [], [[0x5C, u]], false => if Regex.isLineBreak u.toNat then none else some u
        | _, _, _ => none
      match single with
      | some u => ⟨literal u, false, endPos - pos, false⟩
      | none =>
        let sranges := [0x5B] ++ (if st.negate then [0x5E] else []) ++ st.ranges.flatten ++ [0x5D]
        let snegs := [0x5B] ++ (if st.negate then [] else [0x5E]) ++ st.negs.flatten ++ [0x5D]
        let src :=
          if !st.ranges.isEmpty ∧ !st.negs.isEmpty then [0x28] ++ sranges ++ [0x7C] ++ snegs ++ [0x29]
          else if !st.ranges.isEmpty then sranges else snegs
        ⟨src, st.unicode, endPos - pos, true⟩

/-- The regular expression text of a piece of plain pattern text, whether it has a
wildcard, and whether it needs the Unicode mode. A run of stars is one star; a text made
only of stars that is a whole name must match at least one character. -/
def ofGlobText (t : Utf16) (noEmpty : Bool) : Utf16 × Bool × Bool :=
  let g := t.toArray
  let onlyStars := !t.isEmpty && t.all (· == 0x2A)
  let rec loop : Nat → Nat → Bool → Bool → List Utf16 × Bool × Bool → List Utf16 × Bool × Bool
    | 0, _, _, _, acc => acc
    | f + 1, i, escaping, inStar, (re, magic, u) =>
      match g[i]? with
      | none => (re, magic, u)
      | some c =>
        if escaping then
          loop f (i + 1) false false ((if keepsEscape c then [0x5C, c] else [c]) :: re, magic, u)
        else if c = 0x5C then
          if i + 1 = g.size then loop f (i + 1) false inStar ([0x5C, 0x5C] :: re, magic, u)
          else loop f (i + 1) true inStar (re, magic, u)
        else
          let cls := if c = 0x5B then some (readClass g i) else none
          match cls with
          | some r =>
            if r.consumed > 0 then
              loop f (i + r.consumed) false false (r.src :: re, magic || r.magic, u || r.unicode)
            else loop f (i + 1) false false (literal c :: re, magic, u)
          | none =>
            if c = 0x2A then
              if inStar then loop f (i + 1) false true (re, magic, u)
              else loop f (i + 1) false true ((if noEmpty && onlyStars then someRun else anyRun) :: re, true, u)
            else if c = 0x3F then loop f (i + 1) false false (anyOne :: re, true, u)
            else loop f (i + 1) false false (literal c :: re, magic, u)
  let (chunks, magic, u) := loop (g.size + 1) 0 false false ([], false, false)
  (chunks.reverse.flatten, magic, u)

/-- Remove the escapes of a text: a one-character bracket `[x]` (not after a backslash)
becomes `x`, then a backslash before any character but `/` is dropped. -/
def unescape (t : Utf16) : Utf16 :=
  let plain (u : UInt16) : Bool := u != 0x2F && u != 0x5C
  let rec brackets : Nat → Utf16 → Bool → Utf16
    | 0, rest, _ => rest
    | f + 1, rest, atStart =>
      match rest with
      | a :: 0x5B :: b :: 0x5D :: more =>
        if a != 0x5C && !Regex.isLineBreak a.toNat && plain b then a :: b :: brackets f more false
        else if atStart then
          match rest with
          | 0x5B :: x :: 0x5D :: more' => if plain x then x :: brackets f more' false
            else a :: brackets f (rest.drop 1) false
          | _ => a :: brackets f (rest.drop 1) false
        else a :: brackets f (rest.drop 1) false
      | 0x5B :: b :: 0x5D :: more =>
        if atStart && plain b then b :: brackets f more false
        else 0x5B :: brackets f (b :: 0x5D :: more) false
      | a :: more => a :: brackets f more false
      | [] => []
  let rec slashes : Utf16 → Utf16
    | 0x5C :: b :: more => if b != 0x2F then b :: slashes more else 0x5C :: slashes (b :: more)
    | a :: more => a :: slashes more
    | [] => []
  slashes (brackets (t.length + 1) t true)

/-- Whether a name pattern's text could match `.` or `..` at its start. -/
def needsNoTraversal (src : Utf16) : Bool :=
  let aps (u : Option UInt16) : Bool := u == some 0x5B || u == some 0x2E
  aps src[0]? || ([0x5C, 0x2E].isPrefixOf src && aps src[2]?) ||
    ([0x5C, 0x2E, 0x5C, 0x2E].isPrefixOf src && aps src[4]?)

end Source

/-- The regular expression text of a node: the text with its guards (`re`), the text
without them (`src`), whether it has a wildcard, and whether it needs the Unicode mode. -/
structure Rendered where
  re : Utf16
  src : Utf16
  magic : Bool
  unicode : Bool

namespace Ast

/-- Whether the parts before place `i` are all negations. -/
def negationsBefore (a : Ast) (i : Nat) : Bool :=
  (List.range i).all fun j =>
    match a.parts[j]? with
    | some (.node n) => n.kind == some .negation
    | _ => false

mutual

/-- The text of a plain node that starts and ends its name as said; `underNegation` when its
parent is a negation, whose alternatives must end the name. -/
def renderPlain : Nat → Ast → Bool → Bool → Bool → Rendered
  | 0, _, _, _, _ => ⟨[], [], false, false⟩
  | f + 1, a, isStart, isEnd, underNegation =>
    let noEmpty := isStart && isEnd
    let pieces := a.parts.map fun
      | .text t =>
        let (re, m, u) := Source.ofGlobText t noEmpty
        (re, m, u)
      | .node c =>
        let cStart := isStart && (c.index == 0 || a.negationsBefore c.index)
        let cEnd := match c.kind with
          | none => isEnd
          | some _ => isEnd && c.index + 1 == a.parts.length
        let r := match c.kind with
          | none => renderPlain f c cStart cEnd false
          | some _ => renderGroup f c cStart cEnd
        (r.re, r.magic, r.unicode)
    let src := (pieces.map (·.1)).flatten
    let magic := pieces.any (·.2.1)
    let unicode := pieces.any (·.2.2)
    let start : Utf16 :=
      match a.parts with
      | .text t0 :: _ =>
        let justDots := a.parts.length == 1 && (t0 == [0x2E] || t0 == [0x2E, 0x2E])
        if isStart && !justDots && Source.needsNoTraversal src then Source.noTraversal else []
      | _ => []
    let fin : Utf16 := if isEnd && underNegation then Source.nameEnd else []
    ⟨start ++ src ++ fin, src, magic, unicode⟩

/-- The text of a group. A group that is the whole name and has only empty alternatives is
kept as written (and is no wildcard); an empty negation matches any non-empty name. -/
def renderGroup : Nat → Ast → Bool → Bool → Rendered
  | 0, _, _, _ => ⟨[], [], false, false⟩
  | f + 1, a, isStart, isEnd =>
    let k := a.kind.getD .exactlyOne
    let alts := a.parts.filterMap fun
      | .node alt =>
        let altStart := isStart && alt.index == 0
        let altEnd := k == .negation || isEnd
        some (renderPlain f alt altStart altEnd (k == .negation))
      | .text _ => none
    let unicode := alts.any (·.unicode)
    let kept := if isStart && isEnd then alts.filter (!·.re.isEmpty) else alts
    let body := ((kept.map (·.re)).intersperse [0x7C]).flatten
    if isStart && isEnd && body.isEmpty && k != .negation then
      let s := toText f a
      ⟨s, s, false, false⟩
    else if k == .negation && a.emptyExt then
      ⟨Source.someRun, Source.someRun, true, unicode⟩
    else
      let opening := if k == .negation then Source.ascii "(?:(?!(?:" else Source.ascii "(?:"
      let closing := match k with
        | .negation => Source.ascii "))" ++ Source.anyRun ++ Source.ascii ")"
        | .exactlyOne => Source.ascii ")"
        | .optional => Source.ascii ")?"
        | .oneOrMore => Source.ascii ")+"
        | .zeroOrMore => Source.ascii ")*"
      let re := opening ++ body ++ closing
      ⟨re, body, true, unicode⟩

end

end Ast

/-! ## Segment tests -/

/-- Direct tests for common segment shapes; each refuses `.` and `..` where the shape
could produce them. -/
inductive FastTest where
  /-- A lone `*`: any non-empty name. -/
  | anyName
  /-- A `*` then text without wildcards: a name with that ending. -/
  | endsWith (ext : Utf16)
  /-- Marks `?` then text without wildcards: a name of the segment's length with that
  ending. -/
  | sized (size : Nat) (ext : Utf16)
  /-- The pattern `*.*`: a name with a dot. -/
  | dotted
  /-- The pattern `.*`: a name that starts with a dot. -/
  | hidden

namespace FastTest

/-- Characters that end the plain tail of a shape. -/
def isSpecial (u : UInt16) : Bool := (Source.ascii "+@!?*[(").contains u

/-- The direct test for a segment, if it has one of the shapes. -/
def of? (seg : Utf16) : Option FastTest :=
  let stars := seg.takeWhile (· == 0x2A)
  let afterStars := seg.drop stars.length
  let marks := seg.takeWhile (· == 0x3F)
  let afterMarks := seg.drop marks.length
  if !stars.isEmpty && afterStars.isEmpty then some .anyName
  else if !stars.isEmpty && !afterStars.any isSpecial then some (.endsWith afterStars)
  else if !marks.isEmpty && !afterMarks.any isSpecial then some (.sized seg.length afterMarks)
  else if !stars.isEmpty && afterStars.head? == some 0x2E &&
      !afterStars.tail.isEmpty && afterStars.tail.all (· == 0x2A) then some .dotted
  else if seg.head? == some 0x2E && !seg.tail.isEmpty && seg.tail.all (· == 0x2A) then some .hidden
  else none

/-- Whether a name is `.` or `..`. -/
def isDots (f : Utf16) : Bool := f == [0x2E] || f == [0x2E, 0x2E]

/-- Whether `p` occurs in `f`. -/
def occursIn (p f : Utf16) : Bool :=
  (List.range (f.length + 1)).any fun i => p.isPrefixOf (f.drop i)

/-- Run a direct test on a name. -/
def test (f : Utf16) : FastTest → Bool
  | .anyName => !f.isEmpty && !isDots f
  | .endsWith ext => ext.isSuffixOf f
  | .sized n ext => f.length == n && !isDots f && ext.isSuffixOf f
  | .dotted => !isDots f && f.contains 0x2E
  | .hidden => !isDots f && f.head? == some 0x2E

end FastTest

/-- How one segment of a pattern matches one name. -/
inductive PartTest where
  /-- A globstar `**`: any number of names. -/
  | globstar
  /-- A segment without wildcards: the name itself. -/
  | exact (name : Utf16)
  /-- A regular expression for the whole name, with a direct test that takes its place
  when the segment has a common shape. -/
  | pattern (re : CompiledRegex) (fast : Option FastTest)

namespace PartTest

/-- Steps enough for every recursion over the tree of a segment of `n` units. -/
def fuelFor (n : Nat) : Nat := 16 * n + 64

/-- The regular expression text of a segment, its text without guards, whether it has a
wildcard, and whether it needs the Unicode mode. -/
def render (seg : Utf16) : Rendered :=
  let fuel := fuelFor seg.length
  let tree := Ast.fillNegations fuel (Ast.flatten fuel (readRoot seg.toArray))
  Ast.renderPlain fuel tree true true false

/-- Compile a segment; fails with the message of a regular expression that does not
compile. -/
def compile (seg : Utf16) : Except Utf16 PartTest :=
  if seg == [0x2A, 0x2A] then .ok .globstar
  else if seg.isEmpty then .ok (.exact [])
  else
    let r := render seg
    if !r.magic then .ok (.exact (Source.unescape r.src))
    else do
      let re ← CompiledRegex.compile ([0x5E] ++ r.re ++ [0x24]) r.unicode
      .ok (.pattern re (FastTest.of? seg))

/-- Whether a name passes the test of a segment other than `**`. -/
def test (t : PartTest) (f : Utf16) : Bool :=
  match t with
  | .globstar => false
  | .exact name => f == name
  | .pattern re fast =>
    match fast with
    | some ft => ft.test f
    | none => re.test f

end PartTest

end Glob

end FolderSink
