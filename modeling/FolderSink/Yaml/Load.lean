import FolderSink.Yaml.Node
import FolderSink.Value.Coerce
/-! A composed document as a value of the configuration language. Scalars give their
data; binary data and timestamps are objects with nothing of interest in them, and so
are `!!set`s and `!!omap`s (their members are still read, for the failures they can
cause); a `!!pairs` is a list of one-key dictionaries. A mapping becomes a dictionary
whose keys are the texts of the loaded keys (null is the empty text). A merge key `<<`
copies the keys of the mappings it names that are not there yet.

An alias stands for the value of the latest node before it with its anchor; an alias
to no such node fails, and so does a document in which the aliases of an anchor, times
the aliases within it, exceed one hundred. An alias inside the node it names stands for
that node's value as made so far: the reading is repeated a few rounds, each round
taking those values from the one before, so such a value is unrolled to a few levels.
The merge key, when it is read as a value, has no counterpart among the language's
values; it is given as an integer of any size, which like it is neither null, text, a
number, a list nor a dictionary to the settings. -/
namespace FolderSink

namespace Value

/-- Whether two loaded keys are the same key of a keyed dictionary: primitives by value
(NaN is itself), lists and dictionaries never. -/
def sameKey : Value → Value → Bool
  | .none, .none => true
  | .bool a, .bool b => a == b
  | .num x, .num y => (x.isNaN && y.isNaN) || x.order? y == some .eq
  | .big a, .big b => a == b
  | .str a, .str b => a == b
  | _, _ => false

/-- The text a loaded key stands for as a property name. -/
def propertyName : Value → String
  | .none => "null"
  | v => v.joinText

end Value

namespace Yaml

/-- The limit on aliases: their number for an anchor times the aliases within it. -/
def maxAliasCount : Nat := 100

mutual

/-- Record, in reading order, the anchored nodes seen so far (latest first) and, for
each alias, the node its anchor names at that point. -/
def Node.collectTargets : Node → List (String × Node) × List (Nat × Node) →
    List (String × Node) × List (Nat × Node)
  | .alias h name, (seen, found) =>
    (seen, match seen.lookup name with
      | some t => (h.id, t) :: found
      | none => found)
  | .map h s ps, acc => collectPairs ps (note (.map h s ps) acc)
  | .seq h xs, acc => collectList xs (note (.seq h xs) acc)
  | .pairs h o ps, acc => collectPairs ps (note (.pairs h o ps) acc)
  | .scalar h d p t x, acc => note (.scalar h d p t x) acc

/-- The anchor targets of the items of a sequence. -/
def collectList : List Node → List (String × Node) × List (Nat × Node) →
    List (String × Node) × List (Nat × Node)
  | [], acc => acc
  | n :: rest, acc => collectList rest (n.collectTargets acc)

/-- The anchor targets of the pairs of a mapping, each key before its value. -/
def collectPairs : List (Node × Option Node) → List (String × Node) × List (Nat × Node) →
    List (String × Node) × List (Nat × Node)
  | [], acc => acc
  | (k, none) :: rest, acc => collectPairs rest (k.collectTargets acc)
  | (k, some v) :: rest, acc => collectPairs rest (v.collectTargets (k.collectTargets acc))

/-- Note a node's anchor as the latest of its name. -/
def note (n : Node) : List (String × Node) × List (Nat × Node) → List (String × Node) × List (Nat × Node)
  | (seen, found) => match n.head.anchor with
    | some a => ((a, n) :: seen, found)
    | none => (seen, found)

end

/-- For each alias of a document, the node it names. -/
def aliasTargets (root : Node) : List (Nat × Node) := (root.collectTargets ([], [])).2

/-- The number of nodes of a tree. -/
def Node.size : Node → Nat
  | .map _ _ ps => 1 + pairsSize ps
  | .pairs _ _ ps => 1 + pairsSize ps
  | .seq _ xs => 1 + listSize xs
  | _ => 1
where
  /-- The nodes of some pairs. -/
  pairsSize : List (Node × Option Node) → Nat
    | [] => 0
    | (k, none) :: rest => k.size + pairsSize rest
    | (k, some v) :: rest => k.size + v.size + pairsSize rest
  /-- The nodes of some items. -/
  listSize : List Node → Nat
    | [] => 0
    | n :: rest => n.size + listSize rest

/-- What reading knows of an anchored node: how often it was used (its own reading
counts once), the aliases within it once it was first aliased, and its value once made. -/
structure AnchorUse where
  count : Nat := 1
  aliasCount : Nat := 0
  value : Option Value := none

/-- What reading needs besides its state: the alias targets, whether `<<` is the merge
key when written plain, and the anchored values of the round before. -/
structure LoadEnv where
  targets : List (Nat × Node)
  plainMerge : Bool
  previous : List (Nat × Value)

/-- Reading a document as a value: the uses of anchors, and a failure with its message. -/
abbrev LoadM := StateT (List (Nat × AnchorUse)) (Except String)

/-- A dictionary being filled: keyed by text, or (for a merge source) by loaded value. -/
inductive Target where
  | object (es : List (String × Value))
  | keyed (es : List (Value × Value))

/-- The value a datum loads as. -/
def Datum.value : Datum → Value
  | .null => .none
  | .bool b => .bool b
  | .num x => .num x
  | .str s => .str s
  | .merge => .big 0
  | .bytes | .date => .dict []

/-- A short text for a key that is a collection: its items in flow style. -/
def Node.keyText : Node → String
  | .scalar _ _ _ _ t => t.toText
  | .alias _ name => "*" ++ name
  | .seq _ xs => if xs.isEmpty then "[]" else "[ " ++ ", ".intercalate (listText xs) ++ " ]"
  | .map _ _ ps | .pairs _ _ ps =>
    if ps.isEmpty then "\x7b\x7d" else "\x7b " ++ ", ".intercalate (pairsText ps) ++ " \x7d"
where
  /-- The texts of some items. -/
  listText : List Node → List String
    | [] => []
    | n :: rest => n.keyText :: listText rest
  /-- The texts of some pairs. -/
  pairsText : List (Node × Option Node) → List String
    | [] => []
    | (k, none) :: rest => k.keyText :: pairsText rest
    | (k, some v) :: rest => (k.keyText ++ ": " ++ v.keyText) :: pairsText rest

/-- The property name of a key: null is the empty text, other primitives their text,
and an object the text of its node. -/
def keyName (key : Node) (v : Value) : String :=
  match v with
  | .none => ""
  | .list _ | .dict _ => key.keyText
  | v => v.propertyName

/-- Whether a key is the merge key: the merge datum, or under the YAML 1.1 schema a plain
`<<`. -/
def isMergeKey (env : LoadEnv) : Node → Bool
  | .scalar _ .merge _ _ _ => true
  | .scalar _ (.str s) plain _ _ => env.plainMerge && plain && s == Utf16.ofString "<<"
  | _ => false

/-- The node an alias names. -/
def LoadEnv.target (env : LoadEnv) (aliasId : Nat) : Option Node := env.targets.lookup aliasId

/-- The value that stands for an anchored collection still being made. -/
def placeholder : Node → Value
  | .seq .. | .pairs _ false _ => .list []
  | _ => .dict []

/-- Set a key of a dictionary being filled; `fresh` keeps an existing key as it is. -/
def Target.put (t : Target) (k : Value) (name : String) (v : Value) (fresh : Bool) : Target :=
  match t with
  | .object es =>
    if fresh && es.any (·.1 == name) then t else .object (Value.Dict.set es name v)
  | .keyed es =>
    if es.any (fun e => e.1.sameKey k) then
      if fresh then t else .keyed (es.map fun e => if e.1.sameKey k then (e.1, v) else e)
    else .keyed (es ++ [(k, v)])

/-- The aliases within a node: for an alias, its anchor's uses times the aliases within
that; for a collection the most of its members; for a scalar one. -/
def aliasCountOf (env : LoadEnv) (uses : List (Nat × AnchorUse)) : Node → Nat
  | .alias h _ => match env.target h.id with
    | some t => match uses.lookup t.head.id with
      | some u => u.count * u.aliasCount
      | none => 0
    | none => 0
  | .seq _ xs => listCount xs
  | .map _ _ ps | .pairs _ _ ps => pairsCount ps
  | .scalar .. => 1
where
  /-- The most of some items. -/
  listCount : List Node → Nat
    | [] => 0
    | n :: rest => max (aliasCountOf env uses n) (listCount rest)
  /-- The most of some pairs, each the most of its key and value (a missing value counts one). -/
  pairsCount : List (Node × Option Node) → Nat
    | [] => 0
    | (k, v) :: rest =>
      let vc := match v with
        | some v => aliasCountOf env uses v
        | none => 1
      max (max (aliasCountOf env uses k) vc) (pairsCount rest)

/-- Begin the reading of an anchored node. -/
def beginAnchor (n : Node) : LoadM Unit :=
  if n.head.anchor.isSome then
    modify fun uses => (n.head.id, ({} : AnchorUse)) :: uses.filter (·.1 != n.head.id)
  else pure ()

/-- Finish the reading of an anchored node with its value. -/
def endAnchor (n : Node) (v : Value) : LoadM Unit :=
  if n.head.anchor.isSome then
    modify fun uses => uses.map fun (i, u) => if i == n.head.id then (i, { u with value := some v }) else (i, u)
  else pure ()

mutual

/-- The value of a node. -/
def nodeValue (fuel : Nat) (env : LoadEnv) (n : Node) : LoadM Value :=
  match fuel with
  | 0 => throw "Maximum call stack size exceeded"
  | f + 1 => do
    match n with
    | .alias h name => aliasValue f env h.id name
    | .scalar _ d _ _ _ =>
      beginAnchor n
      endAnchor n d.value
      pure d.value
    | .seq _ xs =>
      beginAnchor n
      let vs ← xs.mapM (nodeValue f env)
      endAnchor n (.list vs)
      pure (.list vs)
    | .map _ set ps =>
      beginAnchor n
      let v ← if set then do
          for (k, v) in ps do
            if isMergeKey env k then discard (mergeInto f env (.keyed []) v)
            else discard (nodeValue f env k)
          pure (Value.dict [])
        else do
          match ← pairsInto f env (.object []) ps with
          | .object es => pure (Value.dict es)
          | .keyed _ => pure (Value.dict [])
      endAnchor n v
      pure v
    | .pairs _ ordered ps =>
      beginAnchor n
      let v ← if ordered then do
          let mut keys : List Value := []
          for (k, val) in ps do
            let kv ← nodeValue f env k
            match val with
            | some x => discard (nodeValue f env x)
            | none => pure ()
            if keys.any (·.sameKey kv) then throw "Ordered maps must not include duplicate keys"
            keys := kv :: keys
          pure (Value.dict [])
        else do
          let vs ← ps.mapM fun p => do
            match ← pairsInto f env (.object []) [p] with
            | .object es => pure (Value.dict es)
            | .keyed _ => pure (Value.dict [])
          pure (Value.list vs)
      endAnchor n v
      pure v

/-- The value an alias stands for, counting the use. -/
def aliasValue (fuel : Nat) (env : LoadEnv) (aliasId : Nat) (name : String) : LoadM Value :=
  match fuel with
  | 0 => throw "Maximum call stack size exceeded"
  | f + 1 => do
    match env.target aliasId with
    | none => throw ("Unresolved alias (the anchor must be set before the alias): " ++ name)
    | some t =>
      let tid := t.head.id
      if (← get).lookup tid |>.isNone then discard (nodeValue f env t)
      let uses ← get
      match uses.lookup tid with
      | none => throw "This should not happen: Alias anchor was not resolved?"
      | some u =>
        let value := match u.value with
          | some v => v
          | none => (env.previous.lookup tid).getD (placeholder t)
        let u := { u with count := u.count + 1 }
        let u := if u.aliasCount == 0 then { u with aliasCount := aliasCountOf env uses t } else u
        modify fun us => us.map fun (i, x) => if i == tid then (i, u) else (i, x)
        if u.count * u.aliasCount > maxAliasCount then
          throw "Excessive alias count indicates a resource exhaustion attack"
        pure value

/-- Add the pairs of a mapping to a dictionary being filled. -/
def pairsInto (fuel : Nat) (env : LoadEnv) (t : Target) (ps : List (Node × Option Node)) : LoadM Target :=
  match fuel with
  | 0 => throw "Maximum call stack size exceeded"
  | f + 1 => ps.foldlM (fun t (k, v) => addPair f env t k v) t

/-- Add one pair: a merge, or a key and its value. -/
def addPair (fuel : Nat) (env : LoadEnv) (t : Target) (k : Node) (v : Option Node) : LoadM Target :=
  match fuel with
  | 0 => throw "Maximum call stack size exceeded"
  | f + 1 => do
    if isMergeKey env k then mergeInto f env t v
    else
      let kv ← nodeValue f env k
      let vv ← match v with
        | some x => nodeValue f env x
        | none => pure .none
      pure (t.put kv (keyName k kv) vv false)

/-- Merge the mappings a merge key's value names: each mapping of a sequence, or the
one mapping (an alias is followed without counting it). -/
def mergeInto (fuel : Nat) (env : LoadEnv) (t : Target) (v : Option Node) : LoadM Target :=
  match fuel with
  | 0 => throw "Maximum call stack size exceeded"
  | f + 1 => do
    let resolved := match v with
      | some (.alias h _) => env.target h.id
      | other => other
    match resolved with
    | some (.seq _ xs) => xs.foldlM (fun t x => mergeSource f env t (some x)) t
    | some (.pairs _ _ ps) =>
      ps.foldlM (fun _ _ => throw "Merge sources must be maps or map aliases") t
    | other => mergeSource f env t other

/-- Merge one mapping: its keys not yet in the dictionary are added. -/
def mergeSource (fuel : Nat) (env : LoadEnv) (t : Target) (v : Option Node) : LoadM Target :=
  match fuel with
  | 0 => throw "Maximum call stack size exceeded"
  | f + 1 => do
    let source := match v with
      | some (.alias h _) => env.target h.id
      | other => other
    match source with
    | some (.map _ _ ps) =>
      match ← pairsInto f env (.keyed []) ps with
      | .keyed es => pure (es.foldl (fun t (k, x) => t.put k k.propertyName x true) t)
      | .object _ => pure t
    | _ => throw "Merge sources must be maps or map aliases"

end

/-- The value of a document's root, reading it in rounds (see the module note). -/
def Node.load (root : Node) (plainMerge : Bool) : Except String Value :=
  let targets := aliasTargets root
  let fuel := root.size * root.size + 64
  let round (previous : List (Nat × Value)) : Except String (Value × List (Nat × Value)) := do
    let (v, uses) ← (nodeValue fuel ⟨targets, plainMerge, previous⟩ root).run []
    pure (v, uses.filterMap fun (i, u) => u.value.map (i, ·))
  do
    let (_, first) ← round []
    let (_, second) ← round first
    let (v, _) ← round second
    pure v

end Yaml

end FolderSink
