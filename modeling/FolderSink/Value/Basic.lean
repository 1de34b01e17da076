import FolderSink.Number.Double
import FolderSink.Text.Utf16
/-! The values of the configuration language: none, booleans, numbers (binary64), integers
of any size, strings (UTF-16 units, so a lone surrogate is kept), lists and dictionaries. A dictionary keeps its keys in the order the
language gives them: keys that are array indices first, in increasing order, then the
other keys in the order they were first set (`Value.Dict.set`). Every value has a type
name (`Value.typeName`); a number is an `int` exactly when it is integral. -/
namespace FolderSink

/-- A value of the configuration language. -/
inductive Value where
  | none
  | bool (b : Bool)
  | num (x : Double)
  | big (n : Int)
  | str (s : Utf16)
  | list (items : List Value)
  | dict (entries : List (String × Value))
deriving Repr, Inhabited

/-- The type names of the language. -/
inductive TypeName where
  | string
  | int
  | float
  | bool
  | list
  | dict
  | none
deriving DecidableEq, Repr

namespace TypeName

/-- The name as the language spells it. -/
def text : TypeName → String
  | .string => "string"
  | .int => "int"
  | .float => "float"
  | .bool => "bool"
  | .list => "list"
  | .dict => "dict"
  | .none => "NoneType"

end TypeName

namespace Value

/-- The type name of a value: a number is an `int` when it is integral (either zero, or a
huge integral number included) and a `float` otherwise (NaN and the infinities too). -/
def typeName : Value → TypeName
  | .none => .none
  | .bool _ => .bool
  | .num x => if x.isInteger then .int else .float
  | .big _ => .int
  | .str _ => .string
  | .list _ => .list
  | .dict _ => .dict

/-- Whether a key names an array index: the canonical decimal text of an integer from 0
to 2^32 - 2, without a sign or leading zeros. -/
def isIndexKey (k : String) : Bool :=
  let cs := k.toList
  !cs.isEmpty && cs.all Char.isDigit && (cs.length == 1 || cs.head? != some '0') &&
    cs.length ≤ 10 && (String.toNat? k).getD (Nat.pow 2 32) ≤ Nat.pow 2 32 - 2

/-- The numeric value of an index key. -/
def indexOf (k : String) : Nat := (String.toNat? k).getD 0

namespace Dict

/-- Insert a new key: an index key before the first key that is not an index or is a larger
index, any other key at the end. -/
def insertNew (k : String) (v : Value) : List (String × Value) → List (String × Value)
  | [] => [(k, v)]
  | (k', v') :: rest =>
    if isIndexKey k && (!isIndexKey k' || indexOf k < indexOf k') then (k, v) :: (k', v') :: rest
    else (k', v') :: insertNew k v rest

/-- Set a key: an existing key keeps its place and takes the new value; a new key goes
where `insertNew` puts it. -/
def set (es : List (String × Value)) (k : String) (v : Value) : List (String × Value) :=
  if es.any (·.1 == k) then es.map (fun e => if e.1 == k then (k, v) else e)
  else insertNew k v es

/-- The dictionary of a list of key-value pairs, set one after the other. -/
def ofPairs (ps : List (String × Value)) : List (String × Value) :=
  ps.foldl (fun es p => set es p.1 p.2) []

/-- The value of a key. -/
def get? (es : List (String × Value)) (k : String) : Option Value := es.lookup k

end Dict

end Value

end FolderSink
