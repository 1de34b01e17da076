import FolderSink.Value.Basic
import FolderSink.Number.Decimal
import FolderSink.Number.Literal
/-! Reading any value as a number, the way arithmetic does: booleans are 0 and 1, null is
0, text is read as a numeric literal (blank or empty text is 0, anything else not a
number is NaN), a list is read through its text (its items joined by commas, null items
empty), and a dictionary is NaN. A big integer cannot be mixed with numbers. -/
namespace FolderSink

namespace Value

mutual

/-- The text of a value as an item of a joined list. -/
def joinText : Value → String
  | .none => ""
  | .bool b => if b then "true" else "false"
  | .num x => x.toText
  | .big n => toString n
  | .str s => s.toText
  | .list xs => joinItems xs
  | .dict _ => "[object Object]"

/-- The items of a list joined by commas. -/
def joinItems : List Value → String
  | [] => ""
  | [x] => joinText x
  | x :: rest => joinText x ++ "," ++ joinItems rest

end

/-- The number a value stands for in arithmetic, or the message of the refusal. -/
def toNumber : Value → Except String Double
  | .num x => .ok x
  | .bool b => .ok (Double.ofNat (if b then 1 else 0))
  | .none => .ok (Double.zero false)
  | .str s => .ok (Double.ofLiteral s.toText)
  | .big _ => .error "Cannot mix BigInt and other types, use explicit conversions"
  | .list xs => .ok (Double.ofLiteral (joinItems xs))
  | .dict _ => .ok Double.nan

end Value

end FolderSink
