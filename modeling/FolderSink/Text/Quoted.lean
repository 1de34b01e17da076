import FolderSink.Text.Utf16
/-! Double-quoted string literals with JSON escapes: a quote and a backslash take a
backslash, the five control characters with a short name take it (`\b \t \n \f \r`), the
other control characters below U+0020 become `\u00xx` with lower-case hex digits, and
every other character stands for itself. In a text of UTF-16 units a surrogate that
stands alone is written `\udxxx`. -/
namespace FolderSink

namespace Quoted

/-- A lower-case hex digit. -/
def hexDigit (n : Nat) : Char :=
  if n < 10 then Char.ofNat ('0'.toNat + n) else Char.ofNat ('a'.toNat + n - 10)

/-- The escaped form of one character. -/
def escapeChar (c : Char) : List Char :=
  if c = '"' then ['\\', '"']
  else if c = '\\' then ['\\', '\\']
  else if c = '\x08' then ['\\', 'b']
  else if c = '\t' then ['\\', 't']
  else if c = '\n' then ['\\', 'n']
  else if c = '\x0c' then ['\\', 'f']
  else if c = '\r' then ['\\', 'r']
  else if c.toNat < 0x20 then ['\\', 'u', '0', '0', hexDigit (c.toNat / 16), hexDigit (c.toNat % 16)]
  else [c]

/-- A string as a double-quoted literal. -/
def encode (s : String) : String :=
  String.ofList ('"' :: s.toList.flatMap escapeChar ++ ['"'])

/-- A text as a double-quoted literal, a lone surrogate escaped. -/
def encodeUnits (u : Utf16) : Utf16 :=
  [0x22] ++ u.codePoints.flatMap (fun n =>
    if 0xD800 ≤ n ∧ n ≤ 0xDFFF then
      Utf16.ofString (String.ofList ['\\', 'u', hexDigit (n / 4096), hexDigit (n / 256 % 16),
        hexDigit (n / 16 % 16), hexDigit (n % 16)])
    else Utf16.ofString (String.ofList (escapeChar (Char.ofNat n)))) ++ [0x22]

theorem escapeChar_plain (c : Char) (h₁ : c ≠ '"') (h₂ : c ≠ '\\') (h₃ : 0x20 ≤ c.toNat) :
    escapeChar c = [c] := by
  have h₄ : c ≠ '\x08' := by rintro rfl; simp at h₃
  have h₅ : c ≠ '\t' := by rintro rfl; simp at h₃
  have h₆ : c ≠ '\n' := by rintro rfl; simp at h₃
  have h₇ : c ≠ '\x0c' := by rintro rfl; simp at h₃
  have h₈ : c ≠ '\r' := by rintro rfl; simp at h₃
  simp [escapeChar, h₁, h₂, h₄, h₅, h₆, h₇, h₈, Nat.not_lt.mpr h₃]

end Quoted

end FolderSink
