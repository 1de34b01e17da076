import FolderSink.Text.Utf16
/-! The blank characters that trimming removes: the white space and line terminators of
Unicode that the configuration language skips around a name or a number. That is
tab, line feed, vertical tab, form feed, carriage return, the byte-order mark, the line and
paragraph separators, and every character of the space-separator category. -/
namespace FolderSink

/-- Space separators (category Zs) of Unicode 15. -/
def spaceSeparators : List Nat :=
  [0x20, 0xA0, 0x1680, 0x2000, 0x2001, 0x2002, 0x2003, 0x2004, 0x2005, 0x2006, 0x2007,
   0x2008, 0x2009, 0x200A, 0x202F, 0x205F, 0x3000]

/-- A blank: white space or a line terminator. -/
def isBlank (c : Char) : Bool :=
  (0x09 ≤ c.toNat && c.toNat ≤ 0x0D) || c.toNat == 0xFEFF || c.toNat == 0x2028 ||
    c.toNat == 0x2029 || spaceSeparators.contains c.toNat

/-- A string without its leading and trailing blanks. -/
def trimBlank (s : String) : String :=
  String.ofList ((s.toList.dropWhile isBlank).reverse.dropWhile isBlank).reverse

/-- A text without its leading and trailing blank units; a blank is one unit, and a
surrogate is never blank. -/
def trimBlankUnits (u : Utf16) : Utf16 :=
  let blank (c : UInt16) : Bool := isBlank (Char.ofNat c.toNat)
  ((u.dropWhile blank).reverse.dropWhile blank).reverse

/-- Every white-space character that core knows (space, tab, carriage return and line
feed) is a blank. -/
theorem isBlank_of_isWhitespace (c : Char) (h : c.isWhitespace) : isBlank c := by
  simp only [Char.isWhitespace, Bool.or_eq_true, decide_eq_true_eq] at h
  rcases h with ((h | h) | h) | h <;> subst h <;> decide

end FolderSink
