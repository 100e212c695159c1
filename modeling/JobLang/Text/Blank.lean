import JobLang.Text.Ranges

/-!
# Blank characters

The characters with the property White_Space, and the trimming of a text at both ends.
-/
namespace JobLang.Text

/-- The code points that count as white space. -/
def blankRanges : Ranges where
  list := [
    (0x9, 0xd), (0x20, 0x20), (0x85, 0x85), (0xa0, 0xa0), (0x1680, 0x1680), (0x2000, 0x200a),
    (0x2028, 0x2029), (0x202f, 0x202f), (0x205f, 0x205f), (0x3000, 0x3000)]

/-- A white space character. -/
def isBlank (c : Char) : Bool := blankRanges.contains c.toNat

/-- The text without the blanks at its start and at its end. -/
def trim (text : List Char) : List Char :=
  ((text.dropWhile isBlank).reverse.dropWhile isBlank).reverse

end JobLang.Text
