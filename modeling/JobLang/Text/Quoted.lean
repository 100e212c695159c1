import JobLang.Text.Extending
import JobLang.Text.Unprintable

/-!
# Quoted text

Names and strings of a program are shown in double quotes, with every character that would not be
seen, or would end the text early, replaced by an escape. A quoted text is therefore a single line
of visible characters. A few controls have an escape of one letter, and the others are shown by
their code point in hexadecimal.
-/
namespace JobLang.Text

/-- The escape that shows a character by its code point, without leading zeros. -/
def codeEscape (c : Char) : List Char :=
  '\\' :: 'u' :: '\x7b' :: Nat.toDigits 16 c.toNat ++ ['\x7d']

/-- The form of one character within a quoted text. -/
def escape (c : Char) : List Char :=
  if c = '\x00' then ['\\', '0']
  else if c = '\t' then ['\\', 't']
  else if c = '\r' then ['\\', 'r']
  else if c = '\n' then ['\\', 'n']
  else if c = '\\' ∨ c = '"' then ['\\', c]
  else if isExtending c || isUnprintable c then codeEscape c
  else [c]

/-- A text in double quotes, its characters escaped where needed. -/
def quote (text : String) : String :=
  String.ofList ('"' :: text.toList.flatMap escape ++ ['"'])

end JobLang.Text
