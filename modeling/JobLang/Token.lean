import JobLang.Number.Text
import JobLang.Position
import JobLang.Text.Letter
import JobLang.Text.Numeral

/-!
# Tokens

The leaves of a program are tokens: a category, the text as it was written, and the place it was
written at, where that is known. This module decides which texts are names and what the literal
texts stand for. The readings do not look at the category; the rules that use them choose by it.
-/
namespace JobLang

inductive Category
  | id
  | num
  | baal
  | quote
  | sym
deriving DecidableEq, Repr, Inhabited

/-- The name of a category in messages. -/
def Category.render : Category → String
  | .id => "Id"
  | .num => "Num"
  | .baal => "Baal"
  | .quote => "Quote"
  | .sym => "Sym"

structure Token where
  category : Category
  lexeme : String
  position : Option Position
deriving DecidableEq, Inhabited

namespace Quote

/-- The value of a hexadecimal digit, in lower or upper case. -/
def hexDigit? (c : Char) : Option Nat :=
  if '0' ≤ c ∧ c ≤ '9' then some (c.toNat - '0'.toNat)
  else if 'a' ≤ c ∧ c ≤ 'f' then some (c.toNat - 'a'.toNat + 10)
  else if 'A' ≤ c ∧ c ≤ 'F' then some (c.toNat - 'A'.toNat + 10)
  else none

/-- What a backslash and the given character stand for. A character that names no escape stands
for itself, and the backslash before it stays. -/
def escapeValue (c : Char) : List Char :=
  match c with
  | 'n' => ['\n']
  | 't' => ['\t']
  | 'r' => ['\r']
  | '0' => ['\x00']
  | '\\' => ['\\']
  | '"' => ['"']
  | c => ['\\', c]

/-- Behind an opening quote, the first quote that has no backslash before it is the last
character. A backslash takes the character behind it along, whatever that is. -/
def isClosed : List Char → Bool
  | [] => false
  | '"' :: rest => rest = []
  | '\\' :: _ :: rest => isClosed rest
  | c :: rest => c ≠ '\\' && isClosed rest

/-- The text is quoted as a whole. -/
def isQuoted : List Char → Bool
  | '"' :: rest => isClosed rest
  | _ => false

/-- What is left of a text without its first and its last byte, where both cuts are between
characters. -/
def inner? (lexeme : String) : Option String := do
  let first ← lexeme.pos? ⟨1⟩
  let last ← lexeme.pos? ⟨lexeme.utf8ByteSize - 1⟩
  let slice ← lexeme.slice? first last
  return slice.copy

/-- Resolves the escapes of a text, where a backslash with nothing behind it stands for `lone`.
After a backslash, `x` and one or two hexadecimal digits name an ASCII character. -/
def unescape? (lone : Option (List Char)) : List Char → Option (List Char)
  | [] => some []
  | ['\\'] => lone
  | ['\\', 'x'] => none
  | ['\\', 'x', digit] => (hexDigit? digit).map fun low => [Char.ofNat low]
  | '\\' :: 'x' :: first :: second :: rest =>
    match hexDigit? first, hexDigit? second with
    | some high, some low =>
      if 16 * high + low ≤ 0x7F then
        (unescape? lone rest).map (Char.ofNat (16 * high + low) :: ·)
      else
        none
    | some low, none => (unescape? lone (second :: rest)).map (Char.ofNat low :: ·)
    | none, _ => none
  | '\\' :: c :: rest => (unescape? lone rest).map (escapeValue c ++ ·)
  | c :: rest => (unescape? lone rest).map (c :: ·)

end Quote

namespace Token

/-- A token is shown as its category and its text. -/
def render (token : Token) : String :=
  "(" ++ token.category.render ++ ",\"" ++ token.lexeme ++ "\")"

/-- A name starts with a letter or an underscore and goes on with letters, numerals and
underscores. -/
def isIdentifier (token : Token) : Bool :=
  match token.lexeme.toList with
  | [] => false
  | first :: rest =>
    (Text.isLetter first || first = '_') &&
      rest.all fun c => Text.isLetter c || Text.isNumeral c || c = '_'

/-- The number that a token spells. -/
def number? (token : Token) : Option Float := Number.read? token.lexeme.toList

/-- The truth value that a token spells. -/
def baal? (token : Token) : Option Bool :=
  match token.lexeme with
  | "true" => some true
  | "false" => some false
  | _ => none

/-- The string that a token spells: quoted text with its escapes resolved. -/
def quote? (token : Token) : Option String :=
  if token.lexeme.utf8ByteSize < 2 || !Quote.isQuoted token.lexeme.toList then
    none
  else do
    let body ← Quote.inner? token.lexeme
    let value ← Quote.unescape? (some ['\\']) body.toList
    return String.ofList value

end Token
end JobLang
