import JobLang.Number.Shortest

/-!
# Numbers as text

A number lexeme is a run of decimal digits, with a fraction or without one, and it is read with a
single rounding. For the dump of a tree a number is written with its shortest digits, in positional
notation for moderate magnitudes and with a power of ten for the others.
-/
namespace JobLang.Number

/-- The number that a run of decimal digits stands for. -/
def ofDigits (digits : List Char) : Nat :=
  digits.foldl (fun total digit => 10 * total + (digit.toNat - '0'.toNat)) 0

/-- Reads digits, or digits, a point and digits; nothing else may stand in the lexeme. -/
def read? (lexeme : List Char) : Option Float :=
  let whole := lexeme.takeWhile Char.isDigit
  match whole, lexeme.dropWhile Char.isDigit with
  | [], _ => none
  | _, [] => some (Float.ofScientific (ofDigits whole) true 0)
  | _, point :: fraction =>
    if point = '.' ∧ fraction ≠ [] ∧ fraction.all Char.isDigit then
      some (Float.ofScientific (ofDigits (whole ++ fraction)) true fraction.length)
    else none

/-- How a decimal is laid out: positionally from `10 ^ least` up to `10 ^ bound`,
always with a digit after the point, and with a power of ten otherwise. -/
structure Layout where
  /-- The least exponent of the leading digit that is written positionally. -/
  least : Int
  /-- The least exponent that is not written positionally any more. -/
  bound : Int
deriving DecidableEq, Repr

/-- The digits without the zeros at their end, and the exponent of the leading one. -/
def Decimal.leading (x : Decimal) : List Char × Int :=
  let digits := Nat.toDigits 10 x.coefficient
  ((digits.reverse.dropWhile (· = '0')).reverse, x.exponent + digits.length - 1)

/-- Digits in positional notation, the first of them standing for the power `lead` of ten. Zeros
fill up the places between the digits and the point. -/
def positional (digits : List Char) (lead : Int) : List Char :=
  if lead < 0 then
    "0.".toList ++ List.replicate (-lead - 1).toNat '0' ++ digits
  else
    let places := lead.toNat + 1
    let padded := digits ++ List.replicate (places - digits.length) '0'
    let fraction := padded.drop places
    padded.take places ++ '.' :: (if fraction = [] then ['0'] else fraction)

/-- Digits with a point after the first one, if more follow, and a power of ten. -/
def scientific (digits : List Char) (lead : Int) : List Char :=
  let mantissa :=
    match digits with
    | first :: second :: rest => first :: '.' :: second :: rest
    | short => short
  mantissa ++ 'e' :: (toString lead).toList

/-- A decimal laid out as the bounds say. -/
def Layout.render (form : Layout) (x : Decimal) : String :=
  let (digits, lead) := x.leading
  if form.least ≤ lead ∧ lead < form.bound then String.ofList (positional digits lead)
  else String.ofList (scientific digits lead)

/-- Numbers from `0.0001` up to, but not including, `10 ^ 16` are written positionally. -/
def standardLayout : Layout := ⟨-4, 16⟩

/-- The text of a number; the sign of zero is kept. -/
def render (x : Float) : String :=
  match Binary64.ofFloat? x with
  | none => if x.isNaN then "NaN" else if 0 < x then "inf" else "-inf"
  | some value =>
    let sign := if value.negative then "-" else ""
    if value.mantissa = 0 then sign ++ "0.0"
    else sign ++ standardLayout.render value.shortest

end JobLang.Number
