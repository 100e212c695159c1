/-!
# Doubles as integers times powers of two

Every finite double is `m · 2 ^ q` for a natural number `m` below `2 ^ 53` and an exponent `q` from
`-1074` on, with a sign. This module reads that form off the bits and writes it back. Neither
direction rounds.
-/
namespace JobLang.Number

/-- The magnitude `mantissa · 2 ^ exponent` with a sign; zero keeps its sign too. -/
structure Binary64 where
  negative : Bool
  mantissa : Nat
  exponent : Int
deriving DecidableEq, Repr

namespace Binary64

/-- The exponent of the finest doubles, those below `2 ^ -1022`. -/
def leastExponent : Int := -1074

/-- The number of bits after the leading one of a normal double. -/
def fractionBits : Nat := 52

/-- The leading one of a normal double, in units of its last bit. -/
def leadingBit : Nat := 1 <<< fractionBits

/-- The form of a finite double, `none` for an infinity and for a value that is not a number. -/
def ofFloat? (x : Float) : Option Binary64 :=
  let bits := x.toBits.toNat
  let fraction := bits % leadingBit
  let field := bits / leadingBit % 2048
  let negative := bits >>> 63 = 1
  if field = 2047 then none
  else if field = 0 then some ⟨negative, fraction, leastExponent⟩
  else some ⟨negative, leadingBit + fraction, leastExponent + (field - 1 : Nat)⟩

/-- The same magnitude with the leading bit moved up as far as the fraction bits and the least
exponent allow. -/
def normalize (x : Binary64) : Binary64 :=
  let room := fractionBits - Nat.log2 x.mantissa
  let shift := min room (x.exponent - leastExponent).toNat
  ⟨x.negative, x.mantissa <<< shift, x.exponent - shift⟩

/-- The double of this value, for a mantissa below `2 ^ 53` whose exponent a double can have. -/
def toFloat (x : Binary64) : Float :=
  let y := x.normalize
  let sign := if x.negative then 1 <<< 63 else 0
  let magnitude :=
    if y.mantissa < leadingBit then y.mantissa
    else ((y.exponent - leastExponent).toNat + 1) * leadingBit + (y.mantissa - leadingBit)
  Float.ofBits (UInt64.ofNat (sign + magnitude))

end Binary64
end JobLang.Number
