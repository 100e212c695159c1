import Mathlib

/-!
# Neutral operands of the arithmetic on doubles

Multiplying or dividing by one changes no double. Adding or subtracting zero changes no double that
is finite and not zero itself. The result of each operation is rounded, and a number that a double
can hold is rounded to itself.
-/
namespace JobLang.Number

open Float.Model (Format UnpackedFloat totalExponent)
open Float.Model.UnpackedFloat

theorem toNat_append_one (v : BitVec 52) : (1#1 ++ v).toNat = 2 ^ 52 + v.toNat := by
  rw [BitVec.toNat_append, ← Nat.shiftLeft_add_eq_or_of_lt v.isLt]
  rfl

/-- The form that the finite doubles other than zero are read in: a mantissa that fills all its
bits, or the least exponent. -/
structure Canonical (mantissa : Nat) (exponent : Int) : Prop where
  positive : 0 < mantissa
  bounded : mantissa < 2 ^ 53
  least : -1074 ≤ exponent
  full : 2 ^ 52 ≤ mantissa ∨ exponent = -1074

theorem canonical_unpack {b : BitVec Format.binary64.numBits} {s : Sign} {m : Nat} {e : Int}
    {positive : 0 < m} (read : unpack .binary64 b = .finite s m e positive) : Canonical m e := by
  have mantissa : (unpackMantissa b).toNat < 2 ^ 52 := (unpackMantissa b : BitVec 52).isLt
  have bias : (Format.binary64.exponentBias : Int) + (52 : Nat) = 1075 := by decide
  simp only [unpack] at read
  split at read
  · split at read <;> cases read
  · split at read
    · rename_i least
      split at read
      · cases read
      · cases read
        rw [least, bias]
        refine ⟨positive, by omega, ?_, ?_⟩
        · decide
        · exact .inr (by decide)
    · rename_i normal
      cases read
      have above : (unpackExponent b : BitVec 11).toNat ≠ 0 := fun zero =>
        normal (BitVec.eq_of_toNat_eq zero)
      have filled := toNat_append_one (unpackMantissa b)
      rw [bias]
      exact ⟨by omega, by omega, by omega, .inl (by omega)⟩

theorem shiftRight_mul (m n : Nat) :
    (⟨m * 2 ^ n, false, false⟩ : ExtendedMantissa) >>> n = ⟨m, false, false⟩ := by
  change n.repeat ExtendedMantissa.shiftRightOne ⟨m * 2 ^ n, false, false⟩ = _
  induction n generalizing m with
  | zero => simp [Nat.repeat]
  | succ n ih =>
    have halved := ih (m * 2)
    rw [Nat.mul_assoc, ← Nat.pow_succ'] at halved
    rw [Nat.repeat, halved, ExtendedMantissa.shiftRightOne]
    simp

theorem log2_mul_two_pow {m : Nat} (positive : 0 < m) (n : Nat) :
    (m * 2 ^ n).log2 = m.log2 + n := by
  induction n with
  | zero => simp
  | succ n ih =>
    rw [Nat.pow_succ, ← Nat.mul_assoc, Nat.mul_comm, Nat.log2_two_mul, ih, Nat.add_assoc]
    have := Nat.two_pow_pos n
    exact Nat.ne_of_gt (Nat.mul_pos positive this)

/-- A canonical exponent is the one that rounding aims at, however the number is written. -/
theorem Canonical.target {m : Nat} {e : Int} (canonical : Canonical m e) (n : Nat) :
    Format.binary64.targetExponent (totalExponent (m * 2 ^ n) (e - n)) = e := by
  have aim : Format.binary64.targetExponent (totalExponent (m * 2 ^ n) (e - n)) =
      max ((m * 2 ^ n).log2 + 1 + (e - n) - 53) (-1074) := rfl
  rw [aim, log2_mul_two_pow canonical.positive]
  have nonzero := Nat.ne_of_gt canonical.positive
  have bounded := (Nat.log2_lt nonzero).mpr canonical.bounded
  have least := canonical.least
  rcases canonical.full with filled | minimal
  · have filled := (Nat.le_log2 nonzero).mpr filled
    omega
  · omega

theorem Canonical.shift {m : Nat} {e : Int} (canonical : Canonical m e) (n : Nat) :
    shiftToTargetExponent .binary64 (m * 2 ^ n) (e - n) .exact = (⟨m, false, false⟩, e) := by
  rw [shiftToTargetExponent, canonical.target, shiftToExponent]
  have amount : (e - (e - n)).toNat = n := by omega
  simp only [amount]
  exact Prod.ext (shiftRight_mul m n) (Int.sub_add_cancel e n)

/-- A number that has a canonical form is not changed by rounding. -/
theorem Canonical.round {m : Nat} {e : Int} (canonical : Canonical m e) (s : Sign) (n : Nat) :
    roundWithAccuracy .binary64 s (m * 2 ^ n) (e - n) .exact =
      .finite s m e canonical.positive := by
  have again := canonical.shift 0
  rw [Nat.pow_zero, Nat.mul_one, Int.natCast_zero, Int.sub_zero] at again
  have rounded : ExtendedMantissa.roundedMantissa ⟨m, false, false⟩ = m := rfl
  have nonzero := Nat.ne_of_gt canonical.positive
  simp only [roundWithAccuracy, canonical.shift n, rounded, again, dif_neg nonzero]

/-- A double as the operations read it. -/
def read (x : Float) : UnpackedFloat := x.toModel.unpack

/-- The double that an operation writes. -/
def write (x : UnpackedFloat) : Float := .ofModel (.pack x)

theorem write_read (x : Float) : write (read x) = x := by
  obtain ⟨⟨bits, valid⟩⟩ := x
  have same := pack_unpack_of_valid valid
  simp only [write, read, Float.Model.pack, Float.Model.unpack, same]

theorem read_zero {x : Float} (zero : (x == 0) = true) : ∃ s, read x = .zero s := by
  have compared : (read x).beq (.zero .positive) = true := zero
  have either := (beq_iff_ne_notANumber_and_eq _ _).mp compared
  rcases either.2.2 with same | ⟨same, _⟩ | ⟨same, _⟩
  · exact ⟨_, same⟩
  · exact ⟨_, same⟩
  · exact ⟨_, same⟩

theorem read_one {x : Float} (one : (x == 1) = true) :
    read x = .finite .positive (2 ^ 52) (-52) (Nat.two_pow_pos 52) := by
  have compared : (read x).beq (.finite .positive (2 ^ 52) (-52) (Nat.two_pow_pos 52)) = true := one
  have either := (beq_iff_ne_notANumber_and_eq _ _).mp compared
  rcases either.2.2 with same | ⟨_, zero⟩ | ⟨_, zero⟩
  · exact same
  · cases zero
  · cases zero

/-- A double that is neither zero nor infinite nor undefined. -/
def isOrdinary (x : Float) : Bool := x.isFinite && !(x == 0)

theorem read_ordinary {x : Float} (ordinary : isOrdinary x = true) :
    ∃ s m e positive, read x = .finite s m e positive := by
  have finite : (read x).isFinite = true := (Bool.and_eq_true_iff.mp ordinary).1
  have nonzero : (!(read x).beq (.zero .positive)) = true := (Bool.and_eq_true_iff.mp ordinary).2
  cases form : read x with
  | finite s m e positive => exact ⟨s, m, e, positive, rfl⟩
  | zero s => rw [form] at nonzero; cases nonzero
  | infinity s => rw [form] at finite; cases finite
  | notANumber => rw [form] at finite; cases finite

theorem canonical_read {x : Float} {s : Sign} {m : Nat} {e : Int} {positive : 0 < m}
    (form : read x = .finite s m e positive) : Canonical m e := canonical_unpack form

section Neutral
variable {x z : Float}

theorem add_zero (zero : (z == 0) = true) (ordinary : isOrdinary x = true) : x + z = x := by
  obtain ⟨s, m, e, positive, form⟩ := read_ordinary ordinary
  obtain ⟨s', form'⟩ := read_zero zero
  calc x + z = write (UnpackedFloat.add .binary64 (read x) (read z)) := rfl
    _ = write (read x) := by rw [form, form']; rfl
    _ = x := write_read x

theorem zero_add (zero : (z == 0) = true) (ordinary : isOrdinary x = true) : z + x = x := by
  obtain ⟨s, m, e, positive, form⟩ := read_ordinary ordinary
  obtain ⟨s', form'⟩ := read_zero zero
  calc z + x = write (UnpackedFloat.add .binary64 (read z) (read x)) := rfl
    _ = write (read x) := by rw [form, form']; rfl
    _ = x := write_read x

theorem sub_zero (zero : (z == 0) = true) (ordinary : isOrdinary x = true) : x - z = x := by
  obtain ⟨s, m, e, positive, form⟩ := read_ordinary ordinary
  obtain ⟨s', form'⟩ := read_zero zero
  calc x - z = write (UnpackedFloat.sub .binary64 (read x) (read z)) := rfl
    _ = write (read x) := by rw [form, form']; rfl
    _ = x := write_read x

theorem zero_sub (zero : (z == 0) = true) (ordinary : isOrdinary x = true) : z - x = -x := by
  obtain ⟨s, m, e, positive, form⟩ := read_ordinary ordinary
  obtain ⟨s', form'⟩ := read_zero zero
  calc z - x = write (UnpackedFloat.sub .binary64 (read z) (read x)) := rfl
    _ = write (read x).neg := by rw [form, form']; rfl
    _ = -x := rfl

theorem mul_one (one : (z == 1) = true) : x * z = x := by
  have form' := read_one one
  calc x * z = write (UnpackedFloat.mul .binary64 (read x) (read z)) := rfl
    _ = write (read x) := by
      rw [form']
      cases form : read x with
      | notANumber => rfl
      | infinity s => cases s <;> rfl
      | zero s => cases s <;> rfl
      | finite s m e positive =>
        have rounded := (canonical_read form).round s 52
        cases s <;> exact congrArg write rounded
    _ = x := write_read x

theorem mul_comm_of_one (one : (z == 1) = true) : z * x = x * z := by
  have form' := read_one one
  calc z * x = write (UnpackedFloat.mul .binary64 (read z) (read x)) := rfl
    _ = write (UnpackedFloat.mul .binary64 (read x) (read z)) := by
      rw [form']
      cases read x with
      | notANumber => rfl
      | infinity s => cases s <;> rfl
      | zero s => cases s <;> rfl
      | finite s m e positive =>
        simp only [UnpackedFloat.mul, Nat.mul_comm (2 ^ 52), Int.add_comm (-52)]
        cases s <;> rfl
    _ = x * z := rfl

theorem one_mul (one : (z == 1) = true) : z * x = x := by
  rw [mul_comm_of_one one, mul_one one]

/-- The quotient by one is computed with up to one bit more than the dividend has. -/
theorem Canonical.divCore_one {m : Nat} {e : Int} (canonical : Canonical m e) :
    ∃ n : Nat, divCore .binary64 m e (2 ^ 52) (-52) = (m * 2 ^ n, e - n, .exact) := by
  have aim : Format.binary64.targetExponent (totalExponent m e - totalExponent (2 ^ 52) (-52)) =
      max (m.log2 + 1 + e - 1 - 53) (-1074) := rfl
  have nonzero := Nat.ne_of_gt canonical.positive
  have bounded := (Nat.log2_lt nonzero).mpr canonical.bounded
  have least := canonical.least
  obtain ⟨n, below⟩ : ∃ n : Nat, max (m.log2 + 1 + e - 1 - 53) (-1074) = e - n :=
    ⟨(e - max (m.log2 + 1 + e - 1 - 53) (-1074)).toNat, by omega⟩
  have shift : m <<< (e - -52 - (e - n)).toNat = m * 2 ^ n * 2 ^ 52 := by
    have amount : (e - -52 - (e - n)).toNat = n + 52 := by omega
    rw [amount, Nat.shiftLeft_eq, Nat.pow_add, Nat.mul_assoc]
  refine ⟨n, ?_⟩
  have lower : min (e - -52) (e - n) = e - n := by omega
  simp only [divCore, aim, below, lower, shift]
  rw [Nat.mul_div_cancel _ (Nat.two_pow_pos 52), Nat.mul_mod_left]
  rfl

theorem div_one (one : (z == 1) = true) : x / z = x := by
  have form' := read_one one
  calc x / z = write (UnpackedFloat.div .binary64 (read x) (read z)) := rfl
    _ = write (read x) := by
      rw [form']
      cases form : read x with
      | notANumber => rfl
      | infinity s => cases s <;> rfl
      | zero s => cases s <;> rfl
      | finite s m e positive =>
        have canonical := canonical_read form
        obtain ⟨n, quotient⟩ := canonical.divCore_one
        have rounded := canonical.round s n
        simp only [UnpackedFloat.div, quotient]
        cases s <;> exact congrArg write rounded
    _ = x := write_read x

end Neutral
end JobLang.Number
