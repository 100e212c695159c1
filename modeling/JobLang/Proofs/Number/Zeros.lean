import JobLang.Number.Arithmetic
import JobLang.Proofs.Number.Neutral

/-!
# The sign of zero

Two doubles are the same number if they are equal, where the two zeros are, or if neither is a
number. This is equality up to the sign of zero. Sums, differences, products, remainders and
comparisons do not see that sign, and a quotient sees only that of its divisor. Up to that sign zero
is neutral for sums and differences of all doubles, infinite and undefined ones included, and it
absorbs every finite factor.
-/
namespace JobLang.Number

open Float.Model (Format UnpackedFloat)
open Float.Model.UnpackedFloat

/-- Equal as numbers, or both not a number. -/
def Same (x y : Float) : Prop := (x == y) = true ∨ x.isNaN = true ∧ y.isNaN = true

/-- The same form up to the sign of zero. -/
inductive Alike : UnpackedFloat → UnpackedFloat → Prop
  | refl (u : UnpackedFloat) : Alike u u
  | zeros (s s' : Sign) : Alike (.zero s) (.zero s')

theorem isNaN_iff {x : Float} : x.isNaN = true ↔ read x = .notANumber := by
  have form : x.isNaN = (read x).isNaN := rfl
  rw [form]
  cases read x with
  | notANumber => exact ⟨fun _ => rfl, fun _ => rfl⟩
  | infinity | zero | finite => exact ⟨(nomatch ·), (nomatch ·)⟩

theorem beq_self {u : UnpackedFloat} (number : u ≠ .notANumber) : u.beq u = true :=
  (beq_iff_ne_notANumber_and_eq _ _).mpr ⟨number, number, .inl rfl⟩

theorem same_iff_alike {x y : Float} : Same x y ↔ Alike (read x) (read y) := by
  have compared : (x == y) = (read x).beq (read y) := rfl
  rw [Same, isNaN_iff, isNaN_iff, compared]
  constructor
  · rintro (equal | ⟨first, second⟩)
    · obtain ⟨_, _, same | ⟨first, second⟩ | ⟨first, second⟩⟩ :=
        (beq_iff_ne_notANumber_and_eq _ _).mp equal
      · rw [same]
        exact .refl _
      · rw [first, second]
        exact .zeros ..
      · rw [first, second]
        exact .zeros ..
    · rw [first, second]
      exact .refl _
  · intro alike
    generalize read x = u, read y = v at alike
    cases alike with
    | refl =>
      by_cases number : u = .notANumber
      · exact .inr ⟨number, number⟩
      · exact .inl (beq_self number)
    | zeros s s' =>
      left
      cases s <;> cases s' <;> rfl

theorem read_write_zero (s : Sign) : read (write (.zero s)) = .zero s := by
  cases s <;> rfl

theorem same_write {u v : UnpackedFloat} (alike : Alike u v) : Same (write u) (write v) := by
  rw [same_iff_alike]
  cases alike with
  | refl => exact .refl _
  | zeros s s' =>
    rw [read_write_zero, read_write_zero]
    exact .zeros ..

theorem same_write_read {u : UnpackedFloat} {x : Float} (alike : Alike u (read x)) :
    Same (write u) x := by
  have same := same_write alike
  rw [write_read] at same
  exact same

theorem eq_zero_or {x : Float} (zero : (x == 0) = true) : x = 0 ∨ x = -0 := by
  obtain ⟨s, form⟩ := read_zero zero
  have written := write_read x
  rw [form] at written
  cases s with
  | negative => exact .inr (written.symm.trans rfl)
  | positive => exact .inl (written.symm.trans rfl)

theorem Alike.trans {u v w : UnpackedFloat} (first : Alike u v) (second : Alike v w) :
    Alike u w := by
  cases first with
  | refl => exact second
  | zeros s s' =>
    cases second with
    | refl => exact .zeros ..
    | zeros => exact .zeros ..

/-- The signs of operands that are zero reach no further than the sign of a result that is zero. -/
structure Blind (g : UnpackedFloat → UnpackedFloat → UnpackedFloat) : Prop where
  left (s s' : Sign) (v : UnpackedFloat) : Alike (g (.zero s) v) (g (.zero s') v)
  right (u : UnpackedFloat) (s s' : Sign) : Alike (g u (.zero s)) (g u (.zero s'))

theorem Blind.alike {g : UnpackedFloat → UnpackedFloat → UnpackedFloat} (blind : Blind g)
    {u u' v v' : UnpackedFloat} (first : Alike u u') (second : Alike v v') :
    Alike (g u v) (g u' v') := by
  have left : Alike (g u v) (g u' v) := by
    cases first with
    | refl => exact .refl _
    | zeros s s' => exact blind.left s s' v
  have right : Alike (g u' v) (g u' v') := by
    cases second with
    | refl => exact .refl _
    | zeros s s' => exact blind.right u' s s'
  exact left.trans right

theorem blind_add : Blind (UnpackedFloat.add .binary64) where
  left s s' v := by
    cases v with
    | zero t => cases s <;> cases s' <;> cases t <;> exact .zeros ..
    | notANumber | infinity | finite => exact .refl _
  right u s s' := by
    cases u with
    | zero t => cases s <;> cases s' <;> cases t <;> exact .zeros ..
    | notANumber | infinity | finite => exact .refl _

theorem sub_eq_add_neg (u v : UnpackedFloat) :
    UnpackedFloat.sub .binary64 u v = UnpackedFloat.add .binary64 u v.neg := by
  cases u with
  | notANumber => rfl
  | infinity s =>
    cases v with
    | notANumber | infinity | zero | finite => rfl
  | zero s =>
    cases v with
    | notANumber | infinity | zero | finite => rfl
  | finite s m e positive =>
    cases v with
    | notANumber | infinity | zero => rfl
    | finite s' m' e' positive' =>
      have opposite (n : Int) : (-s').apply n = -s'.apply n := by
        cases s' <;> simp [Sign.apply]
      simp only [UnpackedFloat.sub, UnpackedFloat.add, UnpackedFloat.neg, opposite,
        Int.sub_eq_add_neg]

theorem blind_sub : Blind (UnpackedFloat.sub .binary64) where
  left s s' v := by
    rw [sub_eq_add_neg, sub_eq_add_neg]
    exact blind_add.left s s' v.neg
  right u s s' := by
    rw [sub_eq_add_neg, sub_eq_add_neg]
    exact blind_add.right u (-s) (-s')

theorem blind_mul : Blind (UnpackedFloat.mul .binary64) where
  left s s' v := by
    cases v with
    | zero | finite => exact .zeros ..
    | notANumber | infinity => exact .refl _
  right u s s' := by
    cases u with
    | zero | finite => exact .zeros ..
    | notANumber | infinity => exact .refl _

theorem compare_alike {u u' v v' : UnpackedFloat} (first : Alike u u') (second : Alike v v') :
    u.compare v = u'.compare v' := by
  have left : u.compare v = u'.compare v := by
    cases first with
    | refl => rfl
    | zeros s s' =>
      cases v with
      | infinity t | finite t => cases t <;> rfl
      | notANumber | zero => rfl
  have right : u'.compare v = u'.compare v' := by
    cases second with
    | refl => rfl
    | zeros s s' =>
      cases u' with
      | infinity t | finite t => cases t <;> rfl
      | notANumber | zero => rfl
  exact left.trans right

section Same
variable {x x' y y' : Float}

theorem same_iff : Same x y ↔ x = y ∨ (x == 0) = true ∧ (y == 0) = true := by
  rw [same_iff_alike]
  constructor
  · intro alike
    generalize form : read x = u, form' : read y = v at alike
    cases alike with
    | refl =>
      left
      rw [← write_read x, ← write_read y, form, form']
    | zeros s s' =>
      right
      rw [← write_read x, ← write_read y, form, form']
      cases s <;> cases s' <;> exact ⟨rfl, rfl⟩
  · rintro (rfl | ⟨first, second⟩)
    · exact .refl _
    · obtain ⟨s, form⟩ := read_zero first
      obtain ⟨s', form'⟩ := read_zero second
      rw [form, form']
      exact .zeros ..

theorem Same.refl (x : Float) : Same x x := same_iff.mpr (.inl rfl)

theorem Same.of_zeros (first : (x == 0) = true) (second : (y == 0) = true) : Same x y :=
  same_iff.mpr (.inr ⟨first, second⟩)

theorem Same.trans {z : Float} (first : Same x y) (second : Same y z) : Same x z :=
  same_iff_alike.mpr ((same_iff_alike.mp first).trans (same_iff_alike.mp second))

theorem Same.add (first : Same x x') (second : Same y y') : Same (x + y) (x' + y') :=
  same_write (blind_add.alike (same_iff_alike.mp first) (same_iff_alike.mp second))

theorem Same.sub (first : Same x x') (second : Same y y') : Same (x - y) (x' - y') :=
  same_write (blind_sub.alike (same_iff_alike.mp first) (same_iff_alike.mp second))

theorem Same.mul (first : Same x x') (second : Same y y') : Same (x * y) (x' * y') :=
  same_write (blind_mul.alike (same_iff_alike.mp first) (same_iff_alike.mp second))

theorem Same.neg (same : Same x x') : Same (-x) (-x') := by
  have forms := same_iff_alike.mp same
  have opposite : Alike (read x).neg (read x').neg := by
    generalize read x = u, read x' = v at forms
    cases forms with
    | refl => exact .refl _
    | zeros s s' => exact .zeros ..
  exact same_write opposite

theorem lt_iff_lt_read : x < y ↔ (read x).lt (read y) = true := decide_eq_true_iff

theorem Same.lt_iff_lt (first : Same x x') (second : Same y y') : x < y ↔ x' < y' := by
  have compared := compare_alike (same_iff_alike.mp first) (same_iff_alike.mp second)
  rw [lt_iff_lt_read, lt_iff_lt_read, UnpackedFloat.lt, UnpackedFloat.lt, compared]

theorem Same.beq_eq_beq (first : Same x x') (second : Same y y') : (x == y) = (x' == y') := by
  have compared := compare_alike (same_iff_alike.mp first) (same_iff_alike.mp second)
  calc (x == y) = ((read x).compare (read y) == some .eq) := rfl
    _ = ((read x').compare (read y') == some .eq) := by rw [compared]
    _ = (x' == y') := rfl

theorem Same.isFinite_eq (same : Same x x') : x.isFinite = x'.isFinite := by
  have forms := same_iff_alike.mp same
  have finite : (read x).isFinite = (read x').isFinite := by
    generalize read x = u, read x' = v at forms
    cases forms <;> rfl
  exact finite

theorem Same.zero_iff (same : Same x x') : (x == 0) = (x' == 0) := same.beq_eq_beq (.refl 0)

theorem Same.div_left (same : Same x x') (y : Float) : Same (x / y) (x' / y) := by
  have forms := same_iff_alike.mp same
  have quotients : Alike (UnpackedFloat.div .binary64 (read x) (read y))
      (UnpackedFloat.div .binary64 (read x') (read y)) := by
    generalize read x = u, read x' = u' at forms
    cases forms with
    | refl => exact .refl _
    | zeros s s' =>
      cases read y with
      | infinity | finite => exact .zeros ..
      | notANumber | zero => exact .refl _
  exact same_write quotients

/-- What is divided decides the quotient by a zero of either sign, as it is not a number. -/
theorem div_zero_of_indefinite (indefinite : (x == 0) = true ∨ x.isNaN = true)
    (zero : (y == 0) = true) : (x / y).isNaN = true := by
  obtain ⟨s, form⟩ := read_zero zero
  have quotient : UnpackedFloat.div .binary64 (read x) (read y) = .notANumber := by
    rcases indefinite with none | undefined
    · obtain ⟨t, form'⟩ := read_zero none
      rw [form, form']
      rfl
    · rw [isNaN_iff.mp undefined]
      rfl
  have written : (x / y).isNaN =
      (write (UnpackedFloat.div .binary64 (read x) (read y))).isNaN := rfl
  rw [written, quotient]
  rfl

/-- A quotient sees the sign of a divisor that is zero, unless nothing or what is not a number is
divided. -/
theorem Same.div (first : Same x x') (second : Same y y')
    (kept : (y == 0) = true → ((x == 0) = true ∨ x.isNaN = true) ∨ y' = y) :
    Same (x / y) (x' / y') := by
  rcases same_iff.mp second with rfl | ⟨zero, zero'⟩
  · exact first.div_left y
  · rcases kept zero with indefinite | rfl
    · refine .trans (.inr ⟨?_, ?_⟩) (first.div_left y')
      · exact div_zero_of_indefinite indefinite zero
      · exact div_zero_of_indefinite indefinite zero'
    · exact first.div_left y'

theorem ofFloat?_zero (zero : (x == 0) = true) :
    ∃ negative, Binary64.ofFloat? x = some ⟨negative, 0, Binary64.leastExponent⟩ := by
  rcases eq_zero_or zero with rfl | rfl
  · exact ⟨false, rfl⟩
  · exact ⟨true, rfl⟩

theorem toFloat_zero (negative : Bool) (exponent : Int) :
    ((Binary64.mk negative 0 exponent).toFloat == 0) = true := by
  have moved : (Binary64.mk negative 0 exponent).normalize.mantissa = 0 := Nat.zero_shiftLeft _
  have small : (Binary64.mk negative 0 exponent).normalize.mantissa < Binary64.leadingBit := by
    rw [moved]
    decide
  have bits : (Binary64.mk negative 0 exponent).toFloat =
      .ofBits (UInt64.ofNat ((if negative then 1 <<< 63 else 0) + 0)) := by
    simp only [Binary64.toFloat, if_pos small]
    rw [moved]
  rw [bits]
  cases negative <;> decide

/-- The remainder of nothing is nothing, or it is not a number whatever is divided. -/
theorem Same.remainder_left (same : Same x x') (y : Float) :
    Same (remainder x y) (remainder x' y) := by
  rcases same_iff.mp same with rfl | ⟨zero, zero'⟩
  · exact .refl _
  obtain ⟨negative, form⟩ := ofFloat?_zero zero
  obtain ⟨negative', form'⟩ := ofFloat?_zero zero'
  rw [remainder, remainder, form, form']
  cases Binary64.ofFloat? y with
  | none =>
    dsimp only
    split
    · exact .refl _
    · exact same
  | some b =>
    dsimp only
    split
    · exact .refl _
    · refine .of_zeros ?_ ?_
      · simp only [Binary64.remainder, Nat.zero_shiftLeft, Nat.zero_mod]
        exact toFloat_zero ..
      · simp only [Binary64.remainder, Nat.zero_shiftLeft, Nat.zero_mod]
        exact toFloat_zero ..

theorem remainder_zero (zero : (y == 0) = true) : remainder x y = nan := by
  obtain ⟨negative, form⟩ := ofFloat?_zero zero
  rw [remainder, form]
  cases Binary64.ofFloat? x with
  | none => rfl
  | some a => exact if_pos rfl

theorem Same.remainder (first : Same x x') (second : Same y y') :
    Same (remainder x y) (remainder x' y') := by
  rcases same_iff.mp second with rfl | ⟨zero, zero'⟩
  · exact first.remainder_left y
  · rw [remainder_zero zero, remainder_zero zero']
    exact .refl _

/-- A power sees the sign of a base that is zero, unless the exponent is zero. -/
theorem Same.power (first : Same x x') (second : Same y y')
    (kept : (x == 0) = true → (y == 0) = true ∨ x' = x) : Same (power x y) (power x' y') := by
  by_cases none : (y == 0) = true
  · rw [power_of_zero none, power_of_zero (second.zero_iff ▸ none)]
    exact .refl _
  · have exponents : y = y' := (same_iff.mp second).resolve_right fun zeros => none zeros.1
    have bases : x = x' := by
      rcases same_iff.mp first with same | ⟨zero, _⟩
      · exact same
      · exact ((kept zero).resolve_left none).symm
    rw [bases, exponents]
    exact .refl _

end Same

section Zero
variable {x z : Float}

theorem alike_add_zero (u : UnpackedFloat) (s : Sign) :
    Alike (UnpackedFloat.add .binary64 u (.zero s)) u := by
  cases u with
  | zero t => cases s <;> cases t <;> exact .zeros ..
  | notANumber | infinity | finite => exact .refl _

theorem alike_zero_add (s : Sign) (u : UnpackedFloat) :
    Alike (UnpackedFloat.add .binary64 (.zero s) u) u := by
  cases u with
  | zero t => cases s <;> cases t <;> exact .zeros ..
  | notANumber | infinity | finite => exact .refl _

theorem same_add_zero (zero : (z == 0) = true) : Same (x + z) x := by
  obtain ⟨s, form⟩ := read_zero zero
  have sum := alike_add_zero (read x) s
  rw [← form] at sum
  exact same_write_read sum

theorem same_zero_add (zero : (z == 0) = true) : Same (z + x) x := by
  obtain ⟨s, form⟩ := read_zero zero
  have sum := alike_zero_add s (read x)
  rw [← form] at sum
  exact same_write_read sum

theorem same_sub_zero (zero : (z == 0) = true) : Same (x - z) x := by
  obtain ⟨s, form⟩ := read_zero zero
  have difference : Alike (UnpackedFloat.sub .binary64 (read x) (read z)) (read x) := by
    rw [sub_eq_add_neg, form]
    exact alike_add_zero (read x) (-s)
  exact same_write_read difference

theorem same_zero_sub (zero : (z == 0) = true) : Same (z - x) (-x) := by
  obtain ⟨s, form⟩ := read_zero zero
  have difference : Alike (UnpackedFloat.sub .binary64 (read z) (read x)) (read x).neg := by
    rw [sub_eq_add_neg, form]
    exact alike_zero_add s (read x).neg
  exact same_write difference

theorem same_mul_zero (zero : (z == 0) = true) (finite : x.isFinite = true) :
    Same (x * z) 0 := by
  obtain ⟨s, form⟩ := read_zero zero
  have finite : (read x).isFinite = true := finite
  have product : Alike (UnpackedFloat.mul .binary64 (read x) (read z)) (.zero .positive) := by
    rw [form]
    cases form' : read x with
    | zero | finite => exact .zeros ..
    | notANumber | infinity =>
      rw [form'] at finite
      cases finite
  exact same_write product

theorem same_zero_mul (zero : (z == 0) = true) (finite : x.isFinite = true) :
    Same (z * x) 0 := by
  obtain ⟨s, form⟩ := read_zero zero
  have finite : (read x).isFinite = true := finite
  have product : Alike (UnpackedFloat.mul .binary64 (read z) (read x)) (.zero .positive) := by
    rw [form]
    cases form' : read x with
    | zero | finite => exact .zeros ..
    | notANumber | infinity =>
      rw [form'] at finite
      cases finite
  exact same_write product

end Zero
end JobLang.Number
