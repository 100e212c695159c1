import JobLang.Proofs.Number.Neutral
import JobLang.Proofs.Run.Follows
import JobLang.Typed.Simplify

/-!
# Simplified operations

A binary node is simplified when its operands have been. If both operands evaluate and the operator
computes a value, then the simplified node evaluates to that value, unless it is one of the few
operations on a literal zero that simplification gives another result: a product with something that
is not a literal, or a sum or difference with something that is not a literal and is zero, infinite
or not a number.
-/
namespace JobLang

/-- A number that is finite and not zero. -/
def Value.isOrdinary : Value → Bool
  | .num x => Number.isOrdinary x
  | .baal _ | .quote _ => false

namespace Run

open Typed (Expr Stmt)

/-- The one operand is a literal zero and the other is not a literal. -/
def loneZero (zero other : Expr) : Bool := zero.isNum 0 && !other.isLiteral

/-- The operations that simplification keeps the result of, given simplified operands. A sum or a
difference with a literal zero is replaced by the other operand, and a product with one by zero. -/
def harmlessAt (op : BinaryOp) (left right : Expr) (a b : Value) : Bool :=
  match op with
  | .add | .minus =>
    (!loneZero left right || b.isOrdinary) && (!loneZero right left || a.isOrdinary)
  | .multiply => !loneZero left right && !loneZero right left
  | _ => true

/-- The test of operations on simplified operands, for the operands as they were. -/
def Watch.harmless : Watch := fun op left right a b =>
  harmlessAt op left.simplify right.simplify a b

section Operands
variable {op : BinaryOp} {a b v : Value}

theorem apply?_num_right {z : Float} (applied : op.apply? a (.num z) = some v) :
    ∃ x, a = .num x ∧ op.applyNum? x z = some v := by
  cases a with
  | num x => exact ⟨x, rfl, applied⟩
  | baal | quote => cases applied

theorem apply?_num_left {z : Float} (applied : op.apply? (.num z) b = some v) :
    ∃ x, b = .num x ∧ op.applyNum? z x = some v := by
  cases b with
  | num x => exact ⟨x, rfl, applied⟩
  | baal | quote => cases applied

theorem apply?_baal_right {truth : Bool} (applied : op.apply? a (.baal truth) = some v) :
    ∃ x, a = .baal x ∧ op.applyBaal? x truth = some v := by
  cases a with
  | baal x => exact ⟨x, rfl, applied⟩
  | num | quote => cases applied

theorem apply?_baal_left {truth : Bool} (applied : op.apply? (.baal truth) b = some v) :
    ∃ x, b = .baal x ∧ op.applyBaal? truth x = some v := by
  cases b with
  | baal x => exact ⟨x, rfl, applied⟩
  | num | quote => cases applied

end Operands

section Literals
variable {watch : Watch} {invoke : Invoke} {e : Expr} {before after : World} {a c : Value}

theorem value_eq_some : value watch invoke e before = some (a, after) ↔
    eval watch invoke e before = some (some a, after) := by
  rw [value, valueOf, bind_eq_some]
  constructor
  · rintro ⟨found, middle, ran, lifted⟩
    obtain ⟨rfl, rfl⟩ := lift_eq_some.mp lifted
    exact ran
  · intro ran
    exact ⟨some a, after, ran, rfl⟩

/-- A literal has its value and changes nothing. -/
theorem value_literal (literal : e.value? = some c)
    (ran : value watch invoke e before = some (a, after)) : a = c ∧ before = after := by
  cases e with
  | lit c' note =>
    cases literal
    rw [value_eq_some, eval] at ran
    obtain ⟨same, rfl⟩ := return_eq_some.mp ran
    exact ⟨(Option.some.inj same).symm, rfl⟩
  | var | binary | unary | call => cases literal

/-- An expression without calls changes nothing. -/
theorem eval_callFree : ∀ {e : Expr} {result : Option Value} {before after : World},
    e.containsCall = false → eval watch invoke e before = some (result, after) → before = after
  | .lit _ _, result, before, after, _, ran => by
      rw [eval] at ran
      exact (return_eq_some.mp ran).2
  | .var v _, result, before, after, _, ran => by
      rw [eval] at ran
      obtain ⟨a, middle, found, same⟩ := bind_eq_some.mp ran
      exact (lookup_eq_some.mp found).2.trans (return_eq_some.mp same).2
  | .binary op left right _, result, before, after, free, ran => by
      obtain ⟨freeLeft, freeRight⟩ := Bool.or_eq_false_iff.mp free
      rw [eval] at ran
      obtain ⟨a, middle, first, ran⟩ := bind_eq_some.mp ran
      obtain ⟨b, last, second, ran⟩ := bind_eq_some.mp ran
      obtain ⟨v, final, operated, same⟩ := bind_eq_some.mp ran
      have kept : last = final := by
        rw [operate] at operated
        split at operated
        · exact (lift_eq_some.mp operated).2
        · cases operated
      calc before = middle := eval_callFree freeLeft (value_eq_some.mp first)
        _ = last := eval_callFree freeRight (value_eq_some.mp second)
        _ = final := kept
        _ = after := (return_eq_some.mp same).2
  | .unary op operand _, result, before, after, free, ran => by
      rw [Expr.containsCall] at free
      rw [eval] at ran
      obtain ⟨a, middle, first, ran⟩ := bind_eq_some.mp ran
      obtain ⟨v, final, operated, same⟩ := bind_eq_some.mp ran
      calc before = middle := eval_callFree free (value_eq_some.mp first)
        _ = final := (lift_eq_some.mp operated).2
        _ = after := (return_eq_some.mp same).2

theorem value_callFree (free : e.containsCall = false)
    (ran : value watch invoke e before = some (a, after)) : before = after :=
  eval_callFree free (value_eq_some.mp ran)

end Literals

/-- Operands that have values, and that make no literal, are not both literals. -/
theorem notBoth_of_unfolded {op : BinaryOp} {left right : Expr} {a b v : Value}
    (first : ∀ c, left.value? = some c → a = c) (second : ∀ c, right.value? = some c → b = c)
    (applied : op.apply? a b = some v) (unfolded : Expr.foldBinary? op left right = none) :
    ¬(left.isLiteral = true ∧ right.isLiteral = true) := by
  rintro ⟨left?, right?⟩
  obtain ⟨c, left?⟩ := Option.isSome_iff_exists.mp left?
  obtain ⟨d, right?⟩ := Option.isSome_iff_exists.mp right?
  rw [Expr.foldBinary?, left?, right?] at unfolded
  rw [first c left?, second d right?] at applied
  cases applied.symm.trans unfolded

theorem loneZero_of_isNum {e other : Expr} (zero : e.isNum 0 = true)
    (notBoth : ¬(e.isLiteral = true ∧ other.isLiteral = true)) : loneZero e other = true := by
  have other' : other.isLiteral = false :=
    Bool.eq_false_iff.mpr fun literal => notBoth ⟨Expr.isLiteral_of_isNum zero, literal⟩
  rw [loneZero, zero, other']
  rfl

theorem value_lit {invoke : Invoke} {world : World} (c : Value) (note : Typed.Note) :
    value .none invoke (.lit c note) world = some (c, world) := by
  rw [value_eq_some, eval]
  rfl

theorem value_unary {invoke : Invoke} {op : UnaryOp} {operand : Expr} {before after : World}
    {a v : Value} (ran : value .none invoke operand before = some (a, after))
    (applied : op.apply? a = some v) (note : Typed.Note) :
    value .none invoke (.unary op operand note) before = some (v, after) := by
  rw [value_eq_some, eval]
  refine bind_eq_some.mpr ⟨a, after, ran, ?_⟩
  exact bind_eq_some.mpr ⟨v, after, lift_eq_some.mpr ⟨applied, rfl⟩, rfl⟩

/-- A simplified node evaluates to the result of its operator. -/
theorem value_simplifyUnary {invoke : Invoke} {op : UnaryOp} {operand : Expr}
    {before after : World} {a v : Value}
    (ran : value .none invoke operand before = some (a, after)) (applied : op.apply? a = some v)
    (note : Typed.Note) :
    value .none invoke (Expr.simplifyUnary op operand note) before = some (v, after) := by
  rw [Expr.simplifyUnary]
  cases folded : Expr.foldUnary? op operand with
  | none => exact value_unary ran applied note
  | some c =>
    obtain ⟨x, operand?, folded⟩ := Expr.value?_of_foldUnary? folded
    obtain ⟨rfl, rfl⟩ := value_literal operand? ran
    cases applied.symm.trans folded
    exact value_lit v note

/-- Both operands have been evaluated, one after the other, and the operator applied. -/
structure Operated (invoke : Invoke) (op : BinaryOp) (left right : Expr)
    (before middle after : World) (a b v : Value) : Prop where
  first : value .none invoke left before = some (a, middle)
  second : value .none invoke right middle = some (b, after)
  applied : op.apply? a b = some v

namespace Operated
variable {invoke : Invoke} {op : BinaryOp} {left right : Expr} {before middle after : World}
  {a b v c : Value}

/-- The operation as a node. -/
theorem node (operated : Operated invoke op left right before middle after a b v)
    (note : Typed.Note) :
    value .none invoke (.binary op left right note) before = some (v, after) := by
  rw [value_eq_some, eval]
  refine bind_eq_some.mpr ⟨a, middle, operated.first, ?_⟩
  refine bind_eq_some.mpr ⟨b, after, operated.second, ?_⟩
  exact bind_eq_some.mpr ⟨v, after, lift_eq_some.mpr ⟨operated.applied, rfl⟩, rfl⟩

/-- A neutral literal on the right leaves the operand on the left. -/
theorem left_of (operated : Operated invoke op left right before middle after a b v)
    (literal : right.value? = some c) (neutral : op.apply? a c = some v → a = v) :
    value .none invoke left before = some (v, after) := by
  obtain ⟨rfl, rfl⟩ := value_literal literal operated.second
  rw [← neutral operated.applied]
  exact operated.first

/-- A neutral literal on the left leaves the operand on the right. -/
theorem right_of (operated : Operated invoke op left right before middle after a b v)
    (literal : left.value? = some c) (neutral : op.apply? c b = some v → b = v) :
    value .none invoke right before = some (v, after) := by
  obtain ⟨rfl, rfl⟩ := value_literal literal operated.first
  rw [← neutral operated.applied]
  exact operated.second

theorem left_of_num {n : Float}
    (operated : Operated invoke op left right before middle after a b v)
    (number : right.isNum n = true)
    (neutral : ∀ x z, a = .num x → (z == n) = true → op.applyNum? x z = some v → .num x = v) :
    value .none invoke left before = some (v, after) := by
  obtain ⟨z, literal, same⟩ := Expr.value?_of_isNum number
  refine operated.left_of literal fun applied => ?_
  obtain ⟨x, rfl, applied⟩ := apply?_num_right applied
  exact neutral x z rfl same applied

theorem right_of_num {n : Float}
    (operated : Operated invoke op left right before middle after a b v)
    (number : left.isNum n = true)
    (neutral : ∀ x z, b = .num x → (z == n) = true → op.applyNum? z x = some v → .num x = v) :
    value .none invoke right before = some (v, after) := by
  obtain ⟨z, literal, same⟩ := Expr.value?_of_isNum number
  refine operated.right_of literal fun applied => ?_
  obtain ⟨x, rfl, applied⟩ := apply?_num_left applied
  exact neutral x z rfl same applied

theorem left_of_baal {truth : Bool}
    (operated : Operated invoke op left right before middle after a b v)
    (is : right.isBaal truth = true)
    (neutral : ∀ x, op.applyBaal? x truth = some v → .baal x = v) :
    value .none invoke left before = some (v, after) := by
  refine operated.left_of (Expr.value?_of_isBaal is) fun applied => ?_
  obtain ⟨x, rfl, applied⟩ := apply?_baal_right applied
  exact neutral x applied

theorem right_of_baal {truth : Bool}
    (operated : Operated invoke op left right before middle after a b v)
    (is : left.isBaal truth = true)
    (neutral : ∀ x, op.applyBaal? truth x = some v → .baal x = v) :
    value .none invoke right before = some (v, after) := by
  refine operated.right_of (Expr.value?_of_isBaal is) fun applied => ?_
  obtain ⟨x, rfl, applied⟩ := apply?_baal_left applied
  exact neutral x applied

/-- Two literals make a literal. -/
theorem fold (operated : Operated invoke op left right before middle after a b v)
    (folded : Expr.foldBinary? op left right = some c) (note : Typed.Note) :
    value .none invoke (.lit c note) before = some (v, after) := by
  obtain ⟨x, y, left?, right?, folded⟩ := Expr.value?_of_foldBinary? folded
  obtain ⟨rfl, rfl⟩ := value_literal left? operated.first
  obtain ⟨rfl, rfl⟩ := value_literal right? operated.second
  cases operated.applied.symm.trans folded
  exact value_lit v note

end Operated

/-- An operation that does not make a literal, and that simplification may not change. -/
structure Reduced (invoke : Invoke) (op : BinaryOp) (left right : Expr)
    (before middle after : World) (a b v : Value) : Prop
    extends Operated invoke op left right before middle after a b v where
  unfolded : Expr.foldBinary? op left right = none
  harmless : harmlessAt op left right a b = true

namespace Reduced
variable {invoke : Invoke} {op : BinaryOp} {left right : Expr} {before middle after : World}
  {a b v : Value}

/-- The operands are not both literals. -/
theorem notBoth (reduced : Reduced invoke op left right before middle after a b v) :
    ¬(left.isLiteral = true ∧ right.isLiteral = true) :=
  notBoth_of_unfolded (fun _ literal => (value_literal literal reduced.first).1)
    (fun _ literal => (value_literal literal reduced.second).1) reduced.applied reduced.unfolded

theorem loneZero_left (reduced : Reduced invoke op left right before middle after a b v)
    (zero : left.isNum 0 = true) : loneZero left right = true :=
  loneZero_of_isNum zero reduced.notBoth

theorem loneZero_right (reduced : Reduced invoke op left right before middle after a b v)
    (zero : right.isNum 0 = true) : loneZero right left = true :=
  loneZero_of_isNum zero fun both => reduced.notBoth both.symm

theorem add (reduced : Reduced invoke .add left right before middle after a b v)
    (note : Typed.Note) :
    value .none invoke (Expr.reduceBinary .add left right note) before = some (v, after) := by
  obtain ⟨ordinary, ordinary'⟩ := Bool.and_eq_true_iff.mp reduced.harmless
  rw [Expr.reduceBinary]
  by_cases zeroRight : right.isNum 0 = true
  · rw [reduced.loneZero_right zeroRight] at ordinary'
    rw [if_pos zeroRight]
    refine reduced.left_of_num zeroRight fun x z number zero sum => ?_
    cases number
    cases sum
    rw [Number.add_zero zero ordinary']
  rw [if_neg zeroRight]
  by_cases zeroLeft : left.isNum 0 = true
  · rw [reduced.loneZero_left zeroLeft] at ordinary
    rw [if_pos zeroLeft]
    refine reduced.right_of_num zeroLeft fun x z number zero sum => ?_
    cases number
    cases sum
    rw [Number.zero_add zero ordinary]
  rw [if_neg zeroLeft]
  exact reduced.node note

theorem minus (reduced : Reduced invoke .minus left right before middle after a b v)
    (note : Typed.Note) :
    value .none invoke (Expr.reduceBinary .minus left right note) before = some (v, after) := by
  obtain ⟨ordinary, ordinary'⟩ := Bool.and_eq_true_iff.mp reduced.harmless
  rw [Expr.reduceBinary]
  by_cases zeroRight : right.isNum 0 = true
  · rw [reduced.loneZero_right zeroRight] at ordinary'
    rw [if_pos zeroRight]
    refine reduced.left_of_num zeroRight fun x z number zero difference => ?_
    cases number
    cases difference
    rw [Number.sub_zero zero ordinary']
  rw [if_neg zeroRight]
  by_cases zeroLeft : left.isNum 0 = true
  · rw [reduced.loneZero_left zeroLeft] at ordinary
    obtain ⟨z, literal, zero⟩ := Expr.value?_of_isNum zeroLeft
    obtain ⟨rfl, rfl⟩ := value_literal literal reduced.first
    obtain ⟨x, rfl, difference⟩ := apply?_num_left reduced.applied
    cases difference
    rw [if_pos zeroLeft, Number.zero_sub zero ordinary]
    exact value_unary reduced.second rfl note
  rw [if_neg zeroLeft]
  exact reduced.node note

theorem multiply (reduced : Reduced invoke .multiply left right before middle after a b v)
    (note : Typed.Note) :
    value .none invoke (Expr.reduceBinary .multiply left right note) before = some (v, after) := by
  obtain ⟨apart, apart'⟩ := Bool.and_eq_true_iff.mp reduced.harmless
  have zeroLeft : left.isNum 0 = false := Bool.eq_false_iff.mpr fun zero => by
    rw [reduced.loneZero_left zero] at apart
    cases apart
  have zeroRight : right.isNum 0 = false := Bool.eq_false_iff.mpr fun zero => by
    rw [reduced.loneZero_right zero] at apart'
    cases apart'
  rw [Expr.reduceBinary, zeroLeft, zeroRight, Bool.false_and, Bool.false_and]
  by_cases oneRight : right.isNum 1 = true
  · rw [if_pos oneRight]
    refine reduced.left_of_num oneRight fun x z number one product => ?_
    cases product
    rw [Number.mul_one one]
  rw [if_neg oneRight]
  by_cases oneLeft : left.isNum 1 = true
  · rw [if_pos oneLeft]
    refine reduced.right_of_num oneLeft fun x z number one product => ?_
    cases product
    rw [Number.one_mul one]
  rw [if_neg oneLeft]
  exact reduced.node note

theorem divide (reduced : Reduced invoke .divide left right before middle after a b v)
    (note : Typed.Note) :
    value .none invoke (Expr.reduceBinary .divide left right note) before = some (v, after) := by
  rw [Expr.reduceBinary]
  by_cases oneRight : right.isNum 1 = true
  · rw [if_pos oneRight]
    refine reduced.left_of_num oneRight fun x z number one quotient => ?_
    cases quotient
    rw [Number.div_one one]
  rw [if_neg oneRight]
  exact reduced.node note

theorem power (reduced : Reduced invoke .power left right before middle after a b v)
    (note : Typed.Note) :
    value .none invoke (Expr.reduceBinary .power left right note) before = some (v, after) := by
  rw [Expr.reduceBinary]
  by_cases zeroRight : (right.isNum 0 && !left.containsCall) = true
  · obtain ⟨zero, free⟩ := Bool.and_eq_true_iff.mp zeroRight
    obtain ⟨z, literal, zero⟩ := Expr.value?_of_isNum zero
    obtain ⟨rfl, rfl⟩ := value_literal literal reduced.second
    obtain ⟨x, rfl, raised⟩ := apply?_num_right reduced.applied
    cases raised
    rw [if_pos zeroRight, value_callFree (by simpa using free) reduced.first,
      Number.power_of_zero zero]
    exact value_lit _ note
  rw [if_neg zeroRight]
  by_cases oneLeft : (left.isNum 1 && !right.containsCall) = true
  · obtain ⟨one, free⟩ := Bool.and_eq_true_iff.mp oneLeft
    obtain ⟨z, literal, one⟩ := Expr.value?_of_isNum one
    obtain ⟨rfl, rfl⟩ := value_literal literal reduced.first
    obtain ⟨x, rfl, raised⟩ := apply?_num_left reduced.applied
    cases raised
    rw [if_pos oneLeft, value_callFree (by simpa using free) reduced.second,
      Number.power_of_one one]
    exact value_lit _ note
  rw [if_neg oneLeft]
  exact reduced.node note

theorem and (reduced : Reduced invoke .and left right before middle after a b v)
    (note : Typed.Note) :
    value .none invoke (Expr.reduceBinary .and left right note) before = some (v, after) := by
  rw [Expr.reduceBinary]
  by_cases trueLeft : left.isBaal true = true
  · rw [if_pos trueLeft]
    refine reduced.right_of_baal trueLeft fun x both => ?_
    cases both
    rw [Bool.true_and]
  rw [if_neg trueLeft]
  by_cases trueRight : right.isBaal true = true
  · rw [if_pos trueRight]
    refine reduced.left_of_baal trueRight fun x both => ?_
    cases both
    rw [Bool.and_true]
  rw [if_neg trueRight]
  exact reduced.node note

theorem or (reduced : Reduced invoke .or left right before middle after a b v)
    (note : Typed.Note) :
    value .none invoke (Expr.reduceBinary .or left right note) before = some (v, after) := by
  rw [Expr.reduceBinary]
  by_cases falseLeft : left.isBaal false = true
  · rw [if_pos falseLeft]
    refine reduced.right_of_baal falseLeft fun x either => ?_
    cases either
    rw [Bool.false_or]
  rw [if_neg falseLeft]
  by_cases falseRight : right.isBaal false = true
  · rw [if_pos falseRight]
    refine reduced.left_of_baal falseRight fun x either => ?_
    cases either
    rw [Bool.or_false]
  rw [if_neg falseRight]
  exact reduced.node note

/-- A reduced node evaluates to the result of the operation. -/
theorem reduceBinary (reduced : Reduced invoke op left right before middle after a b v)
    (note : Typed.Note) :
    value .none invoke (Expr.reduceBinary op left right note) before = some (v, after) := by
  cases op with
  | add => exact reduced.add note
  | minus => exact reduced.minus note
  | multiply => exact reduced.multiply note
  | divide => exact reduced.divide note
  | power => exact reduced.power note
  | and => exact reduced.and note
  | or => exact reduced.or note
  | mod | less | greater | equals | notEquals => exact reduced.node note

end Reduced

/-- A simplified node evaluates to the result of the operation. -/
theorem Operated.simplifyBinary {invoke : Invoke} {op : BinaryOp} {left right : Expr}
    {before middle after : World} {a b v : Value}
    (operated : Operated invoke op left right before middle after a b v)
    (harmless : harmlessAt op left right a b = true) (note : Typed.Note) :
    value .none invoke (Expr.simplifyBinary op left right note) before = some (v, after) := by
  rw [Expr.simplifyBinary]
  cases folded : Expr.foldBinary? op left right with
  | some c => exact operated.fold folded note
  | none => exact Reduced.reduceBinary ⟨operated, folded, harmless⟩ note

end Run
end JobLang
