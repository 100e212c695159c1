import JobLang.Proofs.Evaluation.Expressions
import JobLang.Proofs.Number.Zeros
import JobLang.Proofs.Run.Operations

/-!
# Values of simplified expressions

A rule that takes a literal zero away from a sum or a difference leaves a value that can differ in
the sign of zero, and a product with a literal zero is replaced by zero even where the other factor
is infinite or not a number. So a simplified expression has the value of the expression up to the
sign of zero, if such factors are finite and if no zero of the other sign comes to divide or to be
raised to a power. Neither condition can be left out.
-/
namespace JobLang

/-- Numbers are the same up to the sign of zero, other values if they are equal. -/
def Value.Same : Value → Value → Prop
  | .num x, .num y => Number.Same x y
  | a, b => a = b

namespace Value.Same
variable {a b c : Value}

theorem refl (a : Value) : a.Same a := by
  cases a with
  | num x => exact Number.Same.refl x
  | baal | quote => rfl

theorem of_num {x : Float} (same : Value.Same (.num x) a) :
    ∃ y, a = .num y ∧ Number.Same x y := by
  cases a with
  | num y => exact ⟨y, rfl, same⟩
  | baal | quote => cases same

theorem of_baal {p : Bool} (same : Value.Same (.baal p) a) : a = .baal p := by
  cases a with
  | baal q => exact same.symm
  | num | quote => cases same

theorem of_quote {s : String} (same : Value.Same (.quote s) a) : a = .quote s := by
  cases a with
  | quote t => exact same.symm
  | num | baal => cases same

theorem trans (first : a.Same b) (second : b.Same c) : a.Same c := by
  cases a with
  | num x =>
    obtain ⟨y, rfl, first⟩ := first.of_num
    obtain ⟨z, rfl, second⟩ := second.of_num
    exact Number.Same.trans first second
  | baal p =>
    cases first.of_baal
    exact second
  | quote s =>
    cases first.of_quote
    exact second

end Value.Same

/-- A zero whose sign the operator sees is the same zero in both pairs of operands: a zero that
something other than zero is divided by, and a zero that is raised to a power other than zero. Only
a negative odd power tells the two zeros apart by IEEE 754, but the power of doubles is left to the
platform. It is fixed for the exponent zero and for the base one only, so that nothing follows for
the other powers of a zero whose sign has changed. -/
def BinaryOp.keepsSign (op : BinaryOp) (a b a' b' : Value) : Bool :=
  match op, a, b, a', b' with
  | .divide, .num x, .num y, _, .num y' => !(y == 0) || (x == 0 || x.isNaN) || y' = y
  | .power, .num x, .num y, .num x', _ => !(x == 0) || y == 0 || x' = x
  | _, _, _, _, _ => true

theorem BinaryOp.applyNum?_same {op : BinaryOp} {x y x' y' : Float} {v : Value}
    (first : Number.Same x x') (second : Number.Same y y')
    (kept : op.keepsSign (.num x) (.num y) (.num x') (.num y') = true)
    (applied : op.applyNum? x y = some v) : ∃ v', op.applyNum? x' y' = some v' ∧ v.Same v' := by
  cases op with
  | add =>
    cases applied
    exact ⟨_, rfl, first.add second⟩
  | minus =>
    cases applied
    exact ⟨_, rfl, first.sub second⟩
  | multiply =>
    cases applied
    exact ⟨_, rfl, first.mul second⟩
  | divide =>
    cases applied
    refine ⟨_, rfl, first.div second fun zero => ?_⟩
    simpa [keepsSign, zero] using kept
  | mod =>
    cases applied
    exact ⟨_, rfl, first.remainder second⟩
  | power =>
    cases applied
    refine ⟨_, rfl, first.power second fun zero => ?_⟩
    simpa [keepsSign, zero] using kept
  | less =>
    cases applied
    exact ⟨_, rfl, congrArg Value.baal (decide_eq_decide.mpr (first.lt_iff_lt second))⟩
  | greater =>
    cases applied
    exact ⟨_, rfl, congrArg Value.baal (decide_eq_decide.mpr (second.lt_iff_lt first))⟩
  | equals =>
    cases applied
    exact ⟨_, rfl, congrArg Value.baal (first.beq_eq_beq second)⟩
  | notEquals =>
    cases applied
    exact ⟨_, rfl, congrArg (Value.baal !·) (first.beq_eq_beq second)⟩
  | and | or => cases applied

/-- Operands that are the same give results that are the same. -/
theorem BinaryOp.apply?_same {op : BinaryOp} {a b a' b' v : Value} (first : a.Same a')
    (second : b.Same b') (kept : op.keepsSign a b a' b' = true) (applied : op.apply? a b = some v) :
    ∃ v', op.apply? a' b' = some v' ∧ v.Same v' := by
  cases a with
  | num x =>
    obtain ⟨x', rfl, first⟩ := first.of_num
    cases b with
    | num y =>
      obtain ⟨y', rfl, second⟩ := second.of_num
      exact applyNum?_same first second kept applied
    | baal | quote => cases applied
  | baal p =>
    cases first.of_baal
    cases b with
    | baal q =>
      cases second.of_baal
      exact ⟨v, applied, .refl v⟩
    | num | quote => cases applied
  | quote s =>
    cases first.of_quote
    cases b with
    | quote t =>
      cases second.of_quote
      exact ⟨v, applied, .refl v⟩
    | num | baal => cases applied

theorem UnaryOp.apply?_same {op : UnaryOp} {a a' v : Value} (same : a.Same a')
    (applied : op.apply? a = some v) : ∃ v', op.apply? a' = some v' ∧ v.Same v' := by
  cases a with
  | num x =>
    obtain ⟨x', rfl, same⟩ := same.of_num
    cases op <;> cases applied
    exact ⟨_, rfl, same.neg⟩
  | baal p =>
    cases same.of_baal
    exact ⟨v, applied, .refl v⟩
  | quote s =>
    cases same.of_quote
    exact ⟨v, applied, .refl v⟩

/-- A number that is neither infinite nor undefined. -/
def Value.isFinite : Value → Bool
  | .num x => x.isFinite
  | .baal _ | .quote _ => false

theorem Value.Same.isFinite_eq {a b : Value} (same : a.Same b) : a.isFinite = b.isFinite := by
  cases a with
  | num x =>
    obtain ⟨y, rfl, same⟩ := same.of_num
    exact Number.Same.isFinite_eq same
  | baal p =>
    cases same.of_baal
    rfl
  | quote s =>
    cases same.of_quote
    rfl

namespace Typed.Expr

open Run (loneZero)

/-- The expression evaluates to a value that is the same as the given one. -/
def Gives (env : Variable → Value) (e : Expr) (v : Value) : Prop :=
  ∃ w, e.evaluate? env = some w ∧ v.Same w

/-- The factors of a product are finite if the other one is a literal zero and they are not literals
themselves. -/
def finiteFactors (op : BinaryOp) (left right : Expr) (a b : Value) : Bool :=
  op != .multiply || (!loneZero left right || b.isFinite) && (!loneZero right left || a.isFinite)

/-- Both operands evaluate, the operator computes a value of theirs, and it is not a literal that it
makes. -/
structure Applied (env : Variable → Value) (op : BinaryOp) (left right : Expr) (a b v : Value) :
    Prop where
  first : left.evaluate? env = some a
  second : right.evaluate? env = some b
  applied : op.apply? a b = some v
  unfolded : foldBinary? op left right = none

namespace Applied
variable {env : Variable → Value} {op : BinaryOp} {left right : Expr} {a b v : Value}

theorem node (applied : Applied env op left right a b v) (note : Note) :
    Gives env (.binary op left right note) v :=
  ⟨v, (evaluate?_binary applied.first applied.second).trans applied.applied, .refl v⟩

theorem value_of_left {c : Value} (applied : Applied env op left right a b v)
    (literal : left.value? = some c) : a = c :=
  Option.some.inj (applied.first.symm.trans (evaluate?_of_value? literal))

theorem value_of_right {c : Value} (applied : Applied env op left right a b v)
    (literal : right.value? = some c) : b = c :=
  Option.some.inj (applied.second.symm.trans (evaluate?_of_value? literal))

/-- The operands are not both literals. -/
theorem notBoth (applied : Applied env op left right a b v) :
    ¬(left.isLiteral = true ∧ right.isLiteral = true) :=
  Run.notBoth_of_unfolded (fun _ => applied.value_of_left) (fun _ => applied.value_of_right)
    applied.applied applied.unfolded

theorem loneZero_left (applied : Applied env op left right a b v)
    (zero : left.isNum 0 = true) : loneZero left right = true :=
  Run.loneZero_of_isNum zero applied.notBoth

theorem loneZero_right (applied : Applied env op left right a b v)
    (zero : right.isNum 0 = true) : loneZero right left = true :=
  Run.loneZero_of_isNum zero fun both => applied.notBoth both.symm

/-- A literal number on the right, and the number on the left. -/
theorem numbers_of_right {n : Float} (applied : Applied env op left right a b v)
    (number : right.isNum n = true) :
    ∃ x z, a = .num x ∧ (z == n) = true ∧ op.applyNum? x z = some v := by
  obtain ⟨z, literal, same⟩ := value?_of_isNum number
  cases applied.value_of_right literal
  obtain ⟨x, rfl, computed⟩ := Run.apply?_num_right applied.applied
  exact ⟨x, z, rfl, same, computed⟩

/-- A literal number on the left, and the number on the right. -/
theorem numbers_of_left {n : Float} (applied : Applied env op left right a b v)
    (number : left.isNum n = true) :
    ∃ x z, b = .num x ∧ (z == n) = true ∧ op.applyNum? z x = some v := by
  obtain ⟨z, literal, same⟩ := value?_of_isNum number
  cases applied.value_of_left literal
  obtain ⟨x, rfl, computed⟩ := Run.apply?_num_left applied.applied
  exact ⟨x, z, rfl, same, computed⟩

/-- The truth value on the left of a literal one. -/
theorem truth_of_right {truth : Bool} (applied : Applied env op left right a b v)
    (is : right.isBaal truth = true) : ∃ p, a = .baal p ∧ op.applyBaal? p truth = some v := by
  cases applied.value_of_right (value?_of_isBaal is)
  exact Run.apply?_baal_right applied.applied

/-- The truth value on the right of a literal one. -/
theorem truth_of_left {truth : Bool} (applied : Applied env op left right a b v)
    (is : left.isBaal truth = true) : ∃ p, b = .baal p ∧ op.applyBaal? truth p = some v := by
  cases applied.value_of_left (value?_of_isBaal is)
  exact Run.apply?_baal_left applied.applied

theorem add (applied : Applied env .add left right a b v) (note : Note) :
    Gives env (reduceBinary .add left right note) v := by
  rw [reduceBinary]
  by_cases zeroRight : right.isNum 0 = true
  · obtain ⟨x, z, rfl, zero, sum⟩ := applied.numbers_of_right zeroRight
    cases sum
    rw [if_pos zeroRight]
    exact ⟨_, applied.first, Number.same_add_zero zero⟩
  rw [if_neg zeroRight]
  by_cases zeroLeft : left.isNum 0 = true
  · obtain ⟨x, z, rfl, zero, sum⟩ := applied.numbers_of_left zeroLeft
    cases sum
    rw [if_pos zeroLeft]
    exact ⟨_, applied.second, Number.same_zero_add zero⟩
  rw [if_neg zeroLeft]
  exact applied.node note

theorem minus (applied : Applied env .minus left right a b v) (note : Note) :
    Gives env (reduceBinary .minus left right note) v := by
  rw [reduceBinary]
  by_cases zeroRight : right.isNum 0 = true
  · obtain ⟨x, z, rfl, zero, difference⟩ := applied.numbers_of_right zeroRight
    cases difference
    rw [if_pos zeroRight]
    exact ⟨_, applied.first, Number.same_sub_zero zero⟩
  rw [if_neg zeroRight]
  by_cases zeroLeft : left.isNum 0 = true
  · obtain ⟨x, z, rfl, zero, difference⟩ := applied.numbers_of_left zeroLeft
    cases difference
    rw [if_pos zeroLeft]
    exact ⟨.num (-x), evaluate?_unary applied.second, Number.same_zero_sub zero⟩
  rw [if_neg zeroLeft]
  exact applied.node note

theorem multiply (applied : Applied env .multiply left right a b v)
    (finite : finiteFactors .multiply left right a b = true) (note : Note) :
    Gives env (reduceBinary .multiply left right note) v := by
  obtain ⟨finiteRight, finiteLeft⟩ := Bool.and_eq_true_iff.mp finite
  rw [reduceBinary]
  by_cases oneRight : right.isNum 1 = true
  · obtain ⟨x, z, rfl, one, product⟩ := applied.numbers_of_right oneRight
    cases product
    rw [if_pos oneRight, Number.mul_one one]
    exact ⟨_, applied.first, .refl _⟩
  rw [if_neg oneRight]
  by_cases oneLeft : left.isNum 1 = true
  · obtain ⟨x, z, rfl, one, product⟩ := applied.numbers_of_left oneLeft
    cases product
    rw [if_pos oneLeft, Number.one_mul one]
    exact ⟨_, applied.second, .refl _⟩
  rw [if_neg oneLeft]
  by_cases zeroRight : (right.isNum 0 && !left.containsCall) = true
  · have zeroRight' := (Bool.and_eq_true_iff.mp zeroRight).1
    obtain ⟨x, z, rfl, zero, product⟩ := applied.numbers_of_right zeroRight'
    rw [applied.loneZero_right zeroRight'] at finiteLeft
    cases product
    rw [if_pos zeroRight]
    exact ⟨.num 0, rfl, Number.same_mul_zero zero finiteLeft⟩
  rw [if_neg zeroRight]
  by_cases zeroLeft : (left.isNum 0 && !right.containsCall) = true
  · have zeroLeft' := (Bool.and_eq_true_iff.mp zeroLeft).1
    obtain ⟨x, z, rfl, zero, product⟩ := applied.numbers_of_left zeroLeft'
    rw [applied.loneZero_left zeroLeft'] at finiteRight
    cases product
    rw [if_pos zeroLeft]
    exact ⟨.num 0, rfl, Number.same_zero_mul zero finiteRight⟩
  rw [if_neg zeroLeft]
  exact applied.node note

theorem divide (applied : Applied env .divide left right a b v) (note : Note) :
    Gives env (reduceBinary .divide left right note) v := by
  rw [reduceBinary]
  by_cases oneRight : right.isNum 1 = true
  · obtain ⟨x, z, rfl, one, quotient⟩ := applied.numbers_of_right oneRight
    cases quotient
    rw [if_pos oneRight, Number.div_one one]
    exact ⟨_, applied.first, .refl _⟩
  rw [if_neg oneRight]
  exact applied.node note

theorem power (applied : Applied env .power left right a b v) (note : Note) :
    Gives env (reduceBinary .power left right note) v := by
  rw [reduceBinary]
  by_cases zeroRight : (right.isNum 0 && !left.containsCall) = true
  · obtain ⟨x, z, rfl, zero, raised⟩ :=
      applied.numbers_of_right (Bool.and_eq_true_iff.mp zeroRight).1
    cases raised
    rw [if_pos zeroRight, Number.power_of_zero zero]
    exact ⟨.num 1, rfl, .refl _⟩
  rw [if_neg zeroRight]
  by_cases oneLeft : (left.isNum 1 && !right.containsCall) = true
  · obtain ⟨x, z, rfl, one, raised⟩ :=
      applied.numbers_of_left (Bool.and_eq_true_iff.mp oneLeft).1
    cases raised
    rw [if_pos oneLeft, Number.power_of_one one]
    exact ⟨.num 1, rfl, .refl _⟩
  rw [if_neg oneLeft]
  exact applied.node note

theorem and (applied : Applied env .and left right a b v) (note : Note) :
    Gives env (reduceBinary .and left right note) v := by
  rw [reduceBinary]
  by_cases trueLeft : left.isBaal true = true
  · obtain ⟨p, rfl, both⟩ := applied.truth_of_left trueLeft
    cases both
    rw [if_pos trueLeft, Bool.true_and]
    exact ⟨_, applied.second, .refl _⟩
  rw [if_neg trueLeft]
  by_cases trueRight : right.isBaal true = true
  · obtain ⟨p, rfl, both⟩ := applied.truth_of_right trueRight
    cases both
    rw [if_pos trueRight, Bool.and_true]
    exact ⟨_, applied.first, .refl _⟩
  rw [if_neg trueRight]
  exact applied.node note

theorem or (applied : Applied env .or left right a b v) (note : Note) :
    Gives env (reduceBinary .or left right note) v := by
  rw [reduceBinary]
  by_cases falseLeft : left.isBaal false = true
  · obtain ⟨p, rfl, either⟩ := applied.truth_of_left falseLeft
    cases either
    rw [if_pos falseLeft, Bool.false_or]
    exact ⟨_, applied.second, .refl _⟩
  rw [if_neg falseLeft]
  by_cases falseRight : right.isBaal false = true
  · obtain ⟨p, rfl, either⟩ := applied.truth_of_right falseRight
    cases either
    rw [if_pos falseRight, Bool.or_false]
    exact ⟨_, applied.first, .refl _⟩
  rw [if_neg falseRight]
  exact applied.node note

theorem gives_reduceBinary (applied : Applied env op left right a b v)
    (finite : finiteFactors op left right a b = true) (note : Note) :
    Gives env (reduceBinary op left right note) v := by
  cases op with
  | add => exact applied.add note
  | minus => exact applied.minus note
  | multiply => exact applied.multiply finite note
  | divide => exact applied.divide note
  | power => exact applied.power note
  | and => exact applied.and note
  | or => exact applied.or note
  | mod | less | greater | equals | notEquals => exact applied.node note

end Applied

section Nodes
variable {env : Variable → Value} {left right : Expr} {a b v : Value}

theorem gives_simplifyBinary {op : BinaryOp} (first : left.evaluate? env = some a)
    (second : right.evaluate? env = some b) (applied : op.apply? a b = some v)
    (finite : finiteFactors op left right a b = true) (note : Note) :
    Gives env (simplifyBinary op left right note) v := by
  rw [simplifyBinary]
  cases folded : foldBinary? op left right with
  | none => exact Applied.gives_reduceBinary ⟨first, second, applied, folded⟩ finite note
  | some c =>
    obtain ⟨x, y, left?, right?, folded⟩ := value?_of_foldBinary? folded
    cases first.symm.trans (evaluate?_of_value? left?)
    cases second.symm.trans (evaluate?_of_value? right?)
    cases applied.symm.trans folded
    exact ⟨v, rfl, .refl v⟩

theorem gives_simplifyUnary {op : UnaryOp} {operand : Expr}
    (inner : operand.evaluate? env = some a) (applied : op.apply? a = some v) (note : Note) :
    Gives env (simplifyUnary op operand note) v := by
  rw [simplifyUnary]
  cases folded : foldUnary? op operand with
  | none => exact ⟨v, (evaluate?_unary inner).trans applied, .refl v⟩
  | some c =>
    obtain ⟨x, operand?, folded⟩ := value?_of_foldUnary? folded
    cases inner.symm.trans (evaluate?_of_value? operand?)
    cases applied.symm.trans folded
    exact ⟨v, rfl, .refl v⟩

end Nodes

/-- The operation at a node that is evaluated is one that simplification keeps the value of. -/
def isHarmlessAt (env : Variable → Value) (op : BinaryOp) (left right : Expr) : Bool :=
  match left.evaluate? env, right.evaluate? env,
    left.simplify.evaluate? env, right.simplify.evaluate? env with
  | some a, some b, some a', some b' =>
    op.keepsSign a b a' b' && finiteFactors op left.simplify right.simplify a b
  | _, _, _, _ => true

/-- Every operation of an expression without calls is one that simplification keeps the value of. -/
def isHarmless (env : Variable → Value) : Expr → Bool
  | .lit .. | .var .. | .call .. => true
  | .binary op left right _ =>
    left.isHarmless env && right.isHarmless env && isHarmlessAt env op left right
  | .unary _ operand _ => operand.isHarmless env

theorem finiteFactors_same {op : BinaryOp} {left right : Expr} {a b a' b' : Value}
    (first : a.Same a') (second : b.Same b') :
    finiteFactors op left right a b = finiteFactors op left right a' b' := by
  rw [finiteFactors, finiteFactors, first.isFinite_eq, second.isFinite_eq]

theorem WellTyped.gives_simplify {e : Expr} {env : Variable → Value} (typed : e.WellTyped)
    (free : e.containsCall = false) (suits : Suits env e) (harmless : e.isHarmless env = true) :
    ∃ v, e.evaluate? env = some v ∧ Gives env e.simplify v := by
  induction typed with
  | lit | var => exact ⟨_, rfl, _, rfl, .refl _⟩
  | @binary op left right note typed typed' accepted ih ih' =>
    obtain ⟨harmless, harmlessAt⟩ := Bool.and_eq_true_iff.mp harmless
    obtain ⟨harmless, harmless'⟩ := Bool.and_eq_true_iff.mp harmless
    obtain ⟨v, found, _⟩ := (typed.binary typed' accepted).exists_value free suits
    obtain ⟨free, free'⟩ := Bool.or_eq_false_iff.mp free
    obtain ⟨a, first, a', simplified, same⟩ := ih free suits.left harmless
    obtain ⟨b, second, b', simplified', same'⟩ := ih' free' suits.right harmless'
    rw [isHarmlessAt, first, second, simplified, simplified'] at harmlessAt
    obtain ⟨kept, finite⟩ := Bool.and_eq_true_iff.mp harmlessAt
    rw [finiteFactors_same same same'] at finite
    have computed := found
    rw [evaluate?_binary first second] at computed
    obtain ⟨v', computed', close⟩ := BinaryOp.apply?_same same same' kept computed
    obtain ⟨w, given, close'⟩ := gives_simplifyBinary simplified simplified' computed' finite note
    exact ⟨v, found, w, given, close.trans close'⟩
  | @unary op operand note typed accepted ih =>
    obtain ⟨v, found, _⟩ := (typed.unary accepted).exists_value free suits
    obtain ⟨a, inner, a', simplified, same⟩ := ih free suits harmless
    have computed := found
    rw [evaluate?_unary inner] at computed
    obtain ⟨v', computed', close⟩ := UnaryOp.apply?_same same computed
    obtain ⟨w, given, close'⟩ := gives_simplifyUnary simplified computed' note
    exact ⟨v, found, w, given, close.trans close'⟩
  | call => cases free

/-- A well typed expression without calls keeps its value up to the sign of zero when it is
simplified, for all values of its variables for which each factor beside a lone literal zero is
finite, and each zero that something other than zero is divided by, or that is raised to a power
other than zero, is the same zero after simplification. Of the powers of zero all are asked for, and
not only the negative odd ones, since nothing is known of the others either: see `keepsSign`. -/
theorem exists_same_value_of_isHarmless (e : Expr) (typed : e.WellTyped)
    (free : e.containsCall = false) (env : Variable → Value) (suits : Suits env e)
    (harmless : e.isHarmless env = true) :
    ∃ a b, e.evaluate? env = some a ∧ e.simplify.evaluate? env = some b ∧ a.Same b := by
  obtain ⟨a, found, b, simplified, same⟩ := typed.gives_simplify free suits harmless
  exact ⟨a, b, found, simplified, same⟩

/-- A variable times zero. -/
def timesZero (x : Variable) : Expr :=
  .binary .multiply (.var x ⟨.num, none⟩) (.lit (.num 0) ⟨.num, none⟩) ⟨.num, none⟩

/-- One divided by the sum of a variable and zero. -/
def reciprocal (x : Variable) : Expr :=
  .binary .divide (.lit (.num 1) ⟨.num, none⟩)
    (.binary .add (.var x ⟨.num, none⟩) (.lit (.num 0) ⟨.num, none⟩) ⟨.num, none⟩) ⟨.num, none⟩

/-- A well typed expression without calls has another value after simplification. -/
structure Changes (env : Variable → Value) (e : Expr) : Prop where
  typed : e.WellTyped
  free : e.containsCall = false
  suits : Suits env e
  differ : ∃ a b, e.evaluate? env = some a ∧ e.simplify.evaluate? env = some b ∧ ¬a.Same b

/-- Infinity times zero is not a number, and the product is simplified to zero. One divided by the
sum of the negative zero and zero is infinity, and negative infinity without the sum. -/
theorem changes_of_infinity_and_zero :
    Changes (fun _ => .num (1 / 0)) (timesZero ⟨0, "x", .num, false⟩) ∧
      Changes (fun _ => .num (-0)) (reciprocal ⟨0, "x", .num, false⟩) := by
  refine ⟨⟨?_, rfl, ?_, ?_⟩, ⟨?_, rfl, ?_, ?_⟩⟩
  · exact .binary (.var rfl) (.lit rfl) rfl
  · intro v reads
    cases List.mem_singleton.mp reads
    rfl
  · refine ⟨.num ((1 / 0) * 0), .num 0, rfl, rfl, ?_⟩
    rintro (equal | ⟨_, undefined⟩)
    · exact absurd equal (by decide)
    · exact absurd undefined (by decide)
  · exact .binary (.lit rfl) (.binary (.var rfl) (.lit rfl) rfl) rfl
  · intro v reads
    cases List.mem_singleton.mp reads
    rfl
  · refine ⟨.num (1 / (-0 + 0)), .num (1 / -0), rfl, rfl, ?_⟩
    rintro (equal | ⟨undefined, _⟩)
    · exact absurd equal (by decide)
    · exact absurd undefined (by decide)

/-- A product with zero minus a quotient. -/
def harmlessDifference (x : Variable) : Expr :=
  .binary .minus (timesZero x) (reciprocal x) ⟨.num, none⟩

theorem exists_same_value_of_four :
    (harmlessDifference ⟨0, "x", .num, false⟩).WellTyped ∧
      (harmlessDifference ⟨0, "x", .num, false⟩).containsCall = false ∧
      Suits (fun _ => .num 4) (harmlessDifference ⟨0, "x", .num, false⟩) ∧
      (harmlessDifference ⟨0, "x", .num, false⟩).isHarmless (fun _ => .num 4) = true ∧
      ∃ a b, (harmlessDifference ⟨0, "x", .num, false⟩).evaluate? (fun _ => .num 4) = some a ∧
        (harmlessDifference ⟨0, "x", .num, false⟩).simplify.evaluate? (fun _ => .num 4) = some b ∧
        a.Same b := by
  have product : (timesZero ⟨0, "x", .num, false⟩).WellTyped :=
    .binary (.var rfl) (.lit rfl) rfl
  have quotient : (reciprocal ⟨0, "x", .num, false⟩).WellTyped :=
    .binary (.lit rfl) (.binary (.var rfl) (.lit rfl) rfl) rfl
  have typed : (harmlessDifference ⟨0, "x", .num, false⟩).WellTyped :=
    .binary product quotient rfl
  have suits : Suits (fun _ => .num 4) (harmlessDifference ⟨0, "x", .num, false⟩) := by
    intro v reads
    rcases List.mem_cons.mp reads with read | reads
    · cases read
      rfl
    · cases List.mem_singleton.mp reads
      rfl
  have harmless :
      (harmlessDifference ⟨0, "x", .num, false⟩).isHarmless (fun _ => .num 4) = true := by decide
  exact ⟨typed, rfl, suits, harmless,
    exists_same_value_of_isHarmless _ typed rfl _ suits harmless⟩

end Typed.Expr
end JobLang
