import JobLang.Proofs.Binding.Entities
import JobLang.Proofs.Simplify.Typing
import JobLang.Typed.Agreement

/-!
# Values of expressions

An expression without calls has a value for given values of its variables. What the operators mean
is said rule by rule, and the tables that compute on values follow these rules. A well typed
expression without calls always has a value, and the value is of the type of the expression.
-/
namespace JobLang

/-- A binary operator, its operands and its result. Arithmetic and order are those of doubles, and
any two values of one kind can be compared for equality. -/
inductive BinaryOp.Computes : BinaryOp → Value → Value → Value → Prop
  | sum {x y : Float} : Computes .add (.num x) (.num y) (.num (x + y))
  | difference {x y : Float} : Computes .minus (.num x) (.num y) (.num (x - y))
  | product {x y : Float} : Computes .multiply (.num x) (.num y) (.num (x * y))
  | quotient {x y : Float} : Computes .divide (.num x) (.num y) (.num (x / y))
  | remainder {x y : Float} : Computes .mod (.num x) (.num y) (.num (Number.remainder x y))
  | power {x y : Float} : Computes .power (.num x) (.num y) (.num (Number.power x y))
  | below {x y : Float} : Computes .less (.num x) (.num y) (.baal (x < y))
  | above {x y : Float} : Computes .greater (.num x) (.num y) (.baal (x > y))
  | equal {a b : Value} (comparable : a.ty = b.ty) : Computes .equals a b (.baal (a.agrees b))
  | unequal {a b : Value} (comparable : a.ty = b.ty) :
      Computes .notEquals a b (.baal (!a.agrees b))
  | both {p q : Bool} : Computes .and (.baal p) (.baal q) (.baal (p && q))
  | either {p q : Bool} : Computes .or (.baal p) (.baal q) (.baal (p || q))

/-- A unary operator, its operand and its result. -/
inductive UnaryOp.Computes : UnaryOp → Value → Value → Prop
  | opposite {x : Float} : Computes .negate (.num x) (.num (-x))
  | contrary {p : Bool} : Computes .not (.baal p) (.baal (!p))

/-- The table of the binary operators follows the rules. -/
theorem BinaryOp.apply?_eq_some_iff {op : BinaryOp} {a b v : Value} :
    op.apply? a b = some v ↔ op.Computes a b v := by
  constructor
  · intro computed
    cases a with
    | num x =>
      cases b with
      | num y => cases op <;> cases computed <;> constructor <;> rfl
      | baal | quote => cases computed
    | baal p =>
      cases b with
      | baal q => cases op <;> cases computed <;> constructor <;> rfl
      | num | quote => cases computed
    | quote s =>
      cases b with
      | quote t => cases op <;> cases computed <;> constructor <;> rfl
      | num | baal => cases computed
  · intro computes
    cases computes with
    | equal comparable | unequal comparable =>
      cases a <;> cases b <;> cases comparable <;> rfl
    | sum | difference | product | quotient | remainder | power | below | above | both | either =>
      rfl

/-- The table of the unary operators follows the rules. -/
theorem UnaryOp.apply?_eq_some_iff {op : UnaryOp} {a v : Value} :
    op.apply? a = some v ↔ op.Computes a v := by
  constructor
  · intro computed
    cases op <;> cases a <;> cases computed <;> constructor
  · rintro (_ | _) <;> rfl

namespace Typed.Expr

/-- An expression has the given value, its variables having theirs. -/
inductive Evaluates (env : Variable → Value) : Expr → Value → Prop
  | lit {value : Value} {note : Note} : Evaluates env (.lit value note) value
  | var {v : Variable} {note : Note} : Evaluates env (.var v note) (env v)
  | binary {op : BinaryOp} {left right : Expr} {note : Note} {a b value : Value}
      (first : Evaluates env left a) (second : Evaluates env right b)
      (computes : op.Computes a b value) : Evaluates env (.binary op left right note) value
  | unary {op : UnaryOp} {operand : Expr} {note : Note} {a value : Value}
      (inner : Evaluates env operand a) (computes : op.Computes a value) :
      Evaluates env (.unary op operand note) value

/-- The value of an expression, with the operators computed by their tables. -/
def evaluate? (env : Variable → Value) : Expr → Option Value
  | .lit value _ => some value
  | .var v _ => some (env v)
  | .binary op left right _ => do op.apply? (← left.evaluate? env) (← right.evaluate? env)
  | .unary op operand _ => do op.apply? (← operand.evaluate? env)
  | .call .. => none

/-- The variables that an expression reads have values of their types. -/
def Suits (env : Variable → Value) (e : Expr) : Prop :=
  ∀ v, .var v ∈ e.references → (env v).ty = v.ty

namespace Suits
variable {env : Variable → Value} {op : BinaryOp} {first second : Expr} {note : Note}

theorem left (suits : Suits env (.binary op first second note)) : Suits env first :=
  fun v reads => suits v (List.mem_append_left _ reads)

theorem right (suits : Suits env (.binary op first second note)) : Suits env second :=
  fun v reads => suits v (List.mem_append_right _ reads)

end Suits

section Evaluation
variable {env : Variable → Value} {op : BinaryOp} {left right e : Expr} {note : Note}
  {a b value : Value}

theorem evaluate?_of_value? (literal : e.value? = some value) :
    e.evaluate? env = some value := by
  cases e with
  | lit => exact literal
  | var | binary | unary | call => cases literal

theorem evaluate?_binary (first : left.evaluate? env = some a)
    (second : right.evaluate? env = some b) :
    (Expr.binary op left right note).evaluate? env = op.apply? a b := by
  rw [evaluate?, first, second]
  rfl

theorem evaluate?_unary {op : UnaryOp} {operand : Expr} (inner : operand.evaluate? env = some a) :
    (Expr.unary op operand note).evaluate? env = op.apply? a := by
  rw [evaluate?, inner]
  rfl

theorem evaluates_of_evaluate? : ∀ {e : Expr} {value : Value},
    e.evaluate? env = some value → Evaluates env e value
  | .lit .., _, found => by
      cases found
      exact .lit
  | .var .., _, found => by
      cases found
      exact .var
  | .binary op left right note, value, found => by
      obtain ⟨a, first, found⟩ := Option.bind_eq_some_iff.mp found
      obtain ⟨b, second, computed⟩ := Option.bind_eq_some_iff.mp found
      exact .binary (evaluates_of_evaluate? first) (evaluates_of_evaluate? second)
        (BinaryOp.apply?_eq_some_iff.mp computed)
  | .unary op operand note, value, found => by
      obtain ⟨a, inner, computed⟩ := Option.bind_eq_some_iff.mp found
      exact .unary (evaluates_of_evaluate? inner) (UnaryOp.apply?_eq_some_iff.mp computed)

/-- Evaluation by tables follows the rules. -/
theorem evaluate?_eq_some_iff : e.evaluate? env = some value ↔ Evaluates env e value := by
  refine ⟨evaluates_of_evaluate?, fun evaluates => ?_⟩
  induction evaluates with
  | lit | var => rfl
  | binary _ _ computes ih ih' =>
    rw [evaluate?_binary ih ih', BinaryOp.apply?_eq_some_iff]
    exact computes
  | unary _ computes ih =>
    rw [evaluate?_unary ih, UnaryOp.apply?_eq_some_iff]
    exact computes

/-- A well typed expression without calls has a value, of the type of the expression. -/
theorem WellTyped.exists_value (typed : e.WellTyped) (free : e.containsCall = false)
    (suits : Suits env e) : ∃ value, e.evaluate? env = some value ∧ value.ty = e.ty := by
  induction typed with
  | lit own => exact ⟨_, rfl, own.symm⟩
  | @var v note own => exact ⟨env v, rfl, (suits v List.mem_cons_self).trans own.symm⟩
  | @binary op left right note _ _ accepted ih ih' =>
    obtain ⟨free, free'⟩ := Bool.or_eq_false_iff.mp free
    obtain ⟨a, first, same⟩ := ih free suits.left
    obtain ⟨b, second, same'⟩ := ih' free' suits.right
    rw [← same, ← same'] at accepted
    rw [evaluate?_binary first second]
    exact BinaryOp.exists_apply? accepted
  | @unary op operand note _ accepted ih =>
    obtain ⟨a, inner, same⟩ := ih free suits
    rw [← same] at accepted
    rw [evaluate?_unary inner]
    exact UnaryOp.exists_apply? accepted
  | call => cases free

end Evaluation

/-- A well typed expression that reads no variable and calls no job is simplified to its value. -/
theorem WellTyped.exists_literal {e : Expr} (typed : e.WellTyped) (constant : e.references = []) :
    ∃ value, e.simplify = .lit value e.note ∧ value.ty = e.ty ∧
      ∀ env, e.evaluate? env = some value := by
  induction typed with
  | @lit value note own => exact ⟨value, rfl, own.symm, fun _ => rfl⟩
  | var => cases constant
  | @binary op left right note _ _ accepted ih ih' =>
    obtain ⟨constant, constant'⟩ := List.append_eq_nil_iff.mp constant
    obtain ⟨a, first, same, found⟩ := ih constant
    obtain ⟨b, second, same', found'⟩ := ih' constant'
    rw [← same, ← same'] at accepted
    obtain ⟨value, computed, ty⟩ := BinaryOp.exists_apply? accepted
    refine ⟨value, ?_, ty, fun env => (evaluate?_binary (found env) (found' env)).trans computed⟩
    have folded : foldBinary? op left.simplify right.simplify = some value := by
      rw [first, second]
      exact computed
    rw [Expr.simplify, simplifyBinary, folded]
    rfl
  | @unary op operand note _ accepted ih =>
    obtain ⟨a, inner, same, found⟩ := ih constant
    rw [← same] at accepted
    obtain ⟨value, computed, ty⟩ := UnaryOp.exists_apply? accepted
    refine ⟨value, ?_, ty, fun env => (evaluate?_unary (found env)).trans computed⟩
    have folded : foldUnary? op operand.simplify = some value := by
      rw [inner]
      exact computed
    rw [Expr.simplify, simplifyUnary, folded]
    rfl
  | call => cases constant

/-- A well typed expression without variables and calls is simplified to a literal: the only value
that the expression has, of its type, with what the expression carries. Two literals make a literal
exactly if the operator accepts their types, and its type is the one that the operator gives. -/
theorem simplify_constant_and_map_ty_fold :
    (∀ e : Expr, e.WellTyped → e.references = [] → ∃ value, e.simplify = .lit value e.note ∧
      value.ty = e.ty ∧ ∀ env other, Evaluates env e other ↔ other = value) ∧
    (∀ (op : BinaryOp) (a b : Value) (note note' : Note),
      (foldBinary? op (.lit a note) (.lit b note')).map Value.ty = op.resultTy? a.ty b.ty) ∧
    ∀ (op : UnaryOp) (a : Value) (note : Note),
      (foldUnary? op (.lit a note)).map Value.ty = op.resultTy? a.ty := by
  refine ⟨fun e typed constant => ?_, fun op a b _ _ => op.map_ty_apply? a b,
    fun op a _ => op.map_ty_apply? a⟩
  obtain ⟨value, simplified, ty, found⟩ := typed.exists_literal constant
  refine ⟨value, simplified, ty, fun env other => ?_⟩
  rw [← evaluate?_eq_some_iff, found env, Option.some.injEq, eq_comm]

/-- The test whether two strings differ and the opposite of one is below two. -/
def constantTest (place : Position) : Expr :=
  let quote (text : String) : Expr := .lit (.quote text) ⟨.quote, none⟩
  let num (x : Float) : Expr := .lit (.num x) ⟨.num, none⟩
  .binary .and
    (.unary .not (.binary .equals (quote "low") (quote "high") ⟨.baal, none⟩) ⟨.baal, none⟩)
    (.binary .less (.unary .negate (num 1) ⟨.num, none⟩) (num 2) ⟨.baal, none⟩)
    ⟨.baal, some place⟩

theorem simplify_constantTest :
    (constantTest ⟨4, "main.kobe"⟩).WellTyped ∧ (constantTest ⟨4, "main.kobe"⟩).references = [] ∧
      (constantTest ⟨4, "main.kobe"⟩).simplify = .lit (.baal true) ⟨.baal, some ⟨4, "main.kobe"⟩⟩ ∧
      ∀ env other, Evaluates env (constantTest ⟨4, "main.kobe"⟩) other ↔ other = .baal true := by
  have typed : (constantTest ⟨4, "main.kobe"⟩).WellTyped :=
    .binary (.unary (.binary (.lit rfl) (.lit rfl) rfl) rfl)
      (.binary (.unary (.lit rfl) rfl) (.lit rfl) rfl) rfl
  have simplified : (constantTest ⟨4, "main.kobe"⟩).simplify =
      .lit (.baal true) ⟨.baal, some ⟨4, "main.kobe"⟩⟩ := rfl
  obtain ⟨value, same, _, evaluates⟩ :=
    simplify_constant_and_map_ty_fold.1 (constantTest ⟨4, "main.kobe"⟩) typed rfl
  cases simplified.symm.trans same
  exact ⟨typed, rfl, simplified, evaluates⟩

end Typed.Expr
end JobLang
