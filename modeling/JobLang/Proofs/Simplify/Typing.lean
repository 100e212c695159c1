import JobLang.Proofs.Simplify.Redex
import JobLang.Proofs.Typing.Judgement

/-!
# Types of simplified trees

What an operator computes from two literals has the type that the operator gives its node, and an
operand that takes the place of its node has the type of the node. So a well typed tree stays well
typed when it is simplified, each expression with the type it had, and a branch that becomes part of
the chunk around it is still in the body of the same job.
-/
namespace JobLang

/-- The table of the types and the table of the values accept the same operands. -/
theorem BinaryOp.map_ty_apply? (op : BinaryOp) (a b : Value) :
    Value.ty <$> op.apply? a b = op.resultTy? a.ty b.ty := by
  cases a with
  | num x => cases b <;> cases op <;> rfl
  | baal x => cases b <;> cases op <;> rfl
  | quote x => cases b <;> cases op <;> rfl

theorem UnaryOp.map_ty_apply? (op : UnaryOp) (a : Value) :
    Value.ty <$> op.apply? a = op.resultTy? a.ty := by
  cases op <;> cases a <;> rfl

theorem BinaryOp.resultTy?_of_apply? {op : BinaryOp} {a b v : Value}
    (computed : op.apply? a b = some v) : op.resultTy? a.ty b.ty = some v.ty := by
  rw [← map_ty_apply?, computed]
  rfl

theorem UnaryOp.resultTy?_of_apply? {op : UnaryOp} {a v : Value}
    (computed : op.apply? a = some v) : op.resultTy? a.ty = some v.ty := by
  rw [← map_ty_apply?, computed]
  rfl

theorem BinaryOp.exists_apply? {op : BinaryOp} {a b : Value} {ty : Ty}
    (accepted : op.resultTy? a.ty b.ty = some ty) : ∃ v, op.apply? a b = some v ∧ v.ty = ty := by
  rw [← map_ty_apply?] at accepted
  exact Option.map_eq_some_iff.mp accepted

theorem UnaryOp.exists_apply? {op : UnaryOp} {a : Value} {ty : Ty}
    (accepted : op.resultTy? a.ty = some ty) : ∃ v, op.apply? a = some v ∧ v.ty = ty := by
  rw [← map_ty_apply?] at accepted
  exact Option.map_eq_some_iff.mp accepted

namespace Typed

namespace Expr

theorem WellTyped.ty_of_value? {e : Expr} {v : Value} (typed : e.WellTyped)
    (literal : e.value? = some v) : e.ty = v.ty := by
  cases typed with
  | lit own =>
    cases literal
    exact own
  | var | binary | unary | call => cases literal

/-- An outcome is well typed, with the type of the node. -/
theorem Outcome.wellTyped {op : BinaryOp} {left right e : Expr} {note : Note}
    (outcome : Outcome op left right note e) (first : left.WellTyped) (second : right.WellTyped)
    (accepted : op.resultTy? left.ty right.ty = some note.ty) :
    e.WellTyped ∧ e.ty = note.ty := by
  cases outcome with
  | @folded value computed =>
    obtain ⟨a, b, left?, right?, computed⟩ := value?_of_foldBinary? computed
    have found := BinaryOp.resultTy?_of_apply? computed
    rw [← first.ty_of_value? left?, ← second.ty_of_value? right?, accepted] at found
    exact ⟨.lit (Option.some.inj found), rfl⟩
  | keepsLeft _ uniform => exact ⟨first, (BinaryOp.ty_of_isUniform uniform accepted).1⟩
  | keepsRight _ uniform => exact ⟨second, (BinaryOp.ty_of_isUniform uniform accepted).2⟩
  | negated minus _ _ =>
    subst minus
    have number := BinaryOp.ty_of_isArithmetic rfl accepted
    have same := (BinaryOp.ty_of_isUniform rfl accepted).2
    refine ⟨.unary second ?_, rfl⟩
    rw [same, number]
    rfl
  | absorbed arithmetic _ _ => exact ⟨.lit (BinaryOp.ty_of_isArithmetic arithmetic accepted), rfl⟩
  | stays _ => exact ⟨.binary first second accepted, rfl⟩

theorem wellTyped_simplifyUnary {op : UnaryOp} {operand : Expr} {note : Note}
    (inner : operand.WellTyped) (accepted : op.resultTy? operand.ty = some note.ty) :
    (simplifyUnary op operand note).WellTyped ∧ (simplifyUnary op operand note).ty = note.ty := by
  rw [simplifyUnary]
  cases computed : foldUnary? op operand with
  | none => exact ⟨.unary inner accepted, rfl⟩
  | some value =>
    obtain ⟨a, operand?, computed⟩ := value?_of_foldUnary? computed
    have found := UnaryOp.resultTy?_of_apply? computed
    rw [← inner.ty_of_value? operand?, accepted] at found
    exact ⟨.lit (Option.some.inj found), rfl⟩

/-- What holds of each argument after simplification holds of all of them together. -/
theorem simplifyAll_of_each {args : List Expr}
    (each : ∀ arg ∈ args, arg.simplify.WellTyped ∧ arg.simplify.ty = arg.ty) :
    (∀ arg ∈ simplifyAll args, arg.WellTyped) ∧ (simplifyAll args).map ty = args.map ty := by
  rw [simplifyAll_eq_map]
  constructor
  · intro arg member
    obtain ⟨before, given, rfl⟩ := List.mem_map.mp member
    exact (each before given).1
  · rw [List.map_map]
    exact List.map_congr_left fun arg given => (each arg given).2

/-- A simplified expression is well typed, with the type it had. -/
theorem WellTyped.simplify {e : Expr} (typed : e.WellTyped) :
    e.simplify.WellTyped ∧ e.simplify.ty = e.ty := by
  induction typed with
  | lit own =>
    rw [Expr.simplify]
    exact ⟨.lit own, rfl⟩
  | var own =>
    rw [Expr.simplify]
    exact ⟨.var own, rfl⟩
  | @binary op left right note _ _ accepted ih ih' =>
    obtain ⟨first, same⟩ := ih
    obtain ⟨second, same'⟩ := ih'
    rw [← same, ← same'] at accepted
    rw [Expr.simplify]
    have outcome := outcome_simplifyBinary op left.simplify right.simplify note
    exact outcome.wellTyped first second accepted
  | unary _ accepted ih =>
    obtain ⟨inner, same⟩ := ih
    rw [← same] at accepted
    rw [Expr.simplify]
    exact wellTyped_simplifyUnary inner accepted
  | call _ fit own ih =>
    obtain ⟨each, types⟩ := simplifyAll_of_each ih
    rw [Expr.simplify]
    exact ⟨.call each (types.trans fit) own, rfl⟩

/-- Simplified arguments fit a job that the arguments fit. -/
theorem wellTyped_simplifyAll {args : List Expr} (each : ∀ arg ∈ args, arg.WellTyped) :
    (∀ arg ∈ simplifyAll args, arg.WellTyped) ∧ (simplifyAll args).map ty = args.map ty :=
  simplifyAll_of_each fun arg given => (each arg given).simplify

end Expr

namespace Stmt

theorem mem_simplifyAll {chunk : List Stmt} {t : Stmt} :
    t ∈ simplifyAll chunk ↔ ∃ s ∈ chunk, t ∈ s.simplify := by
  rw [simplifyAll_eq_flatMap, List.mem_flatMap]

theorem wellTyped_of_each {job : Option Job} {chunk : List Stmt}
    (each : ∀ s ∈ chunk, ∀ t ∈ s.simplify, t.WellTyped job) :
    ∀ t ∈ simplifyAll chunk, t.WellTyped job := by
  intro t member
  obtain ⟨s, given, member⟩ := mem_simplifyAll.mp member
  exact each s given t member

/-- The statements that take the place of a statement are well typed where it was. -/
theorem WellTyped.simplify {job : Option Job} {s : Stmt} (typed : s.WellTyped job) :
    ∀ t ∈ s.simplify, t.WellTyped job := by
  induction typed with
  | declare value free storable fits =>
    obtain ⟨value, same⟩ := value.simplify
    rw [Stmt.simplify]
    exact List.forall_mem_singleton.mpr (.declare value free storable (same.trans fits))
  | job types fixed result _ body =>
    rw [Stmt.simplify]
    exact List.forall_mem_singleton.mpr (.job types fixed result (wellTyped_of_each body))
  | assign value free fits =>
    obtain ⟨value, same⟩ := value.simplify
    rw [Stmt.simplify]
    split
    · exact List.forall_mem_nil _
    · exact List.forall_mem_singleton.mpr (.assign value free (same.trans fits))
  | print given something =>
    obtain ⟨given, same⟩ := given.simplify
    rw [← same] at something
    rw [Stmt.simplify]
    exact List.forall_mem_singleton.mpr (.print given something)
  | output given fits =>
    obtain ⟨given, same⟩ := given.simplify
    rw [Stmt.simplify]
    exact List.forall_mem_singleton.mpr (.output given (same.trans fits))
  | ifThen tested truth _ body =>
    obtain ⟨tested, same⟩ := tested.simplify
    have body := wellTyped_of_each body
    rw [Stmt.simplify]
    split
    · exact body
    · exact List.forall_mem_nil _
    · exact List.forall_mem_singleton.mpr (.ifThen tested (same.trans truth) body)
  | ifElse tested truth _ _ body alternative =>
    obtain ⟨tested, same⟩ := tested.simplify
    have body := wellTyped_of_each body
    have alternative := wellTyped_of_each alternative
    rw [Stmt.simplify]
    split
    · exact body
    · exact alternative
    · exact List.forall_mem_singleton.mpr (.ifElse tested (same.trans truth) body alternative)
  | whileLoop tested truth _ body =>
    obtain ⟨tested, same⟩ := tested.simplify
    rw [Stmt.simplify]
    split
    · exact List.forall_mem_nil _
    · exact List.forall_mem_singleton.mpr
        (.whileLoop tested (same.trans truth) (wellTyped_of_each body))
  | repeatLoop counted number _ body =>
    obtain ⟨counted, same⟩ := counted.simplify
    rw [Stmt.simplify]
    split
    · exact List.forall_mem_nil _
    · exact List.forall_mem_singleton.mpr
        (.repeatLoop counted (same.trans number) (wellTyped_of_each body))
  | coil lower lowNumber upper highNumber fixed number _ body =>
    obtain ⟨lower, same⟩ := lower.simplify
    obtain ⟨upper, same'⟩ := upper.simplify
    rw [Stmt.simplify]
    split
    · exact List.forall_mem_nil _
    · exact List.forall_mem_singleton.mpr (.coil lower (same.trans lowNumber) upper
        (same'.trans highNumber) fixed number (wellTyped_of_each body))
  | increment free number =>
    rw [Stmt.simplify]
    exact List.forall_mem_singleton.mpr (.increment free number)
  | decrement free number =>
    rw [Stmt.simplify]
    exact List.forall_mem_singleton.mpr (.decrement free number)
  | call each fit =>
    obtain ⟨each, types⟩ := Expr.wellTyped_simplifyAll each
    rw [Stmt.simplify]
    exact List.forall_mem_singleton.mpr (.call each (types.trans fit))

/-- A simplified chunk is well typed where the chunk was. -/
theorem wellTyped_simplifyAll {job : Option Job} {chunk : List Stmt}
    (typed : ∀ s ∈ chunk, s.WellTyped job) : ∀ s ∈ simplifyAll chunk, s.WellTyped job :=
  wellTyped_of_each fun s given => (typed s given).simplify

end Stmt
end Typed
end JobLang
