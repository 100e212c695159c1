import JobLang.Proofs.Simplify.Redex

/-!
# Normal forms

One sweep of simplification leaves no redex at any depth, and gives back what has none as it is. So
a second sweep changes nothing, whatever the types in the tree are. Trees are compared by equality,
which compares numbers by their bits.
-/
namespace JobLang.Typed

namespace Expr

section Binary
variable {op : BinaryOp} {left right : Expr} {note : Note}

theorem Outcome.normal {e : Expr} (outcome : Outcome op left right note e) (first : left.Normal)
    (second : right.Normal) : e.Normal := by
  cases outcome with
  | folded | absorbed => exact .lit
  | keepsLeft => exact first
  | keepsRight => exact second
  | negated _ _ stuck => exact .unary second (by rw [isRedex, stuck]; rfl)
  | stays stuck => exact .binary first second stuck

theorem simplifyBinary_of_stuck (stuck : isBinaryRedex op left right = false) :
    simplifyBinary op left right note = .binary op left right note := by
  obtain ⟨unfolded, stuck⟩ := Bool.or_eq_false_iff.mp stuck
  have unfolded : foldBinary? op left right = none := by simpa using unfolded
  rw [simplifyBinary, unfolded]
  cases op with
  | add | minus | multiply | divide | power | and | or =>
    simp only [Bool.or_eq_false_iff] at stuck
    simp only [reduceBinary, stuck]
    rfl
  | mod | less | greater | equals | notEquals => rfl

theorem simplifyUnary_of_stuck {op : UnaryOp} {operand : Expr}
    (stuck : (Expr.unary op operand note).isRedex = false) :
    simplifyUnary op operand note = .unary op operand note := by
  have unfolded : foldUnary? op operand = none := by simpa [isRedex] using stuck
  rw [simplifyUnary, unfolded]

end Binary

theorem normal_simplifyUnary {op : UnaryOp} {operand : Expr} (inner : operand.Normal)
    (note : Note) : (simplifyUnary op operand note).Normal := by
  rw [simplifyUnary]
  cases computed : foldUnary? op operand with
  | some value => exact .lit
  | none => exact .unary inner (by rw [isRedex, computed]; rfl)

mutual

/-- A simplified expression has no redex. -/
theorem normal_simplify : ∀ e : Expr, e.simplify.Normal
  | .lit .. => by
      rw [simplify]
      exact .lit
  | .var .. => by
      rw [simplify]
      exact .var
  | .binary op left right note => by
      rw [simplify]
      have outcome := outcome_simplifyBinary op left.simplify right.simplify note
      exact outcome.normal (normal_simplify left) (normal_simplify right)
  | .unary op operand note => by
      rw [simplify]
      exact normal_simplifyUnary (normal_simplify operand) note
  | .call callee args note => by
      rw [simplify]
      exact .call (normal_simplifyAll args)

theorem normal_simplifyAll : ∀ es : List Expr, ∀ e ∈ simplifyAll es, e.Normal
  | [] => by
      intro e member
      cases member
  | head :: rest => by
      intro e member
      rcases List.mem_cons.mp member with rfl | member
      · exact normal_simplify head
      · exact normal_simplifyAll rest e member

end

theorem simplifyAll_of_fixed {es : List Expr} (fixed : ∀ e ∈ es, e.simplify = e) :
    simplifyAll es = es := by
  rw [simplifyAll_eq_map, List.map_congr_left fixed, List.map_id']

/-- An expression without a redex stays as it is. -/
theorem simplify_of_normal {e : Expr} (normal : e.Normal) : e.simplify = e := by
  induction normal with
  | lit | var => rw [simplify]
  | binary _ _ stuck left right =>
    rw [simplify, left, right]
    exact simplifyBinary_of_stuck stuck
  | unary _ stuck operand =>
    rw [simplify, operand]
    exact simplifyUnary_of_stuck stuck
  | call _ args => rw [simplify, simplifyAll_of_fixed args]

theorem simplifyAll_of_normal {es : List Expr} (normal : ∀ e ∈ es, e.Normal) :
    simplifyAll es = es :=
  simplifyAll_of_fixed fun e member => simplify_of_normal (normal e member)

end Expr

namespace Stmt

mutual

theorem normal_simplify : ∀ s t : Stmt, t ∈ s.simplify → t.Normal
  | .declare v init, t, member => by
      rw [simplify] at member
      cases List.mem_singleton.mp member
      exact .declare init.normal_simplify
  | .job j params body, t, member => by
      rw [simplify] at member
      cases List.mem_singleton.mp member
      exact .job (normal_simplifyAll body)
  | .assign target source, t, member => by
      rw [simplify] at member
      split at member
      · cases member
      · next stuck =>
        cases List.mem_singleton.mp member
        exact .assign source.normal_simplify (Bool.eq_false_iff.mpr stuck)
  | .print value, t, member => by
      rw [simplify] at member
      cases List.mem_singleton.mp member
      exact .print value.normal_simplify
  | .output value, t, member => by
      rw [simplify] at member
      cases List.mem_singleton.mp member
      exact .output value.normal_simplify
  | .ifThen test body, t, member => by
      rw [simplify] at member
      split at member
      · exact normal_simplifyAll body t member
      · cases member
      · next open? =>
        cases List.mem_singleton.mp member
        refine .ifThen test.normal_simplify (normal_simplifyAll body) ?_
        rw [isRedex, open?]
        rfl
  | .ifElse test body alternative, t, member => by
      rw [simplify] at member
      split at member
      · exact normal_simplifyAll body t member
      · exact normal_simplifyAll alternative t member
      · next open? =>
        cases List.mem_singleton.mp member
        refine .ifElse test.normal_simplify (normal_simplifyAll body)
          (normal_simplifyAll alternative) ?_
        rw [isRedex, open?]
        rfl
  | .whileLoop test body, t, member => by
      rw [simplify] at member
      split at member
      · cases member
      · next stuck =>
        cases List.mem_singleton.mp member
        exact .whileLoop test.normal_simplify (normal_simplifyAll body)
          (Bool.eq_false_iff.mpr stuck)
  | .repeatLoop count body, t, member => by
      rw [simplify] at member
      split at member
      · cases member
      · next stuck =>
        cases List.mem_singleton.mp member
        exact .repeatLoop count.normal_simplify (normal_simplifyAll body)
          (Bool.eq_false_iff.mpr stuck)
  | .coil counter low high body, t, member => by
      rw [simplify] at member
      split at member
      · cases member
      · next stuck =>
        cases List.mem_singleton.mp member
        exact .coil low.normal_simplify high.normal_simplify (normal_simplifyAll body)
          (Bool.eq_false_iff.mpr stuck)
  | .increment target, t, member => by
      rw [simplify] at member
      cases List.mem_singleton.mp member
      exact .increment
  | .decrement target, t, member => by
      rw [simplify] at member
      cases List.mem_singleton.mp member
      exact .decrement
  | .call callee args, t, member => by
      rw [simplify] at member
      cases List.mem_singleton.mp member
      exact .call (Expr.normal_simplifyAll args)

theorem normal_simplifyAll : ∀ chunk : List Stmt, NormalAll (simplifyAll chunk)
  | [], s, member => by cases member
  | head :: rest, s, member => by
      rw [simplifyAll] at member
      rcases List.mem_append.mp member with member | member
      · exact normal_simplify head s member
      · exact normal_simplifyAll rest s member

end

theorem simplifyAll_of_fixed {chunk : List Stmt} (fixed : ∀ s ∈ chunk, s.simplify = [s]) :
    simplifyAll chunk = chunk := by
  induction chunk with
  | nil => rfl
  | cons s rest ih =>
    obtain ⟨head, tail⟩ := List.forall_mem_cons.mp fixed
    rw [simplifyAll, head, ih tail]
    rfl

/-- A statement without a redex stays as it is. -/
theorem simplify_of_normal {s : Stmt} (normal : s.Normal) : s.simplify = [s] := by
  induction normal with
  | declare value => rw [simplify, Expr.simplify_of_normal value]
  | job _ body => rw [simplify, simplifyAll_of_fixed body]
  | assign value stuck =>
    rw [isRedex] at stuck
    simp only [simplify, Expr.simplify_of_normal value, stuck]
    rfl
  | print given | output given => rw [simplify, Expr.simplify_of_normal given]
  | ifThen tested _ stuck body =>
    rw [isRedex, Option.isSome_eq_false_iff, Option.isNone_iff_eq_none] at stuck
    rw [simplify, Expr.simplify_of_normal tested, simplifyAll_of_fixed body, stuck]
  | ifElse tested _ _ stuck body alternative =>
    rw [isRedex, Option.isSome_eq_false_iff, Option.isNone_iff_eq_none] at stuck
    rw [simplify, Expr.simplify_of_normal tested, simplifyAll_of_fixed body,
      simplifyAll_of_fixed alternative, stuck]
  | whileLoop tested _ stuck body =>
    rw [isRedex] at stuck
    simp only [simplify, Expr.simplify_of_normal tested, simplifyAll_of_fixed body, stuck]
    rfl
  | repeatLoop counted _ stuck body =>
    rw [isRedex] at stuck
    simp only [simplify, Expr.simplify_of_normal counted, simplifyAll_of_fixed body, stuck]
    rfl
  | coil lower upper _ stuck body =>
    rw [isRedex] at stuck
    simp only [simplify, Expr.simplify_of_normal lower, Expr.simplify_of_normal upper,
      simplifyAll_of_fixed body, stuck]
    rfl
  | increment | decrement => rw [simplify]
  | call each => rw [simplify, Expr.simplifyAll_of_normal each]

/-- A simplified chunk has no redex at any depth, and a chunk that has none is exactly one that
simplification leaves as it is. -/
theorem normalAll_simplifyAll_and_eq_self_iff (chunk : List Stmt) :
    NormalAll (simplifyAll chunk) ∧ (simplifyAll chunk = chunk ↔ NormalAll chunk) := by
  have normal := normal_simplifyAll chunk
  refine ⟨normal, fun fixed => ?_, fun normal => ?_⟩
  · rw [fixed] at normal
    exact normal
  · exact simplifyAll_of_fixed fun s member => simplify_of_normal (normal s member)

end Stmt
end JobLang.Typed
