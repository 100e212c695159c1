import JobLang.Proofs.Binding.Integrity
import JobLang.Proofs.Simplify.Typing
import JobLang.Proofs.Typing.Soundness

/-!
# Bindings of simplified trees

Simplification introduces no entity and uses none that was not used, and what can be seen from a
place that is left can still be seen: a branch that becomes part of the chunk around it takes its
declarations along. So every use in a simplified tree is bound if every use in the tree was, and a
well formed tree stays one.
-/
namespace JobLang
namespace Typed

open List (Sublist)

namespace Expr

theorem Outcome.references_sublist {op : BinaryOp} {left right e : Expr} {note : Note}
    (outcome : Outcome op left right note e) :
    Sublist e.references (left.references ++ right.references) := by
  cases outcome with
  | folded | absorbed => exact List.nil_sublist _
  | keepsLeft => exact List.sublist_append_left ..
  | keepsRight | negated => exact List.sublist_append_right ..
  | stays => exact .refl _

theorem references_simplifyUnary (op : UnaryOp) (operand : Expr) (note : Note) :
    Sublist (simplifyUnary op operand note).references operand.references := by
  rw [simplifyUnary]
  cases foldUnary? op operand with
  | some value => exact List.nil_sublist _
  | none => exact .refl _

mutual

/-- A simplified expression refers to nothing new. -/
theorem references_simplify : ∀ e : Expr, Sublist e.simplify.references e.references
  | .lit .. | .var .. => by rw [simplify]
  | .binary op left right note => by
      rw [simplify]
      have outcome := outcome_simplifyBinary op left.simplify right.simplify note
      have operands := (references_simplify left).append (references_simplify right)
      exact outcome.references_sublist.trans operands
  | .unary op operand note => by
      rw [simplify]
      exact (references_simplifyUnary ..).trans (references_simplify operand)
  | .call callee args note => by
      rw [simplify]
      exact (referencesAll_simplifyAll args).cons_cons _

theorem referencesAll_simplifyAll : ∀ es : List Expr,
    Sublist (referencesAll (simplifyAll es)) (referencesAll es)
  | [] => .refl _
  | e :: rest => by
      rw [simplifyAll]
      exact (references_simplify e).append (referencesAll_simplifyAll rest)

end

end Expr

namespace Stmt

mutual

theorem introduced_simplify : ∀ s : Stmt, Sublist (introducedAll s.simplify) s.introduced
  | .declare v init => by
      rw [simplify]
      exact .refl _
  | .job j params body => by
      rw [simplify, introducedAll_singleton]
      exact ((introducedAll_simplifyAll body).append_left _).cons_cons _
  | .assign target source => by
      rw [simplify]
      split <;> exact .refl _
  | .ifThen test body => by
      rw [simplify]
      split
      · exact introducedAll_simplifyAll body
      · exact List.nil_sublist _
      · rw [introducedAll_singleton]
        exact introducedAll_simplifyAll body
  | .ifElse test body alternative => by
      rw [simplify]
      split
      · exact (introducedAll_simplifyAll body).trans (List.sublist_append_left ..)
      · exact (introducedAll_simplifyAll alternative).trans (List.sublist_append_right ..)
      · rw [introducedAll_singleton]
        exact (introducedAll_simplifyAll body).append (introducedAll_simplifyAll alternative)
  | .whileLoop _ body | .repeatLoop _ body => by
      rw [simplify]
      split
      · exact List.nil_sublist _
      · rw [introducedAll_singleton]
        exact introducedAll_simplifyAll body
  | .coil counter low high body => by
      rw [simplify]
      split
      · exact List.nil_sublist _
      · rw [introducedAll_singleton]
        exact (introducedAll_simplifyAll body).cons_cons _
  | .print _ | .output _ | .increment _ | .decrement _ | .call .. => by
      rw [simplify]
      exact .refl _

/-- The entities that a simplified chunk introduces are some of those that the chunk introduces, in
the same order. -/
theorem introducedAll_simplifyAll : ∀ chunk : List Stmt,
    Sublist (introducedAll (simplifyAll chunk)) (introducedAll chunk)
  | [] => .refl _
  | s :: rest => by
      rw [simplifyAll, introducedAll_append]
      exact (introduced_simplify s).append (introducedAll_simplifyAll rest)

end

/-- What a statement declares is still declared by the statements that take its place. -/
theorem declared?_subset_simplify (s : Stmt) : s.declared?.toList ⊆ declared s.simplify := by
  cases s with
  | declare | job =>
    rw [simplify]
    exact List.Subset.refl _
  | assign | print | output | ifThen | ifElse | whileLoop | repeatLoop | coil | increment
  | decrement | call => exact List.nil_subset _

theorem append_subset_append {α : Type} {first first' second second' : List α}
    (left : first ⊆ first') (right : second ⊆ second') : first ++ second ⊆ first' ++ second' :=
  List.append_subset.mpr ⟨List.subset_append_of_subset_left _ left,
    List.subset_append_of_subset_right _ right⟩

/-- Every use is bound. -/
def AllBound (uses : List Use) : Prop := ∀ use ∈ uses, use.Bound

theorem allBound_append {first second : List Use} :
    AllBound (first ++ second) ↔ AllBound first ∧ AllBound second := List.forall_mem_append

/-- Uses of fewer entities from a place where more can be seen. -/
theorem AllBound.at {visible more entities fewer : List Entity}
    (bound : AllBound (usesAt visible entities)) (seen : visible ⊆ more)
    (used : Sublist fewer entities) : AllBound (usesAt more fewer) := by
  intro use member
  obtain ⟨entity, given, rfl⟩ := List.mem_map.mp member
  have before := bound ⟨entity, visible⟩ (List.mem_map_of_mem (used.subset given))
  exact List.map_subset Entity.id seen before

mutual

theorem bound_simplify : ∀ (s : Stmt) {visible more : List Entity}, visible ⊆ more →
    AllBound (s.uses visible) → AllBound (usesAll more s.simplify)
  | .declare v init, visible, more, seen, bound => by
      rw [simplify, usesAll_singleton]
      exact bound.at seen init.references_simplify
  | .job j params body, visible, more, seen, bound => by
      rw [simplify, usesAll_singleton]
      have own : (params.map Entity.var).reverse ⊆ (params.map Entity.var).reverse := .refl _
      have inside := append_subset_append own (List.cons_subset_cons (.job j) seen)
      exact bound_simplifyAll body inside bound
  | .assign target source, visible, more, seen, bound => by
      rw [simplify]
      split
      · exact List.forall_mem_nil _
      · rw [usesAll_singleton]
        exact bound.at seen (source.references_simplify.cons_cons _)
  | .print value, visible, more, seen, bound | .output value, visible, more, seen, bound => by
      rw [simplify, usesAll_singleton]
      exact bound.at seen value.references_simplify
  | .ifThen test body, visible, more, seen, bound => by
      obtain ⟨tested, inside⟩ := allBound_append.mp bound
      have inside := bound_simplifyAll body seen inside
      rw [simplify]
      split
      -- The statements of a taken branch see what the branch saw.
      · exact inside
      · exact List.forall_mem_nil _
      · rw [usesAll_singleton]
        exact allBound_append.mpr ⟨tested.at seen test.references_simplify, inside⟩
  | .ifElse test body alternative, visible, more, seen, bound => by
      obtain ⟨tested, inside⟩ := allBound_append.mp bound
      obtain ⟨inside, otherwise⟩ := allBound_append.mp inside
      have inside := bound_simplifyAll body seen inside
      have otherwise := bound_simplifyAll alternative seen otherwise
      rw [simplify]
      split
      · exact inside
      · exact otherwise
      · rw [usesAll_singleton]
        refine allBound_append.mpr ⟨tested.at seen test.references_simplify, ?_⟩
        exact allBound_append.mpr ⟨inside, otherwise⟩
  | .whileLoop test body, visible, more, seen, bound
  | .repeatLoop test body, visible, more, seen, bound => by
      obtain ⟨tested, inside⟩ := allBound_append.mp bound
      have inside := bound_simplifyAll body seen inside
      rw [simplify]
      split
      · exact List.forall_mem_nil _
      · rw [usesAll_singleton]
        exact allBound_append.mpr ⟨tested.at seen test.references_simplify, inside⟩
  | .coil counter low high body, visible, more, seen, bound => by
      obtain ⟨bounds, inside⟩ := allBound_append.mp bound
      have inside := bound_simplifyAll body (List.cons_subset_cons (.var counter) seen) inside
      rw [simplify]
      split
      · exact List.forall_mem_nil _
      · rw [usesAll_singleton]
        have fewer := low.references_simplify.append high.references_simplify
        exact allBound_append.mpr ⟨bounds.at seen fewer, inside⟩
  | .increment target, visible, more, seen, bound
  | .decrement target, visible, more, seen, bound => by
      rw [simplify, usesAll_singleton]
      exact bound.at seen (.refl _)
  | .call callee args, visible, more, seen, bound => by
      rw [simplify, usesAll_singleton]
      exact bound.at seen ((Expr.referencesAll_simplifyAll args).cons_cons _)

/-- The uses in a simplified chunk are bound where those in the chunk are, and where more can be
seen. -/
theorem bound_simplifyAll : ∀ (chunk : List Stmt) {visible more : List Entity}, visible ⊆ more →
    AllBound (usesAll visible chunk) → AllBound (usesAll more (simplifyAll chunk))
  | [], visible, more, seen, bound => bound
  | s :: rest, visible, more, seen, bound => by
      obtain ⟨head, tail⟩ := allBound_append.mp bound
      -- The statements behind see more than before if `s` is a branch that is taken.
      have own : s.declared?.toList ⊆ (declared s.simplify).reverse :=
        fun entity given => List.mem_reverse.mpr (declared?_subset_simplify s given)
      have behind := append_subset_append own seen
      rw [simplifyAll, usesAll_append]
      exact allBound_append.mpr ⟨bound_simplify s seen head, bound_simplifyAll rest behind tail⟩

end

/-- A program that uses some entities from outside is well typed at every node, introduces no number
twice, and has no use that is not bound. -/
structure WellFormed (outside : List Entity) (program : List Stmt) : Prop where
  typed : ∀ s ∈ program, s.WellTyped none
  distinct : ((introducedAll program).map Entity.id).Nodup
  bound : AllBound (usesAll outside program)

/-- A well formed program is well formed when it has been simplified. What it then introduces is
part of what it introduced, in the same order, and every well typed expression has kept its type. -/
theorem wellFormed_simplifyAll {outside : List Entity} {program : List Stmt}
    (formed : WellFormed outside program) :
    WellFormed outside (simplifyAll program) ∧
    Sublist (introducedAll (simplifyAll program)) (introducedAll program) ∧
    ∀ e : Expr, e.WellTyped → e.simplify.WellTyped ∧ e.simplify.ty = e.ty := by
  have part := introducedAll_simplifyAll program
  refine ⟨⟨?typed, ?distinct, ?bound⟩, part, fun e typed => typed.simplify⟩
  case typed => exact wellTyped_simplifyAll formed.typed
  case distinct => exact formed.distinct.sublist (part.map Entity.id)
  case bound => exact bound_simplifyAll program (.refl _) formed.bound

end Stmt
end Typed

/-- An accepted program is well formed, from the outside it can use its prelude. -/
theorem wellFormed_of_check {prelude : Prelude} {program : List Syntax.Stmt}
    {checked : List Typed.Stmt} (accepted : check prelude program = .ok checked) :
    Typed.Stmt.WellFormed prelude.entities.reverse checked := by
  obtain ⟨env, after, made, accepted⟩ := reference_of_check accepted
  have derived := elaborates_chunk program accepted
  cases env_ofPrelude made
  refine ⟨?typed, ?distinct, ?bound⟩
  case typed => exact fun s member => (sound_chunk accepted rfl s member).1
  case distinct =>
    rw [(numbered_chunk derived).1]
    exact List.nodup_range'
  case bound => exact fun use member => (uses_program derived use member).bound

/-- A job whose only output is in a loop that never runs, and two branches that are always taken and
both declare the same name. -/
def mergingProgram : List Syntax.Stmt :=
  [.job ⟨.id, "baal", none⟩ ⟨.id, "f", none⟩ []
      [.whileLoop (.leaf ⟨.baal, "false", none⟩) [.output (.leaf ⟨.baal, "true", none⟩)]],
    .ifThen (.leaf ⟨.baal, "true", none⟩)
      [.declare ⟨.id, "baal", none⟩ ⟨.id, "x", none⟩ (.leaf ⟨.baal, "true", none⟩),
        .assign ⟨.id, "x", none⟩ (.call ⟨.id, "f", none⟩ [])],
    .ifThen (.leaf ⟨.baal, "true", none⟩)
      [.declare ⟨.id, "baal", none⟩ ⟨.id, "x", none⟩ (.leaf ⟨.baal, "false", none⟩)]]

theorem wellFormed_of_mergingProgram : ∃ checked, check .empty mergingProgram = .ok checked ∧
    Typed.Stmt.WellFormed [] (Typed.Stmt.simplifyAll checked) := by
  have accepted : check .empty mergingProgram = .ok _ := rfl
  obtain ⟨formed, _, _⟩ := Typed.Stmt.wellFormed_simplifyAll (wellFormed_of_check accepted)
  exact ⟨_, accepted, formed⟩

end JobLang
