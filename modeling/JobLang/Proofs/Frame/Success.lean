import JobLang.Proofs.Binding.Integrity
import JobLang.Proofs.Check.Reachable

/-!
# What an accepted statement does to the state

Checking a statement moves through scopes, binds names, counts outputs and takes numbers. When it
succeeds, what is left of this is what the statement declares in its own chunk: the scopes around it
are as they were, but for that one name in the current scope, and the outputs and the numbers have
gone up by what the statement contains. Checking an expression leaves no trace at all.
-/
namespace JobLang

namespace Checker

/-- Every scope of the state before is still there in the state after, with its parent, its job and
its bindings. The scope that was the current one has the bindings `added` besides, under names that
it did not bind; no other scope has got any. -/
structure Keeps (before after : Checker) (added : Frame) : Prop where
  scope {id : Nat} {scope : Scope} : before.scopes.get? id = some scope →
    after.scopes.get? id = some (if id = before.scopes.current then scope.extend added else scope)
  fresh {scope : Scope} : before.scopes.get? before.scopes.current = some scope →
    ∀ binding ∈ added, scope.find? binding.1 = none

theorem top_env {checker : Checker} {scope : Scope}
    (current : checker.scopes.get? checker.scopes.current = some scope) :
    checker.env.top = scope.bindings := by
  rw [← head?_lineage] at current
  rw [env]
  cases found : checker.lineage with
  | nil =>
    rw [found] at current
    cases current
  | cons first around =>
    rw [found] at current
    cases current
    rfl

namespace Keeps
variable {before middle after : Checker} {added more : Frame}

theorem refl (checker : Checker) : checker.Keeps checker [] where
  scope {id scope} found := by
    rw [found]
    exact congrArg some (ite_self scope).symm
  fresh _ := List.forall_mem_nil _

theorem trans (current : middle.scopes.current = before.scopes.current)
    (first : before.Keeps middle added) (second : middle.Keeps after more) :
    before.Keeps after (more ++ added) where
  scope {id scope} found := by
    rw [second.scope (first.scope found), current]
    split
    · rw [Scope.extend_extend]
    · rfl
  fresh {scope} found := by
    have there := first.scope found
    rw [if_pos rfl, ← current] at there
    refine List.forall_mem_append.mpr ⟨fun binding member => ?_, first.fresh found⟩
    have absent : (added ++ scope.bindings).lookup binding.1 = none :=
      second.fresh there binding member
    rw [List.lookup_append, Option.or_eq_none_iff] at absent
    exact absent.2

end Keeps

/-- A step that succeeds binds in the current scope what the environment behind it shows. -/
theorem Advances.keeps {before after : Checker} {n : Nat} {added : Frame}
    (steps : before.Advances after n) (top : after.env.top = added ++ before.env.top)
    (fresh : ∀ binding ∈ added, before.env.top.lookup binding.1 = none) :
    before.Keeps after added where
  scope {id scope} found := by
    obtain ⟨newer, gained, arena⟩ := steps.arena
    have old {id : Nat} {scope : Scope} (found : before.scopes.get? id = some scope) :
        after.scopes.get? id =
          some (if id = before.scopes.current then scope.extend gained else scope) := by
      have made := Arena.lt_length_of_get? found
      rw [Scopes.get?, arena, Arena.get?_append (by rwa [Arena.length_modify]), Arena.get?_modify]
      split
      · next here =>
        subst here
        exact congrArg (Option.map _) found
      · exact found
    rw [old found]
    split
    · next here =>
      subst here
      have there := old found
      rw [if_pos rfl, ← steps.current] at there
      rw [top_env there, top_env found] at top
      rw [List.append_cancel_right top]
    · rfl
  fresh found binding member := by
    rw [Scope.find?, ← top_env found]
    exact fresh binding member

end Checker

section Outcomes
variable {α : Type} {before after : Checker} {n : Nat} {a : α}

theorem Refines.advances {outcome : Except Diagnostic (α × Env)}
    (refines : Refines before n (.ok a after) outcome) : before.Advances after n := by
  cases outcome with
  | error d => exact refines.elim
  | ok result => exact refines.2.1

end Outcomes

/-- The name that a statement declares in its own chunk. -/
def Syntax.Stmt.declaredName? : Syntax.Stmt → Option String
  | .declare _ name _ | .job _ name _ _ => some name.lexeme
  | .assign .. | .print _ | .output _ | .ifThen .. | .ifElse .. | .whileLoop .. | .repeatLoop ..
  | .coil .. | .increment _ | .decrement _ | .call .. => none

section Statements
variable {env last : Env} {s : Syntax.Stmt} {checked : Typed.Stmt}

theorem declaredName?_stmt (elaborates : s.Elaborates env checked last) :
    checked.declared?.map Entity.name = s.declaredName? := by
  cases elaborates with
  | job _ _ _ _ made _ _ _ =>
    subst made
    rfl
  | declare | assign | print | output | ifThen | ifElse | whileLoop | repeatLoop | coil | increment
  | decrement | call => rfl

theorem fresh_stmt (elaborates : s.Elaborates env checked last) :
    ∀ binding ∈ Frame.ofEntities checked.declared?.toList,
      env.top.lookup binding.1 = none := by
  cases elaborates with
  | declare _ _ _ fresh => exact List.forall_mem_singleton.mpr fresh
  | job _ _ _ fresh made _ _ _ =>
    subst made
    exact List.forall_mem_singleton.mpr fresh
  | assign | print | output | ifThen | ifElse | whileLoop | repeatLoop | coil | increment
  | decrement | call => exact List.forall_mem_nil _

variable {before after : Checker}

/-- The derivation of a statement that is accepted, and what its check does to the state. -/
theorem accepted_stmt (inRange : before.InRange) (ran : s.check before = .ok checked after) :
    s.Elaborates before.env checked after.env ∧ before.Advances after s.outputs := by
  have refines := refines_check s inRange
  rw [ran] at refines
  exact ⟨elaborates_stmt s refines.outcome, refines.advances⟩

theorem keeps_stmt (inRange : before.InRange) (ran : s.check before = .ok checked after) :
    before.Keeps after (Frame.ofEntities checked.declared?.toList) := by
  obtain ⟨derived, steps⟩ := accepted_stmt inRange ran
  exact steps.keeps (frames_stmt derived).1 (fresh_stmt derived)

end Statements

/-- From every state that a checker can get into, a statement that is accepted leads back to the
current scope. All scopes are kept, and only the current one has got a binding, of the entity that
the statement declares under its name, if it declares one. The count of the innermost job body has
gone up by the outputs of the statement, and the other counts are kept. The next number has gone up
by the number of entities in the checked statement. Checking an expression or a call keeps the whole
state, also when it fails. -/
theorem frame_of_accepted {prelude : Prelude} {before : Checker}
    (reachable : before.Reachable prelude) :
    (∀ (s : Syntax.Stmt) checked after, s.check before = .ok checked after →
      after.scopes.current = before.scopes.current ∧
      before.Keeps after (Frame.ofEntities checked.declared?.toList) ∧
      checked.declared?.map Entity.name = s.declaredName? ∧
      after.outputs = before.outputs.modifyHead (· + s.outputs) ∧
      after.nextId = before.nextId + checked.introduced.length) ∧
    (∀ e, stateOf (Check.expr e before) = before) ∧
    ∀ callee args,
      stateOf
        ((Syntax.checkCall before.scopes callee args : Check (Job × List Typed.Expr)) before) =
        before := by
  have inRange := reachable.inRange
  refine ⟨fun s checked after ran => ?_, fun e => (reads_expr e).stateOf_eq,
    fun callee args => (Reads.lift _).stateOf_eq⟩
  obtain ⟨derived, steps⟩ := accepted_stmt inRange ran
  have numbers := (numbered_stmt derived).2
  rw [Checker.next_env, Checker.next_env] at numbers
  have names := declaredName?_stmt derived
  exact ⟨steps.current, keeps_stmt inRange ran, names, steps.outputs, numbers⟩

/-- A job whose check fails in its body, so that the checker stays there. -/
def abandonedJob : Syntax.Stmt :=
  .job ⟨.id, "baal", none⟩ ⟨.id, "f", none⟩ [] [.print (.leaf ⟨.id, "y", none⟩)]

/-- An output of the job around it, and one of a job inside. -/
def outputsOfTwo : Syntax.Stmt :=
  let output : Syntax.Stmt := .output (.leaf ⟨.baal, "true", none⟩)
  .ifElse (.leaf ⟨.baal, "true", none⟩) [output]
    [.job ⟨.id, "baal", none⟩ ⟨.id, "g", none⟩ [] [output]]

theorem frame_in_abandonedJob : ∃ first checked after, Checker.ofPrelude .empty = .ok first ∧
    outputsOfTwo.check (first.after (.stmt abandonedJob)) = .ok checked after ∧
    after.scopes.current = 2 ∧ (first.after (.stmt abandonedJob)).Keeps after [] ∧
    after.outputs = [1] ∧ after.nextId = 2 := by
  have reachable : Checker.Reachable .empty _ := .after (.start rfl) (.stmt abandonedJob)
  obtain ⟨current, keeps, _, outputs, next⟩ :=
    (frame_of_accepted reachable).1 outputsOfTwo _ _ rfl
  exact ⟨_, _, _, rfl, rfl, current, keeps, outputs, next⟩

end JobLang
