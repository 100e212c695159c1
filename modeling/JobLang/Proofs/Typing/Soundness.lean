import JobLang.Proofs.Check.Elaboration
import JobLang.Proofs.Check.Reachable
import JobLang.Proofs.Typing.Judgement

/-!
# Accepted trees are well typed

Each rule of a derivation has what the judgement asks for at the node it makes. The outputs of a
tree are as many as were written, so a job that was accepted for its outputs still has them.
-/
namespace JobLang

open Syntax (Parameter)

section Expressions
variable {env : Env}

mutual

theorem wellTyped_expr {e : Syntax.Expr} {checked : Typed.Expr} :
    e.Elaborates env checked → checked.WellTyped
  | .name _ _ => .var rfl
  | .literal _ => .lit rfl
  | .binary _ first second accepted =>
      .binary (wellTyped_expr first) (wellTyped_expr second) accepted
  | .unary _ inner accepted => .unary (wellTyped_expr inner) accepted
  | .call _ each fit => .call (wellTyped_exprs each) fit rfl

theorem wellTyped_exprs {es : List Syntax.Expr} {checked : List Typed.Expr} :
    Syntax.Expr.ElaborateAll env es checked → ∀ e ∈ checked, e.WellTyped
  | .nil => by
      intro e member
      cases member
  | .cons head tail => by
      intro e member
      rcases List.mem_cons.mp member with rfl | member
      · exact wellTyped_expr head
      · exact wellTyped_exprs tail e member

end

end Expressions

/-- Declaring the parameters of a job does not change whose body it is. -/
theorem job_parameters {env after : Env} {params : List (Parameter × Ty)} {vars : List Variable}
    (opens : Parameters env params vars after) : after.job = env.job := by
  induction opens with
  | nil => rfl
  | cons _ _ _ ih => exact ih

theorem job_elaborates {env after : Env} {s : Syntax.Stmt} {checked : Typed.Stmt}
    (elaborates : s.Elaborates env checked after) : after.job = env.job := by
  cases elaborates <;> rfl

/-- The parameters of a job have the types that were written for them, and are read-only. -/
theorem types_parameters {env after : Env} {params : List Parameter} {tys : List Ty}
    {vars : List Variable}
    (types : List.Forall₂ (fun param ty => param.typeName.NamesStorable ty) params tys)
    (opens : Parameters env (params.zip tys) vars after) :
    vars.map Variable.ty = tys ∧
      ∀ v ∈ vars, v.readOnly = true ∧ v.ty.isStorable = true := by
  induction types generalizing env vars with
  | nil =>
    cases opens
    exact ⟨rfl, fun v member => by cases member⟩
  | cons names _ ih =>
    cases opens with
    | cons _ _ tail =>
      obtain ⟨same, fixed⟩ := ih tail
      refine ⟨by rw [List.map_cons, same]; rfl, ?_⟩
      intro v member
      rcases List.mem_cons.mp member with rfl | member
      · exact ⟨rfl, names.2⟩
      · exact fixed v member

theorem isStorable_or_void {name : String} {ty : Ty} (named : Ty.ofName? name = some ty) :
    ty.isStorable = true ∨ ty = .void := by
  unfold Ty.ofName? at named
  split at named <;> cases named <;> simp [Ty.isStorable]

mutual

theorem wellTyped_stmt {env after : Env} {s : Syntax.Stmt} {checked : Typed.Stmt}
    {job : Option Job} : s.Elaborates env checked after → env.job = job → checked.WellTyped job
  | .declare value type _ _, here => .declare (wellTyped_expr value) rfl type.2 rfl
  | .job _ type types _ made opens inside _, here => by
      subst made
      obtain ⟨same, fixed⟩ := types_parameters types opens
      have result := isStorable_or_void type
      have body := wellTyped_chunk inside (job_parameters opens)
      exact .job same fixed result body
  | .assign _ free assigned fits, here => .assign (wellTyped_expr assigned) free fits
  | .print given something, here => .print (wellTyped_expr given) something
  | .output within given fits, here => by
      rw [← here, within]
      exact .output (wellTyped_expr given) fits
  | .ifThen tested truth inside, here =>
      .ifThen (wellTyped_expr tested) truth (wellTyped_chunk inside here)
  | .ifElse tested truth inside otherwise, here =>
      .ifElse (wellTyped_expr tested) truth (wellTyped_chunk inside here)
        (wellTyped_chunk otherwise here)
  | .whileLoop tested truth inside, here =>
      .whileLoop (wellTyped_expr tested) truth (wellTyped_chunk inside here)
  | .repeatLoop counted number inside, here =>
      .repeatLoop (wellTyped_expr counted) number (wellTyped_chunk inside here)
  | .coil lower lowNumber upper highNumber _ _ made inside, here => by
      subst made
      have lowest := wellTyped_expr lower
      have highest := wellTyped_expr upper
      have body := wellTyped_chunk inside here
      exact .coil lowest lowNumber highest highNumber rfl rfl body
  | .increment _ free number, here => .increment free number
  | .decrement _ free number, here => .decrement free number
  | .call _ each fit, here => .call (wellTyped_exprs each) fit

theorem wellTyped_chunk {env after : Env} {chunk : List Syntax.Stmt} {checked : List Typed.Stmt}
    {job : Option Job} : Syntax.Stmt.ElaborateAll env chunk checked after → env.job = job →
      ∀ s ∈ checked, s.WellTyped job
  | .nil, here => by
      intro s member
      cases member
  | .cons head tail, here => by
      intro s member
      rcases List.mem_cons.mp member with rfl | member
      · exact wellTyped_stmt head here
      · exact wellTyped_chunk tail ((job_elaborates head).trans here) s member

end

mutual

theorem outputs_stmt {env after : Env} {s : Syntax.Stmt} {checked : Typed.Stmt} :
    s.Elaborates env checked after → checked.outputs = s.outputs
  | .declare .. | .job .. | .assign .. | .print .. | .output .. | .increment .. | .decrement ..
  | .call .. => rfl
  | .ifThen _ _ inside | .whileLoop _ _ inside | .repeatLoop _ _ inside
  | .coil _ _ _ _ _ _ _ inside => outputs_chunk inside
  | .ifElse _ _ inside otherwise => by
      rw [Typed.Stmt.outputs, Syntax.Stmt.outputs, outputs_chunk inside, outputs_chunk otherwise]

theorem outputs_chunk {env after : Env} {chunk : List Syntax.Stmt} {checked : List Typed.Stmt} :
    Syntax.Stmt.ElaborateAll env chunk checked after →
      Typed.Stmt.outputsAll checked = Syntax.Stmt.outputsAll chunk
  | .nil => rfl
  | .cons head tail => by
      rw [Typed.Stmt.outputsAll, Syntax.Stmt.outputsAll, outputs_stmt head, outputs_chunk tail]

end

mutual

theorem jobsOutput_stmt {env after : Env} {s : Syntax.Stmt} {checked : Typed.Stmt} :
    s.Elaborates env checked after → checked.JobsOutput
  | .declare .. | .assign .. | .print .. | .output .. | .increment .. | .decrement ..
  | .call .. => by
      intro job member
      cases member
  | .job _ _ _ _ made _ inside output => by
      subst made
      intro job member
      rcases List.mem_cons.mp member with rfl | member
      · rw [outputs_chunk inside]
        exact output
      · exact jobsOutput_chunk inside job member
  | .ifThen _ _ inside | .whileLoop _ _ inside | .repeatLoop _ _ inside
  | .coil _ _ _ _ _ _ _ inside => jobsOutput_chunk inside
  | .ifElse _ _ inside otherwise => by
      intro job member
      rcases List.mem_append.mp member with member | member
      · exact jobsOutput_chunk inside job member
      · exact jobsOutput_chunk otherwise job member

theorem jobsOutput_chunk {env after : Env} {chunk : List Syntax.Stmt}
    {checked : List Typed.Stmt} : Syntax.Stmt.ElaborateAll env chunk checked after →
      ∀ job ∈ Typed.Stmt.jobsAll checked,
        job.1.returns ≠ .void → Typed.Stmt.outputsAll job.2 ≠ 0
  | .nil => by
      intro job member
      cases member
  | .cons head tail => by
      intro job member
      rcases List.mem_append.mp member with member | member
      · exact jobsOutput_stmt head job member
      · exact jobsOutput_chunk tail job member

end

/-- What a derived chunk comes to. -/
theorem sound_chunk {env after : Env} {chunk : List Syntax.Stmt} {checked : List Typed.Stmt}
    {job : Option Job} (accepted : Reference.chunk env chunk = .ok (checked, after))
    (here : env.job = job) : ∀ s ∈ checked, s.WellTyped job ∧ s.JobsOutput := by
  have derived := elaborates_chunk chunk accepted
  intro s member
  refine ⟨wellTyped_chunk derived here s member, fun job declared => ?_⟩
  exact jobsOutput_chunk derived job (Typed.Stmt.mem_jobsAll.mpr ⟨s, member, declared⟩)

/-- In every state that a checker can get into, whatever it accepts is well typed in the body of the
job that the state is in, and every job in it that has a result outputs something. A program is
well typed outside all jobs. -/
theorem wellTyped_of_accepted {prelude : Prelude} {checker : Checker}
    (reachable : checker.Reachable prelude) :
    (∀ s checked after, Syntax.Stmt.check s checker = .ok checked after →
      checked.WellTyped checker.scopes.enclosingJob? ∧ checked.JobsOutput) ∧
    (∀ chunk checked after, Syntax.Stmt.checkAll chunk checker = .ok checked after →
      ∀ s ∈ checked, s.WellTyped checker.scopes.enclosingJob? ∧ s.JobsOutput) ∧
    (∀ body checked after,
      Check.inScope none (Syntax.Stmt.checkAll body) checker = .ok checked after →
      ∀ s ∈ checked, s.WellTyped checker.scopes.enclosingJob? ∧ s.JobsOutput) ∧
    (∀ program checked, check prelude program = .ok checked →
      ∀ s ∈ checked, s.WellTyped none ∧ s.JobsOutput) := by
  have inRange := reachable.inRange
  rw [checker.enclosingJob?_env]
  refine ⟨?_, ?_, ?_, ?_⟩
  · intro s checked after accepted
    have refines := refines_check s inRange
    rw [accepted] at refines
    have derived := elaborates_stmt s refines.outcome
    exact ⟨wellTyped_stmt derived rfl, jobsOutput_stmt derived⟩
  · intro chunk checked after accepted
    have refines := refines_checkAll chunk inRange
    rw [accepted] at refines
    exact sound_chunk refines.outcome rfl
  · intro body checked after accepted
    have refines := refines_block body inRange
    rw [accepted] at refines
    obtain ⟨last, inside, _⟩ := Env.within_eq_ok.mp refines.outcome
    exact sound_chunk inside rfl
  · intro program checked accepted
    obtain ⟨env, after, made, accepted⟩ := reference_of_check accepted
    cases env_ofPrelude made
    exact sound_chunk accepted rfl

/-- A job whose body refers to a name that is not declared. -/
def brokenJob : Syntax.Stmt :=
  .job ⟨.id, "baal", none⟩ ⟨.id, "f", none⟩ [] [.print (.leaf ⟨.id, "y", none⟩)]

def answer : Syntax.Stmt := .output (.leaf ⟨.baal, "true", none⟩)

/-- The analysis of the job fails in its body, and the checker stays there: an output that follows
belongs to that job. -/
theorem wellTyped_in_broken_job : ∃ first checked after, Checker.ofPrelude .empty = .ok first ∧
    answer.check (first.after (.stmt brokenJob)) = .ok checked after ∧
    checked.WellTyped (some ⟨0, "f", [], .baal⟩) := by
  refine ⟨_, _, _, rfl, rfl, ?_⟩
  have reachable : Checker.Reachable .empty _ := .after (.start rfl) (.stmt brokenJob)
  exact ((wellTyped_of_accepted reachable).1 answer _ _ rfl).1

end JobLang
