import JobLang.Proofs.Frame.Success
import Mathlib.Logic.Relation

/-!
# Where a rejected statement leaves the state

A check that fails stops where it is: scopes that were entered are not left, counts that were
started are not taken away, numbers stay used. What was there before is kept all the same. The state
that is left differs from the one before by what the statement has added, and by the name of a job
that was declared before the check of its body failed.
-/
namespace JobLang

open Syntax (Parameter)
open Relation (ReflTransGen)

/-- The one scope is the parent of the other. -/
def Arena.Parent (arena : Arena) (id parent : Nat) : Prop :=
  ∃ scope, arena.get? id = some scope ∧ scope.parent = some parent

namespace Checker

/-- What a step may do to the state, wherever it ends. Bindings are added to the current scope only.
The scope it ends in is the current one, or a new one from which parents lead to the current one.
New counts are put before the old ones, and of these only the first may go up. -/
structure LeadsTo (before after : Checker) (added : Frame) : Prop where
  keeps : before.Keeps after added
  current : after.scopes.current = before.scopes.current ∨
    before.scopes.arena.length ≤ after.scopes.current
  path : ReflTransGen after.scopes.arena.Parent after.scopes.current before.scopes.current
  nextId : before.nextId ≤ after.nextId
  outputs : ∃ newer n, after.outputs = newer ++ before.outputs.modifyHead (· + n)

theorem Keeps.length_le {before after : Checker} {added : Frame}
    (keeps : before.Keeps after added) :
    before.scopes.arena.length ≤ after.scopes.arena.length := by
  refine Nat.le_of_not_lt fun fewer => ?_
  cases found : before.scopes.get? after.scopes.arena.length with
  | none => exact absurd (Arena.get?_eq_none_iff.mp found) (Nat.not_le_of_lt fewer)
  | some scope => exact absurd (Arena.lt_length_of_get? (keeps.scope found)) (Nat.lt_irrefl _)

namespace LeadsTo
variable {before middle after : Checker} {added more : Frame} {n : Nat}

theorem refl (checker : Checker) : checker.LeadsTo checker [] where
  keeps := .refl checker
  current := .inl rfl
  path := .refl
  nextId := Nat.le_refl _
  outputs := ⟨[], 0, (modifyHead_add_zero _).symm⟩

/-- A number that has been taken is not given back. -/
theorem usedNumber (checker : Checker) :
    checker.LeadsTo { checker with nextId := checker.nextId + 1 } [] where
  keeps := ⟨(Keeps.refl checker).scope, (Keeps.refl checker).fresh⟩
  current := .inl rfl
  path := .refl
  nextId := Nat.le_succ _
  outputs := (refl checker).outputs

theorem ofAdvances (steps : before.Advances after n) (keeps : before.Keeps after added)
    (nextId : before.nextId ≤ after.nextId) : before.LeadsTo after added where
  keeps := keeps
  current := .inl steps.current
  path := by rw [steps.current]
  nextId := nextId
  outputs := ⟨[], n, steps.outputs⟩

/-- A step that succeeds, and one more. -/
theorem trans (steps : before.Advances middle n) (first : before.LeadsTo middle added)
    (rest : middle.LeadsTo after more) : before.LeadsTo after (more ++ added) where
  keeps := first.keeps.trans steps.current rest.keeps
  current := by
    rw [← steps.current]
    exact rest.current.imp_right (Nat.le_trans first.keeps.length_le)
  path := by
    rw [← steps.current]
    exact rest.path
  nextId := Nat.le_trans first.nextId rest.nextId
  outputs := by
    obtain ⟨newer, m, outputs⟩ := rest.outputs
    exact ⟨newer, n + m, by rw [outputs, steps.outputs, modifyHead_add]⟩

/-- A step in a scope of its own, which is not left. -/
theorem ofEntered {job : Option Job} (inside : (before.entered job).LeadsTo after added) :
    before.LeadsTo after [] where
  keeps.scope {id scope} found := by
    have made := Arena.lt_length_of_get? found
    have same : (before.entered job).scopes.get? id = some scope := by
      rw [← found, Scopes.get?, arena_entered]
      exact Arena.get?_append made [before.newScope job]
    rw [inside.keeps.scope same, current_entered, if_neg (Nat.ne_of_lt made)]
    exact congrArg some (ite_self scope).symm
  keeps.fresh _ := List.forall_mem_nil _
  current := by
    right
    rcases inside.current with here | newer
    · exact Nat.le_of_eq here.symm
    · exact Nat.le_trans (Nat.le_of_lt (Nat.lt_succ_self _)) newer
  path := by
    have own : (before.entered job).scopes.get? before.scopes.arena.length =
        some (before.newScope job) := by
      rw [Scopes.get?, arena_entered]
      exact if_pos rfl
    exact inside.path.tail ⟨_, inside.keeps.scope own, by split <;> rfl⟩
  nextId := inside.nextId
  outputs := inside.outputs

/-- A step that counts its outputs apart. -/
theorem ofCounting
    (inside : { before with outputs := 0 :: before.outputs }.LeadsTo after added) :
    before.LeadsTo after added where
  keeps := ⟨inside.keeps.scope, inside.keeps.fresh⟩
  current := inside.current
  path := inside.path
  nextId := inside.nextId
  outputs := by
    obtain ⟨newer, n, outputs⟩ := inside.outputs
    refine ⟨newer ++ [0 + n], 0, ?_⟩
    rw [outputs, modifyHead_add_zero, List.append_assoc]
    rfl

end LeadsTo
end Checker

/-- If a step fails, the state that it leaves has the given property. -/
def FailsIn {α : Type} (P : Checker → Prop) : EStateM.Result Diagnostic Checker α → Prop
  | .ok .. => True
  | .error _ after => P after

namespace FailsIn
variable {α β : Type} {P : Checker → Prop} {before : Checker}

theorem pure (a : α) : FailsIn P ((Pure.pure a : Check α) before) := trivial

theorem mono {Q : Checker → Prop} {result : EStateM.Result Diagnostic Checker α}
    (fails : FailsIn P result) (weaker : ∀ after, P after → Q after) : FailsIn Q result := by
  cases result with
  | ok a after => trivial
  | error d after => exact weaker after fails

theorem ofReads {step : Check α} {outcome : Except Diagnostic α}
    (reads : Reads before step outcome) (here : P before) : FailsIn P (step before) := by
  have ran : step before = _ := reads
  rw [ran]
  cases outcome with
  | ok a => trivial
  | error d => exact here

theorem bind {step : Check α} {f : α → Check β} (first : FailsIn P (step before))
    (next : ∀ a middle, step before = .ok a middle → FailsIn P (f a middle)) :
    FailsIn P ((step >>= f) before) := by
  change FailsIn P (EStateM.bind step f before)
  rw [EStateM.bind]
  cases ran : step before with
  | ok a middle => exact next a middle ran
  | error d after =>
    rw [ran] at first
    exact first

/-- A step that looks at the state, and one more from the same state. -/
theorem read {step : Check α} {outcome : Except Diagnostic α} {f : α → Check β}
    (reads : Reads before step outcome) (here : P before) (next : ∀ a, FailsIn P (f a before)) :
    FailsIn P ((step >>= f) before) := by
  refine bind (ofReads reads here) fun a middle ran => ?_
  have same : stateOf (step before) = before := reads.stateOf_eq
  rw [ran] at same
  cases same
  exact next a

theorem inScope {job : Option Job} {step : Check α}
    (inside : FailsIn (fun after => ∃ added, (before.entered job).LeadsTo after added)
      (step (before.entered job))) :
    FailsIn (before.LeadsTo · []) (Check.inScope job step before) := by
  change FailsIn _ (EStateM.bind step _ (before.entered job))
  refine bind (inside.mono fun after ⟨added, leads⟩ => leads.ofEntered) fun a middle _ => trivial

theorem countingOutputs {step : Check α}
    (inside : FailsIn
      (fun after => ∃ added, { before with outputs := 0 :: before.outputs }.LeadsTo after added)
      (step { before with outputs := 0 :: before.outputs })) :
    FailsIn (fun after => ∃ added, before.LeadsTo after added)
      (Check.countingOutputs step before) := by
  change FailsIn _ (EStateM.bind step _ { before with outputs := 0 :: before.outputs })
  exact bind (inside.mono fun after ⟨added, leads⟩ => ⟨added, leads.ofCounting⟩)
    fun a middle _ => trivial

/-- A name that cannot be bound has used up the number of its entity. -/
theorem bindName (name : String) (entity : Entity) (place : Option Position) (a : α) :
    FailsIn (before.LeadsTo · [])
      ((do Check.bindName name entity place; return a : Check α)
        { before with nextId := before.nextId + 1 }) := by
  refine bind ?_ fun _ middle _ => trivial
  change FailsIn _ (EStateM.bind (liftM (before.scopes.declare name entity place)) _ _)
  exact bind (ofReads (.lift _) (.usedNumber before)) fun _ middle _ => trivial

theorem declareVariable (name : String) (ty : Ty) (readOnly : Bool) (place : Option Position) :
    FailsIn (before.LeadsTo · []) (Check.declareVariable name ty readOnly place before) :=
  bindName name (.var ⟨before.nextId, name, ty, readOnly⟩) place _

theorem declareJob (name : String) (params : List Ty) (returns : Ty) (place : Option Position) :
    FailsIn (before.LeadsTo · []) (Check.declareJob name params returns place before) :=
  bindName name (.job ⟨before.nextId, name, params, returns⟩) place _

end FailsIn

section Accepted
variable {before after : Checker}

theorem Refines.leadsTo {α : Type} {n : Nat} {a : α} {added : Frame}
    {outcome : Except Diagnostic (α × Env)} (refines : Refines before n (.ok a after) outcome)
    (top : after.env.top = added ++ before.env.top)
    (fresh : ∀ binding ∈ added, before.env.top.lookup binding.1 = none)
    (next : before.env.next ≤ after.env.next) : before.LeadsTo after added := by
  rw [Checker.next_env, Checker.next_env] at next
  exact .ofAdvances refines.advances (refines.advances.keeps top fresh) next

/-- A step that declares an entity. -/
theorem Refines.leadsTo_added {α : Type} {a : α} {entity : Entity}
    {outcome : Except Diagnostic (α × Env)} (refines : Refines before 0 (.ok a after) outcome)
    (added : before.env.add entity = after.env) (fresh : before.env.top.lookup entity.name = none) :
    before.Advances after 0 ∧ before.LeadsTo after [(entity.name, entity)] := by
  refine ⟨refines.advances, refines.leadsTo ?_ (List.forall_mem_singleton.mpr fresh) ?_⟩
  · rw [← added]
    rfl
  · rw [← added]
    exact Nat.le_succ _

variable (inRange : before.InRange)
include inRange

theorem leadsTo_declareVariable {name : String} {ty : Ty} {readOnly : Bool}
    {place : Option Position} {v : Variable}
    (ran : Check.declareVariable name ty readOnly place before = .ok v after) :
    before.Advances after 0 ∧ before.LeadsTo after [(name, .var v)] := by
  have refines := Refines.declareVariable inRange name ty readOnly place
  rw [ran] at refines
  obtain ⟨fresh, rfl, added⟩ := Env.declareVariable_eq_ok.mp refines.outcome
  exact refines.leadsTo_added added fresh

theorem leadsTo_declareJob {name : String} {params : List Ty} {returns : Ty}
    {place : Option Position} {j : Job}
    (ran : Check.declareJob name params returns place before = .ok j after) :
    before.Advances after 0 ∧ before.LeadsTo after [(name, .job j)] := by
  have refines := Refines.declareJob inRange name params returns place
  rw [ran] at refines
  obtain ⟨fresh, rfl, added⟩ := Env.declareJob_eq_ok.mp refines.outcome
  exact refines.leadsTo_added added fresh

/-- The parameters of a job are declared in a scope where nothing has been bound yet. -/
theorem leadsTo_declareParams {params : List (Parameter × Ty)} {vars : List Variable}
    (blank : before.env.top = []) (ran : Check.declareParams params before = .ok vars after) :
    before.Advances after 0 ∧ ∃ added, before.LeadsTo after added := by
  have refines := refines_declareParams params inRange
  rw [ran] at refines
  have opens := parameters_of_ok refines.outcome
  have next : before.env.next ≤ after.env.next := by
    rw [(numbered_parameters opens).2]
    exact Nat.le_add_right ..
  refine ⟨refines.advances, _, refines.leadsTo (frames_parameters opens).1 ?_ next⟩
  intro binding _
  rw [blank]
  rfl

theorem leadsTo_check {s : Syntax.Stmt} {checked : Typed.Stmt}
    (ran : s.check before = .ok checked after) :
    before.Advances after s.outputs ∧ ∃ added, before.LeadsTo after added := by
  obtain ⟨derived, steps⟩ := accepted_stmt inRange ran
  have numbers := (numbered_stmt derived).2
  rw [Checker.next_env, Checker.next_env] at numbers
  exact ⟨steps, _, .ofAdvances steps (keeps_stmt inRange ran) (by omega)⟩

theorem leadsTo_block {body : List Syntax.Stmt} {checked : List Typed.Stmt}
    (ran : Check.inScope none (Syntax.Stmt.checkAll body) before = .ok checked after) :
    before.Advances after (Syntax.Stmt.outputsAll body) ∧ before.LeadsTo after [] := by
  have refines := refines_block body inRange
  rw [ran] at refines
  obtain ⟨last, inside, behind⟩ := Env.within_eq_ok.mp refines.outcome
  refine ⟨refines.advances, refines.leadsTo ?_ (List.forall_mem_nil _) ?_⟩
  · rw [← behind]
    rfl
  · have numbers := (numbered_chunk (elaborates_chunk body inside)).2
    rw [← behind]
    change before.env.next ≤ last.next
    rw [numbers]
    exact Nat.le_add_right ..

/-- What is left of a job that has been checked but for its outputs is its name. -/
theorem leadsTo_jobWithBody {returns name : Token} {params : List Parameter}
    {body : List Syntax.Stmt} {j : Job} {vars : List Variable} {checked : List Typed.Stmt}
    {outputs : Nat}
    (ran : Check.jobWithBody returns name params body before =
      .ok (j, vars, checked, outputs) after) :
    before.Advances after 0 ∧ before.LeadsTo after [(name.lexeme, .job j)] := by
  have refines := refines_jobWithBody returns name params inRange (refines_checkAll body)
  rw [ran] at refines
  have accepted := refines.outcome
  simp only [Reference.jobWithBody, bind_eq_ok, return_eq_ok, Prod.exists, Env.declareJob_eq_ok,
    Env.within_eq_ok, Prod.mk.injEq] at accepted
  obtain ⟨_, _, ty, _, tys, _, _, _, ⟨fresh, rfl, rfl⟩, _, _, _, _,
    ⟨_, ⟨_, opened, opens, _, last, inside, ⟨rfl, rfl, rfl⟩, rfl⟩, rfl⟩, ⟨rfl, rfl, rfl, rfl⟩,
    behind⟩ := accepted
  refine ⟨refines.advances, refines.leadsTo ?_ (List.forall_mem_singleton.mpr fresh) ?_⟩
  · rw [← behind]
    rfl
  · have numbers := (numbered_parameters (parameters_of_ok opens)).2
    have numbers' := (numbered_chunk (elaborates_chunk body inside)).2
    rw [← behind]
    change before.env.next ≤ last.next
    change opened.next = before.env.next + 1 + _ at numbers
    omega

end Accepted

/-- What a statement that is rejected may leave bound in the current scope: nothing, or the name of
the job that it declares. -/
inductive Syntax.Stmt.Leaves : Syntax.Stmt → Frame → Prop
  | nothing (s : Syntax.Stmt) : Leaves s []
  | name (returns name : Token) (params : List Parameter) (body : List Syntax.Stmt) (j : Job) :
      Leaves (.job returns name params body) [(name.lexeme, .job j)]

theorem FailsIn.nothing {α : Type} {before : Checker} {s : Syntax.Stmt}
    {result : EStateM.Result Diagnostic Checker α} (fails : FailsIn (before.LeadsTo · []) result) :
    FailsIn (fun after => ∃ added, s.Leaves added ∧ before.LeadsTo after added) result :=
  fails.mono fun _ leads => ⟨[], .nothing s, leads⟩

theorem failsIn_declareParams (params : List (Parameter × Ty)) {before : Checker}
    (inRange : before.InRange) :
    FailsIn (fun after => ∃ added, before.LeadsTo after added)
      (Check.declareParams params before) := by
  induction params generalizing before with
  | nil => exact .pure _
  | cons head rest ih =>
    obtain ⟨param, ty⟩ := head
    refine .read (.lift _) ⟨[], .refl before⟩ fun _ => ?_
    have first : FailsIn (before.LeadsTo · []) _ :=
      .declareVariable param.name.lexeme ty true param.name.position
    refine .bind (first.mono fun after leads => ⟨[], leads⟩) fun v middle ran => ?_
    obtain ⟨steps, leads⟩ := leadsTo_declareVariable inRange ran
    refine .bind ((ih (steps.inRange inRange)).mono ?_) fun others last _ => .pure _
    rintro after ⟨more, rest⟩
    exact ⟨_, leads.trans steps rest⟩

/-- The name of the job is what is left if something inside it is rejected. -/
theorem failsIn_jobWithBody (returns name : Token) (params : List Parameter)
    {body : List Syntax.Stmt} {before : Checker} (inRange : before.InRange)
    (inside : ∀ {opened : Checker}, opened.InRange →
      FailsIn (fun after => ∃ added, opened.LeadsTo after added)
        (Syntax.Stmt.checkAll body opened)) :
    FailsIn (fun after => ∃ added, (Syntax.Stmt.job returns name params body).Leaves added ∧
      before.LeadsTo after added) (Check.jobWithBody returns name params body before) := by
  have here : ∃ added, (Syntax.Stmt.job returns name params body).Leaves added ∧
      before.LeadsTo before added := ⟨[], .nothing _, .refl before⟩
  refine .read (.lift _) here fun _ => ?_
  refine .read (.lift _) here fun ty => ?_
  refine .read (reads_storableTys params) here fun tys => ?_
  refine .bind (FailsIn.declareJob ..).nothing fun j declared ran => ?_
  obtain ⟨steps, leads⟩ := leadsTo_declareJob inRange ran
  refine .bind ((FailsIn.inScope ?_).mono fun after rest =>
    ⟨_, .name returns name params body j, leads.trans steps rest⟩) fun _ _ _ => .pure _
  have start := declared.inRange_entered (some j)
  refine .bind (failsIn_declareParams _ start) fun vars opened ran => ?_
  have blank : (declared.entered (some j)).env.top = [] := by
    rw [Checker.env_entered (steps.inRange inRange)]
    rfl
  obtain ⟨steps', added, leads'⟩ := leadsTo_declareParams start blank ran
  refine .bind ((FailsIn.countingOutputs (inside (steps'.inRange start))).mono ?_)
    fun _ _ _ => .pure _
  rintro after ⟨more, rest⟩
  exact ⟨_, leads'.trans steps' rest⟩

mutual

theorem failsIn_check : ∀ (s : Syntax.Stmt) {before : Checker}, before.InRange →
    FailsIn (fun after => ∃ added, s.Leaves added ∧ before.LeadsTo after added) (s.check before)
  | .declare typeName name init, before, _ => by
      refine .nothing (.read (reads_expr init) (.refl _) fun init => ?_)
      refine .read (.lift _) (.refl _) fun ty => ?_
      refine .read (.lift _) (.refl _) fun _ => ?_
      refine .read (reads_expectFits init ty name.position) (.refl _) fun _ => ?_
      exact .bind (.declareVariable ..) fun _ _ _ => .pure _
  | .job returns name params body, before, inRange => by
      rw [Check.check_job]
      refine .bind (failsIn_jobWithBody returns name params inRange (failsIn_checkAll body)) ?_
      rintro ⟨j, vars, checked, outputs⟩ middle ran
      obtain ⟨_, leads⟩ := leadsTo_jobWithBody inRange ran
      exact .read (reads_expectOutput j outputs _) ⟨_, .name returns name params body j, leads⟩
        fun _ => .pure _
  | .assign target source, before, _ => by
      rw [Syntax.Stmt.check, scopes_bind]
      refine .nothing (.read (.lift _) (.refl _) fun v => ?_)
      refine .read (reads_expr source) (.refl _) fun source => ?_
      exact .read (reads_expectFits source v.ty target.position) (.refl _) fun _ => .pure _
  | .print value, before, _ =>
      .nothing (.read (reads_printable value) (.refl _) fun _ => .pure _)
  | .output value, before, _ => by
      refine .nothing (.read (reads_enclosingJob value.position) (.refl _) fun j => ?_)
      refine .read (reads_expr value) (.refl _) fun value => ?_
      exact .read (reads_expectResult j value) (.refl _) fun _ => trivial
  | .ifThen test body, before, inRange => by
      refine .nothing (.read (reads_condition _ _ test) (.refl _) fun test => ?_)
      exact .bind (failsIn_block body inRange) fun _ _ _ => .pure _
  | .ifElse test body alternative, before, inRange => by
      refine .nothing (.read (reads_condition _ _ test) (.refl _) fun test => ?_)
      refine .bind (failsIn_block body inRange) fun body middle ran => ?_
      obtain ⟨steps, leads⟩ := leadsTo_block inRange ran
      have second := failsIn_block alternative (steps.inRange inRange)
      exact .bind (second.mono fun after rest => leads.trans steps rest) fun _ _ _ => .pure _
  | .whileLoop test body, before, inRange => by
      refine .nothing (.read (reads_condition _ _ test) (.refl _) fun test => ?_)
      exact .bind (failsIn_block body inRange) fun _ _ _ => .pure _
  | .repeatLoop count body, before, inRange => by
      refine .nothing (.read (reads_condition _ _ count) (.refl _) fun count => ?_)
      exact .bind (failsIn_block body inRange) fun _ _ _ => .pure _
  | .coil counter low high body, before, inRange => by
      refine .nothing (.read (reads_condition _ _ low) (.refl _) fun low => ?_)
      refine .read (reads_condition _ _ high) (.refl _) fun high => ?_
      refine .read (reads_counterTy counter) (.refl _) fun ty => ?_
      refine .read (.lift _) (.refl _) fun _ => ?_
      refine .bind (.inScope ?_) fun (v, body) _ _ => .pure _
      have start := before.inRange_entered none
      have first : FailsIn ((before.entered none).LeadsTo · []) _ :=
        .declareVariable counter.name.lexeme ty true counter.name.position
      refine .bind (first.mono fun after leads => ⟨[], leads⟩) fun v middle ran => ?_
      obtain ⟨steps, leads⟩ := leadsTo_declareVariable start ran
      refine .bind ((failsIn_checkAll body (steps.inRange start)).mono ?_) fun _ _ _ => .pure _
      rintro after ⟨more, rest⟩
      exact ⟨_, leads.trans steps rest⟩
  | .increment target, before, _ | .decrement target, before, _ => by
      rw [Syntax.Stmt.check, scopes_bind]
      exact .nothing (.read (.lift _) (.refl _) fun v => .pure _)
  | .call callee args, before, _ => by
      rw [Syntax.Stmt.check, scopes_bind]
      exact .nothing (.read (.lift _) (.refl _) fun v => .pure _)

theorem failsIn_checkAll : ∀ (chunk : List Syntax.Stmt) {before : Checker}, before.InRange →
    FailsIn (fun after => ∃ added, before.LeadsTo after added)
      (Syntax.Stmt.checkAll chunk before)
  | [], _, _ => .pure _
  | s :: rest, before, inRange => by
      refine .bind ((failsIn_check s inRange).mono fun after ⟨added, _, leads⟩ => ⟨added, leads⟩)
        fun checked middle ran => ?_
      obtain ⟨steps, added, leads⟩ := leadsTo_check inRange ran
      refine .bind ((failsIn_checkAll rest (steps.inRange inRange)).mono ?_) fun _ _ _ => .pure _
      rintro after ⟨more, rest⟩
      exact ⟨_, leads.trans steps rest⟩

/-- A chunk that is checked in a new scope. -/
theorem failsIn_block (body : List Syntax.Stmt) {before : Checker} (_ : before.InRange) :
    FailsIn (before.LeadsTo · []) (Check.inScope none (Syntax.Stmt.checkAll body) before) :=
  .inScope (failsIn_checkAll body (before.inRange_entered none))

end

/-- From every state that a checker can get into, a statement that is rejected keeps all scopes and
binds at most one name, which is that of the job that the statement declares, in the current scope.
Numbers are not given back. The checker stays in the current scope or in one that the statement has
made, from which parents lead to the current one. The counts of outputs are still there, behind new
ones, and only the first of them may have changed. A job that is rejected for not outputting
anything, after all of its body has been accepted, leads back to the current scope and to the same
counts. -/
theorem frame_of_rejected {prelude : Prelude} {before after : Checker} {s : Syntax.Stmt}
    {d : Diagnostic} (reachable : before.Reachable prelude)
    (ran : s.check before = .error d after) :
    (∃ added, s.Leaves added ∧ before.Keeps after added) ∧
    before.nextId ≤ after.nextId ∧
    (after.scopes.current = before.scopes.current ∨
      before.scopes.arena.length ≤ after.scopes.current) ∧
    ReflTransGen after.scopes.arena.Parent after.scopes.current before.scopes.current ∧
    (∃ newer n, after.outputs = newer ++ before.outputs.modifyHead (· + n)) ∧
    ∀ returns name params body inside middle, s = .job returns name params body →
      Check.jobWithBody returns name params body before = .ok inside middle →
      after.scopes.current = before.scopes.current ∧ after.outputs = before.outputs := by
  have inRange := reachable.inRange
  have fails := failsIn_check s inRange
  rw [ran] at fails
  obtain ⟨added, leaves, leads⟩ := fails
  refine ⟨⟨added, leaves, leads.keeps⟩, leads.nextId, leads.current, leads.path, leads.outputs, ?_⟩
  rintro returns name params body ⟨j, vars, checked, outputs⟩ middle rfl accepted
  obtain ⟨steps, _⟩ := leadsTo_jobWithBody inRange accepted
  have stays : FailsIn (· = middle) ((Syntax.Stmt.job returns name params body).check before) := by
    rw [Check.check_job]
    refine .bind (by rw [accepted]; trivial) fun inside last ran => ?_
    cases accepted.symm.trans ran
    exact .read (reads_expectOutput j outputs _) rfl fun _ => .pure _
  rw [ran] at stays
  cases stays
  exact ⟨steps.current, steps.outputs.trans (Checker.modifyHead_add_zero _)⟩

/-- A job all of whose body is accepted, where nothing is output. -/
def silentJob : Syntax.Stmt :=
  let x : Token := ⟨.id, "x", none⟩
  .job ⟨.id, "baal", none⟩ ⟨.id, "f", none⟩ [⟨⟨.id, "baal", none⟩, x⟩]
    [.ifThen (.leaf x) [.print (.leaf x)]]

theorem frame_of_silentJob : ∃ first d after, Checker.ofPrelude .empty = .ok first ∧
    silentJob.check (first.after (.stmt abandonedJob)) = .error d after ∧
    d.fault = .returnType "f" "baal" "nothing" ∧ after.nextId = 3 ∧
    (∃ added, silentJob.Leaves added ∧ (first.after (.stmt abandonedJob)).Keeps after added) ∧
    after.scopes.current = 2 ∧ after.outputs = [0] := by
  have reachable : Checker.Reachable .empty _ := .after (.start rfl) (.stmt abandonedJob)
  obtain ⟨added, _, _, _, _, silent⟩ := frame_of_rejected (s := silentJob) reachable rfl
  obtain ⟨current, outputs⟩ := silent _ _ _ _ _ _ rfl rfl
  exact ⟨_, _, _, rfl, rfl, rfl, rfl, added, current, outputs⟩

end JobLang
