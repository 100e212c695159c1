import JobLang.Proofs.Check.Lineage

/-!
# Steps of a check against their outcomes

A step of the checker changes the state, an outcome over environments does not know the state. This
module relates the two and shows that the relation passes through sequencing, through bodies in
scopes of their own, and through the counting of outputs. A step that succeeds comes back to the
scope it started in; of a step that fails, only the diagnostic is compared.
-/
namespace JobLang

namespace Checker

/-- What a step that succeeds may do to the state while it counts the given number of outputs: add
scopes, bind names in the current scope, and use up numbers. -/
structure Advances (before after : Checker) (outputs : Nat) : Prop where
  current : after.scopes.current = before.scopes.current
  arena : ∃ (newer : List Scope) (added : Frame), after.scopes.arena =
    newer ++ before.scopes.arena.modify (Scope.extend added) before.scopes.current
  outputs : after.outputs = before.outputs.modifyHead (· + outputs)

theorem modifyHead_add (counts : List Nat) (m n : Nat) :
    (counts.modifyHead (· + m)).modifyHead (· + n) = counts.modifyHead (· + (m + n)) := by
  cases counts with
  | nil => rfl
  | cons count rest => simp only [List.modifyHead_cons, Nat.add_assoc]

theorem modifyHead_add_zero (counts : List Nat) : counts.modifyHead (· + 0) = counts := by
  cases counts <;> rfl

namespace Advances
variable {before middle after : Checker} {m n : Nat}

theorem refl (checker : Checker) : checker.Advances checker 0 where
  current := rfl
  arena := ⟨[], [], by rw [Arena.modify_id]; rfl⟩
  outputs := (modifyHead_add_zero _).symm

theorem inRange (steps : before.Advances after n) (inRange : before.InRange) : after.InRange := by
  obtain ⟨newer, added, arena⟩ := steps.arena
  rw [InRange, steps.current, arena, List.length_append, Arena.length_modify]
  rw [InRange] at inRange
  omega

theorem trans (inRange : before.InRange) (first : before.Advances middle m)
    (second : middle.Advances after n) : before.Advances after (m + n) where
  current := second.current.trans first.current
  arena := by
    obtain ⟨newer, added, arena⟩ := first.arena
    obtain ⟨newest, more, arena'⟩ := second.arena
    refine ⟨newest ++ newer, more ++ added, ?_⟩
    have old : before.scopes.current <
        (before.scopes.arena.modify (Scope.extend added) before.scopes.current).length := by
      rw [Arena.length_modify]
      exact inRange
    rw [arena', first.current, arena, Arena.modify_append old, Arena.modify_extend_extend,
      List.append_assoc]
  outputs := by rw [second.outputs, first.outputs, modifyHead_add]

end Advances

/-- The state in which a name has been bound to an entity with a number of its own. -/
def bound (checker : Checker) (name : String) (entity : Entity) : Checker where
  scopes := ⟨checker.scopes.arena.modify (Scope.extend [(name, entity)]) checker.scopes.current,
    checker.scopes.current⟩
  nextId := checker.nextId + 1
  outputs := checker.outputs

theorem advances_bound (checker : Checker) (name : String) (entity : Entity) :
    checker.Advances (checker.bound name entity) 0 where
  current := rfl
  arena := ⟨[], [(name, entity)], rfl⟩
  outputs := (modifyHead_add_zero _).symm

theorem env_bound {checker : Checker} (inRange : checker.InRange) (name : String)
    (entity : Entity) :
    (checker.bound name entity).env =
      { checker.env with
        top := (name, entity) :: checker.env.top
        next := checker.nextId + 1 } := by
  obtain ⟨scope, around, found⟩ := inRange.lineage_eq
  have extended : (checker.bound name entity).lineage =
      scope.extend [(name, entity)] :: around := by
    change Arena.lineage (checker.scopes.arena.modify _ _) checker.scopes.current = _
    rw [Arena.lineage_modify]
    rw [lineage] at found
    rw [found]
    rfl
  rw [env, extended, env, found]
  rfl

theorem declare_eq (checker : Checker) (name : String) (entity : Entity)
    (place : Option Position) :
    checker.scopes.declare name entity place = match checker.env.top.lookup name with
      | some _ => .error ⟨.duplicateDeclaration name, place⟩
      | none => .ok (checker.bound name entity).scopes := by
  rw [Scopes.declare, lookup_top_env]
  cases checker.env.top.lookup name <;> rfl

theorem advances_countOutput (checker : Checker) :
    checker.Advances { checker with outputs := checker.outputs.modifyHead (· + 1) } 1 where
  current := rfl
  arena := (Advances.refl checker).arena
  outputs := rfl

/-- The state behind a scope. -/
def left (checker : Checker) : Checker := { checker with scopes := checker.scopes.leave }

section Leave
variable {before after : Checker} {n : Nat} {job : Option Job}

/-- The scope that was entered is left for the one it was entered from. -/
theorem scopes_left (steps : (before.entered job).Advances after n) :
    after.left.scopes = ⟨after.scopes.arena, before.scopes.current⟩ := by
  obtain ⟨newer, added, arena⟩ := steps.arena
  rw [arena_entered, current_entered, Arena.modify, if_pos rfl] at arena
  have here : after.scopes.get? after.scopes.current =
      some ((before.newScope job).extend added) := by
    rw [Scopes.get?, steps.current, arena, current_entered,
      Arena.get?_append (by simp), Arena.get?, if_pos rfl]
  rw [left, Scopes.leave, here]
  rfl

theorem advances_left (steps : (before.entered job).Advances after n) :
    before.Advances after.left n where
  current := by rw [scopes_left steps]
  arena := by
    obtain ⟨newer, added, arena⟩ := steps.arena
    rw [arena_entered, current_entered, Arena.modify, if_pos rfl] at arena
    refine ⟨newer ++ [(before.newScope job).extend added], [], ?_⟩
    rw [scopes_left steps, arena, Arena.modify_id, List.append_assoc]
    rfl
  outputs := steps.outputs

theorem env_left (inRange : before.InRange) (steps : (before.entered job).Advances after n) :
    after.left.env = before.env.behind after.env := by
  obtain ⟨newer, added, arena⟩ := steps.arena
  rw [arena_entered, current_entered, Arena.modify, if_pos rfl, ← List.singleton_append,
    ← List.append_assoc] at arena
  have same : after.left.lineage = before.lineage := by
    rw [lineage, scopes_left steps, arena, Arena.lineage_append inRange]
    rfl
  obtain ⟨scope, around, found⟩ := inRange.lineage_eq
  rw [env, same, found, Env.behind, next_env, env, found]
  rfl

end Leave
end Checker

/-- The result of a step that counts the given number of outputs is the one that an outcome
describes. A step that fails still leaves a state whose current scope has been made. -/
def Refines {α : Type} (before : Checker) (outputs : Nat) :
    EStateM.Result Diagnostic Checker α → Except Diagnostic (α × Env) → Prop
  | .ok a after, .ok (b, env) => a = b ∧ before.Advances after outputs ∧ after.env = env
  | .error d after, .error e => d = e ∧ after.InRange
  | _, _ => False

/-- A step that looks at the state and does not change it. -/
def Reads {α : Type} (before : Checker) (step : Check α) (outcome : Except Diagnostic α) : Prop :=
  step before = match outcome with
    | .ok a => .ok a before
    | .error d => .error d before

namespace Reads
variable {α β : Type} {before : Checker}

theorem lift (outcome : Except Diagnostic α) : Reads before (liftM outcome) outcome := by
  cases outcome <;> rfl

theorem pure (a : α) : Reads before (Pure.pure a) (.ok a) := rfl

theorem throw (d : Diagnostic) : Reads (α := α) before (MonadExcept.throw d) (.error d) := rfl

theorem known {step : Check α} {a : α} {f : α → Check β} {outcome : Except Diagnostic β}
    (first : Reads before step (.ok a)) (next : Reads before (f a) outcome) :
    Reads before (step >>= f) outcome := by
  have ran : step before = .ok a before := first
  have same : (step >>= f) before = f a before := by
    change EStateM.bind step f before = _
    rw [EStateM.bind, ran]
  exact same.trans next

theorem bind {step : Check α} {outcome : Except Diagnostic α} {f : α → Check β}
    {g : α → Except Diagnostic β} (first : Reads before step outcome)
    (next : ∀ a, Reads before (f a) (g a)) : Reads before (step >>= f) (outcome >>= g) := by
  cases outcome with
  | ok a => exact first.known (next a)
  | error d =>
    have ran : step before = .error d before := first
    change EStateM.bind step f before = _
    rw [EStateM.bind, ran]
    rfl

end Reads

namespace Refines
variable {α β : Type} {before : Checker} {m n : Nat}

theorem pure (a : α) : Refines before 0 ((Pure.pure a : Check α) before) (.ok (a, before.env)) :=
  ⟨rfl, .refl _, rfl⟩

/-- What a step that fails has in common with its outcome. -/
theorem error {d : Diagnostic} {r : EStateM.Result Diagnostic Checker α}
    (failed : Refines before m r (.error d)) : ∃ after, r = .error d after ∧ after.InRange := by
  cases r with
  | ok a after => exact failed.elim
  | error e after => exact ⟨after, by rw [failed.1], failed.2⟩

theorem ok {b : α} {env : Env} {r : EStateM.Result Diagnostic Checker α}
    (succeeded : Refines before m r (.ok (b, env))) :
    ∃ after, r = .ok b after ∧ before.Advances after m ∧ after.env = env := by
  cases r with
  | ok a after => exact ⟨after, by rw [succeeded.1], succeeded.2⟩
  | error e after => exact succeeded.elim

/-- The outcome that a step which succeeds is compared with. -/
theorem outcome {a : α} {after : Checker} {outcome : Except Diagnostic (α × Env)}
    (refines : Refines before m (.ok a after) outcome) : outcome = .ok (a, after.env) := by
  cases outcome with
  | error d => exact refines.elim
  | ok result =>
    obtain ⟨rfl, _, same⟩ := refines
    rw [same]

/-- The outcome that a step which fails is compared with. -/
theorem outcome_error {d : Diagnostic} {after : Checker} {outcome : Except Diagnostic (α × Env)}
    (refines : Refines before m (.error d after) outcome) : outcome = .error d := by
  cases outcome with
  | error e => rw [refines.1]
  | ok result => exact refines.elim

theorem read (inRange : before.InRange) {step : Check α} {outcome : Except Diagnostic α}
    {f : α → Check β} {g : α → Except Diagnostic (β × Env)} (reads : Reads before step outcome)
    (next : ∀ a, Refines before n (f a before) (g a)) :
    Refines before n ((step >>= f) before) (outcome >>= g) := by
  change Refines before n (EStateM.bind step f before) _
  cases outcome with
  | ok a =>
    have ran : step before = .ok a before := reads
    rw [EStateM.bind, ran]
    exact next a
  | error d =>
    have ran : step before = .error d before := reads
    rw [EStateM.bind, ran]
    exact ⟨rfl, inRange⟩

theorem bind (inRange : before.InRange) {step : Check α}
    {outcome : Except Diagnostic (α × Env)} {f : α → Check β}
    {g : α × Env → Except Diagnostic (β × Env)} (first : Refines before m (step before) outcome)
    (next : ∀ a after, after.InRange → outcome = .ok (a, after.env) →
      Refines after n (f a after) (g (a, after.env))) :
    Refines before (m + n) ((step >>= f) before) (outcome >>= g) := by
  change Refines before (m + n) (EStateM.bind step f before) _
  cases outcome with
  | error d =>
    obtain ⟨after, ran, inRange'⟩ := first.error
    rw [EStateM.bind, ran]
    exact ⟨rfl, inRange'⟩
  | ok result =>
    obtain ⟨b, env⟩ := result
    obtain ⟨middle, ran, steps, rfl⟩ := first.ok
    rw [EStateM.bind, ran]
    change Refines before (m + n) (f b middle) (g (b, middle.env))
    have second := next b middle (steps.inRange inRange) rfl
    cases again : g (b, middle.env) with
    | error d =>
      rw [again] at second
      obtain ⟨after, ran', inRange'⟩ := second.error
      rw [ran']
      exact ⟨rfl, inRange'⟩
    | ok result =>
      rw [again] at second
      obtain ⟨c, env⟩ := result
      obtain ⟨after, ran', steps', rfl⟩ := second.ok
      rw [ran']
      exact ⟨rfl, steps.trans inRange steps', rfl⟩

/-- A name is bound to an entity that has just taken the next number. -/
theorem bindName (inRange : before.InRange) (name : String) (entity : Entity)
    (place : Option Position) (a : α) :
    Refines before 0
      ((do Check.bindName name entity place; return a : Check α)
        { before with nextId := before.nextId + 1 })
      (do return (a, ← before.env.bind name entity place)) := by
  have ran : Check.bindName name entity place { before with nextId := before.nextId + 1 } =
      match before.scopes.declare name entity place with
      | .ok extended => .ok () { before with scopes := extended, nextId := before.nextId + 1 }
      | .error d => .error d { before with nextId := before.nextId + 1 } := by
    change EStateM.bind (liftM (before.scopes.declare name entity place)) _ _ = _
    cases before.scopes.declare name entity place <;> rfl
  change Refines before 0 (EStateM.bind (Check.bindName name entity place) _ _) _
  rw [EStateM.bind, ran, before.declare_eq, Env.bind]
  cases before.env.top.lookup name with
  | some found => exact ⟨rfl, inRange⟩
  | none =>
    refine ⟨rfl, before.advances_bound name entity, ?_⟩
    rw [before.next_env]
    exact Checker.env_bound inRange name entity

theorem declareVariable (inRange : before.InRange) (name : String) (ty : Ty) (readOnly : Bool)
    (place : Option Position) :
    Refines before 0 (Check.declareVariable name ty readOnly place before)
      (before.env.declareVariable name ty readOnly place) := by
  rw [Env.declareVariable, before.next_env]
  exact bindName inRange name (.var ⟨before.nextId, name, ty, readOnly⟩) place _

theorem declareJob (inRange : before.InRange) (name : String) (params : List Ty) (returns : Ty)
    (place : Option Position) :
    Refines before 0 (Check.declareJob name params returns place before)
      (before.env.declareJob name params returns place) := by
  rw [Env.declareJob, before.next_env]
  exact bindName inRange name (.job ⟨before.nextId, name, params, returns⟩) place _

/-- A body that is checked in a new scope. -/
theorem inScope (inRange : before.InRange) {job : Option Job} {step : Check α}
    {body : Env → Except Diagnostic (α × Env)}
    (inside : Refines (before.entered job) n (step (before.entered job))
      (body (before.env.inner job))) :
    Refines before n (Check.inScope job step before) (before.env.within job body) := by
  change Refines before n (EStateM.bind step _ (before.entered job)) _
  rw [Env.within]
  cases outcome : body (before.env.inner job) with
  | error d =>
    rw [outcome] at inside
    obtain ⟨after, ran, inRange'⟩ := inside.error
    rw [EStateM.bind, ran]
    exact ⟨rfl, inRange'⟩
  | ok result =>
    rw [outcome] at inside
    obtain ⟨b, env⟩ := result
    obtain ⟨after, ran, steps, rfl⟩ := inside.ok
    rw [EStateM.bind, ran]
    exact ⟨rfl, Checker.advances_left steps, Checker.env_left inRange steps⟩

/-- The outputs of a body are counted apart, and the counts around it stay as they were. -/
theorem countingOutputs (inRange : before.InRange) {step : Check α}
    {outcome : Except Diagnostic (α × Env)} {f : α × Nat → Check β}
    {g : α × Env → Except Diagnostic (β × Env)}
    (inside : Refines { before with outputs := 0 :: before.outputs } m
      (step { before with outputs := 0 :: before.outputs }) outcome)
    (next : ∀ a after, after.InRange → Refines after n (f (a, m) after) (g (a, after.env))) :
    Refines before n ((Check.countingOutputs step >>= f) before) (outcome >>= g) := by
  have counted : Refines before 0 (Check.countingOutputs step before)
      (outcome.map fun p => ((p.1, m), p.2)) := by
    change Refines before 0 (EStateM.bind step _ { before with outputs := 0 :: before.outputs }) _
    cases outcome with
    | error d =>
      obtain ⟨after, ran, inRange'⟩ := inside.error
      rw [EStateM.bind, ran]
      exact ⟨rfl, inRange'⟩
    | ok result =>
      obtain ⟨b, env⟩ := result
      obtain ⟨after, ran, steps, rfl⟩ := inside.ok
      rw [EStateM.bind, ran]
      have counts : after.outputs = m :: before.outputs := by
        rw [steps.outputs, List.modifyHead_cons, Nat.zero_add]
      refine ⟨?_, ⟨steps.current, steps.arena, ?_⟩, rfl⟩
      · rw [counts]
        rfl
      · change after.outputs.tail = _
        rw [counts, Checker.modifyHead_add_zero]
        rfl
  have same : ((outcome.map fun p => ((p.1, m), p.2)) >>= fun p => g (p.1.1, p.2)) =
      outcome >>= g := by
    cases outcome <;> rfl
  rw [← same, ← Nat.zero_add n]
  refine bind inRange counted fun a after inRange' ok => ?_
  cases outcome with
  | error d => cases ok
  | ok result =>
    obtain ⟨b, env⟩ := result
    cases ok
    exact next b after inRange'

end Refines
end JobLang
