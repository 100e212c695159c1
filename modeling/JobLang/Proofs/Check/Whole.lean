import JobLang.Proofs.Check.Refinement

/-!
# Whole programs

A prelude puts the checker into the state whose environment the reference starts from. Checking a
program is therefore the same function as the reference.
-/
namespace JobLang

section Entries
variable {checker : Checker}

/-- A step of which only the effect is wanted. -/
theorem refines_discard {α : Type} {step : Check α} {outcome : Except Diagnostic (α × Env)}
    (first : Refines checker 0 (step checker) outcome) :
    Refines checker 0 ((discard step : Check Unit) checker)
      (outcome.map fun p => ((), p.2)) := by
  change Refines checker 0 (EStateM.map _ step checker) _
  cases outcome with
  | error d =>
    obtain ⟨after, ran, inRange⟩ := first.error
    rw [EStateM.map, ran]
    exact ⟨rfl, inRange⟩
  | ok result =>
    obtain ⟨after, ran, steps, same⟩ := first.ok
    rw [EStateM.map, ran]
    exact ⟨rfl, steps, same⟩

theorem refines_forM {α : Type} {declare : α → Check Unit}
    {outcome : Env → α → Except Diagnostic Env}
    (each : ∀ (a : α) (checker : Checker), checker.InRange →
      Refines checker 0 (declare a checker) ((outcome checker.env a).map fun env => ((), env)))
    (entries : List α) (inRange : checker.InRange) :
    Refines checker 0 ((entries.forM declare : Check Unit) checker)
      ((entries.foldlM outcome checker.env).map fun env => ((), env)) := by
  induction entries generalizing checker with
  | nil => exact .pure _
  | cons a rest ih =>
    have both := Refines.bind (n := 0) (f := fun _ => rest.forM declare)
      (g := fun p => (rest.foldlM outcome p.2).map fun env => ((), env))
      inRange (each a checker inRange) fun _ after inRange' _ => ih inRange'
    rw [List.foldlM_cons]
    cases declared : outcome checker.env a with
    | error d | ok env =>
      rw [declared] at both
      exact both

theorem refines_constants (constants : List (String × Ty)) (inRange : checker.InRange) :
    Refines checker 0
      ((constants.forM fun (name, ty) =>
        discard <| Check.declareVariable name ty true none : Check Unit) checker)
      ((constants.foldlM Reference.declareConstant checker.env).map fun env => ((), env)) := by
  refine refines_forM (fun constant checker inRange => ?_) constants inRange
  have declared := refines_discard
    (Refines.declareVariable inRange constant.1 constant.2 true none)
  rw [Reference.declareConstant]
  cases found : checker.env.declareVariable constant.1 constant.2 true none with
  | error d | ok result =>
    rw [found] at declared
    exact declared

theorem refines_jobs (jobs : List Builtin) (inRange : checker.InRange) :
    Refines checker 0
      ((jobs.forM fun job =>
        discard <| Check.declareJob job.name job.params job.returns none : Check Unit) checker)
      ((jobs.foldlM Reference.declareBuiltin checker.env).map fun env => ((), env)) := by
  refine refines_forM (fun job checker inRange => ?_) jobs inRange
  have declared := refines_discard
    (Refines.declareJob inRange job.name job.params job.returns none)
  rw [Reference.declareBuiltin]
  cases found : checker.env.declareJob job.name job.params job.returns none with
  | error d | ok result =>
    rw [found] at declared
    exact declared

end Entries

/-- A prelude is installed as the reference installs it, and at last the scope of the program is
entered. -/
theorem install_cases (prelude : Prelude) :
    (∃ checker, prelude.install Checker.initial = .ok () checker ∧ checker.InRange ∧
      Reference.ofPrelude prelude = .ok checker.env) ∨
    (∃ d after, prelude.install Checker.initial = .error d after ∧
      Reference.ofPrelude prelude = .error d) := by
  have start : Checker.initial.InRange := Nat.zero_lt_one
  have first := refines_constants prelude.constants start
  have blank : Checker.initial.env = ⟨[], [], none, 0⟩ := rfl
  rw [blank] at first
  simp only [Prelude.install, Reference.ofPrelude, bind, EStateM.bind, Except.bind]
  cases constants : prelude.constants.foldlM Reference.declareConstant ⟨[], [], none, 0⟩ with
  | error d =>
    rw [constants] at first
    obtain ⟨after, ran, _⟩ := first.error
    rw [ran]
    exact .inr ⟨d, after, rfl, rfl⟩
  | ok env =>
    rw [constants] at first
    obtain ⟨middle, ran, steps, rfl⟩ := first.ok
    have inRange := steps.inRange start
    have second := refines_jobs prelude.jobs inRange
    simp only [ran]
    cases jobs : prelude.jobs.foldlM Reference.declareBuiltin middle.env with
    | error d =>
      rw [jobs] at second
      obtain ⟨after, ran', _⟩ := second.error
      rw [ran']
      exact .inr ⟨d, after, rfl, rfl⟩
    | ok env =>
      rw [jobs] at second
      obtain ⟨last, ran', steps', rfl⟩ := second.ok
      rw [ran']
      refine .inl ⟨last.entered none, rfl, last.inRange_entered none, ?_⟩
      rw [Checker.env_entered (steps'.inRange inRange)]
      rfl

/-- The state of a program has the environment that the reference gives the program. -/
theorem ofPrelude_cases (prelude : Prelude) :
    (∃ checker, Checker.ofPrelude prelude = .ok checker ∧ checker.InRange ∧
      Reference.ofPrelude prelude = .ok checker.env) ∨
    (∃ d, Checker.ofPrelude prelude = .error d ∧ Reference.ofPrelude prelude = .error d) := by
  rw [Checker.ofPrelude, EStateM.run]
  rcases install_cases prelude with ⟨checker, ran, rest⟩ | ⟨d, after, ran, failed⟩
  · exact .inl ⟨checker, by rw [ran], rest⟩
  · exact .inr ⟨d, by rw [ran], failed⟩

/-- The state in which programs are checked, and its environment. -/
theorem start_of_ofPrelude {prelude : Prelude} {checker : Checker}
    (made : Checker.ofPrelude prelude = .ok checker) :
    checker.InRange ∧ Reference.ofPrelude prelude = .ok checker.env := by
  rcases ofPrelude_cases prelude with ⟨first, made', inRange, env⟩ | ⟨d, failed, _⟩
  · cases made.symm.trans made'
    exact ⟨inRange, env⟩
  · cases made.symm.trans failed

/-- Checking a program goes as the reference goes. -/
theorem check_cases (prelude : Prelude) (program : List Syntax.Stmt) :
    (∃ env checked after, Reference.ofPrelude prelude = .ok env ∧
      Reference.chunk env program = .ok (checked, after) ∧ check prelude program = .ok checked) ∨
    (∃ d, check prelude program = .error d ∧ Reference.check prelude program = .error d) := by
  rw [check, Reference.check]
  rcases ofPrelude_cases prelude with ⟨checker, made, inRange, env⟩ | ⟨d, failed, failed'⟩
  · have refines := refines_checkAll program inRange
    rw [made, env]
    simp only [bind, Except.bind, EStateM.run]
    cases outcome : Reference.chunk checker.env program with
    | error d =>
      rw [outcome] at refines
      obtain ⟨after, ran, _⟩ := refines.error
      exact .inr ⟨d, by rw [ran], rfl⟩
    | ok result =>
      obtain ⟨checked, last⟩ := result
      rw [outcome] at refines
      obtain ⟨after, ran, _⟩ := refines.ok
      exact .inl ⟨checker.env, checked, last, rfl, outcome, by rw [ran]⟩
  · rw [failed, failed']
    exact .inr ⟨d, rfl, rfl⟩

/-- What acceptance of a program means in terms of the reference. -/
theorem reference_of_check {prelude : Prelude} {program : List Syntax.Stmt}
    {checked : List Typed.Stmt} (accepted : check prelude program = .ok checked) :
    ∃ env after, Reference.ofPrelude prelude = .ok env ∧
      Reference.chunk env program = .ok (checked, after) := by
  rcases check_cases prelude program with ⟨env, tree, after, made, ran, same⟩ | ⟨d, failed, _⟩
  · cases accepted.symm.trans same
    exact ⟨env, after, made, ran⟩
  · cases accepted.symm.trans failed

/-- Checking a program is the reference: the same tree comes back, or the same diagnostic. -/
theorem check_eq_reference (prelude : Prelude) (program : List Syntax.Stmt) :
    check prelude program = Reference.check prelude program := by
  rcases check_cases prelude program with ⟨env, tree, after, made, ran, same⟩ | ⟨d, failed, failed'⟩
  · rw [same, Reference.check, made]
    simp only [bind, Except.bind, ran]
    rfl
  · exact failed.trans failed'.symm

end JobLang
