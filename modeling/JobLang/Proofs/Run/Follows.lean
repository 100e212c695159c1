import JobLang.Proofs.Run.Semantics

/-!
# Steps that follow one another

One step follows another if it has the same results, wherever the other has one, between worlds
that are related by a function. This passes through sequencing and through loops. As a first use,
a run that has a result has the same one with more fuel and with a watch that lets more pass.
-/
namespace JobLang.Run

open Typed (Expr Stmt)

/-- Whatever the first step results in, the second does between the related worlds. -/
def Follows {α : Type} (relate : World → World) (first second : Exec α) : Prop :=
  ∀ world a after, first world = some (a, after) → second (relate world) = some (a, relate after)

theorem bind_eq_some {α β : Type} {step : Exec α} {next : α → Exec β} {world after : World}
    {b : β} :
    (step >>= next) world = some (b, after) ↔
      ∃ a middle, step world = some (a, middle) ∧ next a middle = some (b, after) := by
  change (step world).bind (fun p => next p.1 p.2) = _ ↔ _
  rw [Option.bind_eq_some_iff, Prod.exists]

theorem return_eq_some {α : Type} {a b : α} {world after : World} :
    (pure a : Exec α) world = some (b, after) ↔ a = b ∧ world = after := by
  change some (a, world) = _ ↔ _
  rw [Option.some.injEq, Prod.mk.injEq]

theorem lift_eq_some {α : Type} {found : Option α} {a : α} {world after : World} :
    (liftM found : Exec α) world = some (a, after) ↔ found = some a ∧ world = after := by
  change (found.bind fun a => some (a, world)) = _ ↔ _
  cases found <;> simp

theorem lookup_eq_some {id : Nat} {a : Value} {world after : World} :
    lookup id world = some (a, after) ↔ world.store id = some a ∧ world = after :=
  lift_eq_some

namespace Follows
variable {α β : Type} {relate : World → World} {first second : Exec α}

theorem refl (step : Exec α) : Follows id step step := fun _ _ _ ran => ran

theorem pure (a : α) : Follows relate (Pure.pure a : Exec α) (Pure.pure a) := by
  intro world b after ran
  obtain ⟨rfl, rfl⟩ := return_eq_some.mp ran
  rfl

theorem failure (second : Exec α) : Follows relate failure second := by
  intro world a after ran
  cases ran

theorem lift (found : Option α) : Follows relate (liftM found : Exec α) (liftM found) := by
  intro world a after ran
  obtain ⟨rfl, rfl⟩ := lift_eq_some.mp ran
  rfl

theorem bind (follows : Follows relate first second) {next next' : α → Exec β}
    (rest : ∀ a, Follows relate (next a) (next' a)) :
    Follows relate (first >>= next) (second >>= next') := by
  intro world b after ran
  obtain ⟨a, middle, ran, ran'⟩ := bind_eq_some.mp ran
  exact bind_eq_some.mpr ⟨a, relate middle, follows _ _ _ ran, rest a _ _ _ ran'⟩

theorem get {next next' : World → Exec α}
    (rest : ∀ world, Follows relate (next world) (next' (relate world))) :
    Follows relate (MonadState.get >>= next) (MonadState.get >>= next') :=
  fun world a after ran => rest world world a after ran

theorem ite {test : Prop} [Decidable test] {first' second' : Exec α}
    (yes : Follows relate first second) (no : Follows relate first' second') :
    Follows relate (if test then first else first') (if test then second else second') := by
  by_cases holds : test
  · rw [if_pos holds, if_pos holds]
    exact yes
  · rw [if_neg holds, if_neg holds]
    exact no

theorem valueOf {first second : Exec (Option Value)} (follows : Follows relate first second) :
    Follows relate (Run.valueOf first) (Run.valueOf second) :=
  follows.bind fun found => lift found

theorem numberOf {first second : Exec Value} (follows : Follows relate first second) :
    Follows relate (Run.numberOf first) (Run.numberOf second) := by
  refine follows.bind fun found => ?_
  cases found with
  | num x => exact pure x
  | baal | quote => exact failure _

theorem truthOf {first second : Exec Value} (follows : Follows relate first second) :
    Follows relate (Run.truthOf first) (Run.truthOf second) := by
  refine follows.bind fun found => ?_
  cases found with
  | baal b => exact pure b
  | num | quote => exact failure _

section Loops
variable {first second first' second' : Exec Flow}

theorem andThen (follows : Follows relate first second) (rest : Follows relate first' second') :
    Follows relate (Run.andThen first first') (Run.andThen second second') := by
  refine follows.bind fun flow => ?_
  cases flow with
  | next => exact rest
  | output result => exact pure _

theorem whileLoop {test test' : Exec Bool} (tested : Follows relate test test')
    (body : Follows relate first second) {fuel fuel' : Nat} (enough : fuel ≤ fuel') :
    Follows relate (Run.whileLoop test first fuel) (Run.whileLoop test' second fuel') := by
  induction fuel generalizing fuel' with
  | zero => exact failure _
  | succ fuel ih =>
    obtain ⟨more, rfl⟩ := Nat.exists_eq_add_of_lt enough
    refine tested.bind fun holds => ite (body.andThen (ih ?_)) (pure _)
    omega

theorem repeatLoop (body : Follows relate first second) (n : Nat) :
    Follows relate (Run.repeatLoop first n) (Run.repeatLoop second n) := by
  induction n with
  | zero => exact pure _
  | succ n ih => exact body.andThen ih

theorem coil (high : Float) {body body' : Float → Exec Flow}
    (each : ∀ x, Follows relate (body x) (body' x)) {fuel fuel' : Nat} (enough : fuel ≤ fuel')
    (x : Float) : Follows relate (Run.coil high body fuel x) (Run.coil high body' fuel' x) := by
  induction fuel generalizing fuel' x with
  | zero => exact failure _
  | succ fuel ih =>
    obtain ⟨more, rfl⟩ := Nat.exists_eq_add_of_lt enough
    exact ite (pure _) ((each x).andThen (ih (by omega) _))

end Loops
end Follows

section More
variable {watch watch' : Watch} {invoke invoke' : Invoke}

/-- The second watch lets everything pass that the first does. -/
def Watch.Weaker (watch watch' : Watch) : Prop :=
  ∀ op left right a b, watch op left right a b = true → watch' op left right a b = true

theorem more_operate (weaker : watch.Weaker watch') (op : BinaryOp) (left right : Expr)
    (a b : Value) : Follows id (operate watch op left right a b)
      (operate watch' op left right a b) := by
  rw [operate, operate]
  by_cases passes : watch op left right a b = true
  · rw [if_pos passes, if_pos (weaker _ _ _ _ _ passes)]
    exact .refl _
  · rw [if_neg passes]
    exact .failure _

mutual

theorem more_eval (weaker : watch.Weaker watch')
    (calls : ∀ j args, Follows id (invoke j args) (invoke' j args)) :
    ∀ e : Expr, Follows id (eval watch invoke e) (eval watch' invoke' e)
  | .lit value note => by
      rw [eval, eval]
      exact .refl _
  | .var v note => by
      rw [eval, eval]
      exact .refl _
  | .binary op left right note => by
      rw [eval, eval]
      refine (more_eval weaker calls left).valueOf.bind fun a => ?_
      refine (more_eval weaker calls right).valueOf.bind fun b => ?_
      exact (more_operate weaker op left right a b).bind fun v => .pure _
  | .unary op operand note => by
      rw [eval, eval]
      exact (more_eval weaker calls operand).valueOf.bind fun a => .refl _
  | .call callee args note => by
      rw [eval, eval]
      exact (more_evalAll weaker calls args).bind fun values => calls callee values

theorem more_evalAll (weaker : watch.Weaker watch')
    (calls : ∀ j args, Follows id (invoke j args) (invoke' j args)) :
    ∀ es : List Expr, Follows id (evalAll watch invoke es) (evalAll watch' invoke' es)
  | [] => by
      rw [evalAll, evalAll]
      exact .refl _
  | e :: rest => by
      rw [evalAll, evalAll]
      refine (more_eval weaker calls e).valueOf.bind fun a => ?_
      exact (more_evalAll weaker calls rest).bind fun values => .pure _

end

section Statements
variable {machine : Machine} {fuel fuel' : Nat}

mutual

theorem more_exec (weaker : watch.Weaker watch') (enough : fuel ≤ fuel')
    (calls : ∀ j args, Follows id (invoke j args) (invoke' j args)) :
    ∀ s : Stmt, Follows id (exec machine watch invoke fuel s) (exec machine watch' invoke' fuel' s)
  | .declare v init => by
      rw [exec, exec]
      exact (more_eval weaker calls init).valueOf.bind fun a => .refl _
  | .job j params body => by
      rw [exec, exec]
      exact .refl _
  | .assign target source => by
      rw [exec, exec]
      exact (more_eval weaker calls source).valueOf.bind fun a => .refl _
  | .print e => by
      rw [exec, exec]
      exact (more_eval weaker calls e).valueOf.bind fun a => .refl _
  | .output e => by
      rw [exec, exec]
      exact (more_eval weaker calls e).bind fun result => .refl _
  | .ifThen test body => by
      rw [exec, exec]
      refine (more_eval weaker calls test).valueOf.truthOf.bind fun holds => ?_
      exact .ite (more_execAll weaker enough calls body) (.refl _)
  | .ifElse test body alternative => by
      rw [exec, exec]
      refine (more_eval weaker calls test).valueOf.truthOf.bind fun holds => ?_
      exact .ite (more_execAll weaker enough calls body)
        (more_execAll weaker enough calls alternative)
  | .whileLoop test body => by
      rw [exec, exec]
      exact .whileLoop (more_eval weaker calls test).valueOf.truthOf
        (more_execAll weaker enough calls body) enough
  | .repeatLoop count body => by
      rw [exec, exec]
      refine (more_eval weaker calls count).valueOf.numberOf.bind fun x => ?_
      exact .bind (.refl _) fun n => .repeatLoop (more_execAll weaker enough calls body) n
  | .coil counter low high body => by
      rw [exec, exec]
      refine (more_eval weaker calls low).valueOf.numberOf.bind fun x => ?_
      refine (more_eval weaker calls high).valueOf.numberOf.bind fun y => ?_
      exact .coil y (fun x => .bind (.refl _) fun _ => more_execAll weaker enough calls body)
        enough x
  | .increment target => by
      rw [exec, exec]
      exact .refl _
  | .decrement target => by
      rw [exec, exec]
      exact .refl _
  | .call callee args => by
      rw [exec, exec]
      refine (more_evalAll weaker calls args).bind fun values => ?_
      exact (calls callee values).bind fun _ => .refl _

theorem more_execAll (weaker : watch.Weaker watch') (enough : fuel ≤ fuel')
    (calls : ∀ j args, Follows id (invoke j args) (invoke' j args)) :
    ∀ chunk : List Stmt,
      Follows id (execAll machine watch invoke fuel chunk)
        (execAll machine watch' invoke' fuel' chunk)
  | [] => by
      rw [execAll, execAll]
      exact .refl _
  | s :: rest => by
      rw [execAll, execAll]
      exact (more_exec weaker enough calls s).andThen (more_execAll weaker enough calls rest)

end

end Statements

theorem more_perform {machine : Machine} (weaker : watch.Weaker watch') {fuel fuel' : Nat}
    (enough : fuel ≤ fuel') (j : Job) (args : List Value) :
    Follows id (perform machine watch fuel j args) (perform machine watch' fuel' j args) := by
  induction fuel generalizing fuel' j args with
  | zero => exact .failure _
  | succ fuel ih =>
    obtain ⟨more, rfl⟩ := Nat.exists_eq_add_of_lt enough
    refine .bind (.refl _) fun world => ?_
    cases world.jobs j.id with
    | none => exact .refl _
    | some defined =>
      obtain ⟨params, body⟩ := defined
      have again : fuel ≤ fuel + more := by omega
      refine .bind (.refl _) fun _ => ?_
      refine (more_execAll weaker again (fun j args => ih again j args) body).bind fun flow => ?_
      exact .refl _

theorem more_run {machine : Machine} (weaker : watch.Weaker watch') {fuel fuel' : Nat}
    (enough : fuel ≤ fuel') (program : List Stmt) :
    Follows id (run machine watch fuel program) (run machine watch' fuel' program) :=
  more_execAll weaker enough (more_perform weaker enough) program

end More

namespace Ends
variable {machine : Machine} {watch : Watch} {program : List Stmt} {store : Nat → Option Value}
  {flow flow' : Flow} {after after' : World}

/-- A watched run that comes to its end does so unwatched. -/
theorem unwatched (ends : Ends machine watch program store flow after) :
    Ends machine .none program store flow after := by
  obtain ⟨fuel, ran⟩ := ends
  exact ⟨fuel, more_run (fun _ _ _ _ _ _ => rfl) (Nat.le_refl fuel) program _ _ _ ran⟩

/-- A program has one end at most. -/
theorem unique (ends : Ends machine watch program store flow after)
    (ends' : Ends machine watch program store flow' after') : flow = flow' ∧ after = after' := by
  obtain ⟨fuel, ran⟩ := ends
  obtain ⟨fuel', ran'⟩ := ends'
  have weaker : watch.Weaker watch := fun _ _ _ _ _ passes => passes
  have first := more_run weaker (Nat.le_max_left fuel fuel') program _ _ _ ran
  have second := more_run weaker (Nat.le_max_right fuel fuel') program _ _ _ ran'
  have same := Option.some.inj (first.symm.trans second)
  exact ⟨congrArg Prod.fst same, congrArg Prod.snd same⟩

end Ends
end JobLang.Run
