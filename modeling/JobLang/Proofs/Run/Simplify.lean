import JobLang.Check.Program
import JobLang.Proofs.Run.Operations

/-!
# Simplified programs run the same

A simplified program prints what the program prints and leaves its variables with the same values,
in every run of the program that does only operations that simplification keeps the result of. The
simplified run follows the run step by step, in a world whose jobs have simplified bodies.
-/
namespace JobLang.Run

open Typed (Expr Stmt)

/-- The world of the simplified run. -/
def World.simplified (world : World) : World :=
  { world with
    jobs := fun id => (world.jobs id).map fun (params, body) => (params, Stmt.simplifyAll body) }

section Steps

theorem follows_modify {change change' : World → World}
    (same : ∀ world, (change world).simplified = change' world.simplified) :
    Follows World.simplified (modify change : Exec Unit) (modify change') := by
  intro world a after ran
  cases ran
  exact congrArg (fun world => some ((), world)) (same world).symm

theorem follows_lookup (id : Nat) : Follows World.simplified (lookup id) (lookup id) := by
  intro world a after ran
  obtain ⟨found, rfl⟩ := lookup_eq_some.mp ran
  exact lookup_eq_some.mpr ⟨found, rfl⟩

theorem follows_assign (id : Nat) (value : Value) :
    Follows World.simplified (assign id value) (assign id value) :=
  follows_modify fun _ => rfl

theorem follows_emit (value : Value) : Follows World.simplified (emit value) (emit value) :=
  follows_modify fun _ => rfl

theorem follows_define (id : Nat) (params : List Variable) (body : List Stmt) :
    Follows World.simplified (define id params body)
      (define id params (Stmt.simplifyAll body)) := by
  refine follows_modify fun world => ?_
  rw [World.simplified, World.simplified, World.mk.injEq]
  refine ⟨rfl, funext fun other => ?_, rfl⟩
  by_cases here : other = id
  · simp only [if_pos here, Option.map_some]
  · simp only [if_neg here]

theorem follows_assignAll (params : List Variable) (values : List Value) :
    Follows World.simplified (assignAll params values) (assignAll params values) := by
  induction params generalizing values with
  | nil =>
    cases values with
    | nil => exact .pure ()
    | cons value values => exact .failure _
  | cons param params ih =>
    cases values with
    | nil => exact .failure _
    | cons value values => exact (follows_assign param.id value).bind fun _ => ih values

end Steps

section Expressions
variable {invoke invoke' : Invoke}

mutual

theorem follows_eval (calls : ∀ j args, Follows World.simplified (invoke j args) (invoke' j args)) :
    ∀ e : Expr, Follows World.simplified (eval .harmless invoke e) (eval .none invoke' e.simplify)
  | .lit value note => by
      rw [Expr.simplify, eval, eval]
      exact .pure _
  | .var v note => by
      rw [Expr.simplify, eval, eval]
      exact (follows_lookup v.id).bind fun a => .pure _
  | .binary op left right note => by
      rw [Expr.simplify, eval]
      intro world result after ran
      obtain ⟨a, middle, first, ran⟩ := bind_eq_some.mp ran
      obtain ⟨b, last, second, ran⟩ := bind_eq_some.mp ran
      obtain ⟨v, final, operated, same⟩ := bind_eq_some.mp ran
      obtain ⟨rfl, rfl⟩ := return_eq_some.mp same
      rw [operate] at operated
      split at operated
      · rename_i harmless
        obtain ⟨applied, rfl⟩ := lift_eq_some.mp operated
        have simplified : Operated invoke' op left.simplify right.simplify world.simplified
            middle.simplified last.simplified a b v :=
          ⟨(follows_eval calls left).valueOf _ _ _ first,
            (follows_eval calls right).valueOf _ _ _ second, applied⟩
        exact value_eq_some.mp (simplified.simplifyBinary harmless note)
      · cases operated
  | .unary op operand note => by
      rw [Expr.simplify, eval]
      intro world result after ran
      obtain ⟨a, middle, first, ran⟩ := bind_eq_some.mp ran
      obtain ⟨v, final, operated, same⟩ := bind_eq_some.mp ran
      obtain ⟨rfl, rfl⟩ := return_eq_some.mp same
      obtain ⟨applied, rfl⟩ := lift_eq_some.mp operated
      have inner := (follows_eval calls operand).valueOf _ _ _ first
      exact value_eq_some.mp (value_simplifyUnary inner applied note)
  | .call callee args note => by
      rw [Expr.simplify, eval, eval]
      exact (follows_evalAll calls args).bind fun values => calls callee values

theorem follows_evalAll
    (calls : ∀ j args, Follows World.simplified (invoke j args) (invoke' j args)) :
    ∀ es : List Expr, Follows World.simplified (evalAll .harmless invoke es)
      (evalAll .none invoke' (Expr.simplifyAll es))
  | [] => by
      rw [Expr.simplifyAll, evalAll, evalAll]
      exact .pure _
  | e :: rest => by
      rw [Expr.simplifyAll, evalAll, evalAll]
      refine (follows_eval calls e).valueOf.bind fun a => ?_
      exact (follows_evalAll calls rest).bind fun values => .pure _

end

end Expressions

theorem andThen_assoc (first second third : Exec Flow) :
    andThen (andThen first second) third = andThen first (andThen second third) := by
  rw [andThen, andThen, bind_assoc]
  refine congrArg (first >>= ·) (funext fun flow => ?_)
  cases flow <;> rfl

section Chunks
variable {machine : Machine} {watch : Watch} {invoke : Invoke} {fuel : Nat}

theorem execAll_append (first second : List Stmt) :
    execAll machine watch invoke fuel (first ++ second) =
      andThen (execAll machine watch invoke fuel first)
        (execAll machine watch invoke fuel second) := by
  induction first with
  | nil =>
    rw [List.nil_append, execAll]
    rfl
  | cons s rest ih => rw [List.cons_append, execAll, execAll, ih, andThen_assoc]

/-- A statement is a chunk of its own. -/
theorem Follows.singleton {relate : World → World} {first : Exec Flow} {s : Stmt}
    (follows : Follows relate first (exec machine watch invoke fuel s)) :
    Follows relate first (execAll machine watch invoke fuel [s]) := by
  intro world flow after ran
  rw [execAll, execAll]
  refine bind_eq_some.mpr ⟨flow, relate after, follows _ _ _ ran, ?_⟩
  cases flow <;> rfl

/-- A step whose result is known, and that changes nothing, can be left out. -/
theorem Follows.skip {α β : Type} {relate : World → World} {first : Exec α} {c : α}
    (known : ∀ world a after, first world = some (a, after) → a = c ∧ relate world = relate after)
    {next : α → Exec β} {second : Exec β} (rest : Follows relate (next c) second) :
    Follows relate (first >>= next) second := by
  intro world b after ran
  obtain ⟨a, middle, ran, ran'⟩ := bind_eq_some.mp ran
  obtain ⟨rfl, same⟩ := known _ _ _ ran
  rw [same]
  exact rest _ _ _ ran'

end Chunks

section Known
variable {invoke invoke' : Invoke}
  (calls : ∀ j args, Follows World.simplified (invoke j args) (invoke' j args))
include calls

theorem known_value {e : Expr} {c : Value} (literal : e.simplify.value? = some c) (world : World)
    (a : Value) (after : World) (ran : value .harmless invoke e world = some (a, after)) :
    a = c ∧ world.simplified = after.simplified :=
  value_literal literal ((follows_eval calls e).valueOf _ _ _ ran)

theorem known_number {e : Expr} {c : Float} (literal : e.simplify.value? = some (.num c))
    (world : World) (a : Float) (after : World)
    (ran : number .harmless invoke e world = some (a, after)) :
    a = c ∧ world.simplified = after.simplified := by
  obtain ⟨found, middle, ran, read⟩ := bind_eq_some.mp ran
  obtain ⟨rfl, same⟩ := known_value calls literal _ _ _ ran
  obtain ⟨rfl, rfl⟩ := return_eq_some.mp read
  exact ⟨rfl, same⟩

theorem known_truth {e : Expr} {c : Bool} (literal : e.simplify.value? = some (.baal c))
    (world : World) (a : Bool) (after : World)
    (ran : truth .harmless invoke e world = some (a, after)) :
    a = c ∧ world.simplified = after.simplified := by
  obtain ⟨found, middle, ran, read⟩ := bind_eq_some.mp ran
  obtain ⟨rfl, same⟩ := known_value calls literal _ _ _ ran
  obtain ⟨rfl, rfl⟩ := return_eq_some.mp read
  exact ⟨rfl, same⟩

end Known

/-- A variable that gets the value it has stays as it is. -/
theorem assign_same {world after : World} {id : Nat} {a : Value} {u : Unit}
    (found : world.store id = some a) (ran : assign id a world = some (u, after)) :
    after = world := by
  have same : (fun other => if other = id then some a else world.store other) = world.store := by
    funext other
    by_cases here : other = id
    · rw [if_pos here, here, found]
    · rw [if_neg here]
  cases ran
  exact congrArg (fun store => { world with store := store }) same

section Statements
variable {machine : Machine} {invoke invoke' : Invoke} {fuel : Nat}

theorem follows_selfAssignment
    (calls : ∀ j args, Follows World.simplified (invoke j args) (invoke' j args))
    {target : Variable} {source : Expr}
    (self : Stmt.isSelfAssignment target source.simplify = true) :
    Follows World.simplified (exec machine .harmless invoke fuel (.assign target source))
      (execAll machine .none invoke' fuel []) := by
  obtain ⟨v, note, form, same⟩ := Stmt.eq_var_of_isSelfAssignment self
  intro world flow after ran
  rw [exec] at ran
  obtain ⟨a, middle, evaluated, ran⟩ := bind_eq_some.mp ran
  obtain ⟨u, last, assigned, ended⟩ := bind_eq_some.mp ran
  obtain ⟨rfl, rfl⟩ := return_eq_some.mp ended
  have read := value_eq_some.mp ((follows_eval calls source).valueOf _ _ _ evaluated)
  rw [form, eval, same] at read
  obtain ⟨found, kept, looked, returned⟩ := bind_eq_some.mp read
  obtain ⟨held, unchanged⟩ := lookup_eq_some.mp looked
  obtain ⟨value, rfl⟩ := return_eq_some.mp returned
  cases value
  have holds : middle.store target.id = some a := by
    rw [unchanged] at held
    exact held
  rw [execAll, assign_same holds assigned, unchanged]
  rfl

mutual

theorem follows_exec (calls : ∀ j args, Follows World.simplified (invoke j args) (invoke' j args)) :
    ∀ s : Stmt, Follows World.simplified (exec machine .harmless invoke fuel s)
      (execAll machine .none invoke' fuel s.simplify)
  | .declare v init => by
      rw [Stmt.simplify]
      refine .singleton ?_
      rw [exec, exec]
      refine (follows_eval calls init).valueOf.bind fun a => ?_
      exact (follows_assign v.id a).bind fun _ => .pure _
  | .job j params body => by
      rw [Stmt.simplify]
      refine .singleton ?_
      rw [exec, exec]
      exact (follows_define j.id params body).bind fun _ => .pure _
  | .assign target source => by
      rw [Stmt.simplify]
      by_cases self : Stmt.isSelfAssignment target source.simplify = true
      · rw [if_pos self]
        exact follows_selfAssignment calls self
      · rw [if_neg self]
        refine .singleton ?_
        rw [exec, exec]
        refine (follows_eval calls source).valueOf.bind fun a => ?_
        exact (follows_assign target.id a).bind fun _ => .pure _
  | .print e => by
      rw [Stmt.simplify]
      refine .singleton ?_
      rw [exec, exec]
      refine (follows_eval calls e).valueOf.bind fun a => ?_
      exact (follows_emit a).bind fun _ => .pure _
  | .output e => by
      rw [Stmt.simplify]
      refine .singleton ?_
      rw [exec, exec]
      exact (follows_eval calls e).bind fun result => .pure _
  | .ifThen test body => by
      rw [Stmt.simplify, exec]
      cases verdict : Stmt.verdict? test.simplify with
      | none =>
        refine .singleton ?_
        rw [exec]
        refine (follows_eval calls test).valueOf.truthOf.bind fun holds => ?_
        exact .ite (follows_execAll calls body) (.pure _)
      | some holds =>
        refine .skip (known_truth calls (Stmt.value?_of_verdict? verdict)) ?_
        cases holds with
        | true => exact follows_execAll calls body
        | false => exact .pure _
  | .ifElse test body alternative => by
      rw [Stmt.simplify, exec]
      cases verdict : Stmt.verdict? test.simplify with
      | none =>
        refine .singleton ?_
        rw [exec]
        refine (follows_eval calls test).valueOf.truthOf.bind fun holds => ?_
        exact .ite (follows_execAll calls body) (follows_execAll calls alternative)
      | some holds =>
        refine .skip (known_truth calls (Stmt.value?_of_verdict? verdict)) ?_
        cases holds with
        | true => exact follows_execAll calls body
        | false => exact follows_execAll calls alternative
  | .whileLoop test body => by
      rw [Stmt.simplify, exec]
      by_cases never : test.simplify.isBaal false = true
      · rw [if_pos never]
        cases fuel with
        | zero => exact .failure _
        | succ fuel =>
          rw [whileLoop]
          exact .skip (known_truth calls (Expr.value?_of_isBaal never)) (.pure _)
      · rw [if_neg never]
        refine .singleton ?_
        rw [exec]
        exact .whileLoop (follows_eval calls test).valueOf.truthOf (follows_execAll calls body)
          (Nat.le_refl fuel)
  | .repeatLoop count body => by
      rw [Stmt.simplify, exec]
      by_cases never : count.simplify.isNum 0 = true
      · rw [if_pos never]
        obtain ⟨z, literal, zero⟩ := Expr.value?_of_isNum never
        refine .skip (known_number calls literal) ?_
        rw [machine.rounds_zero zero]
        exact .pure _
      · rw [if_neg never]
        refine .singleton ?_
        rw [exec]
        refine (follows_eval calls count).valueOf.numberOf.bind fun x => ?_
        exact .bind (.lift _) fun n => .repeatLoop (follows_execAll calls body) n
  | .coil counter low high body => by
      rw [Stmt.simplify, exec]
      by_cases never : Stmt.isEmptyRange low.simplify high.simplify = true
      · rw [if_pos never]
        obtain ⟨x, y, lower, upper, below⟩ := Stmt.value?_of_isEmptyRange never
        refine .skip (known_number calls lower) (.skip (known_number calls upper) ?_)
        cases fuel with
        | zero => exact .failure _
        | succ fuel =>
          rw [coil, if_pos below]
          exact .pure _
      · rw [if_neg never]
        refine .singleton ?_
        rw [exec]
        refine (follows_eval calls low).valueOf.numberOf.bind fun x => ?_
        refine (follows_eval calls high).valueOf.numberOf.bind fun y => ?_
        refine .coil y (fun x => ?_) (Nat.le_refl fuel) x
        exact (follows_assign counter.id (.num x)).bind fun _ => follows_execAll calls body
  | .increment target => by
      rw [Stmt.simplify]
      refine .singleton ?_
      rw [exec, exec]
      refine (follows_lookup target.id).numberOf.bind fun x => ?_
      exact (follows_assign target.id _).bind fun _ => .pure _
  | .decrement target => by
      rw [Stmt.simplify]
      refine .singleton ?_
      rw [exec, exec]
      refine (follows_lookup target.id).numberOf.bind fun x => ?_
      exact (follows_assign target.id _).bind fun _ => .pure _
  | .call callee args => by
      rw [Stmt.simplify]
      refine .singleton ?_
      rw [exec, exec]
      refine (follows_evalAll calls args).bind fun values => ?_
      exact (calls callee values).bind fun _ => .pure _

theorem follows_execAll
    (calls : ∀ j args, Follows World.simplified (invoke j args) (invoke' j args)) :
    ∀ chunk : List Stmt, Follows World.simplified (execAll machine .harmless invoke fuel chunk)
      (execAll machine .none invoke' fuel (Stmt.simplifyAll chunk))
  | [] => by
      rw [Stmt.simplifyAll, execAll, execAll]
      exact .pure _
  | s :: rest => by
      rw [Stmt.simplifyAll, execAll, execAll_append]
      exact (follows_exec calls s).andThen (follows_execAll calls rest)

end

end Statements

theorem follows_perform (machine : Machine) (fuel : Nat) (j : Job) (args : List Value) :
    Follows World.simplified (perform machine .harmless fuel j args)
      (perform machine .none fuel j args) := by
  induction fuel generalizing j args with
  | zero => exact .failure _
  | succ fuel ih =>
    rw [perform, perform]
    refine .get fun world => ?_
    have body : world.simplified.jobs j.id =
        (world.jobs j.id).map fun (params, body) => (params, Stmt.simplifyAll body) := rfl
    rw [body]
    cases world.jobs j.id with
    | none => exact .lift _
    | some defined =>
      obtain ⟨params, body⟩ := defined
      refine (follows_assignAll params args).bind fun _ => ?_
      refine (follows_execAll ih body).bind fun flow => ?_
      cases flow <;> exact .pure _

theorem follows_run (machine : Machine) (fuel : Nat) (program : List Stmt) :
    Follows World.simplified (run machine .harmless fuel program)
      (run machine .none fuel (Stmt.simplifyAll program)) :=
  follows_execAll (follows_perform machine fuel) program

/-- A run of an accepted program that does nothing but harmless operations comes to the same end as
the run of the compiled program, which does anything: the same values have been printed, and the
variables have the same values. -/
theorem ends_of_compile {prelude : Prelude} {program : List Syntax.Stmt} {checked : List Stmt}
    (accepted : check prelude program = .ok checked) {machine : Machine}
    {store : Nat → Option Value} {flow : Flow} {after : World}
    (ends : Ends machine .harmless checked store flow after) :
    Ends machine .none checked store flow after ∧
    ∃ optimized after', compile prelude program = .ok optimized ∧
      Ends machine .none optimized store flow after' ∧
      after'.printed = after.printed ∧ after'.store = after.store := by
  refine ⟨ends.unwatched, Stmt.simplifyAll checked, after.simplified, ?_, ?_, rfl, rfl⟩
  · rw [compile, accepted]
    rfl
  · obtain ⟨fuel, ran⟩ := ends
    exact ⟨fuel, follows_run machine fuel checked _ _ _ ran⟩

/-- A machine without jobs of its own, whose repetitions make one round or none. -/
def idle : Machine where
  builtin _ _ := none
  rounds x := if x == 0 then some 0 else some 1
  rounds_zero zero := by rw [if_pos zero]

def word (lexeme : String) : Token := ⟨.id, lexeme, none⟩

def truthLiteral (lexeme : String) : Syntax.Expr := .leaf ⟨.baal, lexeme, none⟩

/-- A call of a job, followed by statements that simplification removes or opens. -/
def callProgram : List Syntax.Stmt :=
  [.job (word "baal") (word "f") [⟨word "baal", word "x"⟩]
      [.output (.binary ⟨.sym, "and", none⟩ (.leaf (word "x")) (truthLiteral "true"))],
    .declare (word "baal") (word "y") (.call (word "f") [truthLiteral "true"]),
    .assign (word "y") (.leaf (word "y")),
    .whileLoop (truthLiteral "false") [.print (.leaf (word "y"))],
    .ifThen (truthLiteral "true") [.print (.leaf (word "y"))]]

theorem ends_of_callProgram : ∃ optimized after, compile .empty callProgram = .ok optimized ∧
    Ends idle .none optimized (fun _ => none) .next after ∧ after.printed = [.baal true] := by
  have accepted : check .empty callProgram = .ok _ := rfl
  obtain ⟨_, optimized, after, compiled, ends, printed, _⟩ :=
    @ends_of_compile _ _ _ accepted idle (fun _ => none) .next _ ⟨2, rfl⟩
  exact ⟨optimized, after, compiled, ends, printed⟩

end JobLang.Run
