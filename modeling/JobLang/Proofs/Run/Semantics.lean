import JobLang.Typed

/-!
# Runs of checked programs

What a checked program does: it changes variables, which are kept by number, defines jobs, which are
kept by number too, and prints values. Operands and arguments are evaluated from left to right. What
lies outside the program is a parameter, the jobs of the prelude and the number of rounds that a
repetition makes. A step that has no result, such as an operator on values it does not take, ends
the run without one. Calls and loops use up fuel, so that a run is finite; a run that has a result
has the same one with more fuel.

A run is watched by a test on the binary operations, which stops it before an operation that fails
the test.
-/
namespace JobLang.Run

open Typed (Expr Stmt)

/-- What a run can change. -/
structure World where
  store : Nat → Option Value
  jobs : Nat → Option (List Variable × List Stmt)
  /-- The values printed so far, the latest last. -/
  printed : List Value

/-- What a run depends on besides the program. -/
structure Machine where
  /-- The jobs of the prelude by number: a result, or nothing for a job without a result. -/
  builtin : Nat → List Value → Option (Option Value)
  /-- The number of rounds of a repetition. -/
  rounds : Float → Option Nat
  rounds_zero : ∀ {x : Float}, (x == 0) = true → rounds x = some 0

/-- A test on an operator, its operands and their values. -/
abbrev Watch := BinaryOp → Expr → Expr → Value → Value → Bool

/-- The test that every operation passes. -/
def Watch.none : Watch := fun _ _ _ _ _ => true

/-- How a statement ends: the next one is to be run, or the innermost job ends with a result. -/
inductive Flow
  | next
  | output (result : Option Value)

/-- A step of a run. -/
abbrev Exec := StateT World Option

abbrev Invoke := Job → List Value → Exec (Option Value)

def lookup (id : Nat) : Exec Value := do
  liftM ((← get).store id)

def assign (id : Nat) (value : Value) : Exec Unit :=
  modify fun world =>
    { world with store := fun other => if other = id then some value else world.store other }

def define (id : Nat) (params : List Variable) (body : List Stmt) : Exec Unit :=
  modify fun world =>
    { world with
      jobs := fun other => if other = id then some (params, body) else world.jobs other }

def emit (value : Value) : Exec Unit :=
  modify fun world => { world with printed := world.printed ++ [value] }

/-- Gives the parameters of a job their values. -/
def assignAll : List Variable → List Value → Exec Unit
  | [], [] => return ()
  | param :: params, value :: values => do
    assign param.id value
    assignAll params values
  | _, _ => failure

/-- The value of an expression that must have one. -/
def valueOf (step : Exec (Option Value)) : Exec Value := do
  liftM (← step)

def numberOf (step : Exec Value) : Exec Float := do
  match ← step with
  | .num x => return x
  | .baal _ | .quote _ => failure

def truthOf (step : Exec Value) : Exec Bool := do
  match ← step with
  | .baal b => return b
  | .num _ | .quote _ => failure

/-- Runs the second step unless the first ends the job. -/
def andThen (first second : Exec Flow) : Exec Flow := do
  match ← first with
  | .next => second
  | .output result => return .output result

def whileLoop (test : Exec Bool) (body : Exec Flow) : Nat → Exec Flow
  | 0 => failure
  | fuel + 1 => do
    if ← test then andThen body (whileLoop test body fuel) else return .next

def repeatLoop (body : Exec Flow) : Nat → Exec Flow
  | 0 => return .next
  | n + 1 => andThen body (repeatLoop body n)

/-- Runs the body for a number, the number after it, and so on up to the high bound. -/
def coil (high : Float) (body : Float → Exec Flow) : Nat → Float → Exec Flow
  | 0, _ => failure
  | fuel + 1, x =>
    if high < x then return .next else andThen (body x) (coil high body fuel (x + 1))

section Expressions
variable (watch : Watch) (invoke : Invoke)

/-- Applies an operator that the watch lets pass. -/
def operate (op : BinaryOp) (left right : Expr) (a b : Value) : Exec Value :=
  if watch op left right a b then liftM <| op.apply? a b else failure

mutual

/-- Evaluates an expression; a call of a job without a result has no value. -/
def eval : Expr → Exec (Option Value)
  | .lit value _ => return value
  | .var v _ => do return some (← lookup v.id)
  | .binary op left right _ => do
    let a ← valueOf (eval left)
    let b ← valueOf (eval right)
    return some (← operate watch op left right a b)
  | .unary op operand _ => do
    let a ← valueOf (eval operand)
    return some (← liftM <| op.apply? a)
  | .call callee args _ => do invoke callee (← evalAll args)

def evalAll : List Expr → Exec (List Value)
  | [] => return []
  | e :: rest => do
    let value ← valueOf (eval e)
    return value :: (← evalAll rest)

end

def value (e : Expr) : Exec Value := valueOf (eval watch invoke e)

def number (e : Expr) : Exec Float := numberOf (value watch invoke e)

def truth (e : Expr) : Exec Bool := truthOf (value watch invoke e)

end Expressions

section Statements
variable (machine : Machine) (watch : Watch) (invoke : Invoke) (fuel : Nat)

mutual

def exec : Stmt → Exec Flow
  | .declare v init => do
    assign v.id (← value watch invoke init)
    return .next
  | .job j params body => do
    define j.id params body
    return .next
  | .assign target source => do
    assign target.id (← value watch invoke source)
    return .next
  | .print e => do
    emit (← value watch invoke e)
    return .next
  | .output e => do return .output (← eval watch invoke e)
  | .ifThen test body => do
    if ← truth watch invoke test then execAll body else return .next
  | .ifElse test body alternative => do
    if ← truth watch invoke test then execAll body else execAll alternative
  | .whileLoop test body => whileLoop (truth watch invoke test) (execAll body) fuel
  | .repeatLoop count body => do
    let n ← liftM (machine.rounds (← number watch invoke count))
    repeatLoop (execAll body) n
  | .coil counter low high body => do
    let low ← number watch invoke low
    let high ← number watch invoke high
    coil high (fun x => do assign counter.id (.num x); execAll body) fuel low
  | .increment target => do
    assign target.id (.num ((← numberOf (lookup target.id)) + 1))
    return .next
  | .decrement target => do
    assign target.id (.num ((← numberOf (lookup target.id)) - 1))
    return .next
  | .call callee args => do
    let _ ← invoke callee (← evalAll watch invoke args)
    return .next

/-- Runs the statements of a chunk one after another. -/
def execAll : List Stmt → Exec Flow
  | [] => return .next
  | s :: rest => andThen (exec s) (execAll rest)

end

end Statements

/-- Calls a job that the program has defined, or else one of the prelude. -/
def perform (machine : Machine) (watch : Watch) : Nat → Invoke
  | 0, _, _ => failure
  | fuel + 1, callee, args => do
    match (← get).jobs callee.id with
    | none => liftM (machine.builtin callee.id args)
    | some (params, body) =>
      assignAll params args
      match ← execAll machine watch (perform machine watch fuel) fuel body with
      | .next => return none
      | .output result => return result

def run (machine : Machine) (watch : Watch) (fuel : Nat) (program : List Stmt) : Exec Flow :=
  execAll machine watch (perform machine watch fuel) fuel program

/-- A program, started with the given variables, runs to its end and leaves the given world. -/
def Ends (machine : Machine) (watch : Watch) (program : List Stmt) (store : Nat → Option Value)
    (flow : Flow) (after : World) : Prop :=
  ∃ fuel, run machine watch fuel program ⟨store, fun _ => none, []⟩ = some (flow, after)

end JobLang.Run
