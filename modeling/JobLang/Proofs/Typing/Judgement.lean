import JobLang.Typed

/-!
# Well typed trees

A tree of a program can be built with any types in it. It is well typed if at every node the types
are the ones that the operators, variables and jobs there call for. The judgement for statements is
relative to the job whose body they stand in, since this is the job that an output belongs to.
-/
namespace JobLang.Typed

namespace Expr

inductive WellTyped : Expr → Prop
  | lit {value : Value} {note : Note} (own : note.ty = value.ty) : WellTyped (.lit value note)
  | var {v : Variable} {note : Note} (own : note.ty = v.ty) : WellTyped (.var v note)
  | binary {op : BinaryOp} {left right : Expr} {note : Note} (first : WellTyped left)
      (second : WellTyped right) (accepted : op.resultTy? left.ty right.ty = some note.ty) :
      WellTyped (.binary op left right note)
  | unary {op : UnaryOp} {operand : Expr} {note : Note} (inner : WellTyped operand)
      (accepted : op.resultTy? operand.ty = some note.ty) : WellTyped (.unary op operand note)
  | call {callee : Job} {args : List Expr} {note : Note} (each : ∀ arg ∈ args, WellTyped arg)
      (fit : args.map ty = callee.params) (own : note.ty = callee.returns) :
      WellTyped (.call callee args note)

end Expr

namespace Stmt

/-- A statement is well typed in the body of a job, or outside all jobs. -/
inductive WellTyped : Option Job → Stmt → Prop
  | declare {job : Option Job} {v : Variable} {init : Expr} (value : init.WellTyped)
      (free : v.readOnly = false) (storable : v.ty.isStorable = true) (fits : init.ty = v.ty) :
      WellTyped job (.declare v init)
  | job {job : Option Job} {j : Job} {params : List Variable} {body : List Stmt}
      (types : params.map Variable.ty = j.params)
      (fixed : ∀ param ∈ params, param.readOnly = true ∧ param.ty.isStorable = true)
      (result : j.returns.isStorable = true ∨ j.returns = .void)
      (inside : ∀ s ∈ body, WellTyped (some j) s) : WellTyped job (.job j params body)
  | assign {job : Option Job} {target : Variable} {source : Expr} (value : source.WellTyped)
      (free : target.readOnly = false) (fits : source.ty = target.ty) :
      WellTyped job (.assign target source)
  | print {job : Option Job} {value : Expr} (given : value.WellTyped)
      (something : value.ty ≠ .void) : WellTyped job (.print value)
  | output {j : Job} {value : Expr} (given : value.WellTyped) (fits : value.ty = j.returns) :
      WellTyped (some j) (.output value)
  | ifThen {job : Option Job} {test : Expr} {body : List Stmt} (tested : test.WellTyped)
      (truth : test.ty = .baal) (inside : ∀ s ∈ body, WellTyped job s) :
      WellTyped job (.ifThen test body)
  | ifElse {job : Option Job} {test : Expr} {body alternative : List Stmt}
      (tested : test.WellTyped) (truth : test.ty = .baal) (inside : ∀ s ∈ body, WellTyped job s)
      (otherwise : ∀ s ∈ alternative, WellTyped job s) :
      WellTyped job (.ifElse test body alternative)
  | whileLoop {job : Option Job} {test : Expr} {body : List Stmt} (tested : test.WellTyped)
      (truth : test.ty = .baal) (inside : ∀ s ∈ body, WellTyped job s) :
      WellTyped job (.whileLoop test body)
  | repeatLoop {job : Option Job} {count : Expr} {body : List Stmt} (counted : count.WellTyped)
      (number : count.ty = .num) (inside : ∀ s ∈ body, WellTyped job s) :
      WellTyped job (.repeatLoop count body)
  | coil {job : Option Job} {counter : Variable} {low high : Expr} {body : List Stmt}
      (lower : low.WellTyped) (lowNumber : low.ty = .num) (upper : high.WellTyped)
      (highNumber : high.ty = .num) (fixed : counter.readOnly = true) (number : counter.ty = .num)
      (inside : ∀ s ∈ body, WellTyped job s) : WellTyped job (.coil counter low high body)
  | increment {job : Option Job} {target : Variable} (free : target.readOnly = false)
      (number : target.ty = .num) : WellTyped job (.increment target)
  | decrement {job : Option Job} {target : Variable} (free : target.readOnly = false)
      (number : target.ty = .num) : WellTyped job (.decrement target)
  | call {job : Option Job} {callee : Job} {args : List Expr} (each : ∀ arg ∈ args, arg.WellTyped)
      (fit : args.map Expr.ty = callee.params) : WellTyped job (.call callee args)

mutual

/-- The number of outputs in a statement. Those in the body of a job declared there belong to that
job and are not counted. -/
def outputs : Stmt → Nat
  | .output _ => 1
  | .ifThen _ body | .whileLoop _ body | .repeatLoop _ body | .coil _ _ _ body => outputsAll body
  | .ifElse _ body alternative => outputsAll body + outputsAll alternative
  | .declare .. | .job .. | .assign .. | .print _ | .increment _ | .decrement _ | .call .. => 0

def outputsAll : List Stmt → Nat
  | [] => 0
  | s :: rest => s.outputs + outputsAll rest

end

theorem outputsAll_append (first second : List Stmt) :
    outputsAll (first ++ second) = outputsAll first + outputsAll second := by
  induction first with
  | nil => exact (Nat.zero_add _).symm
  | cons s rest ih => rw [List.cons_append, outputsAll, outputsAll, ih, Nat.add_assoc]

theorem outputsAll_singleton (s : Stmt) : outputsAll [s] = s.outputs := by
  rw [outputsAll, outputsAll, Nat.add_zero]

mutual

/-- The jobs declared in a statement, at any depth, each with its body. -/
def jobs : Stmt → List (Job × List Stmt)
  | .job j _ body => (j, body) :: jobsAll body
  | .ifThen _ body | .whileLoop _ body | .repeatLoop _ body | .coil _ _ _ body => jobsAll body
  | .ifElse _ body alternative => jobsAll body ++ jobsAll alternative
  | .declare .. | .assign .. | .print _ | .output _ | .increment _ | .decrement _ | .call .. => []

def jobsAll : List Stmt → List (Job × List Stmt)
  | [] => []
  | s :: rest => s.jobs ++ jobsAll rest

end

theorem jobsAll_append (first second : List Stmt) :
    jobsAll (first ++ second) = jobsAll first ++ jobsAll second :=
  append_of_cons rfl (fun _ _ => rfl) first second

theorem jobsAll_singleton (s : Stmt) : jobsAll [s] = s.jobs := by
  rw [jobsAll, jobsAll, List.append_nil]

theorem mem_jobsAll {chunk : List Stmt} {job : Job × List Stmt} :
    job ∈ jobsAll chunk ↔ ∃ s ∈ chunk, job ∈ s.jobs := by
  induction chunk with
  | nil => simp [jobsAll]
  | cons s rest ih => simp [jobsAll, ih]

/-- Every job with a result that is declared in a statement has an output in its own body. -/
def JobsOutput (s : Stmt) : Prop :=
  ∀ job ∈ s.jobs, job.1.returns ≠ .void → outputsAll job.2 ≠ 0

end Stmt
end JobLang.Typed
