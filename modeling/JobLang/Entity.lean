import JobLang.Ty

/-!
# Entities

What a name of a program can stand for: a variable or a job. Every entity has a number of its own,
so that two entities of one name are told apart.
-/
namespace JobLang

/-- A variable; parameters, coil counters and predeclared constants are read-only. -/
structure Variable where
  id : Nat
  name : String
  ty : Ty
  readOnly : Bool
deriving DecidableEq, Inhabited

structure Job where
  id : Nat
  name : String
  params : List Ty
  returns : Ty
deriving DecidableEq, Inhabited

/-- The type of a job as a whole. -/
def Job.ty (job : Job) : Ty := .job job.params job.returns

inductive Kind
  | var
  | job
deriving DecidableEq, Inhabited

/-- The name of a kind in messages. -/
def Kind.render : Kind → String
  | .var => "Variable"
  | .job => "Function"

inductive Entity
  | var (v : Variable)
  | job (j : Job)
deriving DecidableEq, Inhabited

namespace Entity

def kind : Entity → Kind
  | .var _ => .var
  | .job _ => .job

def ty : Entity → Ty
  | .var v => v.ty
  | .job j => j.ty

end Entity
end JobLang
