import JobLang.Ty

/-!
# Preludes

A prelude lists what every program can use without declaring it: constants with their types and
jobs with theirs. A program may give any of these names a meaning of its own.
-/
namespace JobLang

/-- The name and the type of a job that a prelude provides. -/
structure Builtin where
  name : String
  params : List Ty
  returns : Ty
deriving DecidableEq, Inhabited

/-- Constants and jobs, each in the order in which they were added. -/
structure Prelude where
  constants : List (String × Ty)
  jobs : List Builtin
deriving DecidableEq, Inhabited

namespace Prelude

def empty : Prelude := ⟨[], []⟩

def addConstant (prelude : Prelude) (name : String) (ty : Ty) : Prelude :=
  { prelude with constants := prelude.constants ++ [(name, ty)] }

def addJob (prelude : Prelude) (name : String) (params : List Ty) (returns : Ty) : Prelude :=
  { prelude with jobs := prelude.jobs ++ [⟨name, params, returns⟩] }

/-- The constant and the functions of arithmetic that programs have by default. -/
def standard : Prelude where
  constants := [("π", .num)]
  jobs := [
    ⟨"sqrt", [.num], .num⟩,
    ⟨"sin", [.num], .num⟩,
    ⟨"cos", [.num], .num⟩,
    ⟨"exp", [.num], .num⟩,
    ⟨"ln", [.num], .num⟩,
    ⟨"hypot", [.num, .num], .num⟩]

end Prelude
end JobLang
