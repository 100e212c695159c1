import JobLang.Diagnostic
import JobLang.Entity

/-!
# Scopes

The scopes of a program form a tree: each but the first has a parent, and a name means what the
innermost scope around it binds it to. Scopes are numbered in the order in which they are made and
are kept after they have been left. They are listed with the newest first, so a scope's number is
the count of scopes behind it, and a scope is looked for among its elders only. A parent that is
not older than its child, which only a detached scope can have, is therefore no scope at all.
-/
namespace JobLang

structure Scope where
  parent : Option Nat
  /-- The job whose body the scope belongs to. -/
  job : Option Job
  /-- The names bound here, each at most once. -/
  bindings : List (String × Entity)
deriving DecidableEq, Inhabited

/-- What a scope itself binds a name to. -/
def Scope.find? (scope : Scope) (name : String) : Option Entity := scope.bindings.lookup name

/-- All scopes made so far, the newest first. -/
abbrev Arena := List Scope

namespace Arena

/-- The scope with the given number. -/
def get? : Arena → Nat → Option Scope
  | [], _ => none
  | scope :: older, id => if id = older.length then some scope else get? older id

/-- Changes the scope with the given number. -/
def modify (f : Scope → Scope) : Arena → Nat → Arena
  | [], _ => []
  | scope :: older, id =>
    if id = older.length then f scope :: older else scope :: modify f older id

/-- A scope and the scopes around it, the innermost first. -/
def lineage : Arena → Nat → List Scope
  | [], _ => []
  | scope :: older, id =>
    if id = older.length then
      scope :: match scope.parent with
        | some parent => lineage older parent
        | none => []
    else lineage older id

@[simp]
theorem length_modify (f : Scope → Scope) (arena : Arena) (id : Nat) :
    (arena.modify f id).length = arena.length := by
  induction arena with
  | nil => rfl
  | cons scope older ih =>
    rw [modify]
    split
    · rfl
    · simp [ih]

theorem get?_eq_none_iff {arena : Arena} {id : Nat} :
    arena.get? id = none ↔ arena.length ≤ id := by
  induction arena with
  | nil => simp [get?]
  | cons scope older ih =>
    rw [get?, List.length_cons]
    split
    · simp; omega
    · rw [ih]; omega

/-- Changing one scope shows at its own number and nowhere else. -/
theorem get?_modify (f : Scope → Scope) (arena : Arena) (id other : Nat) :
    (arena.modify f id).get? other =
      if other = id then (arena.get? id).map f else arena.get? other := by
  induction arena with
  | nil => simp [modify, get?]
  | cons scope older ih =>
    rw [modify, get?, get?]
    split
    · rw [get?]; grind
    · rw [get?, length_modify, ih]; grind

/-- A lineage starts at the scope it is taken from, and is empty if there is none. -/
theorem head?_lineage (arena : Arena) (id : Nat) : (arena.lineage id).head? = arena.get? id := by
  induction arena with
  | nil => rfl
  | cons scope older ih =>
    rw [lineage, get?]
    split
    · rfl
    · exact ih

end Arena

/-- All scopes and the number of the current one. -/
structure Scopes where
  arena : Arena
  current : Nat
deriving DecidableEq, Inhabited

namespace Scopes

/-- The first scope alone, which belongs to no job. -/
def root : Scopes := ⟨[⟨none, none, []⟩], 0⟩

def get? (scopes : Scopes) (id : Nat) : Option Scope := scopes.arena.get? id

/-- The job whose body the current scope belongs to. -/
def enclosingJob? (scopes : Scopes) : Option Job := (scopes.get? scopes.current).bind Scope.job

/-- Adds a scope below any parent and gives its number. It belongs to the job given, or else to the
job of its parent. -/
def addChild (scopes : Scopes) (parent : Nat) (job : Option Job) : Nat × Scopes :=
  let inherited := (scopes.get? parent).bind Scope.job
  let scope : Scope := ⟨some parent, job.or inherited, []⟩
  (scopes.arena.length, { scopes with arena := scope :: scopes.arena })

/-- Adds a scope below the current one and moves into it. -/
def enter (scopes : Scopes) (job : Option Job) : Scopes :=
  let (id, extended) := scopes.addChild scopes.current job
  { extended with current := id }

/-- Moves back to the parent of the current scope; the first scope is never left. -/
def leave (scopes : Scopes) : Scopes :=
  match (scopes.get? scopes.current).bind Scope.parent with
  | some parent => { scopes with current := parent }
  | none => scopes

/-- Binds a name in the current scope, where it must not be bound yet. -/
def declare (scopes : Scopes) (name : String) (entity : Entity) (position : Option Position) :
    Except Diagnostic Scopes :=
  match (scopes.get? scopes.current).bind (·.find? name) with
  | some _ => .error ⟨.duplicateDeclaration name, position⟩
  | none =>
    let bind (scope : Scope) : Scope :=
      { scope with bindings := (name, entity) :: scope.bindings }
    .ok { scopes with arena := scopes.arena.modify bind scopes.current }

/-- The innermost binding of a name that is visible from the current scope. -/
def find? (scopes : Scopes) (name : String) : Option Entity :=
  (scopes.arena.lineage scopes.current).findSome? (·.find? name)

/-- What a name stands for in the current scope; it has to be declared. -/
def resolve (scopes : Scopes) (name : String) (position : Option Position) :
    Except Diagnostic Entity :=
  match scopes.find? name with
  | some entity => .ok entity
  | none => .error ⟨.undeclaredIdentifier name, position⟩

/-- The fault of a name that stands for the wrong kind of entity. -/
def kindMismatch (expected received : Kind) : Fault :=
  .typeMismatch expected.render received.render

/-- What a name stands for, which has to be of the given kind. -/
def resolveAs (scopes : Scopes) (name : String) (kind : Kind) (position : Option Position) :
    Except Diagnostic Entity := do
  let entity ← scopes.resolve name position
  if entity.kind = kind then .ok entity
  else .error ⟨kindMismatch kind entity.kind, position⟩

/-- The variable that a name stands for. -/
def resolveVariable (scopes : Scopes) (name : String) (position : Option Position) :
    Except Diagnostic Variable := do
  match ← scopes.resolve name position with
  | .var found => .ok found
  | .job _ => .error ⟨kindMismatch .var .job, position⟩

end Scopes

/-- The bindings of a scope in the order of their names, by code points. -/
def Scope.sorted (scope : Scope) : List (String × Entity) :=
  scope.bindings.mergeSort fun a b => !(b.1 < a.1)

end JobLang
