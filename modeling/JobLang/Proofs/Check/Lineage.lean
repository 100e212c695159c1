import JobLang.Proofs.Check.Reference

/-!
# The environment behind a state

What a state lets a statement see is an environment: the lineage of the current scope gives the
frames, and the current scope gives the job. A step that succeeds may add scopes in front of the
arena and bindings to the current scope, and it leaves everything else as it was, so the
environment around it stays the same.
-/
namespace JobLang

/-- A scope with more bindings. -/
def Scope.extend (added : Frame) (scope : Scope) : Scope :=
  { scope with bindings := added ++ scope.bindings }

theorem Scope.extend_extend (added more : Frame) (scope : Scope) :
    (scope.extend added).extend more = scope.extend (more ++ added) := by
  simp [extend]

namespace Arena

theorem lt_length_of_get? {arena : Arena} {id : Nat} {scope : Scope}
    (found : arena.get? id = some scope) : id < arena.length := by
  refine Nat.lt_of_not_le fun beyond => ?_
  rw [get?_eq_none_iff.mpr beyond] at found
  cases found

theorem modify_id (arena : Arena) (id : Nat) : arena.modify (Scope.extend []) id = arena := by
  induction arena with
  | nil => rfl
  | cons scope older ih =>
    rw [modify]
    split
    · rfl
    · rw [ih]

theorem modify_extend_extend (arena : Arena) (id : Nat) (added more : Frame) :
    (arena.modify (Scope.extend added) id).modify (Scope.extend more) id =
      arena.modify (Scope.extend (more ++ added)) id := by
  induction arena with
  | nil => rfl
  | cons scope older ih =>
    by_cases here : id = older.length
    · simp only [modify, here, if_true, Scope.extend_extend]
    · simp only [modify, here, if_false, length_modify, ih]

section Append
variable {older : Arena} {id : Nat} (old : id < older.length)
include old

theorem get?_append (newer : Arena) : get? (newer ++ older) id = older.get? id := by
  induction newer with
  | nil => rfl
  | cons scope newer ih =>
    have elsewhere : id ≠ (newer ++ older).length := by rw [List.length_append]; omega
    rw [List.cons_append, get?, if_neg elsewhere, ih]

theorem modify_append (newer : Arena) (f : Scope → Scope) :
    modify f (newer ++ older) id = newer ++ older.modify f id := by
  induction newer with
  | nil => rfl
  | cons scope newer ih =>
    have elsewhere : id ≠ (newer ++ older).length := by rw [List.length_append]; omega
    rw [List.cons_append, modify, if_neg elsewhere, ih, List.cons_append]

theorem lineage_append (newer : Arena) : lineage (newer ++ older) id = older.lineage id := by
  induction newer with
  | nil => rfl
  | cons scope newer ih =>
    have elsewhere : id ≠ (newer ++ older).length := by rw [List.length_append]; omega
    rw [List.cons_append, lineage, if_neg elsewhere, ih]

end Append

/-- More bindings in a scope show at the head of its own lineage only. -/
theorem lineage_modify (arena : Arena) (id : Nat) (added : Frame) :
    (arena.modify (Scope.extend added) id).lineage id =
      (arena.lineage id).modifyHead (Scope.extend added) := by
  induction arena with
  | nil => rfl
  | cons scope older ih =>
    by_cases here : id = older.length
    · simp only [modify, lineage, here, if_true, List.modifyHead_cons]
      rfl
    · simp only [modify, lineage, here, if_false, length_modify, ih]

end Arena

/-- The environment of a list of scopes, the innermost first. -/
def Env.ofScopes (next : Nat) : List Scope → Env
  | [] => ⟨[], [], none, next⟩
  | scope :: around => ⟨scope.bindings, around.map Scope.bindings, scope.job, next⟩

namespace Checker

/-- The scopes that names are looked up in, the innermost first. -/
def lineage (checker : Checker) : List Scope :=
  checker.scopes.arena.lineage checker.scopes.current

def env (checker : Checker) : Env := Env.ofScopes checker.nextId checker.lineage

/-- The current scope has been made. -/
def InRange (checker : Checker) : Prop :=
  checker.scopes.current < checker.scopes.arena.length

@[simp]
theorem next_env (checker : Checker) : checker.env.next = checker.nextId := by
  rw [env]
  cases checker.lineage <;> rfl

theorem head?_lineage (checker : Checker) :
    checker.lineage.head? = checker.scopes.get? checker.scopes.current :=
  Arena.head?_lineage _ _

theorem find?_env (checker : Checker) (name : String) :
    checker.scopes.find? name = checker.env.find? name := by
  change checker.lineage.findSome? (·.find? name) = _
  rw [env]
  cases checker.lineage with
  | nil => rfl
  | cons scope around =>
    simp only [Env.find?, Env.ofScopes, ← List.map_cons, List.findSome?_map]
    rfl

theorem enclosingJob?_env (checker : Checker) :
    checker.scopes.enclosingJob? = checker.env.job := by
  rw [Scopes.enclosingJob?, ← head?_lineage, env]
  cases checker.lineage <;> rfl

theorem lookup_top_env (checker : Checker) (name : String) :
    (checker.scopes.get? checker.scopes.current).bind (·.find? name) =
      checker.env.top.lookup name := by
  rw [← head?_lineage, env]
  cases checker.lineage <;> rfl

theorem InRange.lineage_eq {checker : Checker} (inRange : checker.InRange) :
    ∃ scope around, checker.lineage = scope :: around := by
  cases found : checker.lineage with
  | nil =>
    have absent := checker.head?_lineage
    rw [found, List.head?_nil, Scopes.get?] at absent
    have := Arena.get?_eq_none_iff.mp absent.symm
    have := inRange
    rw [InRange] at this
    omega
  | cons scope around => exact ⟨scope, around, rfl⟩

/-- The state inside a new scope. -/
def entered (checker : Checker) (job : Option Job) : Checker :=
  { checker with scopes := checker.scopes.enter job }

/-- The scope that is entered, before anything is bound in it. -/
def newScope (checker : Checker) (job : Option Job) : Scope :=
  ⟨some checker.scopes.current, job.or checker.env.job, []⟩

theorem arena_entered (checker : Checker) (job : Option Job) :
    (checker.entered job).scopes.arena =
      checker.newScope job :: checker.scopes.arena := by
  rw [newScope, ← enclosingJob?_env]
  rfl

theorem current_entered (checker : Checker) (job : Option Job) :
    (checker.entered job).scopes.current = checker.scopes.arena.length := rfl

theorem inRange_entered (checker : Checker) (job : Option Job) :
    (checker.entered job).InRange := by
  rw [InRange, arena_entered, current_entered]
  exact Nat.lt_succ_self _

theorem env_entered {checker : Checker} (inRange : checker.InRange) (job : Option Job) :
    (checker.entered job).env = checker.env.inner job := by
  have unfolded : (checker.entered job).lineage =
      checker.newScope job :: checker.lineage := by
    rw [lineage, arena_entered, current_entered, Arena.lineage, if_pos rfl]
    rfl
  obtain ⟨scope, around, found⟩ := inRange.lineage_eq
  rw [env, unfolded, newScope, env, found]
  rfl

end Checker
end JobLang
