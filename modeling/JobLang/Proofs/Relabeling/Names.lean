import JobLang.Proofs.Check.Whole
import JobLang.Proofs.Relabeling.Outcomes

/-!
# New names for a program and its prelude

A program under a prelude whose environment is an image of another has the relabeled outcome. The
environment of a renamed prelude is such an image, so compiling looks at names only to tell them
apart: with new names for everything, what comes back is what came back before, with new names.
-/
namespace JobLang

inductive Prelude.Entry
  | constant (name : String) (ty : Ty)
  | job (builtin : Builtin)

namespace Prelude.Entry

def name : Entry → String
  | .constant name _ => name
  | .job builtin => builtin.name

def rename (r : Renaming) : Entry → Entry
  | .constant name ty => .constant (r name) ty
  | .job builtin => .job { builtin with name := r builtin.name }

theorem rename_refl (entry : Entry) : entry.rename .refl = entry := by
  cases entry <;> rfl

end Prelude.Entry

namespace Prelude

/-- What a prelude lists, in the order in which it is declared. -/
def entries (prelude : Prelude) : List Entry :=
  prelude.constants.map (fun (name, ty) => .constant name ty) ++ prelude.jobs.map .job

/-- The same prelude with new names. -/
def rename (r : Renaming) (prelude : Prelude) : Prelude where
  constants := prelude.constants.map fun (name, ty) => (r name, ty)
  jobs := prelude.jobs.map fun builtin => { builtin with name := r builtin.name }

theorem entries_rename (r : Renaming) (prelude : Prelude) :
    (prelude.rename r).entries = prelude.entries.map (Entry.rename r) := by
  simp only [entries, rename, List.map_append, List.map_map]
  rfl

end Prelude

open Prelude (Entry)

/-- Nothing has been declared yet. -/
def Env.blank : Env := ⟨[], [], none, 0⟩

namespace Reference

def declareEntry (env : Env) : Entry → Except Diagnostic Env
  | .constant name ty => declareConstant env (name, ty)
  | .job builtin => declareBuiltin env builtin

theorem ofPrelude_eq_foldlM (prelude : Prelude) :
    ofPrelude prelude = (do
      let env ← prelude.entries.foldlM declareEntry .blank
      return env.inner none) := by
  rw [ofPrelude, Prelude.entries, List.foldlM_append, List.foldlM_map, bind_assoc]
  simp only [List.foldlM_map]
  rfl

end Reference

section Entries
variable {ρ : Relabeling} {asked : String → Prop} {env image : Env}

theorem corresponds_declareEntry (related : env.Image ρ asked image) {entry : Entry}
    (known : asked entry.name) :
    Corresponds ρ.name (Env.Image ρ asked) (Reference.declareEntry env entry)
      (Reference.declareEntry image (entry.rename ρ.name)) := by
  cases entry with
  | constant name ty =>
    exact .bind (related.declareVariable known ty true none) fun _ _ ⟨_, related⟩ => .pure related
  | job builtin =>
    exact .bind (related.declareJob known builtin.params builtin.returns none)
      fun _ _ ⟨_, related⟩ => .pure related

theorem corresponds_declareEntries (related : env.Image ρ asked image) (entries : List Entry)
    (known : ∀ entry ∈ entries, asked entry.name) :
    Corresponds ρ.name (Env.Image ρ asked) (entries.foldlM Reference.declareEntry env)
      ((entries.map (Entry.rename ρ.name)).foldlM Reference.declareEntry image) := by
  induction entries generalizing env image with
  | nil => exact .pure related
  | cons entry rest ih =>
    obtain ⟨own, inRest⟩ := List.forall_mem_cons.mp known
    rw [List.map_cons, List.foldlM_cons, List.foldlM_cons]
    exact .bind (corresponds_declareEntry related own) fun _ _ related => ih related inRest

end Entries

/-- Compiling is checking by the reference and then simplifying. -/
theorem compile_eq_map (prelude : Prelude) (program : List Syntax.Stmt) :
    compile prelude program =
      (Reference.check prelude program).map Typed.Stmt.simplifyAll := by
  rw [compile]
  rcases check_cases prelude program with
    ⟨env, checked, after, made, ran, same⟩ | ⟨d, failed, failed'⟩
  · rw [same, Reference.check, made]
    simp only [bind, Except.bind, ran]
    rfl
  · rw [failed, failed']
    rfl

/-- A program under preludes of which one environment is the image of the other. -/
theorem compile_relabel {ρ : Relabeling} {asked : String → Prop} {prelude prelude' : Prelude}
    (start : Corresponds ρ.name (Env.Image ρ asked) (Reference.ofPrelude prelude)
      (Reference.ofPrelude prelude'))
    {program : List Syntax.Stmt} (known : ∀ name ∈ Syntax.Stmt.namesAll program, asked name) :
    compile prelude' (Syntax.Stmt.renameAll ρ.name program) =
      ((compile prelude program).mapError (Diagnostic.rename ρ.name)).map
        (Typed.Stmt.relabelAll ρ) := by
  have checked : Corresponds ρ.name (Typed.Stmt.relabelAll ρ · = ·)
      (Reference.check prelude program)
      (Reference.check prelude' (Syntax.Stmt.renameAll ρ.name program)) := by
    refine .bind start fun env image related => ?_
    exact .bind (corresponds_chunk program related known) fun _ _ ⟨same, _⟩ => .pure same
  rw [compile_eq_map, compile_eq_map, checked.eq_map]
  cases Reference.check prelude program with
  | error d => rfl
  | ok tree => exact congrArg Except.ok (Typed.Stmt.simplifyAll_relabel ρ tree)

theorem image_ofPrelude_rename (r : Renaming) (prelude : Prelude) :
    Corresponds r (Env.Image (.names r) fun _ => True) (Reference.ofPrelude prelude)
      (Reference.ofPrelude (prelude.rename r)) := by
  have blank : Env.blank.Image (.names r) (fun _ => True) .blank :=
    ⟨fun _ _ => rfl, fun _ _ => rfl, rfl, fun _ => rfl⟩
  rw [Reference.ofPrelude_eq_foldlM, Reference.ofPrelude_eq_foldlM, Prelude.entries_rename]
  exact .bind (corresponds_declareEntries blank prelude.entries fun _ _ => trivial)
    fun _ _ related => .pure (related.inner none)

/-- With new names for all entities, the same tree with new names comes back, or the same fault at
the same place with new names. -/
theorem compile_rename (r : Renaming) (prelude : Prelude) (program : List Syntax.Stmt) :
    compile (prelude.rename r) (Syntax.Stmt.renameAll r program) =
      ((compile prelude program).mapError (Diagnostic.rename r)).map
        (Typed.Stmt.relabelAll (.names r)) :=
  compile_relabel (image_ofPrelude_rename r prelude) fun _ _ => trivial

example (isX : IsName "x") (isY : IsName "y") :
    compile .empty (Syntax.Stmt.renameAll (.swap isX isY) [.increment ⟨.id, "x", none⟩]) =
      .error ⟨.undeclaredIdentifier "y", none⟩ := by
  have renamed : Syntax.Stmt.renameAll (.swap isX isY) [.increment ⟨.id, "x", none⟩] =
    [.increment ⟨.id, "y", none⟩] := rfl
  rw [renamed]
  rfl

end JobLang
