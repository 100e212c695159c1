import JobLang.Proofs.Check.Elaboration
import JobLang.Proofs.Relabeling.Names

/-!
# Preludes with one entry more

A prelude is built entry by entry. An entry that is put in between takes a number, so that the
entities behind it move up by one, and binds a name in the frame around the program. A program that
does not use that name comes out as before, but for the numbers, and fails as before.
-/
namespace JobLang

open Prelude (Entry)

namespace Prelude

def Entry.constant? : Entry → Option (String × Ty)
  | .constant name ty => some (name, ty)
  | .job _ => none

def Entry.builtin? : Entry → Option Builtin
  | .constant .. => none
  | .job builtin => some builtin

/-- Adds one entry. -/
def add (prelude : Prelude) : Entry → Prelude
  | .constant name ty => prelude.addConstant name ty
  | .job builtin => prelude.addJob builtin.name builtin.params builtin.returns

/-- The prelude to which the given entries have been added one after another. -/
def build (steps : List Entry) : Prelude := steps.foldl add .empty

theorem foldl_add (steps : List Entry) (prelude : Prelude) :
    steps.foldl add prelude = ⟨prelude.constants ++ steps.filterMap Entry.constant?,
      prelude.jobs ++ steps.filterMap Entry.builtin?⟩ := by
  induction steps generalizing prelude with
  | nil => simp
  | cons entry rest ih =>
    rw [List.foldl_cons, ih, List.filterMap_cons, List.filterMap_cons]
    cases entry <;> simp [add, addConstant, addJob, Entry.constant?, Entry.builtin?]

theorem build_eq (steps : List Entry) :
    build steps = ⟨steps.filterMap Entry.constant?, steps.filterMap Entry.builtin?⟩ :=
  foldl_add steps .empty

/-- Every prelude can be built. -/
theorem build_entries (prelude : Prelude) : build prelude.entries = prelude := by
  have constants : prelude.entries.filterMap Entry.constant? = prelude.constants := by
    simp [entries, List.filterMap_map, Function.comp_def, Entry.constant?]
  have jobs : prelude.entries.filterMap Entry.builtin? = prelude.jobs := by
    simp [entries, List.filterMap_map, Function.comp_def, Entry.builtin?]
  rw [build_eq, constants, jobs]

theorem mem_of_mem_entries_build {steps : List Entry} {entry : Entry}
    (member : entry ∈ (build steps).entries) : entry ∈ steps := by
  simp only [build_eq, entries, List.mem_append, List.mem_map, List.mem_filterMap] at member
  rcases member with ⟨_, ⟨source, added, same⟩, rfl⟩ | ⟨_, ⟨source, added, same⟩, rfl⟩ <;>
    cases source <;> cases same <;> exact added

/-- Constants are declared before jobs, so an entry may be declared before some of those that were
added before it. -/
theorem entries_build_insert (before after : List Entry) (entry : Entry) :
    ∃ earlier later, (build (before ++ after)).entries = earlier ++ later ∧
      (build (before ++ entry :: after)).entries = earlier ++ entry :: later := by
  simp only [build_eq, entries, List.filterMap_append, List.filterMap_cons, List.map_append]
  cases entry with
  | constant name ty =>
    exact ⟨_, _, List.append_assoc .., List.append_assoc ..⟩
  | job builtin =>
    exact ⟨_, _, (List.append_assoc ..).symm, (List.append_assoc ..).symm⟩

end Prelude

/-- Numbers from the given one on go up by one. -/
def Relabeling.skip (first : Nat) : Relabeling :=
  .numbers <| OrderEmbedding.ofStrictMono (fun i => if i < first then i else i + 1) fun a b lt => by
    dsimp only
    split <;> split <;> omega

theorem skip_of_lt {first i : Nat} (lt : i < first) : (Relabeling.skip first).id i = i := if_pos lt

theorem skip_of_le {first i : Nat} (le : first ≤ i) : (Relabeling.skip first).id i = i + 1 :=
  if_neg (Nat.not_lt.mpr le)

theorem Entity.relabel_skip {first : Nat} {entity : Entity} (old : entity.id < first) :
    entity.relabel (.skip first) = entity := by
  cases entity with
  | var v =>
    have kept : (Relabeling.skip first).id v.id = v.id := skip_of_lt old
    rw [relabel, Variable.relabel, kept]
    rfl
  | job j =>
    have kept : (Relabeling.skip first).id j.id = j.id := skip_of_lt old
    rw [relabel, Job.relabel, kept]
    rfl

/-- What an entry of a prelude becomes. -/
def Entity.ofEntry (id : Nat) : Entry → Entity
  | .constant name ty => .ofConstant id (name, ty)
  | .job builtin => .ofBuiltin id builtin

theorem Entity.name_ofEntry (id : Nat) (entry : Entry) : (ofEntry id entry).name = entry.name := by
  cases entry <;> rfl

theorem Entity.id_ofEntry (id : Nat) (entry : Entry) : (ofEntry id entry).id = id := by
  cases entry <;> rfl

theorem declareEntry_eq {env after : Env} {entry : Entry}
    (declared : Reference.declareEntry env entry = .ok after) :
    env.add (Entity.ofEntry env.next entry) = after := by
  cases entry with
  | constant name ty => exact declareConstant_eq declared
  | job builtin => exact declareBuiltin_eq declared

/-- An entry can be declared if its name is free. -/
theorem declareEntry_of_lookup {env : Env} {entry : Entry}
    (free : env.top.lookup entry.name = none) :
    Reference.declareEntry env entry = .ok (env.add (Entity.ofEntry env.next entry)) := by
  cases entry with
  | constant name ty =>
    change env.top.lookup name = none at free
    rw [Reference.declareEntry, Reference.declareConstant, Env.declareVariable, Env.bind, free]
    rfl
  | job builtin =>
    change env.top.lookup builtin.name = none at free
    rw [Reference.declareEntry, Reference.declareBuiltin, Env.declareJob, Env.bind, free]
    rfl

/-- The environment behind a list of entries, which are numbered in their order. -/
def Env.ofEntries (entries : List Entry) : Env :=
  ⟨Frame.ofEntities (entries.mapIdx Entity.ofEntry), [], none, entries.length⟩

theorem env_ofEntries {entries : List Entry} {env : Env}
    (declared : entries.foldlM Reference.declareEntry .blank = .ok env) :
    env = Env.ofEntries entries := by
  rw [foldlM_declare declareEntry_eq declared]
  simp [Env.blank, Env.ofEntries]

theorem mem_top_ofEntries {entries : List Entry} {binding : String × Entity}
    (member : binding ∈ (Env.ofEntries entries).top) :
    (∃ entry ∈ entries, entry.name = binding.1) ∧ binding.2.id < entries.length := by
  simp only [Env.ofEntries, Frame.ofEntities, List.mem_reverse, List.mem_map, List.mem_mapIdx]
    at member
  obtain ⟨_, ⟨i, bound, rfl⟩, rfl⟩ := member
  rw [Entity.name_ofEntry, Entity.id_ofEntry]
  exact ⟨⟨_, List.getElem_mem bound, rfl⟩, bound⟩

/-- A further entity does not change what other names stand for, and takes one number. -/
theorem image_add_ofEntries (entries : List Entry) (entity : Entity) :
    (Env.ofEntries entries).Image (.skip entries.length) (· ≠ entity.name)
      ((Env.ofEntries entries).add entity) where
  top name other := by
    change List.lookup name ((entity.name, entity) :: (Env.ofEntries entries).top) = _
    rw [List.lookup_cons, beq_false_of_ne other]
    cases found : (Env.ofEntries entries).top.lookup name with
    | none => rfl
    | some old =>
      obtain ⟨_, _, split, _⟩ := List.lookup_eq_some_iff.mp found
      have member : (name, old) ∈ (Env.ofEntries entries).top := by
        rw [split]
        simp
      exact congrArg some (Entity.relabel_skip (mem_top_ofEntries member).2).symm
  outer _ _ := rfl
  job := rfl
  next more := by
    rw [Env.ofEntries, skip_of_le (Nat.le_add_right ..)]
    exact Nat.add_right_comm ..

/-- The environments behind a list of entries and behind the same list with one entry more. If the
list has a name twice, neither can be made, and for the same reason. -/
theorem corresponds_insert (earlier later : List Entry) {entry : Entry}
    (fresh : ∀ other ∈ earlier ++ later, other.name ≠ entry.name) :
    Corresponds .refl (Env.Image (.skip earlier.length) (· ≠ entry.name))
      ((earlier ++ later).foldlM Reference.declareEntry .blank)
      ((earlier ++ entry :: later).foldlM Reference.declareEntry .blank) := by
  obtain ⟨inEarlier, inLater⟩ := List.forall_mem_append.mp fresh
  rw [List.foldlM_append, List.foldlM_append]
  cases declared : earlier.foldlM Reference.declareEntry .blank with
  | error d => exact d.rename_refl
  | ok env =>
    obtain rfl := env_ofEntries declared
    have free : (Env.ofEntries earlier).top.lookup entry.name = none := by
      refine List.lookup_eq_none_iff.mpr fun binding member => bne_iff_ne.mpr ?_
      obtain ⟨⟨other, known, same⟩, _⟩ := mem_top_ofEntries member
      exact same ▸ (inEarlier other known).symm
    have related := image_add_ofEntries earlier (Entity.ofEntry earlier.length entry)
    rw [Entity.name_ofEntry] at related
    have rest := corresponds_declareEntries related later inLater
    have same : later.map (Entry.rename (Relabeling.skip earlier.length).name) = later :=
      (List.map_congr_left fun other _ => other.rename_refl).trans (List.map_id' later)
    rw [same] at rest
    change Corresponds _ _ (later.foldlM _ _) ((entry :: later).foldlM _ _)
    rw [List.foldlM_cons, declareEntry_of_lookup free]
    exact rest

theorem image_ofPrelude_insert {before after : List Entry} {entry : Entry}
    (fresh : entry.name ∉ (before ++ after).map Entry.name) :
    ∃ first, Corresponds .refl (Env.Image (.skip first) (· ≠ entry.name))
      (Reference.ofPrelude (.build (before ++ after)))
      (Reference.ofPrelude (.build (before ++ entry :: after))) := by
  obtain ⟨earlier, later, less, more⟩ := Prelude.entries_build_insert before after entry
  have apart : ∀ other ∈ earlier ++ later, other.name ≠ entry.name := by
    intro other member same
    rw [← less] at member
    exact fresh (same ▸ List.mem_map_of_mem (Prelude.mem_of_mem_entries_build member))
  rw [Reference.ofPrelude_eq_foldlM, Reference.ofPrelude_eq_foldlM, less, more]
  exact ⟨earlier.length, .bind (corresponds_insert earlier later apart) fun _ _ related =>
    .pure (related.inner none)⟩

/-- A prelude to which one entry is added at any point, with a name of its own, leaves the programs
that do not use that name as they are: they have the same trees with new numbers, in the same order,
or the same diagnostics. -/
theorem compile_build_insert (before after : List Entry) (entry : Entry)
    (fresh : entry.name ∉ (before ++ after).map Entry.name) :
    ∃ number : Nat ↪o Nat, ∀ program, entry.name ∉ Syntax.Stmt.namesAll program →
      compile (.build (before ++ entry :: after)) program =
        (compile (.build (before ++ after)) program).map
          (Typed.Stmt.relabelAll (.numbers number)) := by
  obtain ⟨first, start⟩ := image_ofPrelude_insert fresh
  refine ⟨(Relabeling.skip first).id, fun program unused => ?_⟩
  have known : ∀ name ∈ Syntax.Stmt.namesAll program, name ≠ entry.name := fun name member same =>
    unused (same ▸ member)
  have outcome := compile_relabel start known
  change compile _ (Syntax.Stmt.renameAll .refl program) =
    ((compile _ program).mapError (Diagnostic.rename .refl)).map _ at outcome
  rw [Syntax.Stmt.renameAll_refl, funext Diagnostic.rename_refl] at outcome
  rw [outcome]
  cases compile (.build (before ++ after)) program <;> rfl

def beep : Builtin := ⟨"beep", [], .void⟩

def beepProgram : List Syntax.Stmt := [.call ⟨.id, "beep", none⟩ []]

/-- The constant is added behind the job and declared before it. -/
theorem compile_build_beep :
    "pi" ∉ [Entry.constant "e" .num, .job beep].map Entry.name ∧
      "pi" ∉ Syntax.Stmt.namesAll beepProgram ∧
      compile (.build [.constant "e" .num, .job beep]) beepProgram =
        .ok [.call ⟨1, "beep", [], .void⟩ []] ∧
      ∃ number : Nat ↪o Nat,
        compile (.build [.constant "e" .num, .job beep, .constant "pi" .num]) beepProgram =
          .ok [.call ⟨number 1, "beep", [], .void⟩ []] := by
  have fresh : "pi" ∉ [Entry.constant "e" .num, .job beep].map Entry.name := by decide
  have unused : "pi" ∉ Syntax.Stmt.namesAll beepProgram := by decide
  have accepted : compile (.build [.constant "e" .num, .job beep]) beepProgram =
    .ok [.call ⟨1, "beep", [], .void⟩ []] := rfl
  obtain ⟨number, outcome⟩ := compile_build_insert [.constant "e" .num, .job beep] []
    (.constant "pi" .num) fresh
  have same := outcome beepProgram unused
  rw [List.append_nil, accepted] at same
  exact ⟨fresh, unused, accepted, number, same⟩

end JobLang
