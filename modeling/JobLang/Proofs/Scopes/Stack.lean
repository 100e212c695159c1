import JobLang.Proofs.Check.Lineage

/-!
# Scopes as a stack

Scopes are kept after they have been left, and a scope may be added below any number, even one that
no scope has. None of this can be seen from the current scope: what is answered there is what a
stack answers on which entering a scope puts an empty layer, and from which leaving it takes that
layer away.
-/
namespace JobLang

/-- The names bound in one scope, and the job whose body the scope belongs to. -/
structure Layer where
  binding : String → Option Entity
  job : Option Job

namespace Layer

def blank (job : Option Job) : Layer := ⟨fun _ => none, job⟩

def bind (layer : Layer) (name : String) (entity : Entity) : Layer :=
  { layer with binding := fun key => if key = name then some entity else layer.binding key }

end Layer

/-- The innermost layer and the layers below it; there is no empty stack. -/
structure Stack where
  top : Layer
  below : List Layer

namespace Stack

def root : Stack := ⟨.blank none, []⟩

def enter (stack : Stack) (job : Option Job) : Stack :=
  ⟨.blank (job.or stack.top.job), stack.top :: stack.below⟩

def leave (stack : Stack) : Stack :=
  match stack.below with
  | [] => stack
  | layer :: below => ⟨layer, below⟩

def declare (stack : Stack) (name : String) (entity : Entity) (position : Option Position) :
    Except Diagnostic Stack :=
  match stack.top.binding name with
  | some _ => .error ⟨.duplicateDeclaration name, position⟩
  | none => .ok { stack with top := stack.top.bind name entity }

/-- What the innermost layer that binds a name binds it to. -/
def find? (stack : Stack) (name : String) : Option Entity :=
  (stack.top :: stack.below).findSome? (·.binding name)

def resolve (stack : Stack) (name : String) (position : Option Position) :
    Except Diagnostic Entity :=
  match stack.find? name with
  | some entity => .ok entity
  | none => .error ⟨.undeclaredIdentifier name, position⟩

def resolveAs (stack : Stack) (name : String) (kind : Kind) (position : Option Position) :
    Except Diagnostic Entity :=
  match stack.find? name with
  | some entity =>
    if entity.kind = kind then .ok entity
    else .error ⟨.typeMismatch kind.render entity.kind.render, position⟩
  | none => .error ⟨.undeclaredIdentifier name, position⟩

def resolveVariable (stack : Stack) (name : String) (position : Option Position) :
    Except Diagnostic Variable :=
  match stack.find? name with
  | some (.var v) => .ok v
  | some (.job _) => .error ⟨.typeMismatch Kind.var.render Kind.job.render, position⟩
  | none => .error ⟨.undeclaredIdentifier name, position⟩

end Stack

/-- What can be asked of scopes, or of a stack. -/
inductive Request
  /-- Adds a scope below the one of any number, without moving into it. -/
  | addChild (parent : Nat) (job : Option Job)
  | enter (job : Option Job)
  | leave
  | declare (name : String) (entity : Entity) (position : Option Position)
  | resolve (name : String) (position : Option Position)
  | resolveAs (name : String) (kind : Kind) (position : Option Position)
  | resolveVariable (name : String) (position : Option Position)
  | enclosingJob

/-- What comes back. The numbers of scopes are not answers. -/
inductive Answer
  | declared (outcome : Except Diagnostic Unit)
  | entity (outcome : Except Diagnostic Entity)
  | var (outcome : Except Diagnostic Variable)
  | job (found : Option Job)

/-- Something that takes requests. Each has a state after it, and some have an answer. -/
structure Machine (σ : Type) where
  answer? : σ → Request → Option Answer
  after : σ → Request → σ

namespace Machine
variable {σ τ : Type}

/-- The answers to requests that are made one after another. -/
def answers (machine : Machine σ) : σ → List Request → List Answer
  | _, [] => []
  | state, request :: rest =>
    (machine.answer? state request).toList ++ machine.answers (machine.after state request) rest

def afterAll (machine : Machine σ) : σ → List Request → σ := List.foldl machine.after

end Machine

/-- The outcome of a declaration, without the state that it makes. -/
def Answer.ofDeclared {α : Type} : Except Diagnostic α → Answer
  | .ok _ => .declared (.ok ())
  | .error d => .declared (.error d)

/-- The state after a declaration, which a fault leaves as it was. -/
def stateAfter {σ : Type} (before : σ) : Except Diagnostic σ → σ
  | .ok after => after
  | .error _ => before

def Scopes.machine : Machine Scopes where
  answer?
    | _, .addChild .. | _, .enter _ | _, .leave => none
    | scopes, .declare name entity position =>
      some (.ofDeclared (scopes.declare name entity position))
    | scopes, .resolve name position => some (.entity (scopes.resolve name position))
    | scopes, .resolveAs name kind position =>
      some (.entity (scopes.resolveAs name kind position))
    | scopes, .resolveVariable name position =>
      some (.var (scopes.resolveVariable name position))
    | scopes, .enclosingJob => some (.job scopes.enclosingJob?)
  after
    | scopes, .addChild parent job => (scopes.addChild parent job).2
    | scopes, .enter job => scopes.enter job
    | scopes, .leave => scopes.leave
    | scopes, .declare name entity position =>
      stateAfter scopes (scopes.declare name entity position)
    | scopes, .resolve .. | scopes, .resolveAs .. | scopes, .resolveVariable ..
    | scopes, .enclosingJob => scopes

/-- A stack takes no notice of scopes that are not moved into. -/
def Stack.machine : Machine Stack where
  answer?
    | _, .addChild .. | _, .enter _ | _, .leave => none
    | stack, .declare name entity position =>
      some (.ofDeclared (stack.declare name entity position))
    | stack, .resolve name position => some (.entity (stack.resolve name position))
    | stack, .resolveAs name kind position => some (.entity (stack.resolveAs name kind position))
    | stack, .resolveVariable name position =>
      some (.var (stack.resolveVariable name position))
    | stack, .enclosingJob => some (.job stack.top.job)
  after
    | stack, .enter job => stack.enter job
    | stack, .leave => stack.leave
    | stack, .declare name entity position =>
      stateAfter stack (stack.declare name entity position)
    | stack, .addChild .. | stack, .resolve .. | stack, .resolveAs .. | stack, .resolveVariable ..
    | stack, .enclosingJob => stack

/-- The layer that a scope amounts to. -/
def Scope.layer (scope : Scope) : Layer := ⟨scope.find?, scope.job⟩

theorem Scope.layer_extend (scope : Scope) (name : String) (entity : Entity) :
    (scope.extend [(name, entity)]).layer = scope.layer.bind name entity := by
  have binding : (scope.extend [(name, entity)]).find? =
      (scope.layer.bind name entity).binding := by
    funext key
    change List.lookup key ((name, entity) :: scope.bindings) = _
    rw [List.lookup_cons]
    by_cases same : key = name
    · simp [Layer.bind, same]
    · have other : (key == name) = false := beq_false_of_ne same
      simp [Layer.bind, same, other, Scope.layer, Scope.find?]
  rw [Scope.layer, binding]
  rfl

namespace Arena

/-- The layers that parent links lead through, from the scope with a number to one without a parent.
Each link goes to an older scope. -/
inductive Chain (arena : Arena) : Nat → List Layer → Prop
  | outermost {id : Nat} {scope : Scope} (found : arena.get? id = some scope)
      (first : scope.parent = none) : Chain arena id [scope.layer]
  | inner {id parent : Nat} {scope : Scope} {layers : List Layer}
      (found : arena.get? id = some scope) (link : scope.parent = some parent)
      (older : parent < id) (around : Chain arena parent layers) :
      Chain arena id (scope.layer :: layers)

/-- A scope whose parent is older is followed in its lineage by the lineage of the parent. -/
theorem lineage_of_get? {arena : Arena} {id : Nat} {scope : Scope}
    (found : arena.get? id = some scope) (older : ∀ parent ∈ scope.parent, parent < id) :
    arena.lineage id = scope :: match scope.parent with
      | some parent => arena.lineage parent
      | none => [] := by
  induction arena with
  | nil => cases found
  | cons newest elders ih =>
    have skip (parent : Nat) (elder : parent < elders.length) :
        lineage (newest :: elders) parent = lineage elders parent :=
      lineage_append elder [newest]
    rw [get?] at found
    split at found
    · next here =>
      cases found
      rw [lineage, if_pos here]
      cases link : scope.parent with
      | none => rfl
      | some parent =>
        have elder := older parent link
        simp only [skip parent (by omega)]
    · next elsewhere =>
      have made := lt_length_of_get? found
      rw [skip id made, ih found]
      cases link : scope.parent with
      | none => rfl
      | some parent =>
        have elder := older parent link
        simp only [skip parent (by omega)]

namespace Chain
variable {arena : Arena} {id : Nat} {layers : List Layer}

theorem lt_length : arena.Chain id layers → id < arena.length
  | outermost found _ | inner found _ _ _ => lt_length_of_get? found

/-- A name is looked up in the layers of the chain. -/
theorem map_lineage (chain : arena.Chain id layers) :
    (arena.lineage id).map Scope.layer = layers := by
  induction chain with
  | outermost found first =>
    rw [lineage_of_get? found (by simp [first]), first]
    rfl
  | inner found link older _ ih =>
    rw [lineage_of_get? found (by simpa [link] using older), link, List.map_cons, ih]

/-- A new scope is in no chain of the scopes before it, whatever its parent is. -/
theorem cons (chain : arena.Chain id layers) (scope : Scope) :
    Chain (scope :: arena) id layers := by
  have kept {id : Nat} {old : Scope} (found : arena.get? id = some old) :
      Arena.get? (scope :: arena) id = some old := by
    rw [← found]
    exact get?_append (lt_length_of_get? found) [scope]
  induction chain with
  | outermost found first => exact .outermost (kept found) first
  | inner found link older _ ih => exact .inner (kept found) link older ih

/-- Scopes that are newer than a chain can be changed. -/
theorem modify_newer (chain : arena.Chain id layers) {target : Nat} (newer : id < target)
    (f : Scope → Scope) : Chain (arena.modify f target) id layers := by
  have kept {id : Nat} {old : Scope} (found : arena.get? id = some old) (newer : id < target) :
      (arena.modify f target).get? id = some old := by
    rw [get?_modify, if_neg (Nat.ne_of_lt newer), found]
  induction chain with
  | outermost found first => exact .outermost (kept found newer) first
  | inner found link older _ ih =>
    exact .inner (kept found newer) link older (ih (by omega))

/-- A binding in the scope that a chain starts from is one in its first layer. -/
theorem bind {layer : Layer} (chain : arena.Chain id (layer :: layers)) (name : String)
    (entity : Entity) :
    Chain (arena.modify (Scope.extend [(name, entity)]) id) id
      (layer.bind name entity :: layers) := by
  have changed {scope : Scope} (found : arena.get? id = some scope) :
      (arena.modify (Scope.extend [(name, entity)]) id).get? id =
        some (scope.extend [(name, entity)]) := by
    rw [get?_modify, if_pos rfl, found]
    rfl
  cases chain with
  | outermost found first =>
    rw [← Scope.layer_extend]
    exact .outermost (changed found) first
  | inner found link older around =>
    rw [← Scope.layer_extend]
    exact .inner (changed found) link older (around.modify_newer older _)

end Chain
end Arena

/-- The chain of the current scope is the given stack. -/
def Scopes.Shows (scopes : Scopes) (stack : Stack) : Prop :=
  scopes.arena.Chain scopes.current (stack.top :: stack.below)

namespace Scopes.Shows
variable {scopes : Scopes} {stack : Stack}

theorem root : Scopes.root.Shows Stack.root := by
  have found : Scopes.root.get? 0 = some ⟨none, none, []⟩ := rfl
  exact .outermost found rfl

theorem current (shows : scopes.Shows stack) :
    ∃ scope, scopes.get? scopes.current = some scope ∧ scope.layer = stack.top := by
  obtain ⟨top, below⟩ := stack
  cases shows with
  | outermost found _ | inner found _ _ _ => exact ⟨_, found, rfl⟩

theorem find? (shows : scopes.Shows stack) (name : String) :
    scopes.find? name = stack.find? name := by
  rw [Stack.find?, ← shows.map_lineage, List.findSome?_map]
  rfl

theorem enclosingJob? (shows : scopes.Shows stack) : scopes.enclosingJob? = stack.top.job := by
  obtain ⟨scope, found, layer⟩ := shows.current
  rw [Scopes.enclosingJob?, found, ← layer]
  rfl

theorem addChild (shows : scopes.Shows stack) (parent : Nat) (job : Option Job) :
    (scopes.addChild parent job).2.Shows stack := shows.cons _

theorem enter (shows : scopes.Shows stack) (job : Option Job) :
    (scopes.enter job).Shows (stack.enter job) := by
  have made : Arena.get? (scopes.enter job).arena (scopes.enter job).current =
      some ⟨some scopes.current, job.or stack.top.job, []⟩ := by
    rw [← shows.enclosingJob?]
    exact if_pos rfl
  exact .inner made rfl shows.lt_length (shows.cons _)

theorem leave (shows : scopes.Shows stack) : scopes.leave.Shows stack.leave := by
  obtain ⟨top, below⟩ := stack
  cases shows with
  | outermost found first =>
    have stays : scopes.leave = scopes := by
      rw [Scopes.leave, Scopes.get?, found, Option.bind_some, first]
    rw [stays]
    exact .outermost found first
  | @inner _ parent scope _ found link older around =>
    have moves : scopes.leave = { scopes with current := parent } := by
      rw [Scopes.leave, Scopes.get?, found, Option.bind_some, link]
    rw [moves]
    cases around with
    | outermost found first => exact .outermost found first
    | inner found link older around => exact .inner found link older around

/-- Both declare a name, or both find it bound already. -/
theorem declare (shows : scopes.Shows stack) (name : String) (entity : Entity)
    (position : Option Position) :
    (∃ after layered, scopes.declare name entity position = .ok after ∧
      stack.declare name entity position = .ok layered ∧ after.Shows layered) ∨
    ∃ d, scopes.declare name entity position = .error d ∧
      stack.declare name entity position = .error d := by
  obtain ⟨scope, found, layer⟩ := shows.current
  have same : scope.find? name = stack.top.binding name := by rw [← layer]; rfl
  rw [Scopes.declare, found, Option.bind_some, same, Stack.declare]
  cases stack.top.binding name with
  | some bound => exact .inr ⟨_, rfl, rfl⟩
  | none => exact .inl ⟨_, _, rfl, rfl, shows.bind name entity⟩

theorem resolve (shows : scopes.Shows stack) (name : String) (position : Option Position) :
    scopes.resolve name position = stack.resolve name position := by
  rw [Scopes.resolve, shows.find?]
  rfl

theorem resolveAs (shows : scopes.Shows stack) (name : String) (kind : Kind)
    (position : Option Position) :
    scopes.resolveAs name kind position = stack.resolveAs name kind position := by
  rw [Scopes.resolveAs, shows.resolve, Stack.resolve, Stack.resolveAs]
  cases stack.find? name <;> rfl

theorem resolveVariable (shows : scopes.Shows stack) (name : String)
    (position : Option Position) :
    scopes.resolveVariable name position = stack.resolveVariable name position := by
  rw [Scopes.resolveVariable, shows.resolve, Stack.resolve, Stack.resolveVariable]
  cases stack.find? name with
  | none => rfl
  | some entity => cases entity <;> rfl

/-- A request is answered alike, and leads to scopes that show the stack it leads to. -/
theorem step (shows : scopes.Shows stack) (request : Request) :
    Scopes.machine.answer? scopes request = Stack.machine.answer? stack request ∧
      (Scopes.machine.after scopes request).Shows (Stack.machine.after stack request) := by
  cases request with
  | addChild parent job => exact ⟨rfl, shows.addChild parent job⟩
  | enter job => exact ⟨rfl, shows.enter job⟩
  | leave => exact ⟨rfl, shows.leave⟩
  | declare name entity position =>
    simp only [Scopes.machine, Stack.machine]
    rcases shows.declare name entity position with
      ⟨after, layered, ran, ran', next⟩ | ⟨d, ran, ran'⟩
    · rw [ran, ran']
      exact ⟨rfl, next⟩
    · rw [ran, ran']
      exact ⟨rfl, shows⟩
  | resolve name position =>
    refine ⟨?_, shows⟩
    simp only [Scopes.machine, Stack.machine, shows.resolve]
  | resolveAs name kind position =>
    refine ⟨?_, shows⟩
    simp only [Scopes.machine, Stack.machine, shows.resolveAs]
  | resolveVariable name position =>
    refine ⟨?_, shows⟩
    simp only [Scopes.machine, Stack.machine, shows.resolveVariable]
  | enclosingJob =>
    refine ⟨?_, shows⟩
    simp only [Scopes.machine, Stack.machine, shows.enclosingJob?]

theorem answers (shows : scopes.Shows stack) (requests : List Request) :
    Scopes.machine.answers scopes requests = Stack.machine.answers stack requests := by
  induction requests generalizing scopes stack with
  | nil => rfl
  | cons request rest ih =>
    obtain ⟨same, next⟩ := shows.step request
    rw [Machine.answers, Machine.answers, same, ih next]

theorem afterAll (shows : scopes.Shows stack) (requests : List Request) :
    (Scopes.machine.afterAll scopes requests).Shows (Stack.machine.afterAll stack requests) := by
  induction requests generalizing scopes stack with
  | nil => exact shows
  | cons request rest ih => exact ih (shows.step request).2

end Scopes.Shows

/-- A scope that is added without moving into it. -/
def Request.isDetached : Request → Bool
  | .addChild .. => true
  | _ => false

theorem Stack.answers_attached (stack : Stack) (requests : List Request) :
    Stack.machine.answers stack (requests.filter (!·.isDetached)) =
      Stack.machine.answers stack requests := by
  induction requests generalizing stack with
  | nil => rfl
  | cons request rest ih =>
    cases request with
    | addChild parent job => exact ih stack
    | enter | leave | declare | resolve | resolveAs | resolveVariable | enclosingJob =>
      rw [List.filter_cons_of_pos rfl, Machine.answers, Machine.answers, ih]

/-- Every scope that is entered is left, and no other one, after the given number of scopes has been
entered already. -/
def Request.balancedFrom : Nat → List Request → Bool
  | depth, [] => depth = 0
  | depth, .enter _ :: rest => balancedFrom (depth + 1) rest
  | 0, .leave :: _ => false
  | depth + 1, .leave :: rest => balancedFrom depth rest
  | depth, _ :: rest => balancedFrom depth rest

/-- Requests that leave what they enter change the innermost of the layers below them at most. -/
theorem Stack.below_afterAll (stack : Stack) {depth : Nat} {requests : List Request}
    (balanced : Request.balancedFrom depth requests = true) (deep : depth ≤ stack.below.length) :
    (Stack.machine.afterAll stack requests).below = stack.below.drop depth := by
  induction requests generalizing stack depth with
  | nil =>
    cases of_decide_eq_true balanced
    rfl
  | cons request rest ih =>
    cases request with
    | enter job =>
      exact ih (stack.enter job) balanced (Nat.succ_le_succ deep)
    | leave =>
      obtain ⟨top, below⟩ := stack
      cases depth with
      | zero => cases balanced
      | succ depth =>
        cases below with
        | nil => cases deep
        | cons layer below =>
          exact ih ⟨layer, below⟩ balanced (Nat.le_of_succ_le_succ deep)
    | declare name entity position =>
      have same : (Stack.machine.after stack (.declare name entity position)).below =
          stack.below := by
        simp only [Stack.machine, Stack.declare]
        cases stack.top.binding name <;> rfl
      rw [← same] at deep ⊢
      exact ih _ (by cases depth <;> exact balanced) deep
    | addChild | resolve | resolveAs | resolveVariable | enclosingJob =>
      exact ih stack (by cases depth <;> exact balanced) deep

/-- A scope that is entered and left again leaves the stack as it was. -/
theorem Stack.afterAll_scope (stack : Stack) (job : Option Job) {body : List Request}
    (balanced : Request.balancedFrom 0 body = true) :
    Stack.machine.afterAll stack (.enter job :: body ++ [.leave]) = stack := by
  have below := Stack.below_afterAll (stack.enter job) balanced (Nat.zero_le _)
  change Stack.machine.afterAll (stack.enter job) (body ++ [.leave]) = stack
  rw [Machine.afterAll, List.foldl_append]
  change (Stack.machine.afterAll (stack.enter job) body).leave = stack
  rw [Stack.leave, below]
  rfl

/-- Scopes answer every request as a stack does. A scope that is never moved into has no part in the
answers, and neither has one that has been left, with all that was done in it. -/
theorem answers_root (requests : List Request) :
    Scopes.machine.answers .root requests = Stack.machine.answers .root requests ∧
    Scopes.machine.answers .root (requests.filter (!·.isDetached)) =
      Scopes.machine.answers .root requests ∧
    ∀ (job : Option Job) (body later : List Request), Request.balancedFrom 0 body = true →
      Scopes.machine.answers
          (Scopes.machine.afterAll .root (requests ++ (.enter job :: body ++ [.leave]))) later =
        Scopes.machine.answers (Scopes.machine.afterAll .root requests) later := by
  have fresh := Scopes.Shows.root
  refine ⟨fresh.answers requests, ?_, fun job body later balanced => ?_⟩
  · rw [fresh.answers, fresh.answers, Stack.answers_attached]
  · have before := fresh.afterAll requests
    have behind := before.afterAll (.enter job :: body ++ [.leave])
    rw [Stack.afterAll_scope _ job balanced] at behind
    rw [before.answers, Machine.afterAll, List.foldl_append]
    exact behind.answers later

/-- A name that is bound once more in a scope, beside one whose parent is itself, means what it
meant before as soon as the scope has been left. -/
theorem answers_behind_shadowing :
    let outer : Entity := .var ⟨0, "x", .num, false⟩
    let inner : Entity := .var ⟨1, "x", .quote, false⟩
    let body : List Request := [.addChild 2 none, .declare "x" inner none]
    Request.balancedFrom 0 body = true ∧
    Scopes.machine.answers
        (Scopes.machine.afterAll .root
          ([.declare "x" outer none] ++ (.enter none :: body ++ [.leave])))
        [.resolve "x" none] = [.entity (.ok outer)] := by
  intro outer inner body
  obtain ⟨_, _, left⟩ := answers_root [.declare "x" outer none]
  exact ⟨rfl, (left none body [.resolve "x" none] rfl).trans rfl⟩

end JobLang
