import JobLang.Proofs.Simplify.Redex

/-!
# Calls in simplified trees

The calls of an expression are the same after simplification, each with as many arguments, in the
order in which they are evaluated. A chunk loses only the calls in its dead parts: the branches and
the bodies that its simplified tests, counts and bounds rule out. Whatever else a rule takes away
has no call in it.
-/
namespace JobLang.Typed

/-- A call in a tree, by the job and the number of arguments. -/
structure Call where
  callee : Job
  arity : Nat
deriving DecidableEq

namespace Expr

mutual

/-- The calls in an expression, in the order of evaluation. -/
def calls : Expr → List Call
  | .lit .. | .var .. => []
  | .binary _ left right _ => left.calls ++ right.calls
  | .unary _ operand _ => operand.calls
  | .call callee args _ => callsAll args ++ [⟨callee, args.length⟩]

def callsAll : List Expr → List Call
  | [] => []
  | e :: rest => e.calls ++ callsAll rest

end

theorem calls_of_containsCall : ∀ {e : Expr}, e.containsCall = false → e.calls = []
  | .lit .., _ | .var .., _ => by rw [calls]
  | .binary _ left right _, free => by
      obtain ⟨first, second⟩ := Bool.or_eq_false_iff.mp free
      rw [calls, calls_of_containsCall first, calls_of_containsCall second, List.append_nil]
  | .unary _ operand _, free => by
      rw [containsCall] at free
      rw [calls, calls_of_containsCall free]

theorem calls_of_isLiteral {e : Expr} (literal : e.isLiteral = true) : e.calls = [] :=
  calls_of_containsCall (containsCall_of_isLiteral literal)

theorem Outcome.calls_eq {op : BinaryOp} {left right e : Expr} {note : Note}
    (outcome : Outcome op left right note e) : e.calls = left.calls ++ right.calls := by
  cases outcome with
  | folded computed =>
    obtain ⟨a, b, left?, right?, _⟩ := value?_of_foldBinary? computed
    rw [calls_of_isLiteral (isLiteral_of_value? left?),
      calls_of_isLiteral (isLiteral_of_value? right?), calls, List.append_nil]
  | keepsLeft neutral _ => rw [calls_of_isLiteral neutral, List.append_nil]
  | keepsRight neutral _ => rw [calls_of_isLiteral neutral, List.nil_append]
  | negated _ zero _ => rw [calls_of_isLiteral zero, List.nil_append, calls]
  | absorbed _ first second =>
    rw [calls_of_containsCall first, calls_of_containsCall second, calls, List.append_nil]
  | stays _ => rw [calls]

theorem calls_simplifyUnary (op : UnaryOp) (operand : Expr) (note : Note) :
    (simplifyUnary op operand note).calls = operand.calls := by
  rw [simplifyUnary]
  cases computed : foldUnary? op operand with
  | some value =>
    obtain ⟨a, operand?, _⟩ := value?_of_foldUnary? computed
    rw [calls_of_isLiteral (isLiteral_of_value? operand?), calls]
  | none => rw [calls]

mutual

/-- Simplification keeps the calls of an expression. -/
theorem calls_simplify : ∀ e : Expr, e.simplify.calls = e.calls
  | .lit .. | .var .. => by rw [simplify]
  | .binary op left right note => by
      have outcome := outcome_simplifyBinary op left.simplify right.simplify note
      rw [simplify, outcome.calls_eq, calls_simplify left, calls_simplify right, calls]
  | .unary op operand note => by
      rw [simplify, calls_simplifyUnary, calls_simplify operand, calls]
  | .call callee args note => by
      rw [simplify, calls, calls, callsAll_simplifyAll args, simplifyAll_eq_map, List.length_map]

theorem callsAll_simplifyAll : ∀ es : List Expr, callsAll (simplifyAll es) = callsAll es
  | [] => by rw [simplifyAll]
  | e :: rest => by
      rw [simplifyAll, callsAll, callsAll, calls_simplify e, callsAll_simplifyAll rest]

end

theorem calls_of_simplify_isLiteral {e : Expr} (literal : e.simplify.isLiteral = true) :
    e.calls = [] := by
  rw [← calls_simplify, calls_of_isLiteral literal]

theorem calls_of_simplify_var {e : Expr} {v : Variable} {note : Note}
    (reads : e.simplify = .var v note) : e.calls = [] := by
  rw [← calls_simplify, reads, calls]

end Expr

namespace Stmt

mutual

/-- A statement without its dead parts, which are empty chunks instead. -/
def prune : Stmt → Stmt
  | .job j params body => .job j params (pruneAll body)
  | .ifThen test body =>
    .ifThen test (if verdict? test.simplify = some false then [] else pruneAll body)
  | .ifElse test body alternative =>
    .ifElse test (if verdict? test.simplify = some false then [] else pruneAll body)
      (if verdict? test.simplify = some true then [] else pruneAll alternative)
  | .whileLoop test body =>
    .whileLoop test (if test.simplify.isBaal false then [] else pruneAll body)
  | .repeatLoop count body =>
    .repeatLoop count (if count.simplify.isNum 0 then [] else pruneAll body)
  | .coil counter low high body =>
    .coil counter low high (if isEmptyRange low.simplify high.simplify then [] else pruneAll body)
  | .declare v init => .declare v init
  | .assign target source => .assign target source
  | .print value => .print value
  | .output value => .output value
  | .increment target => .increment target
  | .decrement target => .decrement target
  | .call callee args => .call callee args

/-- A chunk without its dead parts. -/
def pruneAll : List Stmt → List Stmt
  | [] => []
  | s :: rest => s.prune :: pruneAll rest

end

mutual

/-- The tests, counts, bounds and sources that a rule takes away, at any depth. -/
def discarded : Stmt → List Expr
  | .assign target source => if isSelfAssignment target source.simplify then [source] else []
  | .job _ _ body => discardedAll body
  | .ifThen test body =>
    (if (verdict? test.simplify).isSome then [test] else []) ++ discardedAll body
  | .ifElse test body alternative =>
    (if (verdict? test.simplify).isSome then [test] else []) ++
      (discardedAll body ++ discardedAll alternative)
  | .whileLoop test body => (if test.simplify.isBaal false then [test] else []) ++ discardedAll body
  | .repeatLoop count body => (if count.simplify.isNum 0 then [count] else []) ++ discardedAll body
  | .coil _ low high body =>
    (if isEmptyRange low.simplify high.simplify then [low, high] else []) ++ discardedAll body
  | .declare .. | .print _ | .output _ | .increment _ | .decrement _ | .call .. => []

def discardedAll : List Stmt → List Expr
  | [] => []
  | s :: rest => s.discarded ++ discardedAll rest

end

mutual

/-- The calls in a statement, in the order of evaluation, with every part run once. -/
def calls : Stmt → List Call
  | .declare _ init => init.calls
  | .job _ _ body => callsAll body
  | .assign _ source => source.calls
  | .print value | .output value => value.calls
  | .ifThen test body | .whileLoop test body | .repeatLoop test body => test.calls ++ callsAll body
  | .ifElse test body alternative => test.calls ++ (callsAll body ++ callsAll alternative)
  | .coil _ low high body => low.calls ++ (high.calls ++ callsAll body)
  | .increment _ | .decrement _ => []
  | .call callee args => Expr.callsAll args ++ [⟨callee, args.length⟩]

def callsAll : List Stmt → List Call
  | [] => []
  | s :: rest => s.calls ++ callsAll rest

end

theorem callsAll_append (first second : List Stmt) :
    callsAll (first ++ second) = callsAll first ++ callsAll second :=
  append_of_cons rfl (fun _ _ => rfl) first second

theorem callsAll_singleton (s : Stmt) : callsAll [s] = s.calls := by
  rw [callsAll, callsAll, List.append_nil]

section Discarded
variable {test low high : Expr}

theorem calls_of_verdict? {b : Bool} (verdict : verdict? test.simplify = some b) :
    test.calls = [] :=
  Expr.calls_of_simplify_isLiteral (Expr.isLiteral_of_value? (value?_of_verdict? verdict))

theorem calls_of_isEmptyRange (empty : isEmptyRange low.simplify high.simplify = true) :
    low.calls = [] ∧ high.calls = [] := by
  obtain ⟨x, y, low?, high?, _⟩ := value?_of_isEmptyRange empty
  exact ⟨Expr.calls_of_simplify_isLiteral (Expr.isLiteral_of_value? low?),
    Expr.calls_of_simplify_isLiteral (Expr.isLiteral_of_value? high?)⟩

theorem calls_of_isSelfAssignment {target : Variable} {source : Expr}
    (self : isSelfAssignment target source.simplify = true) : source.calls = [] := by
  obtain ⟨v, note, reads, _⟩ := eq_var_of_isSelfAssignment self
  exact Expr.calls_of_simplify_var reads

end Discarded

mutual

/-- The statements that take the place of a statement have the calls of its live parts. -/
theorem callsAll_simplify : ∀ s : Stmt, callsAll s.simplify = s.prune.calls
  | .declare v init => by
      rw [simplify, prune, callsAll_singleton, calls, calls, Expr.calls_simplify]
  | .job j params body => by
      rw [simplify, prune, callsAll_singleton, calls, calls, callsAll_simplifyAll body]
  | .assign target source => by
      rw [simplify, prune, calls]
      split
      · next self => rw [callsAll, calls_of_isSelfAssignment self]
      · rw [callsAll_singleton, calls, Expr.calls_simplify]
  | .print value | .output value => by
      rw [simplify, prune, callsAll_singleton, calls, calls, Expr.calls_simplify]
  | .ifThen test body => by
      rw [simplify, prune, calls]
      cases verdict : verdict? test.simplify with
      | none =>
        rw [callsAll_singleton, calls, Expr.calls_simplify, callsAll_simplifyAll body]
        rfl
      | some holds =>
        rw [calls_of_verdict? verdict, List.nil_append]
        cases holds with
        | true => exact callsAll_simplifyAll body
        | false => rfl
  | .ifElse test body alternative => by
      rw [simplify, prune, calls]
      cases verdict : verdict? test.simplify with
      | none =>
        rw [callsAll_singleton, calls, Expr.calls_simplify, callsAll_simplifyAll body,
          callsAll_simplifyAll alternative]
        rfl
      | some holds =>
        rw [calls_of_verdict? verdict, List.nil_append]
        cases holds with
        | true => exact (callsAll_simplifyAll body).trans (List.append_nil _).symm
        | false => exact callsAll_simplifyAll alternative
  | .whileLoop test body => by
      rw [simplify, prune, calls]
      split
      · next never =>
        rw [Expr.calls_of_simplify_isLiteral (Expr.isLiteral_of_isBaal never)]
        rfl
      · rw [callsAll_singleton, calls, Expr.calls_simplify, callsAll_simplifyAll body]
  | .repeatLoop count body => by
      rw [simplify, prune, calls]
      split
      · next never =>
        rw [Expr.calls_of_simplify_isLiteral (Expr.isLiteral_of_isNum never)]
        rfl
      · rw [callsAll_singleton, calls, Expr.calls_simplify, callsAll_simplifyAll body]
  | .coil counter low high body => by
      rw [simplify, prune, calls]
      split
      · next never =>
        obtain ⟨lower, upper⟩ := calls_of_isEmptyRange never
        rw [lower, upper]
        rfl
      · rw [callsAll_singleton, calls, Expr.calls_simplify, Expr.calls_simplify,
          callsAll_simplifyAll body]
  | .increment target | .decrement target => by rw [simplify, prune, callsAll_singleton]
  | .call callee args => by
      rw [simplify, prune, callsAll_singleton, calls, calls, Expr.callsAll_simplifyAll,
        Expr.simplifyAll_eq_map, List.length_map]

theorem callsAll_simplifyAll : ∀ chunk : List Stmt,
    callsAll (simplifyAll chunk) = callsAll (pruneAll chunk)
  | [] => by rw [simplifyAll, pruneAll]
  | s :: rest => by
      rw [simplifyAll, pruneAll, callsAll_append, callsAll, callsAll_simplify s,
        callsAll_simplifyAll rest]

end

/-- Expressions without calls. -/
def CallFree (es : List Expr) : Prop := ∀ e ∈ es, e.calls = []

namespace CallFree
variable {first second : List Expr} {e : Expr} {p : Prop} [Decidable p]

theorem nil : CallFree [] := by
  intro e member
  cases member

theorem append (left : CallFree first) (right : CallFree second) : CallFree (first ++ second) := by
  intro e member
  rcases List.mem_append.mp member with member | member
  · exact left e member
  · exact right e member

theorem cons (head : e.calls = []) (tail : CallFree second) : CallFree (e :: second) :=
  List.forall_mem_cons.mpr ⟨head, tail⟩

theorem when (free : p → CallFree first) : CallFree (if p then first else []) := by
  split
  · next holds => exact free holds
  · exact nil

end CallFree

theorem callFree_verdict (test : Expr) :
    CallFree (if (verdict? test.simplify).isSome then [test] else []) :=
  .when fun known => by
    obtain ⟨b, verdict⟩ := Option.isSome_iff_exists.mp known
    exact .cons (calls_of_verdict? verdict) .nil

mutual

theorem callFree_discarded : ∀ s : Stmt, CallFree s.discarded
  | .assign target source => by
      rw [discarded]
      exact .when fun self => .cons (calls_of_isSelfAssignment self) .nil
  | .job j params body => by
      rw [discarded]
      exact callFree_discardedAll body
  | .ifThen test body => by
      rw [discarded]
      exact (callFree_verdict test).append (callFree_discardedAll body)
  | .ifElse test body alternative => by
      rw [discarded]
      have bodies := (callFree_discardedAll body).append (callFree_discardedAll alternative)
      exact (callFree_verdict test).append bodies
  | .whileLoop test body => by
      rw [discarded]
      refine .append (.when fun never => ?_) (callFree_discardedAll body)
      exact .cons (Expr.calls_of_simplify_isLiteral (Expr.isLiteral_of_isBaal never)) .nil
  | .repeatLoop count body => by
      rw [discarded]
      refine .append (.when fun never => ?_) (callFree_discardedAll body)
      exact .cons (Expr.calls_of_simplify_isLiteral (Expr.isLiteral_of_isNum never)) .nil
  | .coil counter low high body => by
      rw [discarded]
      refine .append (.when fun never => ?_) (callFree_discardedAll body)
      obtain ⟨lower, upper⟩ := calls_of_isEmptyRange never
      exact .cons lower (.cons upper .nil)
  | .declare .. | .print _ | .output _ | .increment _ | .decrement _ | .call .. => by
      rw [discarded]
      exact .nil

theorem callFree_discardedAll : ∀ chunk : List Stmt, CallFree (discardedAll chunk)
  | [] => .nil
  | s :: rest => by
      rw [discardedAll]
      exact (callFree_discarded s).append (callFree_discardedAll rest)

end

/-- No call is dropped, made twice or moved. A simplified expression has the calls it had, with as
many arguments and in the same order. A simplified chunk has the calls of its live parts, and the
tests, counts, bounds and sources that were taken away had none. -/
theorem calls_simplify_and_callFree_discarded :
    (∀ e : Expr, e.simplify.calls = e.calls) ∧
    (∀ chunk : List Stmt, callsAll (simplifyAll chunk) = callsAll (pruneAll chunk)) ∧
    ∀ chunk : List Stmt, CallFree (discardedAll chunk) :=
  ⟨Expr.calls_simplify, callsAll_simplifyAll, callFree_discardedAll⟩

end Stmt
end JobLang.Typed
