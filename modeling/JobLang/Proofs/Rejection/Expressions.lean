import JobLang.Proofs.Check.Elaboration

/-!
# What can be wrong with an expression

An expression that the reference rejects has a part that is rejected itself, while what the part is
made of is accepted. What can be wrong with a token, a call or an expression itself is listed here,
one rule for each fault, with the condition under which it is found and the place that it is
reported at. Facts about diagnostics are proved by cases on these rules.
-/
namespace JobLang

section Outcomes
variable {α β : Type} {d : Diagnostic}

theorem bind_eq_error {x : Except Diagnostic α} {f : α → Except Diagnostic β} :
    x >>= f = .error d ↔ x = .error d ∨ ∃ a, x = .ok a ∧ f a = .error d := by
  cases x <;> simp [bind, Except.bind]

theorem return_eq_error {a : α} : (pure a : Except Diagnostic α) = .error d ↔ False := by
  simp [pure, Except.pure]

variable {p : Prop} [Decidable p] {a : α} {d' : Diagnostic}

theorem allow_eq_error :
    (if p then pure a else .error d' : Except Diagnostic α) = .error d ↔ ¬p ∧ d' = d := by
  by_cases allowed : p
  · simp [allowed, return_eq_error]
  · simp [allowed]

theorem refuse_eq_error :
    (if p then .error d' else pure a : Except Diagnostic α) = .error d ↔ p ∧ d' = d := by
  by_cases refused : p
  · simp [refused]
  · simp [refused, return_eq_error]

end Outcomes

/-- What a name is used for. -/
inductive Manner
  | read
  | write
  | call
deriving DecidableEq

/-- What is wrong with a name that is used in the given manner. -/
inductive Env.Misused (env : Env) (token : Token) : Manner → Diagnostic → Prop
  | malformed (manner : Manner) (form : token.isIdentifier = false) :
      Misused env token manner token.malformed
  | undeclared (manner : Manner) (form : token.isIdentifier = true)
      (absent : env.find? token.lexeme = none) :
      Misused env token manner ⟨.undeclaredIdentifier token.lexeme, token.position⟩
  | notVariable {manner : Manner} {j : Job} (refers : env.Refers token (.job j))
      (value : manner ≠ .call) :
      Misused env token manner ⟨.typeMismatch Kind.var.render Kind.job.render, token.position⟩
  | readOnly {v : Variable} (refers : env.Refers token (.var v)) (fixed : v.readOnly = true) :
      Misused env token .write ⟨.readOnlyAssignment v.name, token.position⟩
  | notJob {v : Variable} (refers : env.Refers token (.var v)) :
      Misused env token .call ⟨.notCallable v.name, token.position⟩

/-- What is wrong with a token that has to name a type of which values can be stored. -/
inductive Token.NotStorable (token : Token) : Diagnostic → Prop
  | unknown (unknown : Ty.ofName? token.lexeme = none) :
      NotStorable token ⟨.unknownType token.lexeme, token.position⟩
  | void {ty : Ty} (named : Ty.ofName? token.lexeme = some ty) (not : ty.isStorable = false) :
      NotStorable token ⟨.typeMismatch "num, baal or quote" ty.render, token.position⟩

section Tokens
variable {env : Env} {token : Token} {d : Diagnostic}

theorem Token.expectIdentifier_eq_error :
    token.expectIdentifier = .error d ↔ token.isIdentifier = false ∧ token.malformed = d := by
  rw [expectIdentifier]
  cases token.isIdentifier <;> simp

theorem Token.namedTy_eq_error : token.namedTy = .error d ↔
    Ty.ofName? token.lexeme = none ∧ ⟨.unknownType token.lexeme, token.position⟩ = d := by
  rw [namedTy]
  cases Ty.ofName? token.lexeme <;> simp

theorem Token.binaryOp_eq_error : token.binaryOp = .error d ↔
    BinaryOp.ofLexeme? token.lexeme = none ∧
      ⟨.unknownOperator token.lexeme, token.position⟩ = d := by
  rw [binaryOp]
  cases BinaryOp.ofLexeme? token.lexeme <;> simp

theorem Token.unaryOp_eq_error : token.unaryOp = .error d ↔
    UnaryOp.ofLexeme? token.lexeme = none ∧
      ⟨.unknownOperator token.lexeme, token.position⟩ = d := by
  rw [unaryOp]
  cases UnaryOp.ofLexeme? token.lexeme <;> simp

theorem notStorable_of_error (rejected : token.storableTy = .error d) : token.NotStorable d := by
  rcases bind_eq_error.mp rejected with unnamed | ⟨ty, named, rejected⟩
  · obtain ⟨unknown, rfl⟩ := Token.namedTy_eq_error.mp unnamed
    exact .unknown unknown
  · obtain ⟨not, rfl⟩ := allow_eq_error.mp rejected
    exact .void (Token.namedTy_eq_ok.mp named) (eq_false_of_ne_true not)

theorem misused_of_entity (manner : Manner) (rejected : Reference.entity env token = .error d) :
    env.Misused token manner d := by
  rcases bind_eq_error.mp rejected with misspelled | ⟨_, form, rejected⟩
  · obtain ⟨form, rfl⟩ := Token.expectIdentifier_eq_error.mp misspelled
    exact .malformed manner form
  · have form := Token.expectIdentifier_eq_ok.mp form
    cases found : env.find? token.lexeme with
    | none =>
      rw [found] at rejected
      cases rejected
      exact .undeclared manner form found
    | some entity =>
      rw [found] at rejected
      cases rejected

theorem misused_of_readable {manner : Manner} (value : manner ≠ .call)
    (rejected : Reference.readable env token = .error d) : env.Misused token manner d := by
  rcases bind_eq_error.mp rejected with unknown | ⟨entity, refers, rejected⟩
  · exact misused_of_entity manner unknown
  · cases entity with
    | var v => cases rejected
    | job j =>
      cases rejected
      exact .notVariable (Reference.entity_eq_ok.mp refers) value

theorem misused_of_writable (rejected : Reference.writable env token = .error d) :
    env.Misused token .write d := by
  rcases bind_eq_error.mp rejected with unread | ⟨v, refers, rejected⟩
  · exact misused_of_readable (by decide) unread
  · obtain ⟨fixed, rfl⟩ := refuse_eq_error.mp rejected
    exact .readOnly (Reference.readable_eq_ok.mp refers) fixed

theorem countable_eq_error (rejected : Reference.countable env token = .error d) :
    env.Misused token .write d ∨ ∃ v : Variable, env.Refers token (.var v) ∧ v.ty ≠ .num ∧
      ⟨.typeMismatch Ty.num.render v.ty.render, token.position⟩ = d := by
  rcases bind_eq_error.mp rejected with fixed | ⟨v, refers, rejected⟩
  · exact .inl (misused_of_writable fixed)
  · obtain ⟨other, rfl⟩ := allow_eq_error.mp rejected
    exact .inr ⟨v, (Reference.writable_eq_ok.mp refers).1, other, rfl⟩

theorem misused_of_callable (rejected : Reference.callable env token = .error d) :
    env.Misused token .call d := by
  rcases bind_eq_error.mp rejected with unknown | ⟨entity, refers, rejected⟩
  · exact misused_of_entity .call unknown
  · cases entity with
    | var v =>
      cases rejected
      exact .notJob (Reference.entity_eq_ok.mp refers)
    | job j => cases rejected

end Tokens

namespace Syntax

/-- What is wrong with a call itself, its arguments being accepted. -/
inductive CallFails (env : Env) (token : Token) (args : List Expr) : Diagnostic → Prop
  | callee {d : Diagnostic} (misused : env.Misused token .call d) : CallFails env token args d
  | arity {j : Job} {checked : List Typed.Expr} (refers : env.Refers token (.job j))
      (each : Expr.ElaborateAll env args checked) (count : checked.length ≠ j.params.length) :
      CallFails env token args ⟨.arity j.name j.params.length checked.length, token.position⟩
  | argument {j : Job} {checked : List Typed.Expr} {i : Nat} {arg : Typed.Expr} {param : Ty}
      (refers : env.Refers token (.job j)) (each : Expr.ElaborateAll env args checked)
      (given : checked[i]? = some arg) (taken : j.params[i]? = some param)
      (mismatch : arg.ty ≠ param) :
      CallFails env token args
        ⟨.argumentType j.name i param.render arg.ty.render, arg.position.or token.position⟩

namespace Expr

mutual

/-- An expression and all that it is made of. -/
def parts : Expr → List Expr
  | .leaf token => [.leaf token]
  | .binary operator left right => .binary operator left right :: (left.parts ++ right.parts)
  | .unary operator operand => .unary operator operand :: operand.parts
  | .call callee args => .call callee args :: partsAll args

def partsAll : List Expr → List Expr
  | [] => []
  | e :: rest => e.parts ++ partsAll rest

end

theorem mem_partsAll {part : Expr} {es : List Expr} :
    part ∈ partsAll es ↔ ∃ e ∈ es, part ∈ e.parts := by
  induction es with
  | nil => simp [partsAll]
  | cons e rest ih => simp [partsAll, ih]

/-- What is wrong with an expression itself, its operands or arguments being accepted. -/
inductive Fails (env : Env) : Expr → Diagnostic → Prop
  | name {token : Token} {d : Diagnostic} (category : token.category = .id)
      (misused : env.Misused token .read d) : Fails env (.leaf token) d
  | literal {token : Token} (category : token.category ∈ [Category.num, .baal, .quote])
      (misspelled : token.value? = none) : Fails env (.leaf token) token.malformed
  | symbol {token : Token} (category : token.category = .sym) :
      Fails env (.leaf token) ⟨.unexpectedToken token.lexeme, token.position⟩
  | binaryOperator {operator : Token} {left right : Expr}
      (unknown : BinaryOp.ofLexeme? operator.lexeme = none) :
      Fails env (.binary operator left right)
        ⟨.unknownOperator operator.lexeme, operator.position⟩
  | operands {operator : Token} {left right : Expr} {op : BinaryOp} {l r : Typed.Expr}
      (spelled : BinaryOp.ofLexeme? operator.lexeme = some op) (first : Elaborates env left l)
      (second : Elaborates env right r) (refused : op.resultTy? l.ty r.ty = none) :
      Fails env (.binary operator left right)
        ⟨.operandTypes op.render l.ty.render r.ty.render, operator.position.or left.position⟩
  | unaryOperator {operator : Token} {operand : Expr}
      (unknown : UnaryOp.ofLexeme? operator.lexeme = none) :
      Fails env (.unary operator operand) ⟨.unknownOperator operator.lexeme, operator.position⟩
  | operand {operator : Token} {operand : Expr} {op : UnaryOp} {e : Typed.Expr}
      (spelled : UnaryOp.ofLexeme? operator.lexeme = some op) (inner : Elaborates env operand e)
      (refused : op.resultTy? e.ty = none) :
      Fails env (.unary operator operand)
        ⟨.operandTypes op.render e.ty.render "nothing", operator.position.or operand.position⟩
  | call {token : Token} {args : List Expr} {d : Diagnostic} (fails : CallFails env token args d) :
      Fails env (.call token args) d

end Expr
end Syntax

section Expressions
variable {env : Env} {d : Diagnostic}

theorem fitEach_eq_error {callee : Job} {place : Option Position} {index : Nat}
    {args : List Typed.Expr} {params : List Ty}
    (rejected : Typed.Expr.fitEach callee place index args params = .error d) :
    ∃ i arg param, args[i]? = some arg ∧ params[i]? = some param ∧ arg.ty ≠ param ∧
      ⟨.argumentType callee.name (index + i) param.render arg.ty.render,
        arg.position.or place⟩ = d := by
  induction args generalizing index params with
  | nil => cases rejected
  | cons arg args ih =>
    cases params with
    | nil => cases rejected
    | cons param params =>
      rw [Typed.Expr.fitEach] at rejected
      by_cases fits : arg.ty.fits param = true
      · rw [if_pos fits] at rejected
        obtain ⟨i, arg', param', given, taken, mismatch, same⟩ := ih rejected
        rw [Nat.add_right_comm, Nat.add_assoc] at same
        exact ⟨i + 1, arg', param', given, taken, mismatch, same⟩
      · rw [if_neg fits] at rejected
        exact ⟨0, arg, param, rfl, rfl, mt Ty.fits_iff.mpr fits, Except.error.inj rejected⟩

/-- What is left of a call to check when its callee and its arguments have been accepted. -/
theorem callFails_of_fitArguments {token : Token} {args : List Syntax.Expr} {j : Job}
    {checked : List Typed.Expr} (refers : env.Refers token (.job j))
    (each : Syntax.Expr.ElaborateAll env args checked)
    (rejected : Typed.Expr.fitArguments j token.position checked = .error d) :
    Syntax.CallFails env token args d := by
  rw [Typed.Expr.fitArguments] at rejected
  by_cases same : checked.length = j.params.length
  · rw [if_pos same] at rejected
    obtain ⟨i, arg, param, given, taken, mismatch, rfl⟩ := fitEach_eq_error rejected
    rw [Nat.zero_add]
    exact .argument refers each given taken mismatch
  · rw [if_neg same] at rejected
    cases rejected
    exact .arity refers each same

theorem fails_leaf {token : Token} (rejected : Reference.leaf env token = .error d) :
    Syntax.Expr.Fails env (.leaf token) d := by
  rw [Reference.leaf] at rejected
  cases category : token.category with
  | id =>
    rw [category] at rejected
    rcases bind_eq_error.mp rejected with unread | ⟨v, _, rejected⟩
    · exact .name category (misused_of_readable (by decide) unread)
    · cases rejected
  | num | baal | quote =>
    have literal : token.category ∈ [Category.num, .baal, .quote] := by
      rw [category]
      decide
    have misspelled : Reference.literal token token.value? = .error d := by
      rw [Token.value?, category]
      rw [category] at rejected
      exact rejected
    cases value : token.value? with
    | none =>
      rw [value] at misspelled
      cases misspelled
      exact .literal literal value
    | some found =>
      rw [value] at misspelled
      cases misspelled
  | sym =>
    rw [category] at rejected
    cases rejected
    exact .symbol category

mutual

/-- In a rejected expression there is a part that has something wrong with it itself. -/
theorem fails_expr : ∀ (e : Syntax.Expr), Reference.expr env e = .error d →
    ∃ part ∈ e.parts, part.Fails env d
  | .leaf token, rejected => by
      rw [Reference.expr] at rejected
      exact ⟨_, List.mem_singleton_self _, fails_leaf rejected⟩
  | .binary operator left right, rejected => by
      simp only [Reference.expr, bind_eq_error, Token.binaryOp_eq_error,
        Token.binaryOp_eq_ok] at rejected
      rcases rejected with ⟨unknown, rfl⟩ | ⟨op, spelled, rejected⟩
      · exact ⟨_, List.mem_cons_self .., .binaryOperator unknown⟩
      rcases rejected with rejected | ⟨l, accepted, rejected | ⟨r, accepted', rejected⟩⟩
      · obtain ⟨part, member, fails⟩ := fails_expr left rejected
        exact ⟨part, List.mem_cons_of_mem _ (List.mem_append_left _ member), fails⟩
      · obtain ⟨part, member, fails⟩ := fails_expr right rejected
        exact ⟨part, List.mem_cons_of_mem _ (List.mem_append_right _ member), fails⟩
      · have first := elaborates_expr left accepted
        have second := elaborates_expr right accepted'
        rw [Typed.Expr.ofBinary] at rejected
        split at rejected
        · cases rejected
        · rename_i refused
          cases rejected
          exact ⟨_, List.mem_cons_self .., .operands spelled first second refused⟩
  | .unary operator operand, rejected => by
      simp only [Reference.expr, bind_eq_error, Token.unaryOp_eq_error,
        Token.unaryOp_eq_ok] at rejected
      rcases rejected with ⟨unknown, rfl⟩ | ⟨op, spelled, rejected | ⟨e, accepted, rejected⟩⟩
      · exact ⟨_, List.mem_cons_self .., .unaryOperator unknown⟩
      · obtain ⟨part, member, fails⟩ := fails_expr operand rejected
        exact ⟨part, List.mem_cons_of_mem _ member, fails⟩
      · have inner := elaborates_expr operand accepted
        rw [Typed.Expr.ofUnary] at rejected
        split at rejected
        · cases rejected
        · rename_i refused
          cases rejected
          exact ⟨_, List.mem_cons_self .., .operand spelled inner refused⟩
  | .call token args, rejected => by
      simp only [Reference.expr, bind_eq_error, return_eq_error, Reference.callable_eq_ok,
        and_false, exists_false, or_false] at rejected
      rcases rejected with uncalled | ⟨j, refers, rejected | ⟨checked, accepted, rejected⟩⟩
      · exact ⟨_, List.mem_cons_self .., .call (.callee (misused_of_callable uncalled))⟩
      · obtain ⟨part, member, fails⟩ := fails_exprs args rejected
        exact ⟨part, List.mem_cons_of_mem _ member, fails⟩
      · have fails := callFails_of_fitArguments refers (elaborates_exprs args accepted) rejected
        exact ⟨_, List.mem_cons_self .., .call fails⟩

theorem fails_exprs : ∀ (es : List Syntax.Expr), Reference.exprs env es = .error d →
    ∃ part ∈ Syntax.Expr.partsAll es, part.Fails env d
  | [], rejected => by cases rejected
  | e :: rest, rejected => by
      simp only [Reference.exprs, bind_eq_error, return_eq_error, and_false, exists_false,
        or_false] at rejected
      rcases rejected with rejected | ⟨checked, _, rejected⟩
      · obtain ⟨part, member, fails⟩ := fails_expr e rejected
        exact ⟨part, List.mem_append_left _ member, fails⟩
      · obtain ⟨part, member, fails⟩ := fails_exprs rest rejected
        exact ⟨part, List.mem_append_right _ member, fails⟩

end

end Expressions

end JobLang
