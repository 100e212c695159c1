import JobLang.Proofs.Binding.Integrity

/-!
# What a check keeps of a program

A plain tree says what a program consists of: names as texts, literals as values, and operators and
types as what they are, with the place of every expression. A program as written has a plain form if
all its lexemes can be read, a checked program always has one. Checking keeps the plain form, so it
neither leaves out, adds nor reorders anything, also in parts of a program that never run.
-/
namespace JobLang

namespace Plain

inductive Expr
  | name (name : String) (place : Option Position)
  | literal (value : Value) (place : Option Position)
  | binary (op : BinaryOp) (left right : Expr) (place : Option Position)
  | unary (op : UnaryOp) (operand : Expr) (place : Option Position)
  | call (callee : String) (args : List Expr) (place : Option Position)

/-- A type and the name that something of this type has. -/
structure Typing where
  ty : Ty
  name : String

inductive Stmt
  | declare (typing : Typing) (init : Expr)
  | job (result : Typing) (params : List Typing) (body : List Stmt)
  | assign (target : String) (source : Expr)
  | print (value : Expr)
  | output (value : Expr)
  | ifThen (test : Expr) (body : List Stmt)
  | ifElse (test : Expr) (body alternative : List Stmt)
  | whileLoop (test : Expr) (body : List Stmt)
  | repeatLoop (count : Expr) (body : List Stmt)
  | coil (counter : Typing) (low high : Expr) (body : List Stmt)
  | increment (target : String)
  | decrement (target : String)
  | call (callee : String) (args : List Expr)

end Plain

namespace Syntax

mutual

/-- The plain form of an expression, if its literals and operators can be read. -/
def Expr.plain? : Expr → Option Plain.Expr
  | .leaf token =>
    match token.category with
    | .id => some (.name token.lexeme (leaf token).position)
    | .num | .baal | .quote | .sym => do
      return .literal (← token.value?) (leaf token).position
  | .binary operator left right => do
    let op ← BinaryOp.ofLexeme? operator.lexeme
    let l ← left.plain?
    let r ← right.plain?
    return .binary op l r (binary operator left right).position
  | .unary operator operand => do
    let op ← UnaryOp.ofLexeme? operator.lexeme
    let e ← operand.plain?
    return .unary op e (unary operator operand).position
  | .call callee args => do
    return .call callee.lexeme (← plainAll? args) (call callee args).position

def Expr.plainAll? : List Expr → Option (List Plain.Expr)
  | [] => some []
  | e :: rest => do
    let head ← e.plain?
    let tail ← plainAll? rest
    return head :: tail

end

/-- A name with the type that another token names. -/
def typing? (typeName name : Token) : Option Plain.Typing := do
  return ⟨← Ty.ofName? typeName.lexeme, name.lexeme⟩

def Parameter.plain? (param : Parameter) : Option Plain.Typing := typing? param.typeName param.name

mutual

/-- The plain form of a statement, if its types, literals and operators can be read. -/
def Stmt.plain? : Stmt → Option Plain.Stmt
  | .declare typeName name init => do return .declare (← typing? typeName name) (← init.plain?)
  | .job returns name params body => do
    let result ← typing? returns name
    let params ← params.mapM Parameter.plain?
    return .job result params (← plainAll? body)
  | .assign target source => do return .assign target.lexeme (← source.plain?)
  | .print value => do return .print (← value.plain?)
  | .output value => do return .output (← value.plain?)
  | .ifThen test body => do return .ifThen (← test.plain?) (← plainAll? body)
  | .ifElse test body alternative => do
    return .ifElse (← test.plain?) (← plainAll? body) (← plainAll? alternative)
  | .whileLoop test body => do return .whileLoop (← test.plain?) (← plainAll? body)
  | .repeatLoop count body => do return .repeatLoop (← count.plain?) (← plainAll? body)
  | .coil counter low high body => do
    let counter ← counter.plain?
    return .coil counter (← low.plain?) (← high.plain?) (← plainAll? body)
  | .increment target => some (.increment target.lexeme)
  | .decrement target => some (.decrement target.lexeme)
  | .call callee args => do return .call callee.lexeme (← Expr.plainAll? args)

def Stmt.plainAll? : List Stmt → Option (List Plain.Stmt)
  | [] => some []
  | s :: rest => do
    let head ← s.plain?
    let tail ← plainAll? rest
    return head :: tail

end

end Syntax

namespace Typed

mutual

/-- The plain form of a checked expression, each node at the place it is noted to have. -/
def Expr.plain : Expr → Plain.Expr
  | .lit value note => .literal value note.position
  | .var v note => .name v.name note.position
  | .binary op left right note => .binary op left.plain right.plain note.position
  | .unary op operand note => .unary op operand.plain note.position
  | .call callee args note => .call callee.name (plainAll args) note.position

def Expr.plainAll : List Expr → List Plain.Expr
  | [] => []
  | e :: rest => e.plain :: plainAll rest

end

end Typed

def Variable.plain (v : Variable) : Plain.Typing := ⟨v.ty, v.name⟩

def Job.plain (j : Job) : Plain.Typing := ⟨j.returns, j.name⟩

namespace Typed

mutual

def Stmt.plain : Stmt → Plain.Stmt
  | .declare v init => .declare v.plain init.plain
  | .job j params body => .job j.plain (params.map Variable.plain) (plainAll body)
  | .assign target source => .assign target.name source.plain
  | .print value => .print value.plain
  | .output value => .output value.plain
  | .ifThen test body => .ifThen test.plain (plainAll body)
  | .ifElse test body alternative => .ifElse test.plain (plainAll body) (plainAll alternative)
  | .whileLoop test body => .whileLoop test.plain (plainAll body)
  | .repeatLoop count body => .repeatLoop count.plain (plainAll body)
  | .coil counter low high body => .coil counter.plain low.plain high.plain (plainAll body)
  | .increment target => .increment target.name
  | .decrement target => .decrement target.name
  | .call callee args => .call callee.name (Expr.plainAll args)

def Stmt.plainAll : List Stmt → List Plain.Stmt
  | [] => []
  | s :: rest => s.plain :: plainAll rest

end

end Typed

open Syntax (Parameter)

/-- A name stands for an entity that has this name. -/
theorem name_of_refers {env : Env} {token : Token} {entity : Entity} (named : env.Named)
    (refers : env.Refers token entity) : entity.name = token.lexeme := by
  have found := refers.2
  rw [find?_visible named] at found
  simpa using List.find?_some found

section Expressions
variable {env : Env}

mutual

theorem plain_expr {e : Syntax.Expr} {checked : Typed.Expr} (named : env.Named) :
    e.Elaborates env checked → e.plain? = some checked.plain
  | .name category refers => by
      have own := name_of_refers named refers
      rw [Syntax.Expr.plain?, category]
      simp only [Typed.Expr.plain, ← own]
      rfl
  | @Syntax.Expr.Elaborates.literal _ token _ spelled => by
      rw [Syntax.Expr.plain?]
      cases category : token.category with
      | id =>
        rw [Token.value?, category] at spelled
        cases spelled
      | num | baal | quote | sym =>
        simp only [spelled]
        rfl
  | .binary spelled first second _ => by
      rw [Syntax.Expr.plain?, spelled, plain_expr named first, plain_expr named second]
      rfl
  | .unary spelled inner _ => by
      rw [Syntax.Expr.plain?, spelled, plain_expr named inner]
      rfl
  | .call refers each _ => by
      have own := name_of_refers named refers
      rw [Syntax.Expr.plain?, plain_exprs named each, ← own]
      rfl

theorem plain_exprs {es : List Syntax.Expr} {checked : List Typed.Expr} (named : env.Named) :
    Syntax.Expr.ElaborateAll env es checked →
      Syntax.Expr.plainAll? es = some (Typed.Expr.plainAll checked)
  | .nil => rfl
  | .cons head tail => by
      rw [Syntax.Expr.plainAll?, plain_expr named head, plain_exprs named tail]
      rfl

end

end Expressions

theorem typing?_of_names {typeName name : Token} {ty : Ty}
    (names : Ty.ofName? typeName.lexeme = some ty) :
    Syntax.typing? typeName name = some ⟨ty, name.lexeme⟩ := by
  rw [Syntax.typing?, names]
  rfl

theorem plain_parameters {env after : Env} {params : List Parameter} {tys : List Ty}
    {vars : List Variable}
    (types : List.Forall₂ (fun param ty => param.typeName.NamesStorable ty) params tys)
    (opens : Parameters env (params.zip tys) vars after) :
    params.mapM Parameter.plain? = some (vars.map Variable.plain) := by
  induction types generalizing env vars with
  | nil =>
    cases opens
    rfl
  | cons names _ ih =>
    cases opens with
    | cons _ _ tail =>
      rw [List.mapM_cons, Parameter.plain?, typing?_of_names names.1, ih tail]
      rfl

mutual

theorem plain_stmt {env after : Env} {s : Syntax.Stmt} {checked : Typed.Stmt} :
    s.Elaborates env checked after → env.Named → s.plain? = some checked.plain
  | .declare value type _ _, named => by
      rw [Syntax.Stmt.plain?, typing?_of_names type.1, plain_expr named value]
      rfl
  | .job _ type types _ made opens inside _, named => by
      subst made
      have body := plain_chunk inside (named_parameters opens (named_add named (.job _)))
      rw [Syntax.Stmt.plain?, typing?_of_names type, plain_parameters types opens, body]
      rfl
  | .assign refers _ assigned _, named => by
      have own := name_of_refers named refers
      rw [Syntax.Stmt.plain?, plain_expr named assigned, ← own]
      rfl
  | .print given _, named => by
      rw [Syntax.Stmt.plain?, plain_expr named given]
      rfl
  | .output _ given _, named => by
      rw [Syntax.Stmt.plain?, plain_expr named given]
      rfl
  | .ifThen tested _ inside, named | .whileLoop tested _ inside, named
  | .repeatLoop tested _ inside, named => by
      rw [Syntax.Stmt.plain?, plain_expr named tested, plain_chunk inside named]
      rfl
  | .ifElse tested _ inside otherwise, named => by
      rw [Syntax.Stmt.plain?, plain_expr named tested, plain_chunk inside named,
        plain_chunk otherwise named]
      rfl
  | .coil lower _ upper _ type _ made inside, named => by
      subst made
      have body := plain_chunk inside (named_add named _)
      rw [Syntax.Stmt.plain?, Parameter.plain?, typing?_of_names type.1, plain_expr named lower,
        plain_expr named upper, body]
      rfl
  | .increment refers _ _, named | .decrement refers _ _, named => by
      have own := name_of_refers named refers
      rw [Syntax.Stmt.plain?, ← own]
      rfl
  | .call refers each _, named => by
      have own := name_of_refers named refers
      rw [Syntax.Stmt.plain?, plain_exprs named each, ← own]
      rfl

theorem plain_chunk {env after : Env} {chunk : List Syntax.Stmt} {checked : List Typed.Stmt} :
    Syntax.Stmt.ElaborateAll env chunk checked after → env.Named →
      Syntax.Stmt.plainAll? chunk = some (Typed.Stmt.plainAll checked)
  | .nil, _ => rfl
  | .cons head tail, named => by
      rw [Syntax.Stmt.plainAll?, plain_stmt head named, plain_chunk tail (named_stmt head named)]
      rfl

end

/-- An accepted program has a plain form, and the checked program has the same one. -/
theorem plainAll?_of_accepted {prelude : Prelude} {program : List Syntax.Stmt}
    {checked : List Typed.Stmt} (accepted : check prelude program = .ok checked) :
    Syntax.Stmt.plainAll? program = some (Typed.Stmt.plainAll checked) := by
  obtain ⟨env, after, made, accepted⟩ := reference_of_check accepted
  have derived := elaborates_chunk program accepted
  cases env_ofPrelude made
  exact plain_chunk derived (named_ofEntities _ _)

/-- A branch that never runs, with a loop in it that never ends. -/
def deadProgram : List Syntax.Stmt :=
  let truth (lexeme : String) (offset : Nat) : Syntax.Expr :=
    .leaf ⟨.baal, lexeme, some ⟨offset, "dead"⟩⟩
  [.ifElse (.unary ⟨.sym, "!", none⟩ (truth "true" 4))
    [.declare ⟨.id, "baal", none⟩ ⟨.id, "x", none⟩ (truth "false" 20),
      .whileLoop (.binary ⟨.sym, "or", none⟩ (.leaf ⟨.id, "x", none⟩) (truth "true" 32)) []]
    [.print (truth "false" 50)]]

theorem plainAll?_of_deadProgram : ∃ checked, check .empty deadProgram = .ok checked ∧
    Syntax.Stmt.plainAll? deadProgram = some (Typed.Stmt.plainAll checked) := by
  have accepted : check .empty deadProgram = .ok _ := rfl
  exact ⟨_, accepted, plainAll?_of_accepted accepted⟩

end JobLang
