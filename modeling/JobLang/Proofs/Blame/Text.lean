import JobLang.Proofs.Rejection.Statements
import JobLang.Proofs.Relabeling.Names

/-!
# What the text of a program says

The places of a program are its own chunk and the bodies in it, at any depth, each with what has
been declared around it. At a place it can be read off the text what a name stands for. From this it
is said what has to be found in the text for a diagnostic to be right, with nothing of the checker.
-/
namespace JobLang

open Relation (ReflTransGen)
open Syntax (Parameter)

/-- What a declaration makes its name stand for. Constants and builtins are those of a prelude. -/
inductive Role
  | constant
  | builtin
  | variable
  | parameter
  | counter
  | job
deriving DecidableEq

namespace Role

def kind : Role → Kind
  | .constant | .variable | .parameter | .counter => .var
  | .builtin | .job => .job

def isReadOnly : Role → Bool
  | .constant | .parameter | .counter => true
  | .builtin | .variable | .job => false

end Role

structure Declaration where
  name : String
  role : Role
deriving DecidableEq

/-- What an entry of a prelude declares. -/
def Declaration.ofEntry : Prelude.Entry → Declaration
  | .constant name _ => ⟨name, .constant⟩
  | .job builtin => ⟨builtin.name, .builtin⟩

/-- What a parameter of a job declares. -/
def Declaration.ofParameter (param : Parameter) : Declaration := ⟨param.name.lexeme, .parameter⟩

namespace Syntax

/-- What a statement declares in its own chunk. -/
def Stmt.declaration? : Stmt → Option Declaration
  | .declare _ name _ => some ⟨name.lexeme, .variable⟩
  | .job _ name _ _ => some ⟨name.lexeme, .job⟩
  | .assign .. | .print _ | .output _ | .ifThen .. | .ifElse .. | .whileLoop .. | .repeatLoop ..
  | .coil .. | .increment _ | .decrement _ | .call .. => none

/-- The name that an expression uses itself: a variable or the callee of a call. -/
def Expr.mention? : Expr → Option (Manner × String)
  | .leaf token => if token.category = .id then some (.read, token.lexeme) else none
  | .call callee _ => some (.call, callee.lexeme)
  | .binary .. | .unary .. => none

/-- The name that a statement uses besides those in its expressions. -/
def Stmt.mention? : Stmt → Option (Manner × String)
  | .assign target _ | .increment target | .decrement target => some (.write, target.lexeme)
  | .call callee _ => some (.call, callee.lexeme)
  | .declare .. | .job .. | .print _ | .output _ | .ifThen .. | .ifElse .. | .whileLoop ..
  | .repeatLoop .. | .coil .. => none

/-- The names that a statement uses, those in its bodies left aside. -/
def Stmt.mentions (s : Stmt) : List (Manner × String) :=
  s.mention?.toList ++ (Expr.partsAll s.exprs).filterMap Expr.mention?

end Syntax

/-- A chunk in the text of a program. Declarations are listed with the innermost and the latest
first. -/
structure Place where
  /-- What the scope of the chunk declares before the chunk: the parameters of a job, or a
  counter. -/
  own : List Declaration
  /-- What can be seen of the scopes around it. -/
  around : List Declaration
  inJob : Bool
  chunk : List Syntax.Stmt

/-- The bodies of a statement, at which the given declarations can be seen. -/
def Syntax.Stmt.bodies (visible : List Declaration) (inJob : Bool) : Syntax.Stmt → List Place
  | .job _ name params body =>
    [⟨(params.map .ofParameter).reverse, ⟨name.lexeme, .job⟩ :: visible, true, body⟩]
  | .ifThen _ body | .whileLoop _ body | .repeatLoop _ body => [⟨[], visible, inJob, body⟩]
  | .ifElse _ body alternative =>
    [⟨[], visible, inJob, body⟩, ⟨[], visible, inJob, alternative⟩]
  | .coil counter _ _ body => [⟨[⟨counter.name.lexeme, .counter⟩], visible, inJob, body⟩]
  | .declare .. | .assign .. | .print _ | .output _ | .increment _ | .decrement _ | .call .. => []

namespace Place

/-- The chunk of a program, around which is its prelude. -/
def ofProgram (prelude : Prelude) (program : List Syntax.Stmt) : Place :=
  ⟨[], (prelude.entries.map .ofEntry).reverse, false, program⟩

variable (place : Place)

/-- What can be seen behind the given statements of the chunk. -/
def behind (earlier : List Syntax.Stmt) : List Declaration :=
  (earlier.filterMap Syntax.Stmt.declaration?).reverse ++ (place.own ++ place.around)

/-- Every name that the scope of the chunk declares, as often as it declares it. -/
def declaredNames : List String :=
  (place.own ++ place.chunk.filterMap Syntax.Stmt.declaration?).map Declaration.name

/-- A statement of the chunk uses the name where the given declarations can be seen. -/
def Mentions (manner : Manner) (name : String) (visible : List Declaration) : Prop :=
  ∃ earlier s later, place.chunk = earlier ++ s :: later ∧ (manner, name) ∈ s.mentions ∧
    place.behind earlier = visible

/-- The one place is a body of a statement of the other. -/
def Encloses (outer inner : Place) : Prop :=
  ∃ earlier s later, outer.chunk = earlier ++ s :: later ∧
    inner ∈ s.bodies (outer.behind earlier) outer.inJob

end Place

/-- What the fault says of names and outputs is so at one of the given places. -/
def Fault.BorneOut (isPlace : Place → Prop) : Fault → Prop
  | .undeclaredIdentifier name =>
    ∃ place manner visible, isPlace place ∧ place.Mentions manner name visible ∧
      ∀ declaration ∈ visible, declaration.name ≠ name
  | .duplicateDeclaration name => ∃ place, isPlace place ∧ 2 ≤ place.declaredNames.count name
  | .notCallable name =>
    ∃ place visible declaration, isPlace place ∧ place.Mentions .call name visible ∧
      visible.find? (·.name = name) = some declaration ∧ declaration.role.kind = .var
  | .readOnlyAssignment name =>
    ∃ place visible declaration, isPlace place ∧ place.Mentions .write name visible ∧
      visible.find? (·.name = name) = some declaration ∧
      declaration.role ∈ [Role.constant, .parameter, .counter]
  | .outputOutsideJob =>
    ∃ place value, isPlace place ∧ place.inJob = false ∧ .output value ∈ place.chunk
  | .returnType job expected received =>
    received = "nothing" → ∃ place returns name params body, isPlace place ∧
      .job returns name params body ∈ place.chunk ∧ name.lexeme = job ∧
      returns.lexeme = expected ∧ returns.lexeme ≠ "void" ∧ Syntax.Stmt.outputsAll body = 0
  | .typeMismatch .. | .operandTypes .. | .argumentType .. | .conditionType .. | .arity ..
  | .unknownType .. | .unknownOperator .. | .malformedLiteral .. | .unexpectedToken .. => True

end JobLang
