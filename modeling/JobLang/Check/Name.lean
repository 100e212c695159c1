import JobLang.Operator
import JobLang.Scopes
import JobLang.Syntax

/-!
# Looking up tokens

What a single token stands for: the type or the operator it names, or the variable or job it refers
to in the scopes around it. Each look-up fails with a diagnostic at the token.
-/
namespace JobLang

namespace Token

/-- The diagnostic for a token whose text does not have the form of its category. -/
def malformed (token : Token) : Diagnostic :=
  ⟨.malformedLiteral token.category.render token.lexeme, token.position⟩

/-- Passes if the token has the form of a name. -/
def expectIdentifier (token : Token) : Except Diagnostic Unit :=
  if token.isIdentifier then .ok () else .error token.malformed

/-- The type that a token names, `void` among them. -/
def namedTy (token : Token) : Except Diagnostic Ty :=
  match Ty.ofName? token.lexeme with
  | some ty => .ok ty
  | none => .error ⟨.unknownType token.lexeme, token.position⟩

/-- The type that a token names, for something that stores a value. -/
def storableTy (token : Token) : Except Diagnostic Ty := do
  let ty ← token.namedTy
  if ty.isStorable then .ok ty
  else .error ⟨.typeMismatch "num, baal or quote" ty.render, token.position⟩

def binaryOp (token : Token) : Except Diagnostic BinaryOp :=
  match BinaryOp.ofLexeme? token.lexeme with
  | some op => .ok op
  | none => .error ⟨.unknownOperator token.lexeme, token.position⟩

def unaryOp (token : Token) : Except Diagnostic UnaryOp :=
  match UnaryOp.ofLexeme? token.lexeme with
  | some op => .ok op
  | none => .error ⟨.unknownOperator token.lexeme, token.position⟩

end Token

namespace Scopes

/-- The variable that a token refers to. -/
def readable (scopes : Scopes) (token : Token) : Except Diagnostic Variable := do
  token.expectIdentifier
  scopes.resolveVariable token.lexeme token.position

/-- The variable that a token refers to, which must not be read-only. -/
def writable (scopes : Scopes) (token : Token) : Except Diagnostic Variable := do
  let v ← scopes.readable token
  if v.readOnly then .error ⟨.readOnlyAssignment v.name, token.position⟩ else .ok v

/-- The number variable that a token refers to and that can be counted up or down. -/
def countable (scopes : Scopes) (token : Token) : Except Diagnostic Variable := do
  let v ← scopes.writable token
  if v.ty = .num then .ok v
  else .error ⟨.typeMismatch Ty.num.render v.ty.render, token.position⟩

/-- The job that a token refers to. -/
def callable (scopes : Scopes) (token : Token) : Except Diagnostic Job := do
  token.expectIdentifier
  match ← scopes.resolve token.lexeme token.position with
  | .job found => .ok found
  | .var v => .error ⟨.notCallable v.name, token.position⟩

end Scopes
end JobLang
