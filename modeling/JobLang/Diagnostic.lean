import JobLang.Position
import JobLang.Text.Quoted

/-!
# Diagnostics

Everything that can be wrong with a program is one of fifteen faults. A diagnostic is a fault with
the place it was found at, if that is known. The message of a fault shows names and lexemes quoted;
its tip shows them as they are.
-/
namespace JobLang

inductive Fault
  | duplicateDeclaration (name : String)
  | undeclaredIdentifier (name : String)
  | typeMismatch (expected received : String)
  | operandTypes (operator left right : String)
  /-- Arguments are counted from zero. -/
  | argumentType (job : String) (index : Nat) (expected received : String)
  | returnType (job expected received : String)
  | conditionType (construct expected received : String)
  | readOnlyAssignment (name : String)
  | notCallable (name : String)
  | arity (job : String) (expected received : Nat)
  | outputOutsideJob
  | unknownType (name : String)
  | unknownOperator (lexeme : String)
  | malformedLiteral (category lexeme : String)
  | unexpectedToken (lexeme : String)
deriving DecidableEq, Inhabited

namespace Fault

open Text (quote)

def name : Fault → String
  | .duplicateDeclaration .. => "DuplicateDeclaration"
  | .undeclaredIdentifier .. => "UndeclaredIdentifier"
  | .typeMismatch .. => "TypeMismatch"
  | .operandTypes .. => "OperandTypeError"
  | .argumentType .. => "ArgumentTypeMismatch"
  | .returnType .. => "ReturnTypeMismatch"
  | .conditionType .. => "ConditionTypeError"
  | .readOnlyAssignment .. => "ReadOnlyAssignment"
  | .notCallable .. => "NotCallable"
  | .arity .. => "ArityMismatch"
  | .outputOutsideJob => "OutputOutsideFunction"
  | .unknownType .. => "UnknownType"
  | .unknownOperator .. => "UnknownOperator"
  | .malformedLiteral .. => "MalformedLiteral"
  | .unexpectedToken .. => "UnexpectedToken"

def message : Fault → String
  | .duplicateDeclaration name => "identifier " ++ quote name ++ " already declared"
  | .undeclaredIdentifier name => "identifier " ++ quote name ++ " not declared"
  | .typeMismatch expected received =>
    "types do not match: expected " ++ expected ++ ", received " ++ received
  | .operandTypes operator left right =>
    "operator " ++ quote operator ++ " cannot be applied to " ++ left ++ " and " ++ right
  | .argumentType job index expected received =>
    "argument " ++ toString index ++ " of " ++ quote job ++ " has type " ++ received
      ++ ", expected " ++ expected
  | .returnType job expected received =>
    "job " ++ quote job ++ " outputs " ++ received ++ ", expected " ++ expected
  | .conditionType construct expected received =>
    construct ++ " expects " ++ expected ++ ", received " ++ received
  | .readOnlyAssignment name => "cannot assign to read-only " ++ quote name
  | .notCallable name => "call of non-function " ++ quote name
  | .arity job expected received =>
    quote job ++ " expects " ++ toString expected ++ " argument(s), received "
      ++ toString received
  | .outputOutsideJob => "output can only appear in a function"
  | .unknownType name => "unknown type " ++ quote name ++ " found"
  | .unknownOperator lexeme => "unknown operator " ++ quote lexeme
  | .malformedLiteral category lexeme => "malformed " ++ category ++ " literal " ++ quote lexeme
  | .unexpectedToken lexeme => "unexpected token " ++ quote lexeme

/-- What to do about a fault. Faults in the text of a token have no tip. -/
def tip? : Fault → Option String
  | .duplicateDeclaration name =>
    some ("`" ++ name ++ "` is already declared in this scope, pick another name or move it into "
      ++ "a nested block")
  | .undeclaredIdentifier name =>
    some ("Identifier `" ++ name ++ "` not declared, declare it before using it")
  | .typeMismatch expected received =>
    some ("Expected type `" ++ expected ++ "`, received `" ++ received ++ "`")
  | .operandTypes operator _ _ =>
    some ("Check the operand types accepted by `" ++ operator ++ "`")
  | .argumentType _ index expected received =>
    some ("Argument " ++ toString (index + 1) ++ " should be `" ++ expected ++ "`, received `"
      ++ received ++ "`")
  | .returnType job expected _ =>
    some ("Job `" ++ job ++ "` must output a `" ++ expected ++ "` value")
  | .conditionType construct expected _ =>
    some ("The " ++ construct ++ " needs a `" ++ expected ++ "` expression here")
  | .readOnlyAssignment name =>
    some ("`" ++ name ++ "` is read-only, parameters and loop variables cannot be changed")
  | .notCallable name => some ("`" ++ name ++ "` is a variable, not a job")
  | .arity _ expected received =>
    some (toString expected ++ " argument(s) required but " ++ toString received ++ " passed")
  | .outputOutsideJob => some "Output can only appear in a job body"
  | .unknownType .. | .unknownOperator .. | .malformedLiteral .. | .unexpectedToken .. => none

/-- The faults that say one type was needed and another was found. -/
def isTypeMismatch : Fault → Bool
  | .typeMismatch .. | .operandTypes .. | .argumentType .. | .returnType ..
  | .conditionType .. => true
  | _ => false

end Fault

structure Diagnostic where
  fault : Fault
  position : Option Position
deriving DecidableEq, Inhabited

/-- The message of a diagnostic ends in its place, where that is known. -/
def Diagnostic.message (diagnostic : Diagnostic) : String :=
  match diagnostic.position with
  | some position => diagnostic.fault.message ++ " at " ++ position.render
  | none => diagnostic.fault.message

end JobLang
