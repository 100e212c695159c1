import JobLang.Number.Text
import JobLang.Text.Indent
import JobLang.Text.Quoted
import JobLang.Typed

/-!
# The dump of a checked program

A checked program is shown for inspection with every part of it spelled out: each node as its name
with its fields, each list in brackets, numbers by their shortest decimal and strings quoted. The
text is made on one line and then laid out over many.
-/
namespace JobLang

namespace Dump

/-- A node with named fields. -/
def record (name : String) (fields : List (String × String)) : String :=
  name ++ " \x7b " ++
    ", ".intercalate (fields.map fun field => field.1 ++ ": " ++ field.2) ++ " \x7d"

/-- A node with fields that have no names. -/
def tuple (name : String) (fields : List String) : String :=
  name ++ "(" ++ ", ".intercalate fields ++ ")"

def list (items : List String) : String := "[" ++ ", ".intercalate items ++ "]"

/-- Something that may be missing. -/
def optional : Option String → String
  | none => "None"
  | some text => tuple "Some" [text]

end Dump

open Dump (record tuple list optional)

def Position.dump (position : Position) : String :=
  tuple "Position" [toString position.offset, Text.quote position.file]

mutual

def Ty.dump : Ty → String
  | .num => "Num"
  | .baal => "Baal"
  | .quote => "Quote"
  | .void => "Void"
  | .job params result =>
    tuple "Function" [record "FunctionType"
      [("param_types", list (dumpAll params)), ("return_type", result.dump)]]

/-- The dumps of a list of types, in order. -/
def Ty.dumpAll : List Ty → List String
  | [] => []
  | ty :: rest => ty.dump :: dumpAll rest

end

def BinaryOp.dump : BinaryOp → String
  | .add => "Add"
  | .minus => "Minus"
  | .multiply => "Multiply"
  | .divide => "Divide"
  | .mod => "Mod"
  | .power => "Power"
  | .less => "Less"
  | .greater => "Greater"
  | .equals => "Equals"
  | .notEquals => "NotEquals"
  | .and => "And"
  | .or => "Or"

def UnaryOp.dump : UnaryOp → String
  | .not => "Not"
  | .negate => "Negate"

def Dump.truth (b : Bool) : String := if b then "true" else "false"

def Variable.dump (v : Variable) : String :=
  record "Variable" [("id", toString v.id), ("name", Text.quote v.name), ("ty", v.ty.dump),
    ("read_only", Dump.truth v.readOnly)]

def Job.dump (job : Job) : String :=
  record "Function" [("id", toString job.id), ("name", Text.quote job.name),
    ("param_types", list (Ty.dumpAll job.params)), ("return_type", job.returns.dump)]

def Value.dump : Value → String
  | .num x => tuple "Num" [Number.render x]
  | .baal b => tuple "Baal" [Dump.truth b]
  | .quote text => tuple "Quote" [Text.quote text]

namespace Typed

/-- An expression around the dump of its content. -/
def Note.dump (note : Note) (content : String) : String :=
  record "TypedExpr" [("kind", content), ("ty", note.ty.dump),
    ("position", optional (note.position.map Position.dump))]

/-- A call by its callee and the dumps of its arguments. -/
def dumpCall (callee : Job) (args : List String) : String :=
  tuple "Call" [record "TypedCall" [("callee", callee.dump), ("arguments", list args)]]

mutual

def Expr.dump : Expr → String
  | .lit value note => note.dump value.dump
  | .var v note => note.dump (tuple "Variable" [v.dump])
  | .binary op left right note =>
    note.dump (record "Binary" [("operator", op.dump), ("left", left.dump),
      ("right", right.dump)])
  | .unary op operand note =>
    note.dump (record "Unary" [("operator", op.dump), ("operand", operand.dump)])
  | .call callee args note => note.dump (dumpCall callee (dumpAll args))

/-- The dumps of a list of expressions, in order. -/
def Expr.dumpAll : List Expr → List String
  | [] => []
  | e :: rest => e.dump :: dumpAll rest

end

mutual

def Stmt.dump : Stmt → String
  | .declare v init =>
    record "VariableDeclaration" [("variable", v.dump), ("initializer", init.dump)]
  | .job j params body =>
    record "FunctionDeclaration" [("function", j.dump),
      ("parameters", list (params.map Variable.dump)), ("body", list (dumpAll body))]
  | .assign target source =>
    record "Reassignment" [("target", target.dump), ("source", source.dump)]
  | .print value => record "Print" [("argument", value.dump)]
  | .output value => record "Output" [("expression", value.dump)]
  | .ifThen test body =>
    record "If" [("test", test.dump), ("consequent", list (dumpAll body)),
      ("alternate", optional none)]
  | .ifElse test body alternative =>
    record "If" [("test", test.dump), ("consequent", list (dumpAll body)),
      ("alternate", optional (some (list (dumpAll alternative))))]
  | .whileLoop test body => record "While" [("test", test.dump), ("body", list (dumpAll body))]
  | .repeatLoop count body =>
    record "Repeat" [("count", count.dump), ("body", list (dumpAll body))]
  | .coil counter low high body =>
    record "Coil" [("induction", counter.dump), ("low", low.dump), ("high", high.dump),
      ("body", list (dumpAll body))]
  | .increment target => record "Increment" [("target", target.dump)]
  | .decrement target => record "Decrement" [("target", target.dump)]
  | .call callee args => dumpCall callee (Expr.dumpAll args)

/-- The dumps of the statements of a chunk, in order. -/
def Stmt.dumpAll : List Stmt → List String
  | [] => []
  | s :: rest => s.dump :: dumpAll rest

end

/-- The dump of a program on one line. -/
def dump (program : List Stmt) : String :=
  record "TypedProgram" [("statements", list (Stmt.dumpAll program))]

/-- The dump of a program laid out over lines. -/
def pretty (program : List Stmt) : String := Text.indent (dump program)

end Typed
end JobLang
