import JobLang.Typed.Simplify

/-!
# Simplification of transformed trees

A transformation of checked trees puts other entities and other notes into them, and keeps their
form. Simplification looks at no note, and at an entity only to tell whether a variable is assigned
to itself, so it commutes with every transformation that keeps variables apart.
-/
namespace JobLang.Typed

/-- Other entities and other notes for those of a tree. -/
structure Transform where
  var : Variable → Variable
  job : Job → Job
  note : Note → Note
  /-- Whether two variables are the same can still be told by their numbers. -/
  var_id_eq_iff (v w : Variable) : (var v).id = (var w).id ↔ v.id = w.id

variable (t : Transform)

namespace Expr

mutual

def transform : Expr → Expr
  | .lit value note => .lit value (t.note note)
  | .var v note => .var (t.var v) (t.note note)
  | .binary op left right note => .binary op left.transform right.transform (t.note note)
  | .unary op operand note => .unary op operand.transform (t.note note)
  | .call callee args note => .call (t.job callee) (transformAll args) (t.note note)

def transformAll : List Expr → List Expr
  | [] => []
  | e :: rest => e.transform :: transformAll rest

end

variable (e : Expr)

@[simp]
theorem note_transform : (e.transform t).note = t.note e.note := by cases e <;> rfl

@[simp]
theorem value?_transform : (e.transform t).value? = e.value? := by cases e <;> rfl

@[simp]
theorem isNum_transform (number : Float) : (e.transform t).isNum number = e.isNum number := by
  rw [isNum, value?_transform]
  rfl

@[simp]
theorem isBaal_transform (truth : Bool) : (e.transform t).isBaal truth = e.isBaal truth := by
  rw [isBaal, value?_transform]
  rfl

@[simp]
theorem containsCall_transform : ∀ e : Expr, (e.transform t).containsCall = e.containsCall
  | .lit .. | .var .. | .call .. => rfl
  | .binary _ left right _ => by
      rw [transform, containsCall, containsCall, left.containsCall_transform,
        right.containsCall_transform]
  | .unary _ operand _ => operand.containsCall_transform

theorem transformAll_eq_map (es : List Expr) : transformAll t es = es.map (transform t) := by
  induction es with
  | nil => rfl
  | cons e rest ih => rw [transformAll, ih, List.map_cons]

theorem reduceBinary_transform (op : BinaryOp) (left right : Expr) (note : Note) :
    reduceBinary op (left.transform t) (right.transform t) (t.note note) =
      (reduceBinary op left right note).transform t := by
  cases op with
  | add | minus | multiply | divide | power | and | or =>
    simp only [reduceBinary, isNum_transform, isBaal_transform, containsCall_transform,
      apply_ite (transform t), transform]
  | mod | less | greater | equals | notEquals => rfl

theorem simplifyBinary_transform (op : BinaryOp) (left right : Expr) (note : Note) :
    simplifyBinary op (left.transform t) (right.transform t) (t.note note) =
      (simplifyBinary op left right note).transform t := by
  rw [simplifyBinary, simplifyBinary, foldBinary?, foldBinary?, value?_transform, value?_transform]
  split
  · rfl
  · exact reduceBinary_transform t op left right note

theorem simplifyUnary_transform (op : UnaryOp) (operand : Expr) (note : Note) :
    simplifyUnary op (operand.transform t) (t.note note) =
      (simplifyUnary op operand note).transform t := by
  rw [simplifyUnary, simplifyUnary, foldUnary?, foldUnary?, value?_transform]
  split <;> rfl

mutual

theorem simplify_transform : ∀ e : Expr, (e.transform t).simplify = e.simplify.transform t
  | .lit .. | .var .. => rfl
  | .binary op left right note => by
      rw [transform, simplify, simplify, left.simplify_transform, right.simplify_transform,
        simplifyBinary_transform]
  | .unary op operand note => by
      rw [transform, simplify, simplify, operand.simplify_transform, simplifyUnary_transform]
  | .call callee args note => by
      rw [transform, simplify, simplify, transform, simplifyAll_transform args]

theorem simplifyAll_transform : ∀ es : List Expr,
    simplifyAll (transformAll t es) = transformAll t (simplifyAll es)
  | [] => rfl
  | e :: rest => by
      rw [transformAll, simplifyAll, simplifyAll, transformAll, e.simplify_transform,
        simplifyAll_transform rest]

end

end Expr

namespace Stmt

mutual

def transform : Stmt → Stmt
  | .declare v init => .declare (t.var v) (init.transform t)
  | .job j params body => .job (t.job j) (params.map t.var) (transformAll body)
  | .assign target source => .assign (t.var target) (source.transform t)
  | .print value => .print (value.transform t)
  | .output value => .output (value.transform t)
  | .ifThen test body => .ifThen (test.transform t) (transformAll body)
  | .ifElse test body alternative =>
    .ifElse (test.transform t) (transformAll body) (transformAll alternative)
  | .whileLoop test body => .whileLoop (test.transform t) (transformAll body)
  | .repeatLoop count body => .repeatLoop (count.transform t) (transformAll body)
  | .coil counter low high body =>
    .coil (t.var counter) (low.transform t) (high.transform t) (transformAll body)
  | .increment target => .increment (t.var target)
  | .decrement target => .decrement (t.var target)
  | .call callee args => .call (t.job callee) (Expr.transformAll t args)

def transformAll : List Stmt → List Stmt
  | [] => []
  | s :: rest => s.transform :: transformAll rest

end

theorem transformAll_eq_map (chunk : List Stmt) :
    transformAll t chunk = chunk.map (transform t) := by
  induction chunk with
  | nil => rfl
  | cons s rest ih => rw [transformAll, ih, List.map_cons]

theorem transformAll_append (first second : List Stmt) :
    transformAll t (first ++ second) = transformAll t first ++ transformAll t second := by
  simp only [transformAll_eq_map, List.map_append]

@[simp]
theorem verdict?_transform (test : Expr) : verdict? (test.transform t) = verdict? test := by
  rw [verdict?, Expr.value?_transform]
  rfl

@[simp]
theorem isEmptyRange_transform (low high : Expr) :
    isEmptyRange (low.transform t) (high.transform t) = isEmptyRange low high := by
  rw [isEmptyRange, Expr.value?_transform, Expr.value?_transform]
  rfl

@[simp]
theorem isSelfAssignment_transform (target : Variable) (e : Expr) :
    isSelfAssignment (t.var target) (e.transform t) = isSelfAssignment target e := by
  cases e with
  | var v note => exact decide_eq_decide.mpr (t.var_id_eq_iff v target)
  | lit | binary | unary | call => rfl

mutual

theorem simplify_transform : ∀ s : Stmt, (s.transform t).simplify = transformAll t s.simplify
  | .declare v init => by
      rw [transform, simplify, init.simplify_transform]
      rfl
  | .job j params body => by
      rw [transform, simplify, simplifyAll_transform body]
      rfl
  | .assign target source => by
      rw [transform, simplify, simplify, source.simplify_transform, isSelfAssignment_transform]
      split <;> rfl
  | .print value | .output value => by
      rw [transform, simplify, value.simplify_transform]
      rfl
  | .ifThen test body => by
      rw [transform, simplify, simplify, test.simplify_transform, verdict?_transform,
        simplifyAll_transform body]
      split <;> rfl
  | .ifElse test body alternative => by
      rw [transform, simplify, simplify, test.simplify_transform, verdict?_transform,
        simplifyAll_transform body, simplifyAll_transform alternative]
      split <;> rfl
  | .whileLoop test body => by
      rw [transform, simplify, simplify, test.simplify_transform, Expr.isBaal_transform,
        simplifyAll_transform body]
      split <;> rfl
  | .repeatLoop count body => by
      rw [transform, simplify, simplify, count.simplify_transform, Expr.isNum_transform,
        simplifyAll_transform body]
      split <;> rfl
  | .coil counter low high body => by
      rw [transform, simplify, simplify, low.simplify_transform, high.simplify_transform,
        isEmptyRange_transform, simplifyAll_transform body]
      split <;> rfl
  | .increment _ | .decrement _ => rfl
  | .call callee args => by
      rw [transform, simplify, Expr.simplifyAll_transform]
      rfl

/-- Transforming and simplifying a chunk is the same in either order. -/
theorem simplifyAll_transform : ∀ chunk : List Stmt,
    simplifyAll (transformAll t chunk) = transformAll t (simplifyAll chunk)
  | [] => rfl
  | s :: rest => by
      rw [transformAll, simplifyAll, simplifyAll, transformAll_append, s.simplify_transform,
        simplifyAll_transform rest]

end

end Stmt
end JobLang.Typed
