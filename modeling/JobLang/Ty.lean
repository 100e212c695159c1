/-!
# Types

Three kinds of value can be stored: numbers (`num`), truth values (`baal`) and strings (`quote`).
A job that outputs nothing has the result `void`, and the type of a job lists what it takes and
what it outputs. There is no subtyping, so a value fits a place exactly when the types are equal.
-/
namespace JobLang

inductive Ty
  | num
  | baal
  | quote
  | void
  | job (params : List Ty) (result : Ty)
deriving Inhabited

namespace Ty

/-- The source names of the types; the type of a job has none. -/
def ofName? : String → Option Ty
  | "num" => some .num
  | "baal" => some .baal
  | "quote" => some .quote
  | "void" => some .void
  | _ => none

mutual

/-- A job type is shown as its parameter types in parentheses, an arrow and its result type. -/
def render : Ty → String
  | .num => "num"
  | .baal => "baal"
  | .quote => "quote"
  | .void => "void"
  | .job params result => "(" ++ ",".intercalate (renderAll params) ++ ")->" ++ render result

/-- The shown forms of a list of types, in order. -/
def renderAll : List Ty → List String
  | [] => []
  | ty :: rest => render ty :: renderAll rest

end

mutual

/-- The test behind equality of types. -/
def same : Ty → Ty → Bool
  | .num, .num => true
  | .baal, .baal => true
  | .quote, .quote => true
  | .void, .void => true
  | .job params result, .job params' result' => sameAll params params' && same result result'
  | _, _ => false

/-- The test behind equality of lists of types. -/
def sameAll : List Ty → List Ty → Bool
  | [], [] => true
  | ty :: rest, ty' :: rest' => same ty ty' && sameAll rest rest'
  | _, _ => false

end

mutual

theorem same_iff : ∀ a b : Ty, same a b = true ↔ a = b
  | .job params result, b => by
      cases b <;> simp [same, sameAll_iff params, same_iff result]
  | .num, b | .baal, b | .quote, b | .void, b => by cases b <;> simp [same]

theorem sameAll_iff : ∀ as bs : List Ty, sameAll as bs = true ↔ as = bs
  | [], bs => by cases bs <;> simp [sameAll]
  | a :: as, bs => by cases bs <;> simp [sameAll, same_iff a, sameAll_iff as]

end

instance : DecidableEq Ty := fun a b => decidable_of_iff _ (same_iff a b)

/-- A value of the one type may stand where the other is expected. -/
def fits (source target : Ty) : Bool := source = target

def isNumeric : Ty → Bool
  | .num => true
  | _ => false

/-- A variable can hold a value of this type. -/
def isStorable : Ty → Bool
  | .num | .baal | .quote => true
  | .void | .job .. => false

theorem fits_iff {source target : Ty} : source.fits target = true ↔ source = target := by
  simp [fits]

/-- A source name is the shown form of the type it stands for. -/
theorem render_of_ofName? {name : String} {ty : Ty} (found : ofName? name = some ty) :
    ty.render = name := by
  unfold ofName? at found
  split at found <;> cases found <;> rfl

/-- No type is shown as what a missing output is called. -/
theorem render_ne_nothing (ty : Ty) : ty.render ≠ "nothing" := by
  cases ty with
  | num | baal | quote | void => decide
  | job params result =>
    intro same
    have first := congrArg (fun text => text.toList.head?) same
    simp [render] at first

end Ty
end JobLang
