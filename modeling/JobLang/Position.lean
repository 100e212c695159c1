/-!
# Places in a source text

A position is a byte offset into a named file. Positions are carried along for the messages only:
no rule of the language looks at one.
-/
namespace JobLang

structure Position where
  offset : Nat
  file : String
deriving DecidableEq, Inhabited

/-- A position is shown as the file and the offset, with a colon between them. -/
def Position.render (position : Position) : String :=
  position.file ++ ":" ++ toString position.offset

end JobLang
