import QuadraticProgram.Text.Quoted

/-!
# Labels

The name of a variable or of a problem. A name is a text; a caller may also put something
else there, which is only ever shown inside messages.
-/

namespace QuadraticProgram

/-- A name. What is no text is known by what is shown of it. -/
inductive Label where
  | text (s : String)
  | other (shown : String)
deriving DecidableEq, BEq, Inhabited

namespace Label

/-- A name inside a message: a text is quoted. -/
def shown : Label → String
  | text s => Text.quoted s
  | other shown => shown

/-- A name as it is printed. An empty text is no name. -/
def printed? : Label → Option String
  | text s => if s.isEmpty then none else some s
  | other _ => none

end Label

end QuadraticProgram
