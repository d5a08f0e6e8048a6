import EagerForth.Text.Basic

/-!
# Definitions

What a definition says, apart from how it was laid out in a line.
-/

namespace EagerForth

/-- The words of a definition: the name, if there is one, and the body. -/
structure Definition where
  /-- The word that is defined. -/
  name : Option Text
  /-- The words that say what it stands for. -/
  body : List Text
deriving DecidableEq, Repr

/-- The first word of a definition is its name. -/
def Definition.ofWords : List Text → Definition
  | [] => ⟨none, []⟩
  | name :: body => ⟨some name, body⟩

end EagerForth
