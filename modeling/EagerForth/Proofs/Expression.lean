import EagerForth.Proofs.Layout
import EagerForth.Proofs.LexicalScope

/-!
# Expressions and their tokens

An expression can be looked at as the tokens that all its words stand for.  Evaluating it is
another matter: each word is resolved and run before the next one is resolved.  When all words
can be resolved, the two ways agree in everything.  When one cannot, both fail, but a word
before it may have failed in the running already, and then evaluation reports that.

Main results:

- Theorem {lit}`Dictionary.expand_eq_error_iff`: words cannot be expanded exactly when one of
  them cannot be resolved, and the first of these decides the failure.
- Theorem {lit}`runWords_of_unresolvable`: words are run up to the first that cannot be
  resolved.
- Theorem {lit}`Evaluator.eval_eq_interpret_tokenize`: what the tokens of an expression say
  about its evaluation.
-/

namespace EagerForth

/-! ## Words that cannot be resolved -/

namespace Dictionary

/-- A word cannot be resolved exactly when it is a numeral with too many digits, or no numeral
and not in the dictionary. -/
theorem resolve_eq_error_iff {d : Dictionary} {word : Text} {failure : Failure} :
    d.resolve word = .error failure ↔
      (Numeral.read word = .tooLong ∧ failure = .digitLimit) ∨
        (Numeral.read word = .notNumeral ∧ d.find? word = none ∧
          failure = .fault (.unknownWord word)) := by
  unfold resolve
  cases hread : Numeral.read word with
  | value n => simp
  | tooLong => simp [eq_comm]
  | notNumeral => cases hfind : d.find? word <;> simp [eq_comm]

/-- Words cannot be expanded exactly when one of them cannot be resolved and all before it
can. -/
theorem expand_eq_error_iff {d : Dictionary} {words : List Text} {failure : Failure} :
    d.expand words = .error failure ↔
      ∃ before word after tokens, words = before ++ word :: after ∧
        d.expand before = .ok tokens ∧ d.resolve word = .error failure := by
  constructor
  · intro h
    induction words with
    | nil => cases h
    | cons first words ih =>
        cases hfirst : d.resolve first with
        | error failure' =>
            simp only [expand, hfirst, Except.error.injEq] at h
            subst h
            exact ⟨[], first, words, [], rfl, rfl, hfirst⟩
        | ok expansion =>
            cases hwords : d.expand words with
            | ok rest => simp [expand, hfirst, hwords] at h
            | error failure' =>
                simp only [expand, hfirst, hwords, Except.error.injEq] at h
                subst h
                rcases ih hwords with ⟨before, word, after, tokens, rfl, hbefore, hword⟩
                refine ⟨first :: before, word, after, expansion ++ tokens, rfl, ?_, hword⟩
                simp only [expand, hfirst, hbefore]
  · rintro ⟨before, word, after, tokens, rfl, hbefore, hword⟩
    rw [expand_append, hbefore]
    simp only [expand, hword]
    rfl

end Dictionary

/-- Words are run up to the first that cannot be resolved, unless one of them fails before
that. -/
theorem runWords_of_unresolvable (primitives : Primitives) {d : Dictionary}
    {before : List Text} {word : Text} {tokens : Expansion} {failure : Failure}
    (hbefore : d.expand before = .ok tokens) (hword : d.resolve word = .error failure)
    (after : List Text) (stack : Stack) :
    runWords primitives d (before ++ word :: after) stack =
      (interpret primitives tokens stack).andThen fun left => .stopped failure left := by
  rw [runWords_append, runWords_eq_interpret primitives hbefore]
  congr 1
  funext left
  simp only [runWords, hword]

/-! ## Evaluation and tokens -/

namespace Evaluator

/-- Take over the stack of a run that has come to its end. -/
def commit (ev : Evaluator) : Run → Except Failure Evaluator
  | .done stack => .ok { ev with stack := stack }
  | .stopped failure _ => .error failure

/-- A text that is no definition is evaluated by running its words. -/
theorem eval_of_head?_ne {ev : Evaluator} {text : Text}
    (h : ((ev.charset.normalize text).dropWhile (· == ' ')).head? ≠ some ':') :
    ev.eval text = ev.commit
      (runWords ev.primitives ev.words (ev.charset.tokenize text) ev.stack) := by
  rw [eval_eq_carryOut, Line.parse_of_head?_ne h]
  simp only [carryOut, Dictionary.defineAll]
  cases runWords ev.primitives ev.words (ev.charset.tokenize text) ev.stack <;> rfl

/-- The tokens of an expression decide about its evaluation.  When there are tokens for all of
its words, evaluation runs these tokens over the stack: it takes over the stack they leave and
changes nothing else, or fails as they do.  When there are none, there is a first word that is
not in the dictionary or has too many digits, and the tokens of the words before it are run:
evaluation fails as they do, or else for the reason for which there are no tokens. -/
theorem eval_eq_interpret_tokenize (ev : Evaluator) (text : Text)
    (h : ((ev.charset.normalize text).dropWhile (· == ' ')).head? ≠ some ':') :
    (∀ tokens, ev.tokenize text = .ok tokens →
        ev.eval text = ev.commit (ev.interpret tokens ev.stack)) ∧
      ∀ failure, ev.tokenize text = .error failure →
        ∃ before word after tokens, ev.charset.tokenize text = before ++ word :: after ∧
          Dictionary.expand ev.words before = .ok tokens ∧
          Dictionary.resolve ev.words word = .error failure ∧
          (failure = .fault (.unknownWord word) ∨ failure = .digitLimit) ∧
          ev.eval text = .error
            (match ev.interpret tokens ev.stack with
            | .done _ => failure
            | .stopped earlier _ => earlier) := by
  constructor
  · intro tokens htokens
    rw [eval_of_head?_ne h, runWords_eq_interpret ev.primitives htokens]
    rfl
  · intro failure hfailure
    rcases Dictionary.expand_eq_error_iff.mp hfailure with
      ⟨before, word, after, tokens, hwords, hbefore, hword⟩
    refine ⟨before, word, after, tokens, hwords, hbefore, hword, ?_, ?_⟩
    · rcases Dictionary.resolve_eq_error_iff.mp hword with ⟨-, hlimit⟩ | ⟨-, -, hunknown⟩
      · exact Or.inr hlimit
      · exact Or.inl hunknown
    · rw [eval_of_head?_ne h, hwords, runWords_of_unresolvable ev.primitives hbefore hword]
      simp only [interpret]
      cases EagerForth.interpret ev.primitives tokens ev.stack <;> rfl

/-- An expression that is evaluated as its tokens are run, and one that has no tokens but fails
before it comes to the unknown word. -/
theorem eval_eq_interpret_tokenize_unknown :
    (new .plain).tokenize "1 2 SWAP".toList =
        .ok [.literal 1, .literal 2, .primitive "swap".toList] ∧
      (new .plain).eval "1 2 SWAP".toList = .ok { new .plain with stack := [1, 2] } ∧
      (new .plain).tokenize "+ twice".toList =
        .error (.fault (.unknownWord "twice".toList)) ∧
      ∃ before word after tokens, ["+".toList, "twice".toList] = before ++ word :: after ∧
        Dictionary.expand (new .plain).words before = .ok tokens ∧
        (new .plain).eval "+ twice".toList = .error
          (match (new .plain).interpret tokens [] with
          | .done _ => .fault (.unknownWord "twice".toList)
          | .stopped earlier _ => earlier) := by
  refine ⟨rfl, ?_, rfl, ?_⟩
  · exact (eval_eq_interpret_tokenize (new .plain) "1 2 SWAP".toList (by decide)).1 _ rfl
  · rcases (eval_eq_interpret_tokenize (new .plain) "+ twice".toList (by decide)).2
      _ rfl with ⟨before, word, after, tokens, hwords, hbefore, -, -, heval⟩
    exact ⟨before, word, after, tokens, hwords, hbefore, heval⟩

end Evaluator

end EagerForth
