import EagerForth.Proofs.Decimal
import EagerForth.Proofs.Expression

/-!
# Stacks in writing

A stack is written as a row of numerals, its bottom first.  Such a text is an expression for
every evaluator, whatever characters it accepts and whatever its words mean: numerals stand for
themselves, and digits, minus signs and spaces are the same in every normal form.  So the text
of one stack, evaluated over another, puts the values of the first on top of the second.

Main results:

- Theorem {lit}`Numeral.mapM_write?`: a row of integers in writing, if there is such a text.
- Theorem {lit}`Charset.tokenize_unwords_write`: the words of a row of written integers.
- Theorem {lit}`runWords_map_write`: running these words pushes the integers.
- Theorem {lit}`Evaluator.eval_formatStack`: a written stack is read back by every evaluator.
-/

namespace EagerForth

/-! ## Rows of numerals -/

/-- A row of integers is written one by one, and can be written when each of them can. -/
theorem Numeral.mapM_write? (ns : List Int) :
    ns.mapM write? =
      if ∀ n ∈ ns, (magnitudeDigits n).length ≤ digitLimit then some (ns.map write)
      else none := by
  induction ns with
  | nil => simp
  | cons n ns ih =>
      rw [List.mapM_cons, ih, write?]
      simp only [List.forall_mem_cons]
      by_cases hn : (magnitudeDigits n).length ≤ digitLimit
      · by_cases hns : ∀ m ∈ ns, (magnitudeDigits m).length ≤ digitLimit
        · rw [if_pos hn, if_pos hns, if_pos ⟨hn, hns⟩]
          rfl
        · rw [if_pos hn, if_neg hns, if_neg fun h => hns h.2]
          rfl
      · have hall : ¬ ((magnitudeDigits n).length ≤ digitLimit ∧
            ∀ m ∈ ns, (magnitudeDigits m).length ≤ digitLimit) := fun h => hn h.1
        rw [if_neg hn, if_neg hall]
        rfl

/-- A row of written integers is made of digits, minus signs and spaces. -/
theorem Numeral.eq_or_isDigit_of_mem_unwords {ns : List Int} {c : Char}
    (hc : c ∈ Text.unwords (ns.map write)) : c = ' ' ∨ c = '-' ∨ c.isDigit = true := by
  rcases Text.eq_space_or_mem_of_mem_unwords hc with hspace | ⟨w, hw, hcw⟩
  · exact Or.inl hspace
  · rcases List.mem_map.mp hw with ⟨n, -, rfl⟩
    exact Or.inr (eq_or_isDigit_of_mem_write hcw)

namespace Charset

/-- A row of written integers is in normal form. -/
theorem normalize_unwords_write (cs : Charset) (ns : List Int) :
    cs.normalize (Text.unwords (ns.map Numeral.write)) =
      Text.unwords (ns.map Numeral.write) := by
  apply cs.normalize_eq_self
  intro c hc
  rcases Numeral.eq_or_isDigit_of_mem_unwords hc with rfl | rfl | hdigit
  · exact ⟨rfl, rfl⟩
  · exact ⟨rfl, rfl⟩
  · rcases Numeral.toNat_of_isDigit hdigit with ⟨hlo, hhi⟩
    constructor
    · simp only [isPrintableAscii, Bool.and_eq_true, decide_eq_true_eq]
      omega
    · exact Text.isUpper_eq_false_of_lt (by omega)

/-- The words of a row of written integers are the numerals in the row. -/
theorem tokenize_unwords_write (cs : Charset) (ns : List Int) :
    cs.tokenize (Text.unwords (ns.map Numeral.write)) = ns.map Numeral.write := by
  rw [tokenize, normalize_unwords_write]
  apply Text.words_unwords
  intro w hw
  rcases List.mem_map.mp hw with ⟨n, -, rfl⟩
  refine ⟨Numeral.write_ne_nil n, ?_⟩
  intro hspace
  rcases Numeral.eq_or_isDigit_of_mem_write hspace with hminus | hdigit
  · cases hminus
  · cases hdigit

end Charset

/-- Running written integers pushes them, whatever words mean. -/
theorem runWords_map_write (primitives : Primitives) (d : Dictionary) {ns : List Int}
    (h : ∀ n ∈ ns, (Numeral.magnitudeDigits n).length ≤ Numeral.digitLimit) (stack : Stack) :
    runWords primitives d (ns.map Numeral.write) stack = .done (ns.reverse ++ stack) := by
  induction ns generalizing stack with
  | nil => rfl
  | cons n ns ih =>
      rcases List.forall_mem_cons.mp h with ⟨hn, hns⟩
      have hresolve := d.resolve_value (Numeral.read_write hn)
      simp only [List.map_cons, runWords, hresolve]
      change runWords primitives d (ns.map Numeral.write) (n :: stack) = _
      rw [ih hns, List.reverse_cons, List.append_assoc]
      rfl

namespace Evaluator

/-- A row of written integers is no definition. -/
theorem head?_unwords_write_ne (cs : Charset) (ns : List Int) :
    ((cs.normalize (Text.unwords (ns.map Numeral.write))).dropWhile (· == ' ')).head? ≠
      some ':' := by
  rw [cs.normalize_unwords_write]
  intro hcolon
  have hmem : ':' ∈ Text.unwords (ns.map Numeral.write) :=
    (List.dropWhile_sublist _).subset (List.mem_of_head? hcolon)
  rcases Numeral.eq_or_isDigit_of_mem_unwords hmem with hspace | hminus | hdigit
  · cases hspace
  · cases hminus
  · cases hdigit

/-- A row of written integers, evaluated, puts the integers on the stack and does nothing
else. -/
theorem eval_unwords_write (ev : Evaluator) {ns : List Int}
    (h : ∀ n ∈ ns, (Numeral.magnitudeDigits n).length ≤ Numeral.digitLimit) :
    ev.eval (Text.unwords (ns.map Numeral.write)) =
      .ok { ev with stack := ns.reverse ++ ev.stack } := by
  rw [eval_of_head?_ne (head?_unwords_write_ne ev.charset ns),
    Charset.tokenize_unwords_write, runWords_map_write ev.primitives ev.words h]
  rfl

/-- Printing a stack and reading it are inverse.  A stack cannot be written exactly when one of
its values has a magnitude of ten to the digit limit or more; and the text of a stack that can,
evaluated by any evaluator, puts the same values in the same order on top of the stack there
and changes nothing else. -/
theorem eval_formatStack (ev : Evaluator) :
    (ev.formatStack = none ↔ ∃ n ∈ ev.stack, Nat.pow 10 Numeral.digitLimit ≤ n.natAbs) ∧
      ∀ text, ev.formatStack = some text → ∀ reader : Evaluator,
        reader.eval text = .ok { reader with stack := ev.stack ++ reader.stack } := by
  constructor
  · have hlimit : ∀ n : Int, Nat.pow 10 Numeral.digitLimit ≤ n.natAbs ↔
        ¬ (Numeral.magnitudeDigits n).length ≤ Numeral.digitLimit := by
      intro n
      rw [← Numeral.write?_eq_none_iff, Numeral.write?]
      simp
    simp only [formatStack, Numeral.mapM_write?, List.mem_reverse, hlimit]
    split
    · next hall => simpa using hall
    · next hsome => simpa using hsome
  · intro text htext reader
    rw [formatStack, Numeral.mapM_write?] at htext
    split at htext
    · next hall =>
        rw [Option.map_some, Option.some.injEq] at htext
        rw [← htext, eval_unwords_write reader hall, List.reverse_reverse]
    · cases htext

/-- An evaluator that accepts the euro sign, has a value on its stack and has a new meaning for
the minus sign. -/
def withoutMinus : Evaluator :=
  { new .legacy with
    stack := [5]
    words := (new .legacy).words.insert "-".toList [.literal 3] }

/-- A stack with a negative value, written and read by an evaluator that knows no minus, and the
least value that cannot be written. -/
theorem eval_formatStack_withoutMinus :
    { new .plain with stack := [-12, 0, 7] }.formatStack = some "7 0 -12".toList ∧
      withoutMinus.eval "7 0 -12".toList =
        .ok { withoutMinus with stack := [-12, 0, 7] ++ withoutMinus.stack } ∧
      { new .plain with stack := [(Nat.pow 10 Numeral.digitLimit : Nat)] }.formatStack =
        none := by
  have htext : { new .plain with stack := [-12, 0, 7] }.formatStack =
      some "7 0 -12".toList := by
    decide
  refine ⟨htext, ?_, ?_⟩
  · exact (eval_formatStack { new .plain with stack := [-12, 0, 7] }).2 _ htext withoutMinus
  · exact (eval_formatStack
      { new .plain with stack := [(Nat.pow 10 Numeral.digitLimit : Nat)] }).1.mpr
      ⟨_, List.mem_singleton_self _, Nat.le_of_eq (Int.natAbs_natCast _).symm⟩

end Evaluator

end EagerForth
