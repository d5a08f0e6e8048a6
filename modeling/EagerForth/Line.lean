import EagerForth.Charset
import EagerForth.Cursor

/-!
# Lines

A line is any number of definitions followed by an expression, which may be missing.  What
follows the semicolon of a definition is brought into normal form again before it is read.
How a line is cut up depends on its characters alone, never on what its words mean.

Main results:

- Theorem {lit}`Line.count_rest_lt`: the text after a definition has fewer semicolons than
  the text that starts with it, so reading a line comes to an end.
- Theorem {lit}`Line.length_definitions_le`: a line has at most one definition more than it
  has semicolons.
-/

namespace EagerForth

/-- The definitions of a line and the words of its expression. -/
structure Line where
  /-- The definitions, in order. -/
  definitions : List Definition
  /-- The words that are run after all definitions have been made. -/
  expression : List Text
deriving DecidableEq, Repr

namespace Line

/-- The cursor at the first character other than a space of the normal form of a text, and
whether a definition starts there. -/
def start (cs : Charset) (text : Text) : Bool × Cursor :=
  (Cursor.ofText (cs.normalize text)).atDefinition

/-- The text after a definition has fewer semicolons than the text that starts with it. -/
theorem count_rest_lt (cs : Charset) (text : Text)
    (hrest : (start cs text).2.clause.1.rest ≠ []) :
    (start cs text).2.clause.1.rest.count ';' < text.count ';' := by
  have hclause := Cursor.count_clause_rest _ hrest
  have hspaces : (start cs text).2.remaining.count ';' ≤ (cs.normalize text).count ';' := by
    simp only [start, Cursor.atDefinition, Cursor.spaces, Cursor.remaining_takeWhile,
      Cursor.remaining_ofText]
    exact (List.dropWhile_sublist _).count_le _
  have hcount := cs.count_normalize (x := ';') (by decide) (by decide) (by decide) text
  omega

/-- Cut a text into definitions and an expression. -/
def parse (cs : Charset) (text : Text) : Line :=
  if (start cs text).1 then
    let clause := (start cs text).2.clause.1
    if _h : clause.rest.all Text.isBlank then ⟨[clause.definition], []⟩
    else
      let line := parse cs clause.rest
      ⟨clause.definition :: line.definitions, line.expression⟩
  else ⟨[], (start cs text).2.words.1⟩
termination_by text.count ';'
decreasing_by
  apply count_rest_lt
  intro hnil
  simp [clause, hnil] at _h

/-- A text that is no definition is an expression of its words. -/
theorem parse_of_not_definition {cs : Charset} {text : Text}
    (h : (start cs text).1 = false) : parse cs text = ⟨[], cs.tokenize text⟩ := by
  rw [parse, h]
  simp [start, Cursor.atDefinition, Cursor.spaces, (Cursor.words_eq _).1,
    Text.words_dropWhile_space, Charset.tokenize]

/-- A line has at most one definition more than it has semicolons. -/
theorem length_definitions_le (cs : Charset) (text : Text) :
    (parse cs text).definitions.length ≤ text.count ';' + 1 := by
  fun_induction parse cs text with
  | case1 text _ clause hblank => simp
  | case2 text _ clause hblank line ih =>
      have hlt := count_rest_lt cs text (by
        intro hnil
        simp [clause, hnil] at hblank)
      change (parse cs clause.rest).definitions.length + 1 ≤ _
      change clause.rest.count ';' < text.count ';' at hlt
      omega
  | case3 text _ => simp

end Line

end EagerForth
