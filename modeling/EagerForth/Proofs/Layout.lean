import EagerForth.Proofs.Evaluation
import EagerForth.Proofs.NormalForm

/-!
# Layout

A definition is not read word by word: its text is cut at the first semicolon, wherever in a
word that is, the part before it is cut at blanks, and the part after it up to a line feed is
brought into normal form again.  All the same the meaning of a line depends on its words
alone, whatever characters a character set adds.

Main results:

- Theorem {lit}`Line.parse_of_definition`: how a text that starts with a colon is cut up.
- Theorem {lit}`Clause.ofInside_congr`: what comes of a definition, and the words after it, can
  be told from the words it is read from.
- Theorem {lit}`Line.parse_congr`: texts with the same words are cut up alike.
- Theorem {lit}`Evaluator.eval_congr_layout`: texts with the same words are evaluated alike, and
  so are texts that differ in spacing, in separators and in ASCII capitals only.
-/

namespace EagerForth

/-! ## Definitions in texts -/

/-- The definition that stands after a colon, and what follows it. -/
def Clause.ofInside (inside : Text) : Clause where
  definition := .ofWords (Text.fields Text.isBlank (inside.takeWhile (· != ';')))
  rest := (inside.dropWhile (· != ';')).tail.takeWhile (· != '\n')

/-- What reading up to a semicolon and past it leaves. -/
theorem Cursor.remaining_behind (c : Cursor) :
    ((c.takeWhile (· != ';')).2.char ';').2.remaining =
      (c.remaining.dropWhile (· != ';')).tail := by
  rw [remaining_char, remaining_takeWhile]
  -- What reading up to a semicolon leaves is nothing or starts with the semicolon.
  cases hdrop : c.remaining.dropWhile (· != ';') with
  | nil => simp
  | cons x rest =>
      have hx : x = ';' := by
        have hhead := List.head?_dropWhile_not (· != ';') c.remaining
        simpa [hdrop] using hhead
      simp [hx]

/-- A cursor reads the definition that stands after a colon, or at the cursor if there is none. -/
theorem Cursor.clause_eq_ofInside (c : Cursor) :
    c.clause.1 = Clause.ofInside (c.char ':').2.remaining := by
  simp only [clause, restOfLine, piece_takeWhile, remaining_behind, Clause.ofInside]

/-- A cursor at a colon reads the definition after it. -/
theorem Cursor.clause_of_remaining {c : Cursor} {inside : Text}
    (h : c.remaining = ':' :: inside) : c.clause.1 = Clause.ofInside inside := by
  have hinside : (c.char ':').2.remaining = inside := by
    rw [remaining_char, h]
    simp
  rw [clause_eq_ofInside, hinside]

/-- What comes of a definition, and the words after it, can be told from the words it is read
from. -/
theorem Clause.ofInside_congr {s t : Text} (h : Text.words s = Text.words t) :
    (ofInside s).definition = (ofInside t).definition ∧
      Text.words (ofInside s).rest = Text.words (ofInside t).rest := by
  rcases Text.words_cut_congr h (x := ';') (by decide) with ⟨hbody, hbehind⟩
  constructor
  · simp only [ofInside]
    rw [Text.fields_isBlank_eq_flatMap, hbody, ← Text.fields_isBlank_eq_flatMap]
  · exact (Text.words_cut_congr hbehind (x := '\n') (by decide)).1

/-- The words after the colon at the start of a text can be told from those of the text. -/
theorem Text.words_inside_congr {s t s' t' : Text} (h : words s = words t)
    (hs : s.dropWhile (· == ' ') = ':' :: s') (ht : t.dropWhile (· == ' ') = ':' :: t') :
    words s' = words t' := by
  have hcolon : words (':' :: s') = words (':' :: t') := by
    rw [← hs, ← ht, words_dropWhile_space, words_dropWhile_space, h]
  have hcut := (words_cut_congr hcolon (x := ':') (by decide)).2
  simpa using hcut

namespace Line

variable {cs : Charset} {text inside : Text}

theorem remaining_start (cs : Charset) (text : Text) :
    (start cs text).2.remaining = (cs.normalize text).dropWhile (· == ' ') := by
  simp [start, Cursor.atDefinition, Cursor.spaces]

theorem start_fst (cs : Charset) (text : Text) :
    (start cs text).1 =
      (((cs.normalize text).dropWhile (· == ' ')).head? == some ':') := by
  rw [← remaining_start]
  rfl

/-- The cursor at the colon of a text reads the definition after it. -/
theorem clause_start (h : (cs.normalize text).dropWhile (· == ' ') = ':' :: inside) :
    (start cs text).2.clause.1 = Clause.ofInside inside := by
  apply Cursor.clause_of_remaining
  rw [remaining_start, h]

/-- A text whose first character other than a space is no colon is an expression. -/
theorem parse_of_head?_ne
    (h : ((cs.normalize text).dropWhile (· == ' ')).head? ≠ some ':') :
    parse cs text = ⟨[], cs.tokenize text⟩ := by
  apply parse_of_not_definition
  rw [start_fst, beq_eq_false_iff_ne]
  exact h

/-- A text that starts with a colon is a definition, followed by a line of its own unless the
rest is blank. -/
theorem parse_of_definition
    (h : (cs.normalize text).dropWhile (· == ' ') = ':' :: inside) :
    parse cs text =
      if (Clause.ofInside inside).rest.all Text.isBlank then
        ⟨[(Clause.ofInside inside).definition], []⟩
      else
        ⟨(Clause.ofInside inside).definition ::
          (parse cs (Clause.ofInside inside).rest).definitions,
          (parse cs (Clause.ofInside inside).rest).expression⟩ := by
  have hstart : (start cs text).1 = true := by
    rw [start_fst, h]
    rfl
  rw [parse, if_pos hstart, clause_start h]
  by_cases hblank : (Clause.ofInside inside).rest.all Text.isBlank = true
  · rw [dif_pos hblank, if_pos hblank]
  · rw [dif_neg hblank, if_neg hblank]

/-- The text after a definition has fewer semicolons than the text that starts with it. -/
theorem count_ofInside_rest_lt
    (h : (cs.normalize text).dropWhile (· == ' ') = ':' :: inside)
    (hblank : ¬ (Clause.ofInside inside).rest.all Text.isBlank = true) :
    (Clause.ofInside inside).rest.count ';' < text.count ';' := by
  rw [← clause_start h]
  apply count_rest_lt
  rw [clause_start h]
  intro hnil
  rw [hnil] at hblank
  exact hblank rfl

/-- Texts with the same words are cut up alike. -/
theorem parse_congr {a b : Text} (h : cs.tokenize a = cs.tokenize b) :
    parse cs a = parse cs b := by
  have hhead : ((cs.normalize a).dropWhile (· == ' ')).head? =
      ((cs.normalize b).dropWhile (· == ' ')).head? := by
    rw [Text.head?_dropWhile_space, Text.head?_dropWhile_space]
    exact congrArg (·.head?.bind List.head?) h
  by_cases hdef : ((cs.normalize a).dropWhile (· == ' ')).head? = some ':'
  · rcases List.head?_eq_some_iff.mp hdef with ⟨s, hs⟩
    rcases List.head?_eq_some_iff.mp (hhead ▸ hdef) with ⟨t, ht⟩
    have hwords := Text.words_inside_congr h hs ht
    rcases Clause.ofInside_congr hwords with ⟨hdefinition, hrest⟩
    have hsame := Text.all_isBlank_congr hrest
    rw [parse_of_definition hs, parse_of_definition ht, hdefinition, ← hsame]
    by_cases hblank : (Clause.ofInside s).rest.all Text.isBlank = true
    · rw [if_pos hblank, if_pos hblank]
    · -- The rest is read again, and its new words can be told from its old ones.
      have hlt := count_ofInside_rest_lt hs hblank
      rw [if_neg hblank, if_neg hblank, parse_congr (cs.tokenize_congr_words hrest)]
  · rw [parse_of_head?_ne hdef, parse_of_head?_ne (hhead ▸ hdef), h]
termination_by a.count ';'

end Line

/-! ## Evaluation -/

/-- Evaluation sees the words of a text and not its layout: two texts whose normal forms have
the same words either both succeed and leave the same evaluator or both fail for the same
reason.  This is so in particular for texts of the same spelling, which differ in spacing, in
other separators and in ASCII capitals only. -/
theorem Evaluator.eval_congr_layout (ev : Evaluator) (a b : Text) :
    (ev.charset.tokenize a = ev.charset.tokenize b → ev.eval a = ev.eval b) ∧
      (ev.charset.spelling a = ev.charset.spelling b → ev.eval a = ev.eval b) := by
  have hwords : ev.charset.tokenize a = ev.charset.tokenize b → ev.eval a = ev.eval b := by
    intro h
    rw [eval_eq_carryOut, eval_eq_carryOut, Line.parse_congr h]
  refine ⟨hwords, ?_⟩
  intro h
  exact hwords (ev.charset.tokenize_congr_spelling h)

/-- A definition with its colon and its semicolon at the words beside them, and a line feed that
is accepted, in two layouts.  The line feed ends the line, so that the last number is not read. -/
theorem Evaluator.eval_congr_layout_square :
    let ev := Evaluator.new ⟨['\n']⟩
    let square : Expansion := [.primitive "dup".toList, .primitive "*".toList]
    let after := { ev with stack := [9], words := ev.words.insert "sq".toList square }
    (⟨['\n']⟩ : Charset).spelling ":Sq dup *;3 SQ\n4".toList =
        (⟨['\n']⟩ : Charset).spelling "  :sq\tDUP   *;3\tsq\n4 ".toList ∧
      ev.eval ":Sq dup *;3 SQ\n4".toList = ev.eval "  :sq\tDUP   *;3\tsq\n4 ".toList ∧
      ev.eval "  :sq\tDUP   *;3\tsq\n4 ".toList = .ok after := by
  intro ev square after
  have hspelling : (⟨['\n']⟩ : Charset).spelling ":Sq dup *;3 SQ\n4".toList =
      (⟨['\n']⟩ : Charset).spelling "  :sq\tDUP   *;3\tsq\n4 ".toList := by
    decide +kernel
  have hsame : ev.eval ":Sq dup *;3 SQ\n4".toList = ev.eval "  :sq\tDUP   *;3\tsq\n4 ".toList :=
    (eval_congr_layout ev _ _).2 hspelling
  have hparse : Line.parse ⟨['\n']⟩ ":Sq dup *;3 SQ\n4".toList =
      ⟨[⟨some "sq".toList, ["dup".toList, "*".toList]⟩], ["3".toList, "sq".toList]⟩ := by
    decide +kernel
  have hafter : ev.eval ":Sq dup *;3 SQ\n4".toList = .ok after :=
    (congrArg ev.carryOut hparse).trans rfl
  exact ⟨hspelling, hsame, hsame.symm.trans hafter⟩

end EagerForth
