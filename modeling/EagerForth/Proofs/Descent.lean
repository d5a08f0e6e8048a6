import EagerForth.Proofs.RepeatedReading
import Mathlib.Data.List.Chain

/-!
# Texts behind definitions

The text behind a definition is brought into normal form again, and a normal form can be longer
than its text.  All the same there is less to read behind a definition than from it on, whatever
characters are accepted: a normal form that is read again does not grow, and the definition has
taken at least its semicolon away.  So it can be written down what is done while a text is
evaluated, definition by definition, as long as nothing fails: the script of the text.

Main results:

- Theorem {lit}`Charset.length_normalize`: by how much a normal form is longer than its text.
- Theorem {lit}`Line.descends_rest`: the text behind a definition has a shorter normal form with
  fewer semicolons than the text that starts with the definition.
- Theorem {lit}`Line.isChain_calls_script`: so it is with all texts that a script goes on with.
- Theorem {lit}`Line.script_eq_append`: a script makes the definitions of a line and then runs the
  words of its expression.
- Theorem {lit}`Line.exists_append_of_isPrefix`: what can be told of a script that is broken off.
-/

namespace EagerForth

/-! ## Lengths of normal forms -/

namespace Text

/-- The capital I with a dot becomes two characters, and any other character one. -/
theorem length_lowerChar (before : Text) (c : Char) (rest : Text) :
    (lowerChar before c rest).length = if c = 'İ' then 2 else 1 := by
  unfold lowerChar
  split
  · rfl
  · split
    · split <;> rfl
    · rfl

theorem length_lowerAfter (before t : Text) :
    (lowerAfter before t).length = t.length + t.count 'İ' := by
  induction t generalizing before with
  | nil => rfl
  | cons c t ih =>
      rw [lowerAfter, List.length_append, ih, length_lowerChar, List.count_cons,
        List.length_cons]
      by_cases hc : c = 'İ'
      · simp only [hc, if_true, beq_self_eq_true]
        omega
      · simp only [hc, if_false, beq_iff_eq]
        omega

end Text

namespace Charset

/-- A normal form is longer than its text by the number of the capital I's with a dot, if these
are accepted, and has the length of its text otherwise. -/
theorem length_normalize (cs : Charset) (t : Text) :
    (cs.normalize t).length = t.length + if cs.accepts 'İ' then t.count 'İ' else 0 := by
  have hlength : (cs.blankOut t).length = t.length := List.length_map _
  have hcount : (cs.blankOut t).count 'İ' = if cs.accepts 'İ' then t.count 'İ' else 0 := by
    split
    · next haccepts => exact cs.count_blankOut haccepts (by decide) t
    · next haccepts =>
        rw [List.count_eq_zero]
        intro hmem
        exact haccepts (accepts_of_mem_blankOut hmem)
  rw [normalize, Text.lowercase, Text.length_lowerAfter, hlength, hcount]

/-- A text made of characters of a normal form does not grow when it is read. -/
theorem length_normalize_of_subset {cs : Charset} {t piece : Text}
    (h : piece ⊆ cs.normalize t) : (cs.normalize piece).length = piece.length := by
  have hdotted : 'İ' ∉ piece := by
    -- The capital I with a dot is not its own lowercase form, as the others are.
    intro hmem
    exact absurd (lowercase_eq_of_mem_normalize (h hmem)) (by decide)
  rw [length_normalize, List.count_eq_zero.mpr hdotted, ite_self, Nat.add_zero]

/-- The normal form of the text of a level lies below that of the calling level: it has fewer
semicolons and is shorter. -/
structure Descends (cs : Charset) (caller rest : Text) : Prop where
  count_lt : (cs.normalize rest).count ';' < (cs.normalize caller).count ';'
  length_lt : (cs.normalize rest).length < (cs.normalize caller).length

end Charset

/-- What follows a definition stands behind its semicolon. -/
theorem Clause.cons_rest_sublist {inside : Text} (h : (ofInside inside).rest ≠ []) :
    (';' :: (ofInside inside).rest).Sublist inside := by
  cases hdrop : inside.dropWhile (· != ';') with
  | nil => simp [ofInside, hdrop] at h
  | cons x behind =>
      have hx : x = ';' := by
        have hhead := List.head?_dropWhile_not (· != ';') inside
        simpa [hdrop] using hhead
      have hrest : (ofInside inside).rest = behind.takeWhile (· != '\n') := by
        rw [ofInside, hdrop, List.tail_cons]
      have hinside : (x :: behind).Sublist inside := hdrop ▸ List.dropWhile_sublist _
      rw [hrest, ← hx]
      exact ((List.takeWhile_sublist _).cons_cons x).trans hinside

/-- The text behind a definition lies below the text that starts with the definition, whatever
characters are accepted. -/
theorem Line.descends_rest {cs : Charset} {text inside : Text}
    (h : (cs.normalize text).dropWhile (· == ' ') = ':' :: inside)
    (hblank : ¬ (Clause.ofInside inside).rest.all Text.isBlank = true) :
    cs.Descends text (Clause.ofInside inside).rest := by
  have hne : (Clause.ofInside inside).rest ≠ [] := by
    intro hnil
    rw [hnil] at hblank
    exact hblank rfl
  have hinside : inside.Sublist (cs.normalize text) := by
    have hdrop := List.dropWhile_sublist (· == ' ') (l := cs.normalize text)
    rw [h] at hdrop
    exact (List.sublist_cons_self _ _).trans hdrop
  have hsublist := (Clause.cons_rest_sublist hne).trans hinside
  constructor
  · have hcount := hsublist.count_le ';'
    rw [List.count_cons_self] at hcount
    rw [cs.count_normalize (by decide) (by decide) (by decide)]
    omega
  · have hlength := hsublist.length_le
    rw [List.length_cons] at hlength
    rw [Charset.length_normalize_of_subset (List.subset_of_cons_subset hsublist.subset)]
    omega

/-! ## Acts and scripts -/

/-- What is done while a line is evaluated. -/
inductive Act where
  /-- A definition is made, or tried without success. -/
  | define (definition : Definition)
  /-- The evaluation calls itself on the text behind a definition. -/
  | call (rest : Text)
  /-- A word of an expression is resolved and run, or tried without success. -/
  | run (word : Text)
deriving DecidableEq, Repr

namespace Act

/-- The definition that is made. -/
def definition? : Act → Option Definition
  | .define definition => some definition
  | .call _ | .run _ => none

/-- The text that is given to the next level. -/
def call? : Act → Option Text
  | .call rest => some rest
  | .define _ | .run _ => none

/-- The word that is run. -/
def word? : Act → Option Text
  | .run word => some word
  | .define _ | .call _ => none

/-- Running words does nothing else. -/
theorem filterMap_map_run {β : Type} {f : Act → Option β} (h : ∀ word, f (.run word) = none)
    (words : List Text) : (words.map run).filterMap f = [] := by
  rw [List.filterMap_eq_nil_iff]
  intro act hact
  obtain ⟨word, -, rfl⟩ := List.mem_map.mp hact
  exact h word

theorem filterMap_word?_map_run (words : List Text) :
    (words.map run).filterMap word? = words := by
  rw [List.filterMap_map]
  exact List.filterMap_some

theorem filterMap_word?_of_not_mem {acts : List Act} (h : ∀ word, .run word ∉ acts) :
    acts.filterMap word? = [] := by
  rw [List.filterMap_eq_nil_iff]
  intro act hact
  cases act with
  | define definition => rfl
  | call rest => rfl
  | run word => exact absurd hact (h word)

end Act

theorem Text.head?_ne_some {t : Text} {x : Char} (h : ∀ rest, t ≠ x :: rest) :
    t.head? ≠ some x := by
  intro hhead
  obtain ⟨rest, hrest⟩ := List.head?_eq_some_iff.mp hhead
  exact h rest hrest

namespace Line

/-- All that is done while a text is evaluated, if nothing fails. -/
def script (cs : Charset) (text : Text) : List Act :=
  match _h : (cs.normalize text).dropWhile (· == ' ') with
  | ':' :: inside =>
      if _hblank : (Clause.ofInside inside).rest.all Text.isBlank then
        [.define (Clause.ofInside inside).definition]
      else
        .define (Clause.ofInside inside).definition ::
          .call (Clause.ofInside inside).rest :: script cs (Clause.ofInside inside).rest
  | _ => (cs.tokenize text).map .run
termination_by (cs.normalize text).length
decreasing_by exact (descends_rest _h _hblank).length_lt

variable {cs : Charset} {text inside : Text}

theorem script_of_head?_ne
    (h : ((cs.normalize text).dropWhile (· == ' ')).head? ≠ some ':') :
    script cs text = (cs.tokenize text).map .run := by
  rw [script]
  split
  · next inside hinside =>
      rw [hinside] at h
      exact absurd rfl h
  · rfl

theorem script_of_definition
    (h : (cs.normalize text).dropWhile (· == ' ') = ':' :: inside) :
    script cs text =
      if (Clause.ofInside inside).rest.all Text.isBlank then
        [.define (Clause.ofInside inside).definition]
      else
        .define (Clause.ofInside inside).definition ::
          .call (Clause.ofInside inside).rest :: script cs (Clause.ofInside inside).rest := by
  rw [script]
  split
  · next other hother =>
      rw [h, List.cons.injEq] at hother
      rw [← hother.2]
      rfl
  · next hno => exact absurd h (hno inside)

/-- The texts of the levels of a script lie each below the one before. -/
theorem isChain_calls_script (cs : Charset) (text : Text) :
    (text :: (script cs text).filterMap Act.call?).IsChain cs.Descends := by
  fun_induction script cs text with
  | case1 text inside h hblank => exact List.isChain_singleton text
  | case2 text inside h hblank ih =>
      exact List.isChain_cons_cons.mpr ⟨descends_rest h hblank, ih⟩
  | case3 text h =>
      rw [Act.filterMap_map_run fun _ => rfl]
      exact List.isChain_singleton text

/-- A script makes the definitions of the line, one after another, and then runs the words of the
expression. -/
theorem script_eq_append (cs : Charset) (text : Text) :
    ∃ before, script cs text = before ++ (parse cs text).expression.map .run ∧
      (∀ word, .run word ∉ before) ∧
      before.filterMap Act.definition? = (parse cs text).definitions := by
  fun_induction script cs text with
  | case1 text inside h hblank =>
      rw [parse_of_definition h, if_pos hblank]
      exact ⟨[.define (Clause.ofInside inside).definition], rfl, by simp, rfl⟩
  | case2 text inside h hblank ih =>
      obtain ⟨before, happend, hrun, hdefinitions⟩ := ih
      rw [parse_of_definition h, if_neg hblank, happend]
      refine ⟨.define (Clause.ofInside inside).definition ::
        .call (Clause.ofInside inside).rest :: before, rfl, by simpa using hrun, ?_⟩
      exact congrArg ((Clause.ofInside inside).definition :: ·) hdefinitions
  | case3 text h =>
      rw [parse_of_head?_ne (Text.head?_ne_some h)]
      exact ⟨[], rfl, by simp, rfl⟩

/-- A script makes all definitions of the line. -/
theorem definitions_script (cs : Charset) (text : Text) :
    (script cs text).filterMap Act.definition? = (parse cs text).definitions := by
  obtain ⟨before, happend, -, hdefinitions⟩ := script_eq_append cs text
  rw [happend, List.filterMap_append, hdefinitions, Act.filterMap_map_run fun _ => rfl,
    List.append_nil]

/-- A script runs all words of the expression. -/
theorem words_script (cs : Charset) (text : Text) :
    (script cs text).filterMap Act.word? = (parse cs text).expression := by
  obtain ⟨before, happend, hrun, -⟩ := script_eq_append cs text
  rw [happend, List.filterMap_append, Act.filterMap_word?_of_not_mem hrun,
    Act.filterMap_word?_map_run, List.nil_append]

/-- The words of the expression, if there is one, are those of the text of the last level. -/
theorem expression_isPrefix (cs : Charset) (text : Text) :
    (parse cs text).expression <+:
      cs.tokenize (((script cs text).filterMap Act.call?).getLastD text) := by
  fun_induction script cs text with
  | case1 text inside h hblank =>
      rw [parse_of_definition h, if_pos hblank]
      exact List.nil_prefix
  | case2 text inside h hblank ih =>
      have hcalls : (Act.define (Clause.ofInside inside).definition ::
          .call (Clause.ofInside inside).rest ::
            script cs (Clause.ofInside inside).rest).filterMap Act.call? =
          (Clause.ofInside inside).rest ::
            (script cs (Clause.ofInside inside).rest).filterMap Act.call? := rfl
      rw [parse_of_definition h, if_neg hblank, hcalls, List.getLastD_cons]
      exact ih
  | case3 text h =>
      rw [parse_of_head?_ne (Text.head?_ne_some h), Act.filterMap_map_run fun _ => rfl]
      exact List.prefix_rfl

/-- In a beginning of a script, the words that are run stand at the end.  They are words of the
text of the last level, and all definitions of the line stand before them. -/
theorem exists_append_of_isPrefix {acts : List Act}
    (h : acts <+: script cs text) :
    ∃ before words, acts = before ++ words.map .run ∧ (∀ word, .run word ∉ before) ∧
      words <+: cs.tokenize ((acts.filterMap Act.call?).getLastD text) ∧
      (words ≠ [] → acts.filterMap Act.definition? = (parse cs text).definitions) := by
  obtain ⟨before, hscript, hrun, hdefinitions⟩ := script_eq_append cs text
  have hlast := expression_isPrefix cs text
  rw [hscript] at h hlast
  -- Either the script is broken off before the first word, or somewhere behind it.
  rcases List.prefix_or_prefix_of_prefix h (List.prefix_append before _) with
    hacts | ⟨tail, rfl⟩
  · refine ⟨acts, [], (List.append_nil acts).symm, ?_, List.nil_prefix, ?_⟩
    · intro word hmem
      exact hrun word (hacts.subset hmem)
    · intro hne
      exact absurd rfl hne
  · rw [List.prefix_append_right_inj, List.prefix_map_iff] at h
    obtain ⟨words, hwords, rfl⟩ := h
    refine ⟨before, words, rfl, hrun, ?_, ?_⟩
    · rw [List.filterMap_append, Act.filterMap_map_run fun _ => rfl] at hlast ⊢
      exact hwords.trans hlast
    · intro _
      rw [List.filterMap_append, hdefinitions, Act.filterMap_map_run fun _ => rfl,
        List.append_nil]

end Line

end EagerForth
