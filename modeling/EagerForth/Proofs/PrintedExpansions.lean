import EagerForth.Proofs.DefinitionOutcome
import EagerForth.Proofs.WrittenJournal

/-!
# Expansions that are read back

An expansion is written with the names of primitives in it, and reading a text looks names up.
As long as these names have kept their built-in meaning, what is read is what was written: the
tokens of the text are those of the expansion, and a definition with the text for its body gives
its name the same expansion again.  The signs among the primitives are no numerals, nor do they
become part of a numeral beside them, since every token stands between spaces.

Main results:

- Theorem {lit}`Charset.tokenize_unwords`: the words of a row of printable words.
- Theorem {lit}`Line.parse_definition_of_words`: a definition that is written out of a name and
  the words of a body is read as such.
- Theorem {lit}`Dictionary.expand_map_write`: the tokens of written tokens.
- Theorem {lit}`Evaluator.written_expansion_is_read_back`: what is written of the dictionary of a
  session is read back there.
-/

namespace EagerForth

/-! ## Rows of printable words -/

/-- A word that is its own normal form. -/
def Text.IsPrintableWord (w : Text) : Prop :=
  w ≠ [] ∧ ∀ c ∈ w, IsWordChar c

instance (w : Text) : Decidable (Text.IsPrintableWord w) :=
  haveI := List.decidableBAll Text.IsWordChar w
  inferInstanceAs (Decidable (_ ∧ _))

namespace Text

variable {w : Text} {ws : List Text}

theorem IsPrintableWord.space_not_mem (h : IsPrintableWord w) : ' ' ∉ w :=
  fun hspace => (h.2 ' ' hspace).ne_space rfl

theorem words_unwords_of_printable (h : ∀ w ∈ ws, IsPrintableWord w) : words (unwords ws) = ws :=
  words_unwords fun w hw => ⟨(h w hw).1, (h w hw).space_not_mem⟩

theorem eq_space_or_isWordChar_of_mem_unwords (h : ∀ w ∈ ws, IsPrintableWord w) :
    ∀ c ∈ unwords ws, c = ' ' ∨ IsWordChar c := by
  intro c hc
  rcases eq_space_or_mem_of_mem_unwords hc with hspace | ⟨w, hw, hcw⟩
  · exact Or.inl hspace
  · exact Or.inr ((h w hw).2 c hcw)

end Text

/-- The words of a row of printable words. -/
theorem Charset.tokenize_unwords (cs : Charset) {ws : List Text}
    (h : ∀ w ∈ ws, Text.IsPrintableWord w) : cs.tokenize (Text.unwords ws) = ws := by
  rw [tokenize, cs.normalize_of_printable (Text.eq_space_or_isWordChar_of_mem_unwords h),
    Text.words_unwords_of_printable h]

/-! ## Definitions that are written out -/

/-- What stands between the colon and the semicolon of a definition that is written out: a name
and the words of a body with a space before, between and behind them. -/
def Text.inDefinition (n : Text) (ws : List Text) : Text :=
  ' ' :: (n ++ ' ' :: (unwords ws ++ [' ']))

namespace Text

variable {n : Text} {ws : List Text}

theorem eq_space_or_mem_of_mem_inDefinition {c : Char} (hc : c ∈ inDefinition n ws) :
    c = ' ' ∨ ∃ w ∈ n :: ws, c ∈ w := by
  simp only [inDefinition, List.mem_cons, List.mem_append, List.not_mem_nil, or_false] at hc
  rcases hc with hspace | hname | hspace | hbody | hspace
  · exact Or.inl hspace
  · exact Or.inr ⟨n, List.mem_cons_self, hname⟩
  · exact Or.inl hspace
  · rcases eq_space_or_mem_of_mem_unwords hbody with hspace | ⟨w, hw, hcw⟩
    · exact Or.inl hspace
    · exact Or.inr ⟨w, List.mem_cons_of_mem n hw, hcw⟩
  · exact Or.inl hspace

theorem eq_space_or_isWordChar_of_mem_inDefinition (h : ∀ w ∈ n :: ws, IsPrintableWord w) :
    ∀ c ∈ inDefinition n ws, c = ' ' ∨ IsWordChar c := by
  intro c hc
  rcases eq_space_or_mem_of_mem_inDefinition hc with hspace | ⟨w, hw, hcw⟩
  · exact Or.inl hspace
  · exact Or.inr ((h w hw).2 c hcw)

/-- The blanks among printable characters are the spaces, so the words of a definition are those
that were written. -/
theorem fields_inDefinition (h : ∀ w ∈ n :: ws, IsPrintableWord w) :
    fields isBlank (inDefinition n ws) = n :: ws := by
  have hspace : ∀ c ∈ inDefinition n ws, isBlank c = true → c = ' ' := by
    intro c hc hblank
    rcases eq_space_or_isWordChar_of_mem_inDefinition h c hc with hspace | hword
    · exact hspace
    · rw [hword.isBlank_eq_false] at hblank
      cases hblank
  rcases List.forall_mem_cons.mp h with ⟨hn, hws⟩
  rw [fields_isBlank_eq_words hspace, inDefinition, words_cons_space, words_append_space,
    words_append_space, words_nil, List.append_nil, words_unwords_of_printable hws,
    words_eq_singleton hn.1 hn.space_not_mem]
  rfl

end Text

/-- A definition that is written out of a name and the words of a body is read as such, whatever
characters are accepted besides. -/
theorem Line.parse_definition_of_words (cs : Charset) (n : Text) (ws : List Text)
    (h : ∀ w ∈ n :: ws, Text.IsPrintableWord w) (hsemicolon : ∀ w ∈ n :: ws, ';' ∉ w) :
    parse cs (": ".toList ++ n ++ " ".toList ++ Text.unwords ws ++ " ;".toList) =
      ⟨[⟨some n, ws⟩], []⟩ := by
  have htext : ": ".toList ++ n ++ " ".toList ++ Text.unwords ws ++ " ;".toList =
      ':' :: (Text.inDefinition n ws ++ [';']) := by
    simp [Text.inDefinition]
  have hchars := Text.eq_space_or_isWordChar_of_mem_inDefinition h
  have hnormal : (cs.normalize (':' :: (Text.inDefinition n ws ++ [';']))).dropWhile (· == ' ') =
      ':' :: (Text.inDefinition n ws ++ [';']) := by
    rw [cs.normalize_of_printable]
    · rfl
    · rw [List.forall_mem_cons, List.forall_mem_append, List.forall_mem_singleton]
      exact ⟨Or.inr (by decide), hchars, Or.inr (by decide)⟩
  have hcut : ';' ∉ Text.inDefinition n ws := by
    intro hmem
    rcases Text.eq_space_or_mem_of_mem_inDefinition hmem with hspace | ⟨w, hw, hmem⟩
    · exact absurd hspace (by decide)
    · exact hsemicolon w hw hmem
  rw [htext, parse_of_definition hnormal, Clause.ofInside, Text.takeWhile_ne_append_cons hcut,
    Text.dropWhile_ne_append_cons hcut, Text.fields_inDefinition h]
  rfl

/-! ## The tokens of written tokens -/

/-- A token is written without semicolons. -/
theorem Token.Legible.semicolon_not_mem {token : Token} (h : token.Legible) :
    ';' ∉ token.write := by
  cases token with
  | literal n =>
      intro hmem
      rcases Numeral.eq_or_isDigit_of_mem_write hmem with hsign | hdigit
      · exact absurd hsign (by decide)
      · exact absurd hdigit (by decide)
  | primitive name => exact h.noSemicolon

namespace Dictionary

variable {d : Dictionary}

/-- A primitive of the same name is all that a built-in word stands for. -/
theorem find?_of_isBuiltin {name : Text} (h : d.isBuiltin name = true) :
    d.find? name = some [.primitive name] := by
  rwa [isBuiltin, beq_iff_eq] at h

/-- A written token is read as that token, if it is no primitive whose name has been given
another meaning.  A sign alone is no numeral. -/
theorem resolve_write {token : Token} (hlegible : token.Legible)
    (hbuiltin : ∀ name, token = .primitive name → d.isBuiltin name = true) :
    d.resolve token.write = .ok [token] := by
  cases token with
  | literal n => exact d.resolve_value (Numeral.read_write hlegible)
  | primitive name => exact resolve_of_isName hlegible (find?_of_isBuiltin (hbuiltin name rfl))

/-- The tokens of written tokens. -/
theorem expand_map_write {x : Expansion} (hlegible : ∀ token ∈ x, token.Legible)
    (hbuiltin : ∀ name, .primitive name ∈ x → d.isBuiltin name = true) :
    d.expand (x.map Token.write) = .ok x := by
  induction x with
  | nil => rfl
  | cons token x ih =>
      rcases List.forall_mem_cons.mp hlegible with ⟨htoken, hrest⟩
      have hfirst : d.resolve token.write = .ok [token] := by
        apply resolve_write htoken
        rintro name rfl
        exact hbuiltin name List.mem_cons_self
      have hothers : d.expand (x.map Token.write) = .ok x :=
        ih hrest fun name hmem => hbuiltin name (List.mem_cons_of_mem token hmem)
      simp only [List.map_cons, expand, hfirst, hothers, List.singleton_append]

end Dictionary

/-! ## The expansions of a session -/

namespace Evaluator

/-- What is written of the dictionary of a session is read back there.  Every expansion can be
written, and as long as the primitives in it have kept their names, the tokens of the writing are
those of the expansion, and a definition of any name with the writing for its body gives the name
that expansion and changes nothing else. -/
theorem written_expansion_is_read_back (charset : Charset) (lines : List Text) :
    let ev := (new charset).afterLines lines
    ∀ (name : Text) (x : Expansion), ev.words.find? name = some x →
      (∀ p, .primitive p ∈ x → ev.words.isBuiltin p = true) →
      x.isWritable = true ∧ ev.tokenize x.write = .ok x ∧
        ∀ n, Text.IsName n →
          ev.eval (": ".toList ++ n ++ " ".toList ++ x.write ++ " ;".toList) =
            .ok { ev with words := ev.words.insert n x } := by
  intro ev name x hfind hbuiltin
  have hgrounded : ev.words.Grounded (new charset).primitives := by
    have hsession := grounded_afterLines charset lines
    rwa [Evaluator.Grounded, primitives_afterLines] at hsession
  have hlegible : ∀ token ∈ x, token.Legible :=
    fun token htoken => (hgrounded name x hfind token htoken).legible
  have hexpand : ev.words.expand (x.map Token.write) = .ok x :=
    Dictionary.expand_map_write hlegible hbuiltin
  have hprintable : ∀ w ∈ x.map Token.write, Text.IsPrintableWord w := by
    intro w hw
    rcases List.mem_map.mp hw with ⟨token, htoken, rfl⟩
    exact (hlegible token htoken).isWord
  refine ⟨(hgrounded name x hfind).isWritable, ?_, ?_⟩
  · rw [tokenize, Expansion.write, Charset.tokenize_unwords _ hprintable, hexpand]
  · intro n hn
    have hwords : ∀ w ∈ n :: x.map Token.write, Text.IsPrintableWord w :=
      List.forall_mem_cons.mpr ⟨⟨hn.ne_nil, hn.isWordChar⟩, hprintable⟩
    have hsemicolon : ∀ w ∈ n :: x.map Token.write, ';' ∉ w := by
      refine List.forall_mem_cons.mpr ⟨hn.noSemicolon, ?_⟩
      intro w hw
      rcases List.mem_map.mp hw with ⟨token, htoken, rfl⟩
      exact (hlegible token htoken).semicolon_not_mem
    have hname := Dictionary.checkName_of_not_isNumeral hn.ne_nil hn.notNumeral
    rw [eval_eq_carryOut, Expansion.write,
      Line.parse_definition_of_words _ _ _ hwords hsemicolon, carryOut_single,
      hgrounded.define_eq_ok hname hexpand]

/-- A new evaluator after a line that defines a word with signs next to numerals in its body. -/
def withShift : Evaluator :=
  (new .legacy).afterLines [": shift - -2 + ;".toList]

/-- The signs of that word are read back as primitives, and the negative numeral between them as
a literal. -/
theorem written_expansion_is_read_back_shift :
    let x : Expansion := [.primitive "-".toList, .literal (-2), .primitive "+".toList]
    withShift.words.find? "shift".toList = some x ∧
      withShift.tokenize "- -2 +".toList = .ok x ∧
      withShift.eval ": +- - -2 + ;".toList =
        .ok { withShift with words := withShift.words.insert "+-".toList x } := by
  intro x
  have hsession : withShift =
      { new .legacy with words := (new .legacy).words.insert "shift".toList x } := by
    have heval : (new .legacy).eval ": shift - -2 + ;".toList =
        .ok { new .legacy with words := (new .legacy).words.insert "shift".toList x } := by
      have hparse := Line.parse_definition_of_words .legacy "shift".toList
        ["-".toList, "-2".toList, "+".toList] (by decide) (by decide)
      rw [eval_eq_carryOut]
      refine (congrArg (new .legacy).carryOut hparse).trans ?_
      rw [carryOut_single]
      rfl
    simp only [withShift, afterLines_cons, perform, heval, afterLines_nil]
  have hfind : withShift.words.find? "shift".toList = some x := by
    rw [hsession]
    exact NameTable.find?_insert_self _ _ _
  have hbuiltin : ∀ p, .primitive p ∈ x → withShift.words.isBuiltin p = true := by
    intro p hp
    rw [hsession]
    simp only [x, List.mem_cons, Token.primitive.injEq, List.not_mem_nil, or_false,
      reduceCtorEq, false_or] at hp
    rcases hp with rfl | rfl
    · rfl
    · rfl
  rcases written_expansion_is_read_back .legacy [": shift - -2 + ;".toList] _ x hfind hbuiltin
    with ⟨-, htokens, hdefine⟩
  exact ⟨hfind, htokens, hdefine "+-".toList (by decide)⟩

end Evaluator

end EagerForth
