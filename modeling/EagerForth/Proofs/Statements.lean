import EagerForth.Proofs.Layout

/-!
# Cutting a line between its statements

A line is a row of definitions with an expression at the end.  For a settled character set the
line may be cut after any of its definitions, or between any two words of its expression, and
its parts evaluated as lines of their own.

Main results:

- Theorem {lit}`Line.parse_definition_append`: a definition in front of a text is the first
  definition of its line and changes nothing else in it.
- Theorem {lit}`Line.parse_expression_append`: an expression in front of an expression makes one
  expression of the two.
- Theorem {lit}`Evaluator.eval_cut`: evaluating the parts one after the other comes to the same
  as evaluating the line.
-/

namespace EagerForth

namespace Line

variable {cs : Charset}

/-- A text without words is an empty line. -/
theorem parse_of_tokenize_eq_nil {text : Text} (h : cs.tokenize text = []) :
    parse cs text = ⟨[], []⟩ := by
  have hwords : Text.words (cs.normalize text) = [] := h
  rw [parse_of_head?_ne, h]
  rw [Text.head?_dropWhile_space, hwords]
  simp

/-- A text whose normal form is blank has no words, since no blank but the space is accepted. -/
theorem tokenize_eq_nil_of_blank (hcs : cs.Settled) {text : Text}
    (h : (cs.normalize text).all Text.isBlank = true) : cs.tokenize text = [] := by
  have hspace : ∀ c ∈ cs.normalize text, Text.isBlank c = true → c = ' ' :=
    fun c hc => hcs.eq_space_of_mem_normalize hc
  rw [Charset.tokenize, ← Text.fields_isBlank_eq_words hspace]
  exact (Text.all_isBlank_iff_fields_eq_nil _).mp h

/-- The normal form of a definition, up to its semicolon, and what follows it. -/
theorem normalize_definition_append (hcs : cs.Settled) (c rest : Text) :
    cs.normalize (':' :: c ++ ';' :: rest) =
      ':' :: (cs.normalize c ++ ';' :: cs.normalize rest) := by
  have hcolon : cs.normalChar ':' = ':' := rfl
  have hsemicolon : cs.normalChar ';' = ';' := rfl
  simp only [hcs.normalize_eq_map, List.cons_append, List.map_cons, List.map_append, hcolon,
    hsemicolon]

/-- A definition up to its semicolon and the text behind that are told apart again. -/
theorem ofInside_definition_append (hcs : cs.Settled) {c : Text} (hc : ';' ∉ c)
    (rest : Text) :
    Clause.ofInside (cs.normalize c ++ ';' :: cs.normalize rest) =
      ⟨.ofWords (Text.fields Text.isBlank (cs.normalize c)), cs.normalize rest⟩ := by
  have hbody : ';' ∉ cs.normalize c := by
    rw [← List.count_eq_zero] at hc ⊢
    rw [cs.count_normalize (by decide) (by decide) (by decide), hc]
  have hfeed : '\n' ∉ cs.normalize rest := by
    intro hmem
    have heq := hcs.eq_space_of_mem_normalize hmem (by decide)
    exact absurd heq (by decide)
  rw [Clause.ofInside, Text.takeWhile_ne_append_cons hbody,
    Text.dropWhile_ne_append_cons hbody, List.tail_cons, Text.takeWhile_ne_of_not_mem hfeed]

/-- A definition in front of a text is the first definition of its line and changes nothing
else in it. -/
theorem parse_definition_append (hcs : cs.Settled) {c : Text} (hc : ';' ∉ c) (rest : Text) :
    parse cs (':' :: c ++ ';' :: rest) =
      ⟨.ofWords (Text.fields Text.isBlank (cs.normalize c)) :: (parse cs rest).definitions,
        (parse cs rest).expression⟩ := by
  have hinside : (cs.normalize (':' :: c ++ ';' :: rest)).dropWhile (· == ' ') =
      ':' :: (cs.normalize c ++ ';' :: cs.normalize rest) := by
    rw [normalize_definition_append hcs]
    rfl
  rw [parse_of_definition hinside, ofInside_definition_append hcs hc]
  by_cases hblank : (cs.normalize rest).all Text.isBlank = true
  · rw [if_pos hblank, parse_of_tokenize_eq_nil (tokenize_eq_nil_of_blank hcs hblank)]
  · -- The rest is brought into normal form twice, which makes no difference here.
    have htwice : cs.tokenize (cs.normalize rest) = cs.tokenize rest := by
      rw [Charset.tokenize, hcs.normalize_normalize]
      rfl
    rw [if_neg hblank, parse_congr htwice]

/-- An expression in front of an expression makes one expression of the two. -/
theorem parse_expression_append {t₁ t₂ : Text}
    (h₁ : ((cs.normalize t₁).dropWhile (· == ' ')).head? ≠ some ':')
    (h₂ : ((cs.normalize t₂).dropWhile (· == ' ')).head? ≠ some ':') :
    parse cs (t₁ ++ ' ' :: t₂) = ⟨[], cs.tokenize t₁ ++ cs.tokenize t₂⟩ := by
  have hwords := cs.tokenize_append_separator t₁ t₂ (c := ' ') rfl
  rw [← hwords]
  apply parse_of_head?_ne
  rw [Text.head?_dropWhile_space] at h₁ h₂ ⊢
  change ((cs.tokenize (t₁ ++ ' ' :: t₂)).head?.bind List.head?) ≠ some ':'
  rw [hwords]
  -- The first word is that of the first text, or that of the second if the first has none.
  cases hfirst : cs.tokenize t₁ with
  | nil => exact h₂
  | cons w ws =>
      have hw : Text.words (cs.normalize t₁) = w :: ws := hfirst
      rw [hw] at h₁
      exact h₁

end Line

/-- A line may be cut between its statements.  Evaluating a definition with its semicolon and
any text behind it, or two expressions with a space between them, comes to the same as
evaluating the first part and then, from where that has led, the second: both ways succeed
with the same evaluator, or both fail for the reason for which the first of the parts that
fails does. -/
theorem Evaluator.eval_cut (ev : Evaluator) (hcs : ev.charset.Settled) :
    (∀ c rest : Text, ';' ∉ c →
      ev.eval (':' :: c ++ ';' :: rest) =
        (ev.eval (':' :: c ++ [';'])).bind fun after => after.eval rest) ∧
      ∀ t₁ t₂ : Text,
        ((ev.charset.normalize t₁).dropWhile (· == ' ')).head? ≠ some ':' →
        ((ev.charset.normalize t₂).dropWhile (· == ' ')).head? ≠ some ':' →
        ev.eval (t₁ ++ ' ' :: t₂) = (ev.eval t₁).bind fun after => after.eval t₂ := by
  constructor
  · intro c rest hc
    have hempty : Line.parse ev.charset [] = ⟨[], []⟩ := Line.parse_of_tokenize_eq_nil rfl
    simp only [eval_eq_carryOut ev]
    rw [bind_eval, Line.parse_definition_append hcs hc rest,
      Line.parse_definition_append hcs hc [], hempty, carryOut_definition]
  · intro t₁ t₂ h₁ h₂
    simp only [eval_eq_carryOut ev]
    rw [bind_eval, Line.parse_expression_append h₁ h₂, Line.parse_of_head?_ne h₁,
      Line.parse_of_head?_ne h₂, carryOut_expression]

/-- Both character sets of the prompt are settled.  With the euro sign accepted, a definition is
cut off a line that goes on with a definition of the euro sign and an expression, and an
expression is cut in two, the second of which has an unknown word. -/
theorem Evaluator.eval_cut_legacy :
    let ev := Evaluator.new .legacy
    let square : Expansion := [.primitive "dup".toList, .primitive "*".toList]
    let words := (ev.words.insert "sq".toList square).insert "€".toList (square ++ square)
    Charset.plain.Settled ∧ Charset.legacy.Settled ∧
      (ev.eval (':' :: " Sq dup * ".toList ++ ';' :: " : € sq SQ ; 3 €".toList) =
          (ev.eval (':' :: " Sq dup * ".toList ++ [';'])).bind
            (fun after => after.eval " : € sq SQ ; 3 €".toList) ∧
        ev.eval (':' :: " Sq dup * ".toList ++ ';' :: " : € sq SQ ; 3 €".toList) =
          .ok { ev with stack := [81], words := words }) ∧
      ev.eval ("1 2".toList ++ ' ' :: "+ €".toList) =
          (ev.eval "1 2".toList).bind (fun after => after.eval "+ €".toList) ∧
        ev.eval ("1 2".toList ++ ' ' :: "+ €".toList) =
          .error (.fault (.unknownWord "€".toList)) := by
  intro ev square words
  have hcut := eval_cut ev Charset.settled_legacy
  have hdefinitions : Line.parse .legacy
      (':' :: " Sq dup * ".toList ++ ';' :: " : € sq SQ ; 3 €".toList) =
        ⟨[⟨some "sq".toList, ["dup".toList, "*".toList]⟩,
          ⟨some "€".toList, ["sq".toList, "sq".toList]⟩], ["3".toList, "€".toList]⟩ := by
    decide +kernel
  have hexpression : Line.parse .legacy ("1 2".toList ++ ' ' :: "+ €".toList) =
      ⟨[], ["1".toList, "2".toList, "+".toList, "€".toList]⟩ := by
    decide +kernel
  refine ⟨Charset.settled_plain, Charset.settled_legacy, ⟨?_, ?_⟩, ?_, ?_⟩
  · exact hcut.1 _ _ (by decide)
  · exact (congrArg ev.carryOut hdefinitions).trans rfl
  · exact hcut.2 _ _ (by decide +kernel) (by decide +kernel)
  · exact (congrArg ev.carryOut hexpression).trans rfl

end EagerForth
