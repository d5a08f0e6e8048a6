import EagerForth.Proofs.LineWords
import EagerForth.Proofs.Readings

/-!
# The parts of a definition

Reading a definition cuts what remains of a text into a colon, which may be missing, the inside of
the definition, a semicolon, which may be missing too, and the rest of the line.  Nothing is lost
in between, wherever the text ends.  The words of the inside are told by blanks and not by spaces
alone, but where no other blank is accepted that makes no difference, since lowercasing does not
make blanks of other characters.

Main results:

- Theorem {lit}`Text.eq_or_not_isBlank_of_mem_lowerChar`: lowercasing makes no blanks.
- Theorem {lit}`Charset.eq_space_of_isBlank`: the only blank in normal forms is the space if no
  other is accepted.
- Theorem {lit}`Clause.exists_parts`: every text has the parts of a definition.
- Theorems {lit}`Clause.Parts.clause_eq` and {lit}`Clause.Parts.remaining_clause`: what is read of
  a definition, and what it leaves.
- Theorem {lit}`Cursor.clause_has_parts`: all of this at any place of any text.
-/

namespace EagerForth

/-! ## Blanks in normal forms -/

namespace Text

/-- The images of a run lie in one of the gaps that the blanks beyond ASCII leave. -/
def CaseRun.AvoidsBlanks (r : CaseRun) : Prop :=
  let last := r.image + (r.last - r.first)
  0x61 ≤ r.image ∧ last < 0x85 ∨ 0xA0 < r.image ∧ last < 0x1680 ∨
    0x1680 < r.image ∧ last < 0x2000 ∨ 0x205F < r.image ∧ last < 0x3000 ∨ 0x3000 < r.image

instance (r : CaseRun) : Decidable r.AvoidsBlanks := by
  unfold CaseRun.AvoidsBlanks
  infer_instance

/-- No run of the table has blank images. -/
theorem avoidsBlanks_of_mem_lowerRuns : ∀ r ∈ lowerRuns, r.AvoidsBlanks := by
  decide +kernel

/-- No mapping of the table leads to a blank. -/
theorem CaseRun.not_isBlank_of_mem_lowerRuns {r : CaseRun} (hr : r ∈ lowerRuns) {n : Nat}
    (hn : r.covers n = true) {c : Char} (hc : c.toNat = r.lower n) : isBlank c = false := by
  have havoids := avoidsBlanks_of_mem_lowerRuns r hr
  simp only [AvoidsBlanks] at havoids
  simp only [covers, Bool.and_eq_true, decide_eq_true_eq] at hn
  simp only [lower] at hc
  simp only [isBlank, Bool.or_eq_false_iff, Bool.and_eq_false_iff, decide_eq_false_iff_not,
    beq_eq_false_iff_ne]
  omega

/-- The simple lowercase form of a character is the character itself or no blank. -/
theorem lowerLetter_eq_or_not_isBlank (c : Char) :
    lowerLetter c = c ∨ isBlank (lowerLetter c) = false := by
  rcases lowerLetter_cases c with hsame | ⟨hup, hcode⟩ | ⟨-, r, hr, hcov, hcode⟩
  · exact Or.inl hsame
  · have hrange := toNat_of_isUpper hup
    exact Or.inr (isBlank_eq_false_of_printable (by omega) (by omega))
  · exact Or.inr (CaseRun.not_isBlank_of_mem_lowerRuns hr hcov hcode)

/-- A lowercased character yields nothing but itself and characters that are no blanks. -/
theorem eq_or_not_isBlank_of_mem_lowerChar {before rest : Text} {c d : Char}
    (hd : d ∈ lowerChar before c rest) : d = c ∨ isBlank d = false := by
  unfold lowerChar at hd
  split at hd
  · right
    rw [List.mem_cons, List.mem_singleton] at hd
    rcases hd with rfl | rfl
    · decide
    · decide
  · split at hd
    · right
      split at hd
      · rw [List.mem_singleton.mp hd]
        decide
      · rw [List.mem_singleton.mp hd]
        decide
    · rw [List.mem_singleton.mp hd]
      exact lowerLetter_eq_or_not_isBlank c

end Text

/-- The only blank in normal forms is the space if no other is accepted. -/
theorem Charset.eq_space_of_isBlank {cs : Charset}
    (h : ∀ c ∈ cs.extra, Text.isBlank c = true → c = ' ') {t : Text} {c : Char}
    (hc : c ∈ cs.normalize t) (hblank : Text.isBlank c = true) : c = ' ' := by
  rcases Text.mem_or_of_mem_lowerAfter Text.eq_or_not_isBlank_of_mem_lowerChar hc with
    hmem | hnot
  · exact eq_space_of_accepts h (accepts_of_mem_blankOut hmem) hblank
  · rw [hnot] at hblank
    cases hblank

/-! ## The parts of a text -/

namespace Clause

/-- A text in the parts of a definition: a colon, if the text starts with one, what stands before
the first semicolon, and the semicolon with all that follows it, if there is one. -/
structure Parts (t colon inside tail : Text) : Prop where
  append_eq : t = colon ++ inside ++ tail
  colon_eq : colon = if t.head? = some ':' then [':'] else []
  semicolon_not_mem : ';' ∉ inside
  tail_eq : tail = [] ∨ ∃ behind, tail = ';' :: behind

/-- A text is what stands before its first semicolon and what follows. -/
theorem exists_inside_append (t : Text) :
    ∃ inside tail, t = inside ++ tail ∧ ';' ∉ inside ∧
      (tail = [] ∨ ∃ behind, tail = ';' :: behind) := by
  refine ⟨t.takeWhile (· != ';'), t.dropWhile (· != ';'),
    List.takeWhile_append_dropWhile.symm, ?_, ?_⟩
  · intro hmem
    have hne := List.all_eq_true.mp List.all_takeWhile _ hmem
    cases hne
  · cases hdrop : t.dropWhile (· != ';') with
    | nil => exact Or.inl rfl
    | cons x behind =>
        have hhead := List.head?_dropWhile_not (· != ';') t
        have hx : x = ';' := by simpa [hdrop] using hhead
        exact Or.inr ⟨behind, by rw [hx]⟩

/-- Every text has the parts of a definition. -/
theorem exists_parts (t : Text) : ∃ colon inside tail, Parts t colon inside tail := by
  by_cases hcolon : t.head? = some ':'
  · rcases List.head?_eq_some_iff.mp hcolon with ⟨behind, rfl⟩
    rcases exists_inside_append behind with ⟨inside, tail, rfl, hinside, htail⟩
    exact ⟨[':'], inside, tail, rfl, rfl, hinside, htail⟩
  · rcases exists_inside_append t with ⟨inside, tail, rfl, hinside, htail⟩
    exact ⟨[], inside, tail, rfl, (if_neg hcolon).symm, hinside, htail⟩

namespace Parts

variable {t colon inside tail : Text}

/-- The inside is what stands before the first semicolon behind the colon. -/
theorem takeWhile_append (h : Parts t colon inside tail) :
    (inside ++ tail).takeWhile (· != ';') = inside ∧
      (inside ++ tail).dropWhile (· != ';') = tail := by
  rcases h.tail_eq with rfl | ⟨behind, rfl⟩
  · rw [List.append_nil]
    exact ⟨Text.takeWhile_ne_of_not_mem h.semicolon_not_mem,
      Text.dropWhile_ne_of_not_mem h.semicolon_not_mem⟩
  · exact ⟨Text.takeWhile_ne_append_cons h.semicolon_not_mem behind,
      Text.dropWhile_ne_append_cons h.semicolon_not_mem behind⟩

variable {c : Cursor}

/-- Reading the colon leaves the other parts. -/
theorem remaining_colon (h : Parts c.remaining colon inside tail) :
    (c.char ':').2.remaining = inside ++ tail := by
  have happend := h.append_eq
  rw [Cursor.remaining_char]
  by_cases hcolon : c.remaining.head? = some ':'
  · rw [h.colon_eq, if_pos hcolon] at happend
    rw [if_pos hcolon, happend]
    rfl
  · rw [h.colon_eq, if_neg hcolon] at happend
    rw [if_neg hcolon, happend]
    rfl

/-- A definition is read from its inside, and followed by the rest of the line. -/
theorem clause_eq (h : Parts c.remaining colon inside tail) :
    c.clause.1 =
      ⟨.ofWords (Text.fields Text.isBlank inside), tail.tail.takeWhile (· != '\n')⟩ := by
  rcases h.takeWhile_append with ⟨htake, hdrop⟩
  rw [Cursor.clause_eq_ofInside, h.remaining_colon, ofInside, htake, hdrop]

/-- A definition leaves what does not belong to the same line. -/
theorem remaining_clause (h : Parts c.remaining colon inside tail) :
    c.clause.2.remaining = tail.tail.dropWhile (· != '\n') := by
  have hlast : c.clause.2 =
      (((c.char ':').2.takeWhile (· != ';')).2.char ';').2.restOfLine.2 := rfl
  rw [hlast, Cursor.restOfLine, Cursor.remaining_takeWhile, Cursor.remaining_behind,
    h.remaining_colon, h.takeWhile_append.2]

end Parts

end Clause

/-! ## Reading the parts -/

namespace Cursor

variable {c : Cursor} {colon inside tail : Text}

/-- What a definition takes and what it leaves make up what remained. -/
theorem remaining_eq_of_parts (h : Clause.Parts c.remaining colon inside tail) :
    c.remaining = colon ++ inside ++ tail.take 1 ++ tail.tail.takeWhile (· != '\n') ++
      c.clause.2.remaining := by
  have htail : tail.take 1 ++ tail.tail = tail := by
    rw [← List.drop_one, List.take_append_drop]
  rw [h.remaining_clause, List.append_assoc, List.takeWhile_append_dropWhile, List.append_assoc,
    htail]
  exact h.append_eq

/-- The parts of a definition that is read at any place of any text but its end: a colon, if there
is one, the inside, up to a semicolon or the end of the text, and with a semicolon the rest of the
line.  The name and the body are the words of the inside, and the cursor moves on by these parts.
So it comes to the end of a text without line feeds, and the parts are all that remained.  Where
no blank but the space is accepted, the words of a definition are told apart by spaces like those
of an expression. -/
theorem clause_has_parts (charset : Charset) (text : Text) (c : Cursor)
    (htext : c.text = charset.normalize text) (hpos : c.pos < c.text.length) :
    (∃ colon inside tail, Clause.Parts (c.text.drop c.pos) colon inside tail) ∧
      ∀ colon inside tail, Clause.Parts (c.text.drop c.pos) colon inside tail →
        let rest := tail.tail.takeWhile (· != '\n')
        c.clause?.1 = some ⟨.ofWords (Text.fields Text.isBlank inside), rest⟩ ∧
          c.clause?.2.text = c.text ∧
          c.clause?.2.pos = c.pos + (colon ++ inside ++ tail.take 1 ++ rest).length ∧
          ('\n' ∉ c.text →
            c.clause?.2.isFinished = true ∧
              c.text.drop c.pos = colon ++ inside ++ if tail = [] then [] else ';' :: rest) ∧
          ((∀ x ∈ charset.extra, Text.isBlank x = true → x = ' ') →
            Text.fields Text.isBlank inside = (inside.splitOn ' ').filter (! ·.isEmpty)) := by
  refine ⟨Clause.exists_parts _, ?_⟩
  intro colon inside tail h rest
  have hremains : c.remaining ≠ [] := by
    rw [ne_eq, ← pos_eq_length_iff]
    exact Nat.ne_of_lt hpos
  have hahead := c.ahead_clause?
  rw [clause?_of_remaining_ne_nil hremains] at hahead ⊢
  -- What the text is free of, line feeds or blanks, its parts are free of.
  have hsubset : ∀ x, x ∈ inside ∨ x ∈ tail → x ∈ c.text := by
    intro x hx
    have hmem : x ∈ c.text.drop c.pos := by
      rw [h.append_eq, List.append_assoc, List.mem_append, List.mem_append]
      exact Or.inr hx
    exact List.mem_of_mem_drop hmem
  refine ⟨congrArg some h.clause_eq, hahead.text_eq, hahead.pos_eq (remaining_eq_of_parts h),
    ?_, ?_⟩
  · intro hfeed
    have hline : '\n' ∉ tail.tail :=
      fun hmem => hfeed (hsubset _ (Or.inr (List.mem_of_mem_tail hmem)))
    refine ⟨?_, ?_⟩
    · rw [isFinished_iff, h.remaining_clause, Text.dropWhile_ne_of_not_mem hline]
    · have hrest : rest = tail.tail := Text.takeWhile_ne_of_not_mem hline
      rw [h.append_eq, hrest]
      rcases h.tail_eq with rfl | ⟨behind, rfl⟩
      · rfl
      · rfl
  · intro hblank
    apply Text.fields_isBlank_eq_words
    intro x hx
    have hmem := hsubset x (Or.inl hx)
    rw [htext] at hmem
    exact Charset.eq_space_of_isBlank hblank hmem

/-- A cursor behind the first word of a text, at the colon of a definition. -/
def atSquare : Cursor where
  text := Charset.legacy.normalize "5 :SQ dup *;3 sq".toList
  pos := 2
  pos_le := by decide

/-- The definition is read with what follows its semicolon, and nothing remains. -/
theorem clause_has_parts_square :
    atSquare.clause?.1 = some ⟨⟨some "sq".toList, ["dup".toList, "*".toList]⟩, "3 sq".toList⟩ ∧
      atSquare.clause?.2.pos = 16 ∧ atSquare.clause?.2.isFinished = true ∧
      Text.fields Text.isBlank "sq dup *".toList =
        ("sq dup *".toList.splitOn ' ').filter (! ·.isEmpty) := by
  have hnormal : atSquare.text = "5 :sq dup *;3 sq".toList := by decide
  have hparts : Clause.Parts (atSquare.text.drop atSquare.pos) ":".toList "sq dup *".toList
      ";3 sq".toList := by
    rw [hnormal]
    exact ⟨rfl, rfl, by decide, Or.inr ⟨_, rfl⟩⟩
  rcases (clause_has_parts .legacy _ atSquare rfl (by decide)).2 _ _ _ hparts with
    ⟨hclause, -, hpos, hfinished, hwords⟩
  have hfeed : '\n' ∉ atSquare.text := by
    rw [hnormal]
    decide
  exact ⟨hclause, hpos, (hfinished hfeed).1, hwords Charset.settled_legacy.eq_space⟩

end Cursor

end EagerForth
