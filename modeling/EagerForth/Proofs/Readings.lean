import EagerForth.Proofs.Stepwise

/-!
# A cursor under any sequence of readings

A cursor can be used for one reading after another, of any kind and in any order.  Whatever has
been read before, the text stays the same and the cursor never goes back; a reading of spaces, of
a word or of the rest of the line takes the characters between the cursor's two positions, no
more and no fewer than belong to it, and says that the text has ended exactly at its end.

Main results:

- Theorem {lit}`Cursor.ahead_performAll`: no sequence of readings moves a cursor back or changes
  its text.
- Theorem {lit}`Cursor.Ahead.extract_eq`: what lies between two positions of a cursor.
- Theorems {lit}`Cursor.reads_takeWhile`, {lit}`Cursor.reads_word` and
  {lit}`Cursor.readsWord_nextWord`: what each reading takes.
- Theorem {lit}`Cursor.readings_keep_position`: all of this after any readings of any text.
-/

namespace EagerForth

namespace Cursor

/-! ## Moving on -/

/-- A cursor stands in the same text as an earlier one, at the same place or further on. -/
structure Ahead (c c' : Cursor) : Prop where
  /-- The text is the same. -/
  text_eq : c'.text = c.text
  /-- The place is the same or further on. -/
  le_pos : c.pos ≤ c'.pos

variable {c c' c'' : Cursor}

theorem Ahead.refl (c : Cursor) : Ahead c c :=
  ⟨rfl, Nat.le_refl c.pos⟩

theorem Ahead.trans (h : Ahead c c') (h' : Ahead c' c'') : Ahead c c'' :=
  ⟨h'.text_eq.trans h.text_eq, h.le_pos.trans h'.le_pos⟩

theorem ahead_advance (c : Cursor) (n : Nat) (h : n ≤ c.remaining.length) :
    Ahead c (c.advance n h) :=
  ⟨rfl, Nat.le_add_right c.pos n⟩

theorem ahead_takeWhile (p : Char → Bool) (c : Cursor) : Ahead c (c.takeWhile p).2 := by
  unfold takeWhile
  split
  · exact Ahead.refl c
  · exact ahead_advance c _ (List.takeWhile_sublist p).length_le

theorem ahead_char (x : Char) (c : Cursor) : Ahead c (c.char x).2 := by
  unfold char
  split
  · exact Ahead.refl c
  · next y rest hremaining =>
      split
      · exact ahead_advance c 1 (by simp [hremaining])
      · exact Ahead.refl c

theorem ahead_word (c : Cursor) : Ahead c c.word.2 := by
  unfold word
  split
  · exact Ahead.refl c
  · exact ahead_takeWhile _ c

theorem ahead_nextWord (c : Cursor) : Ahead c c.nextWord.2 :=
  (ahead_takeWhile _ c).trans (ahead_word _)

theorem ahead_words (c : Cursor) : Ahead c c.words.2 := by
  fun_induction words c with
  | case1 c w after h ws last hrec ih =>
      have hnext := c.ahead_nextWord
      rw [h] at hnext
      rw [hrec] at ih
      exact hnext.trans ih
  | case2 c scan after hne h =>
      have hnext := c.ahead_nextWord
      rwa [h] at hnext

theorem ahead_clause? (c : Cursor) : Ahead c c.clause?.2 := by
  unfold clause?
  split
  · exact Ahead.refl c
  · have hinside := ahead_char ':' c
    have hcommand := ahead_takeWhile (· != ';') (c.char ':').2
    have hbehind := ahead_char ';' ((c.char ':').2.takeWhile (· != ';')).2
    exact ((hinside.trans hcommand).trans hbehind).trans (ahead_takeWhile _ _)

/-! ## Sequences of readings -/

/-- The ways in which a cursor can be used. -/
inductive Reading where
  /-- Read spaces. -/
  | spaces
  /-- Read a word. -/
  | word
  /-- Read the rest of the line. -/
  | restOfLine
  /-- Read spaces and the word after them. -/
  | nextWord
  /-- Read all words that remain. -/
  | words
  /-- Read spaces and look for a colon. -/
  | atDefinition
  /-- Read a definition. -/
  | clause

/-- The cursor after a reading, whether there was anything to be read or not. -/
def perform (c : Cursor) : Reading → Cursor
  | .spaces => c.spaces.2
  | .word => c.word.2
  | .restOfLine => c.restOfLine.2
  | .nextWord => c.nextWord.2
  | .words => c.words.2
  | .atDefinition => c.atDefinition.2
  | .clause => c.clause?.2

/-- The cursor after readings in turn. -/
def performAll (c : Cursor) (readings : List Reading) : Cursor :=
  readings.foldl perform c

/-- No reading moves a cursor back or changes its text. -/
theorem ahead_perform (c : Cursor) (reading : Reading) : Ahead c (c.perform reading) := by
  cases reading with
  | spaces => exact ahead_takeWhile _ c
  | word => exact ahead_word c
  | restOfLine => exact ahead_takeWhile _ c
  | nextWord => exact ahead_nextWord c
  | words => exact ahead_words c
  | atDefinition => exact ahead_takeWhile _ c
  | clause => exact ahead_clause? c

/-- No sequence of readings moves a cursor back or changes its text. -/
theorem ahead_performAll (c : Cursor) (readings : List Reading) :
    Ahead c (c.performAll readings) := by
  induction readings generalizing c with
  | nil => exact Ahead.refl c
  | cons reading readings ih => exact (ahead_perform c reading).trans (ih (c.perform reading))

/-! ## What lies between two positions -/

theorem pos_eq_length_iff (c : Cursor) : c.pos = c.text.length ↔ c.remaining = [] := by
  rw [remaining, List.drop_eq_nil_iff]
  exact ⟨fun h => Nat.le_of_eq h.symm, fun h => Nat.le_antisymm c.pos_le h⟩

/-- What remains at a place is what lies before a later place and what remains there. -/
theorem Ahead.extract_append_remaining (h : Ahead c c') :
    c.text.extract c.pos c'.pos ++ c'.remaining = c.remaining := by
  have hdrop : c'.remaining = c.remaining.drop (c'.pos - c.pos) := by
    rw [remaining, remaining, List.drop_drop, h.text_eq, Nat.add_sub_cancel' h.le_pos]
  rw [hdrop]
  exact List.take_append_drop _ _

/-- What lies between two places is found by leaving off what remains at the later one. -/
theorem Ahead.extract_eq (h : Ahead c c') {piece : Text}
    (hpiece : c.remaining = piece ++ c'.remaining) : c.text.extract c.pos c'.pos = piece :=
  List.append_cancel_right (h.extract_append_remaining.trans hpiece)

/-- A later place is as far on as what lies before it is long. -/
theorem Ahead.pos_eq (h : Ahead c c') {piece : Text}
    (hpiece : c.remaining = piece ++ c'.remaining) : c'.pos = c.pos + piece.length := by
  have hlength := congrArg List.length hpiece
  have hle := h.le_pos
  have hend := c'.pos_le
  rw [h.text_eq] at hend
  rw [List.length_append, remaining, remaining, List.length_drop, List.length_drop, h.text_eq]
    at hlength
  omega

/-! ## What a reading takes -/

/-- A reading of characters with a property: it finds the text at an end exactly at the end, and
takes all that lies between its two positions, or nothing.  All characters it takes have the
property, and the one after them has not. -/
structure Reads (p : Char → Bool) (c : Cursor) (result : Scan × Cursor) : Prop where
  /-- The text has ended exactly at its end. -/
  endOfText_iff : result.1 = .endOfText ↔ c.pos = c.text.length
  /-- The cursor stays if nothing is taken. -/
  stays : (∀ piece, result.1 ≠ .taken piece) → result.2 = c
  /-- What is taken lies between the two positions. -/
  slice : ∀ piece, result.1 = .taken piece → piece = c.text.extract c.pos result.2.pos
  /-- What is taken has the property. -/
  all : ∀ piece, result.1 = .taken piece → ∀ x ∈ piece, p x = true
  /-- What comes next has not. -/
  next : ∀ x, c.text[result.2.pos]? = some x → p x = false

/-- What comes next at a later place of the same text. -/
theorem Ahead.getElem?_pos (h : Ahead c c') : c.text[c'.pos]? = c'.remaining.head? := by
  rw [remaining, List.head?_drop, h.text_eq]

theorem piece_of_eq_taken {scan : Scan} {piece : Text} (h : scan = .taken piece) :
    scan.piece = piece := by
  rw [h]
  rfl

/-- A reading that cuts what remains where a property ends is one of characters with the
property. -/
theorem Reads.of_takeWhile {p : Char → Bool} {result : Scan × Cursor}
    (hahead : Ahead c result.2) (hpiece : result.1.piece = c.remaining.takeWhile p)
    (hleft : result.2.remaining = c.remaining.dropWhile p)
    (hend : result.1 = .endOfText ↔ c.pos = c.text.length)
    (hstays : (∀ piece, result.1 ≠ .taken piece) → result.2 = c) : Reads p c result where
  endOfText_iff := hend
  stays := hstays
  slice := by
    intro piece htaken
    rw [piece_of_eq_taken htaken] at hpiece
    refine (hahead.extract_eq ?_).symm
    rw [hpiece, hleft, List.takeWhile_append_dropWhile]
  all := by
    intro piece htaken
    rw [← piece_of_eq_taken htaken, hpiece]
    exact List.all_eq_true.mp List.all_takeWhile
  next := by
    intro x hx
    have hhead := List.head?_dropWhile_not p c.remaining
    rw [hahead.getElem?_pos, hleft] at hx
    rw [hx] at hhead
    simpa using hhead

/-- A reading by a property finds that the text has ended exactly at its end. -/
theorem takeWhile_eq_endOfText_iff (p : Char → Bool) (c : Cursor) :
    (c.takeWhile p).1 = .endOfText ↔ c.pos = c.text.length := by
  rw [pos_eq_length_iff, ← isFinished_iff]
  unfold takeWhile
  split
  · next h => simp [h]
  · next h => simp [h]

theorem takeWhile_ne_noMatch (p : Char → Bool) (c : Cursor) : (c.takeWhile p).1 ≠ .noMatch := by
  unfold takeWhile
  split
  · simp
  · simp

/-- A cursor that reads characters with a property takes them all. -/
theorem reads_takeWhile (p : Char → Bool) (c : Cursor) : Reads p c (c.takeWhile p) := by
  refine .of_takeWhile (ahead_takeWhile p c) (piece_takeWhile p c) (remaining_takeWhile p c)
    (takeWhile_eq_endOfText_iff p c) ?_
  intro hnothing
  unfold takeWhile at hnothing ⊢
  split
  · rfl
  · next h =>
      rw [if_neg h] at hnothing
      exact absurd rfl (hnothing _)

/-- A cursor that reads a word takes the characters up to the next space. -/
theorem reads_word (c : Cursor) : Reads (· != ' ') c c.word := by
  have hplain := c.reads_takeWhile (· != ' ')
  have hpiece := c.piece_takeWhile (· != ' ')
  refine .of_takeWhile (ahead_word c) ?_ (remaining_word c) ?_ ?_
  · unfold word
    split
    · next h =>
        rw [h] at hpiece
        exact hpiece
    · exact hpiece
  · rw [← hplain.endOfText_iff]
    unfold word
    split
    · next h => simp [h]
    · rfl
  · intro hnothing
    unfold word at hnothing ⊢
    split
    · rfl
    · next hne => exact hplain.stays (by simpa [hne] using hnothing)

theorem word_ne_taken_nil (c : Cursor) : c.word.1 ≠ .taken [] :=
  fun h => (word_eq_taken h).1 rfl

/-! ## The next word -/

/-- A reading of the next word: it takes a word behind some spaces, up to the next space or the
end of the text, unless only spaces remain; these are read to the end of the text. -/
structure ReadsWord (c : Cursor) (result : Scan × Cursor) : Prop where
  /-- There is a word or the end of the text. -/
  ne_noMatch : result.1 ≠ .noMatch
  /-- The text ends exactly if only spaces remain. -/
  endOfText_iff : result.1 = .endOfText ↔ ∀ x ∈ c.text.drop c.pos, x = ' '
  /-- At the end of the text all spaces have been read. -/
  finished : result.1 = .endOfText → result.2.pos = c.text.length
  /-- A word is a nonempty text without spaces. -/
  word : ∀ w, result.1 = .taken w → w ≠ [] ∧ ' ' ∉ w
  /-- Between the two positions there are spaces and the word. -/
  slice : ∀ w, result.1 = .taken w →
    ∃ n, c.text.extract c.pos result.2.pos = List.replicate n ' ' ++ w
  /-- The word is not cut off. -/
  next : ∀ w, result.1 = .taken w → ∀ x, c.text[result.2.pos]? = some x → x = ' '

/-- Reading spaces comes to the end of the text exactly if only spaces remain. -/
theorem remaining_spaces_eq_nil_iff (c : Cursor) :
    c.spaces.2.remaining = [] ↔ ∀ x ∈ c.remaining, x = ' ' := by
  rw [spaces, remaining_takeWhile, List.dropWhile_eq_nil_iff]
  simp

/-- What is passed over by reading spaces is spaces. -/
theorem exists_remaining_eq_replicate_append (c : Cursor) :
    ∃ n, c.remaining = List.replicate n ' ' ++ c.spaces.2.remaining := by
  have hspaces : c.remaining.takeWhile (· == ' ') =
      List.replicate (c.remaining.takeWhile (· == ' ')).length ' ' := by
    refine List.eq_replicate_iff.mpr ⟨rfl, ?_⟩
    intro x hx
    simpa using List.all_eq_true.mp List.all_takeWhile x hx
  refine ⟨(c.remaining.takeWhile (· == ' ')).length, ?_⟩
  rw [← hspaces, spaces, remaining_takeWhile, List.takeWhile_append_dropWhile]

/-- A word that was read stood behind the spaces. -/
theorem append_remaining_nextWord {w : Text} (h : c.nextWord.1 = .taken w) :
    w ++ c.nextWord.2.remaining = c.spaces.2.remaining := by
  rw [nextWord, remaining_word, ← (word_eq_taken h).2, List.takeWhile_append_dropWhile]

/-- A cursor that reads the next word takes it with the spaces before it. -/
theorem readsWord_nextWord (c : Cursor) : ReadsWord c c.nextWord := by
  have hword := reads_word c.spaces.2
  have hahead : Ahead c c.spaces.2 := ahead_takeWhile _ c
  have hend : c.nextWord.1 = .endOfText ↔ c.spaces.2.remaining = [] :=
    hword.endOfText_iff.trans (pos_eq_length_iff _)
  refine ⟨c.nextWord_ne_noMatch, hend.trans (remaining_spaces_eq_nil_iff c), ?_, ?_, ?_, ?_⟩
  · intro h
    rw [← c.ahead_nextWord.text_eq, pos_eq_length_iff, nextWord, remaining_word, hend.mp h]
    rfl
  · intro w h
    refine ⟨(word_eq_taken h).1, ?_⟩
    intro hmem
    have hspace := hword.all w h ' ' hmem
    cases hspace
  · intro w h
    rcases exists_remaining_eq_replicate_append c with ⟨n, hn⟩
    refine ⟨n, c.ahead_nextWord.extract_eq ?_⟩
    rw [List.append_assoc, hn, append_remaining_nextWord h]
  · intro w h x hx
    rw [← hahead.text_eq] at hx
    simpa using hword.next x hx

/-! ## All readings together -/

/-- After any readings of any text the text is as it was and the cursor within it, and no further
readings move it back.  Spaces, a word or the rest of the line are read in full from where it
stands, the next word is found behind the spaces, and reading all words takes the nonempty pieces
between the spaces of what remains and ends at the end of the text. -/
theorem readings_keep_position (charset : Charset) (text : Text) (before : List Reading) :
    let c := (ofText (charset.normalize text)).performAll before
    c.text = charset.normalize text ∧ c.pos ≤ c.text.length ∧
      (∀ more, Ahead c (c.performAll more)) ∧
      (Reads (· == ' ') c c.spaces ∧ c.spaces.1 ≠ .noMatch) ∧
      (Reads (· != ' ') c c.word ∧ c.word.1 ≠ .taken []) ∧
      (Reads (· != '\n') c c.restOfLine ∧ c.restOfLine.1 ≠ .noMatch) ∧
      ReadsWord c c.nextWord ∧
      c.words.1 = ((c.text.drop c.pos).splitOn ' ').filter (! ·.isEmpty) ∧
      c.words.2.pos = c.text.length := by
  intro c
  refine ⟨(ahead_performAll _ before).text_eq, c.pos_le, ahead_performAll c,
    ⟨reads_takeWhile _ c, takeWhile_ne_noMatch _ c⟩, ⟨reads_word c, word_ne_taken_nil c⟩,
    ⟨reads_takeWhile _ c, takeWhile_ne_noMatch _ c⟩, readsWord_nextWord c, c.words_eq.1, ?_⟩
  rw [← (ahead_words c).text_eq, pos_eq_length_iff]
  exact c.words_eq.2

end Cursor

end EagerForth
