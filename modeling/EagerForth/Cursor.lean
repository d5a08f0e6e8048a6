import EagerForth.Definition
import EagerForth.Text.Blank

/-!
# Reading a text from left to right

A cursor stands at a position of a text and reads on from there: spaces, a word, the rest of
the line, or a whole definition.  Each reading says whether the text had ended, nothing
suitable was there, or a piece was taken, and moves the cursor past that piece.

Main results:

- Theorem {lit}`Cursor.remaining_advance`: moving on drops characters from what remains.
- Theorem {lit}`Cursor.length_remaining_nextWord`: a word that was read shortens what
  remains, so that reading all words comes to an end.
- Theorem {lit}`Cursor.words_eq`: reading all words takes the words of what remains.
- Theorem {lit}`Cursor.count_clause_rest`: the text after a definition has fewer semicolons
  than what the definition was read from.
-/

namespace EagerForth

/-- A position in a text. -/
@[ext]
structure Cursor where
  /-- The text that is read. -/
  text : Text
  /-- The number of characters before the cursor. -/
  pos : Nat
  /-- The cursor stays within its text. -/
  pos_le : pos ≤ text.length

/-- The result of one reading. -/
inductive Scan where
  /-- The text had ended before anything was read. -/
  | endOfText
  /-- What stands at the cursor is not what was to be read. -/
  | noMatch
  /-- The given piece was read; it may be empty. -/
  | taken (piece : Text)
deriving DecidableEq, Repr

/-- The characters that a reading has taken. -/
def Scan.piece : Scan → Text
  | .taken piece => piece
  | .noMatch | .endOfText => []

/-- A definition as it is found in a text, and the text that follows its semicolon. -/
structure Clause where
  /-- The definition. -/
  definition : Definition
  /-- What follows the definition in the same line. -/
  rest : Text
deriving DecidableEq, Repr

namespace Cursor

/-! ## Position -/

/-- The cursor at the start of a text. -/
def ofText (text : Text) : Cursor where
  text := text
  pos := 0
  pos_le := Nat.zero_le _

/-- The part of the text after the cursor. -/
def remaining (c : Cursor) : Text :=
  c.text.drop c.pos

/-- Whether the cursor has reached the end of its text. -/
def isFinished (c : Cursor) : Bool :=
  c.text.length ≤ c.pos

/-- What remains has the characters after the cursor. -/
theorem length_remaining (c : Cursor) : c.remaining.length = c.text.length - c.pos :=
  List.length_drop

/-- Move on by a number of characters, as many of which remain. -/
def advance (c : Cursor) (n : Nat) (h : n ≤ c.remaining.length) : Cursor where
  text := c.text
  pos := c.pos + n
  pos_le := by
    have hpos := c.pos_le
    rw [length_remaining] at h
    omega

/-- At the start, the whole text remains. -/
@[simp]
theorem remaining_ofText (text : Text) : (ofText text).remaining = text :=
  rfl

/-- Moving on drops characters from what remains. -/
@[simp]
theorem remaining_advance (c : Cursor) (n : Nat) (h : n ≤ c.remaining.length) :
    (c.advance n h).remaining = c.remaining.drop n := by
  simp only [remaining, advance, List.drop_drop]

/-- A cursor has reached the end exactly when nothing remains. -/
theorem isFinished_iff (c : Cursor) : c.isFinished = true ↔ c.remaining = [] := by
  simp [isFinished, remaining, List.drop_eq_nil_iff]

/-! ## Readings -/

/-- Read the longest piece, possibly empty, of characters with a property. -/
def takeWhile (p : Char → Bool) (c : Cursor) : Scan × Cursor :=
  if c.isFinished then (.endOfText, c)
  else
    let piece := c.remaining.takeWhile p
    (.taken piece, c.advance piece.length (List.takeWhile_sublist p).length_le)

/-- Read spaces. -/
def spaces (c : Cursor) : Scan × Cursor :=
  c.takeWhile (· == ' ')

/-- Read the rest of the line, up to a line feed. -/
def restOfLine (c : Cursor) : Scan × Cursor :=
  c.takeWhile (· != '\n')

/-- Read one given character. -/
def char (x : Char) (c : Cursor) : Scan × Cursor :=
  match h : c.remaining with
  | [] => (.endOfText, c)
  | y :: _ => if y = x then (.taken [x], c.advance 1 (by simp [h])) else (.noMatch, c)

/-- Read a word: one or more characters other than the space. -/
def word (c : Cursor) : Scan × Cursor :=
  match c.takeWhile (· != ' ') with
  | (.taken [], _) => (.noMatch, c)
  | scan => scan

/-- Read spaces, if there are any, and the word after them. -/
def nextWord (c : Cursor) : Scan × Cursor :=
  c.spaces.2.word

/-- What a reading by a property takes, also at the end of the text. -/
@[simp]
theorem piece_takeWhile (p : Char → Bool) (c : Cursor) :
    (c.takeWhile p).1.piece = c.remaining.takeWhile p := by
  unfold takeWhile
  split
  · next h => simp [Scan.piece, (c.isFinished_iff).mp h]
  · rfl

/-- What a reading by a property leaves. -/
@[simp]
theorem remaining_takeWhile (p : Char → Bool) (c : Cursor) :
    (c.takeWhile p).2.remaining = c.remaining.dropWhile p := by
  unfold takeWhile
  split
  · next h => simp [(c.isFinished_iff).mp h]
  · simp only [remaining_advance]
    have hdrop : (c.remaining.takeWhile p ++ c.remaining.dropWhile p).drop
        (c.remaining.takeWhile p).length = c.remaining.dropWhile p := List.drop_left
    rwa [List.takeWhile_append_dropWhile] at hdrop

/-- What reading a character leaves. -/
theorem remaining_char (x : Char) (c : Cursor) :
    (c.char x).2.remaining =
      if c.remaining.head? = some x then c.remaining.tail else c.remaining := by
  unfold char
  split
  · next h => simp [h]
  · next y rest h =>
      split
      · next hy => simp [h, hy]
      · next hy => simp [h, hy]

/-- What reading a word leaves. -/
@[simp]
theorem remaining_word (c : Cursor) :
    c.word.2.remaining = c.remaining.dropWhile (· != ' ') := by
  have hleft := c.remaining_takeWhile (· != ' ')
  have hpiece := c.piece_takeWhile (· != ' ')
  unfold word
  split
  · next c' h =>
      rw [h] at hpiece
      have happ := List.takeWhile_append_dropWhile (p := (· != ' ')) (l := c.remaining)
      rw [← hpiece] at happ
      simpa [Scan.piece] using happ.symm
  · exact hleft

/-- A word that was read is a nonempty piece of what remained. -/
theorem word_eq_taken {c : Cursor} {w : Text} (h : c.word.1 = .taken w) :
    w ≠ [] ∧ c.remaining.takeWhile (· != ' ') = w := by
  have hpiece := c.piece_takeWhile (· != ' ')
  unfold word at h
  split at h
  · cases h
  · next hne =>
      rw [h] at hpiece
      refine ⟨?_, hpiece.symm⟩
      rintro rfl
      exact hne (c.takeWhile (· != ' ')).2 (Prod.ext h rfl)

/-- A word that was read shortens what remains. -/
theorem length_remaining_nextWord {c : Cursor} {w : Text} (h : c.nextWord.1 = .taken w) :
    c.nextWord.2.remaining.length < c.remaining.length := by
  obtain ⟨hne, htake⟩ := word_eq_taken h
  have happ := congrArg List.length
    (List.takeWhile_append_dropWhile (p := (· != ' ')) (l := c.spaces.2.remaining))
  have hspaces : c.spaces.2.remaining.length ≤ c.remaining.length := by
    simp only [spaces, remaining_takeWhile]
    exact (List.dropWhile_suffix _).length_le
  have hpos : 0 < w.length := List.length_pos_iff.mpr hne
  simp only [nextWord, remaining_word]
  rw [htake, List.length_append] at happ
  omega

/-- Read all words that remain. -/
def words (c : Cursor) : List Text × Cursor :=
  match _h : c.nextWord with
  | (.taken w, after) =>
      let (ws, last) := words after
      (w :: ws, last)
  | (_, after) => ([], after)
termination_by c.remaining.length
decreasing_by
  have hlt := length_remaining_nextWord (c := c) (w := w) (by rw [_h])
  rwa [_h] at hlt

/-- The words of a text are the first one and those of what a reading of it leaves. -/
theorem words_remaining_of_nextWord_taken {c : Cursor} {w : Text}
    (h : c.nextWord.1 = .taken w) :
    Text.words c.remaining = w :: Text.words c.nextWord.2.remaining := by
  obtain ⟨hne, htake⟩ := word_eq_taken h
  have hskip : Text.words c.remaining = Text.words c.spaces.2.remaining := by
    simp [spaces, Text.words_dropWhile_space]
  have happ := List.takeWhile_append_dropWhile (p := (· != ' ')) (l := c.spaces.2.remaining)
  have hword : Text.words w = [w] := by
    apply Text.words_eq_singleton hne
    intro hmem
    rw [← htake] at hmem
    simpa using List.all_eq_true.mp List.all_takeWhile _ hmem
  rw [htake] at happ
  simp only [nextWord, remaining_word, hskip]
  cases hdrop : c.spaces.2.remaining.dropWhile (· != ' ') with
  | nil =>
      rw [hdrop, List.append_nil] at happ
      simp [← happ, hword]
  | cons x rest =>
      have hx : x = ' ' := by
        have := List.head?_dropWhile_not (· != ' ') c.spaces.2.remaining
        simpa [hdrop] using this
      subst hx
      rw [hdrop] at happ
      rw [← happ, Text.words_append_space, hword]
      simp

/-- When no word is left, only spaces remained and nothing remains. -/
theorem words_remaining_of_nextWord_not_taken {c : Cursor}
    (h : ∀ w, c.nextWord.1 ≠ .taken w) :
    Text.words c.remaining = [] ∧ c.nextWord.2.remaining = [] := by
  have hskip : Text.words c.remaining = Text.words c.spaces.2.remaining := by
    simp [spaces, Text.words_dropWhile_space]
  have hempty : c.spaces.2.remaining = [] := by
    cases hrem : c.spaces.2.remaining with
    | nil => rfl
    | cons x rest =>
        exfalso
        have hx : x ≠ ' ' := by
          have hhead := List.head?_dropWhile_not (· == ' ') c.remaining
          have hrem' : c.remaining.dropWhile (· == ' ') = x :: rest := by
            simpa [spaces] using hrem
          simpa [hrem'] using hhead
        have hfin : c.spaces.2.isFinished = false := by
          rw [← Bool.not_eq_true, isFinished_iff, hrem]
          simp
        apply h (x :: rest.takeWhile (· != ' '))
        simp [nextWord, word, takeWhile, hfin, hrem, hx]
  simp [hskip, hempty, nextWord]

/-- Reading all words takes the words of what remains and leaves nothing. -/
theorem words_eq (c : Cursor) :
    c.words.1 = Text.words c.remaining ∧ c.words.2.remaining = [] := by
  fun_induction words c with
  | case1 c w after h ws last hrec ih =>
      have hcons := words_remaining_of_nextWord_taken (c := c) (w := w) (by rw [h])
      rw [hrec, h] at *
      exact ⟨by rw [hcons, ← ih.1], ih.2⟩
  | case2 c scan after hne h =>
      have hnone := words_remaining_of_nextWord_not_taken (c := c) (by
        intro w hw
        rw [h] at hw
        exact hne w hw)
      rw [h] at hnone
      exact ⟨hnone.1.symm, hnone.2⟩

/-! ## Definitions -/

/-- Read spaces and say whether a definition, which starts with a colon, follows them. -/
def atDefinition (c : Cursor) : Bool × Cursor :=
  let after := c.spaces.2
  (after.remaining.head? == some ':', after)

/-- Read a definition: a colon, if there is one, the words up to a semicolon or the end of
the text, and what follows the semicolon in the same line. -/
def clause (c : Cursor) : Clause × Cursor :=
  let inside := (c.char ':').2
  let (command, atEnd) := inside.takeWhile (· != ';')
  let behind := (atEnd.char ';').2
  let (rest, last) := behind.restOfLine
  (⟨.ofWords (Text.fields Text.isBlank command.piece), rest.piece⟩, last)

/-- The text after a definition has fewer semicolons than what the definition was read
from. -/
theorem count_clause_rest (c : Cursor) (hrest : c.clause.1.rest ≠ []) :
    c.clause.1.rest.count ';' < c.remaining.count ';' := by
  have hinside : (c.char ':').2.remaining.count ';' ≤ c.remaining.count ';' := by
    rw [remaining_char]
    split
    · exact (List.tail_sublist _).count_le _
    · exact Nat.le_refl _
  simp only [clause] at hrest ⊢
  generalize (c.char ':').2 = inside at hinside hrest ⊢
  have hcommand : (inside.remaining.dropWhile (· != ';')).count ';' ≤
      inside.remaining.count ';' := (List.dropWhile_sublist _).count_le _
  simp only [restOfLine, piece_takeWhile, remaining_char, remaining_takeWhile] at hrest ⊢
  cases hdrop : inside.remaining.dropWhile (· != ';') with
  | nil => simp [hdrop] at hrest
  | cons x rest =>
      have hx : x = ';' := by
        have := List.head?_dropWhile_not (· != ';') inside.remaining
        simpa [hdrop] using this
      subst hx
      have htake : (rest.takeWhile (· != '\n')).count ';' ≤ rest.count ';' :=
        (List.takeWhile_sublist _).count_le _
      rw [hdrop] at hcommand
      simp only [List.count_cons_self] at hcommand
      simp only [List.head?_cons, if_true, List.tail_cons]
      omega

/-- Read a definition unless the text has ended. -/
def clause? (c : Cursor) : Option Clause × Cursor :=
  if c.isFinished then (none, c)
  else
    let (clause, last) := c.clause
    (some clause, last)

end Cursor

end EagerForth
