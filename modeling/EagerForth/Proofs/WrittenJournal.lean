import EagerForth.Proofs.DefinableNames
import EagerForth.Proofs.Replies
import Mathlib.Data.List.SplitBy

/-!
# Reading a written journal

The journal is shown as text, a record a line.  The lines that were evaluated are quoted in it
and can be anything; names and messages stand in it as they are.  All the same each record can be
told from its line: whether a line of input was opened, what was defined, and whether a line was
refused.  For a definition this needs names without spaces, and primitives whose names are no
numerals; the sessions of the program, where printable ASCII alone is accepted, have no others.

Main results:

- Theorem {lit}`Text.newline_not_mem_quoted`: a quoted text is shown on one line.
- Theorem {lit}`Expansion.read_write`: an expansion can be read again.
- Theorem {lit}`Note.read_write`: what a record says about definitions can be read from its line.
- Theorem {lit}`legible_journal`: all records of a conversation can be read in that way.
-/

namespace EagerForth

/-! ## Quoted text -/

namespace Text

theorem newline_not_mem_toDigits (n : Nat) : '\n' ∉ Nat.toDigits 16 n := by
  induction n using Nat.strong_induction_on with
  | _ n ih =>
      rw [Nat.toDigits_eq_if (by decide)]
      split
      · simp
      · next hle =>
          rw [List.mem_append, not_or]
          exact ⟨ih (n / 16) (by omega), by simp⟩

/-- A character that is written by its number is written with a backslash, a letter and
digits. -/
theorem newline_not_mem_escapeByNumber (c : Char) : '\n' ∉ escapeByNumber c := by
  have hdigits : ∀ width n, '\n' ∉ hexadecimal width n := by
    intro width n hmem
    rcases List.mem_append.mp hmem with hzero | hdigit
    · exact absurd (List.eq_of_mem_replicate hzero) (by decide)
    · exact newline_not_mem_toDigits n hdigit
  have hescaped : ∀ (letter : Char) width n, '\n' ≠ letter →
      '\n' ∉ backslash :: letter :: hexadecimal width n := by
    intro letter width n hletter
    rw [List.mem_cons, List.mem_cons, not_or, not_or]
    exact ⟨by decide, hletter, hdigits width n⟩
  simp only [escapeByNumber]
  split
  · exact hescaped 'x' _ _ (by decide)
  · split
    · exact hescaped 'u' _ _ (by decide)
    · exact hescaped 'U' _ _ (by decide)

theorem newline_not_mem_escapeChar {quote : Char} (hquote : '\n' ≠ quote) (c : Char) :
    '\n' ∉ escapeChar quote c := by
  unfold escapeChar
  split
  · next hc =>
      have hne : '\n' ≠ c := by
        rintro rfl
        rcases hc with hc | hc
        · exact hquote hc
        · exact absurd hc (by decide)
      rw [List.mem_cons, List.mem_singleton, not_or]
      exact ⟨by decide, hne⟩
  · split
    · decide
    · split
      · decide
      · next hfeed =>
          split
          · decide
          · split
            · rw [List.mem_singleton]
              exact fun h => hfeed h.symm
            · exact newline_not_mem_escapeByNumber c

theorem ne_quoteFor {c : Char} (hsingle : c ≠ singleQuote) (hdouble : c ≠ doubleQuote)
    (t : Text) : c ≠ quoteFor t := by
  unfold quoteFor
  split
  · exact hdouble
  · exact hsingle

/-- A quoted text is shown on one line. -/
theorem newline_not_mem_quoted (t : Text) : '\n' ∉ quoted t := by
  have hquote : '\n' ≠ quoteFor t := ne_quoteFor (by decide) (by decide) t
  rw [quoted, List.mem_append, List.mem_cons, List.mem_singleton, List.mem_flatMap]
  rintro ((hmem | ⟨c, -, hmem⟩) | hmem)
  · exact hquote hmem
  · exact newline_not_mem_escapeChar hquote c hmem
  · exact hquote hmem

end Text

/-! ## Expansions -/

/-- A token that is told by its writing: a literal within the digit limit, or a primitive whose
name is a word and no numeral. -/
def Token.Legible : Token → Prop
  | .literal n => (Numeral.magnitudeDigits n).length ≤ Numeral.digitLimit
  | .primitive name => Text.IsName name

/-- Read a token: a numeral is a literal, another word names a primitive. -/
def Token.read (w : Text) : Token :=
  match Numeral.read w with
  | .value n => .literal n
  | .tooLong | .notNumeral => .primitive w

/-- Read an expansion: its tokens stand between spaces. -/
def Expansion.read (t : Text) : Expansion :=
  (Text.words t).map Token.read

theorem Token.Legible.read_write {token : Token} (h : token.Legible) :
    Token.read token.write = token := by
  cases token with
  | literal n => simp only [Token.read, Token.write, Numeral.read_write h]
  | primitive name => simp only [Token.read, Token.write, Text.IsName.read_eq h]

/-- A legible token is written as a word of printable characters. -/
theorem Token.Legible.isWord {token : Token} (h : token.Legible) :
    token.write ≠ [] ∧ ∀ c ∈ token.write, Text.IsWordChar c := by
  cases token with
  | literal n =>
      refine ⟨Numeral.write_ne_nil n, ?_⟩
      intro c hc
      rcases Numeral.eq_or_isDigit_of_mem_write hc with rfl | hdigit
      · decide
      · exact Text.isWordChar_of_isDigit hdigit
  | primitive name => exact ⟨h.ne_nil, h.isWordChar⟩

theorem Text.IsWordChar.ne_space {c : Char} (h : IsWordChar c) : c ≠ ' ' := by
  rintro rfl
  exact absurd h (by decide)

theorem Text.IsWordChar.ne_newline {c : Char} (h : IsWordChar c) : c ≠ '\n' := by
  rintro rfl
  exact absurd h (by decide)

/-- An expansion of legible tokens can be read again. -/
theorem Expansion.read_write {expansion : Expansion} (h : ∀ token ∈ expansion, token.Legible) :
    read expansion.write = expansion := by
  rw [read, write, Text.words_unwords, List.map_map]
  · calc
      expansion.map (Token.read ∘ Token.write) = expansion.map id :=
        List.map_congr_left fun token htoken => (h token htoken).read_write
      _ = expansion := List.map_id expansion
  · intro w hw
    rcases List.mem_map.mp hw with ⟨token, htoken, rfl⟩
    rcases (h token htoken).isWord with ⟨hne, hchars⟩
    exact ⟨hne, fun hspace => (hchars ' ' hspace).ne_space rfl⟩

theorem newline_not_mem_expansion {expansion : Expansion}
    (h : ∀ token ∈ expansion, token.Legible) : '\n' ∉ expansion.write := by
  intro hmem
  rcases Text.eq_space_or_mem_of_mem_unwords hmem with hspace | ⟨w, hw, hmem⟩
  · exact absurd hspace (by decide)
  · rcases List.mem_map.mp hw with ⟨token, htoken, rfl⟩
    exact ((h token htoken).isWord.2 _ hmem).ne_newline rfl

/-! ## Records -/

/-- What a line of a written journal says about definitions. -/
inductive Note where
  /-- A line of input is about to be evaluated. -/
  | opening
  /-- A name was given an expansion. -/
  | definition (name : Text) (expansion : Expansion)
  /-- A line of input was taken back. -/
  | refusal
  /-- Nothing. -/
  | other
deriving DecidableEq

/-- What a record says about definitions. -/
def Record.note : Record → Note
  | .started _ => .other
  | .evaluating _ => .opening
  | .defined name expansion => .definition name expansion
  | .refused _ _ => .refusal

namespace Note

/-- What stands before a message of the given source. -/
def heading (source : Text) : Text :=
  "DEBUG".toList ++ ":".toList ++ source ++ ":".toList

/-- Read a message of the dictionary: a name, up to the first space, and an expansion between
brackets. -/
def ofEntry (message : Text) : Note :=
  let entry := message.drop "defined ".length
  let behind := entry.dropWhile (· != ' ')
  .definition (entry.takeWhile (· != ' ')) (.read (behind.drop " as [".length).dropLast)

/-- Read a message of the evaluator.  Where a line of input is refused it is quoted first, so that
the message does not start with a letter. -/
def ofMessage (message : Text) : Note :=
  if "eval ".toList.isPrefixOf message then .opening
  else if "); state left unchanged".toList.isSuffixOf message then .refusal
  else .other

/-- Read a line of a written journal. -/
def read (line : Text) : Note :=
  match line.dropPrefix? (heading "forthlet.dictionary".toList) with
  | some message => ofEntry message
  | none =>
      match line.dropPrefix? (heading "forthlet.evaluator".toList) with
      | some message => ofMessage message
      | none => .other

end Note

/-- A record that is told by its line: its names and messages are without line feeds, its name is
a word and its tokens are told by their writing. -/
def Record.Legible : Record → Prop
  | .started _ | .evaluating _ => True
  | .defined name expansion => Text.IsName name ∧ ∀ token ∈ expansion, token.Legible
  | .refused _ fault => '\n' ∉ fault.message

/-- A legible record is shown on one line. -/
theorem Record.Legible.newline_not_mem_write {r : Record} (h : r.Legible) : '\n' ∉ r.write := by
  have hlevel : '\n' ∉ levelName r.level := by
    cases r.level with
    | info => decide
    | debug => decide
  have hsource : '\n' ∉ r.source := by
    unfold source
    split <;> decide
  apply List.not_mem_append (List.not_mem_append (List.not_mem_append
    (List.not_mem_append hlevel (by decide)) hsource) (by decide))
  cases r with
  | started charset =>
      exact List.not_mem_append
        (List.not_mem_append (by decide) (Text.newline_not_mem_quoted _)) (by decide)
  | evaluating line => exact List.not_mem_append (by decide) (Text.newline_not_mem_quoted line)
  | defined name expansion =>
      have hname : '\n' ∉ name := fun hmem => (h.1.isWordChar _ hmem).ne_newline rfl
      have htokens : '\n' ∉ expansion.write := newline_not_mem_expansion h.2
      exact List.not_mem_append (List.not_mem_append (List.not_mem_append
        (List.not_mem_append (by decide) hname) (by decide)) htokens) (by decide)
  | refused line fault =>
      exact List.not_mem_append (List.not_mem_append (List.not_mem_append
        (Text.newline_not_mem_quoted line) (by decide)) h) (by decide)

namespace Note

theorem read_dictionary (message : Text) :
    read (heading "forthlet.dictionary".toList ++ message) = ofEntry message := by
  rw [read, List.dropPrefix?_append_of_beq _ (beq_self_eq_true _)]

theorem read_evaluator (message : Text) :
    read (heading "forthlet.evaluator".toList ++ message) = ofMessage message := by
  have hother : (heading "forthlet.evaluator".toList ++ message).dropPrefix?
      (heading "forthlet.dictionary".toList) = none := rfl
  rw [read, hother, List.dropPrefix?_append_of_beq _ (beq_self_eq_true _)]

/-- A definition can be read from its record. -/
theorem ofEntry_message {name : Text} (hname : Text.IsName name) {expansion : Expansion}
    (hexpansion : ∀ token ∈ expansion, token.Legible) :
    ofEntry (Record.message (.defined name expansion)) = .definition name expansion := by
  have hspace : ' ' ∉ name := fun hmem => (hname.isWordChar ' ' hmem).ne_space rfl
  have hmessage : Record.message (.defined name expansion) =
      "defined ".toList ++ name ++ " as [".toList ++ expansion.write ++ "]".toList := rfl
  have hentry : (Record.message (.defined name expansion)).drop "defined ".length =
      name ++ ' ' :: ("as [".toList ++ (expansion.write ++ [']'])) := by
    rw [hmessage, List.append_assoc, List.append_assoc, List.append_assoc]
    rfl
  have hbehind : (' ' :: ("as [".toList ++ (expansion.write ++ [']']))).drop " as [".length =
      expansion.write ++ [']'] := rfl
  rw [ofEntry, hentry, Text.takeWhile_ne_append_cons hspace,
    Text.dropWhile_ne_append_cons hspace, hbehind, List.dropLast_concat,
    Expansion.read_write hexpansion]

theorem ofMessage_evaluating (line : Text) :
    ofMessage (Record.message (.evaluating line)) = .opening := by
  have hopening : "eval ".toList.isPrefixOf (Record.message (.evaluating line)) = true :=
    List.isPrefixOf_iff_prefix.mpr (List.prefix_append _ _)
  rw [ofMessage, if_pos hopening]

theorem ofMessage_refused (line : Text) (fault : Fault) :
    ofMessage (Record.message (.refused line fault)) = .refusal := by
  have hopening : ¬ "eval ".toList.isPrefixOf (Record.message (.refused line fault)) = true := by
    rw [List.isPrefixOf_iff_prefix]
    intro hstarts
    -- The message starts with a quote, never with the letter of the other kind.
    exact Text.ne_quoteFor (by decide) (by decide) line (List.cons_prefix_cons.mp hstarts).1
  have hending : "); state left unchanged".toList.isSuffixOf
      (Record.message (.refused line fault)) = true :=
    List.isSuffixOf_iff_suffix.mpr (List.suffix_append _ _)
  rw [ofMessage, if_neg hopening, if_pos hending]

/-- What a record says about definitions can be read from its line. -/
theorem read_write {r : Record} (h : r.Legible) : read r.write = r.note := by
  cases r with
  | started charset => rfl
  | evaluating line => exact (read_evaluator _).trans (ofMessage_evaluating line)
  | defined name expansion => exact (read_dictionary _).trans (ofEntry_message h.1 h.2)
  | refused line fault => exact (read_evaluator _).trans (ofMessage_refused line fault)

end Note

/-- The message of a definition tells its name and tokens. -/
theorem Record.defined_of_message_eq {name name' : Text} {expansion expansion' : Expansion}
    (h : Legible (.defined name expansion)) (h' : Legible (.defined name' expansion'))
    (hmessage : message (.defined name expansion) = message (.defined name' expansion')) :
    name = name' ∧ expansion = expansion' := by
  have hnote := congrArg Note.ofEntry hmessage
  rw [Note.ofEntry_message h.1 h.2, Note.ofEntry_message h'.1 h'.2] at hnote
  exact Note.definition.inj hnote

/-! ## The records of a conversation -/

/-- In a new evaluator and its descendants the tokens are legible. -/
theorem Token.Grounded.legible {charset : Charset} {token : Token}
    (h : token.Grounded (Evaluator.new charset).primitives) : token.Legible := by
  cases token with
  | literal n => exact h
  | primitive name =>
      rcases Option.isSome_iff_exists.mp h with ⟨p, hfind⟩
      rcases Evaluator.mem_of_find?_addPrimitive hfind with hmem | hbare
      · exact Primitive.isName_of_mem_builtins name (List.mem_map_of_mem hmem)
      · cases hbare

namespace Dictionary

variable {d d' : Dictionary} {definition : Definition} {definitions : List Definition}

/-- A definition that succeeds is recorded before those that follow it. -/
theorem definitionRecords_of_ok {expansion : Expansion}
    (h : d.define definition = (.ok expansion, d')) (definitions : List Definition) :
    ∃ name, d.entryOf definition = .ok (name, expansion) ∧ d' = d.insert name expansion ∧
      d.definitionRecords (definition :: definitions) =
        .defined name expansion :: d'.definitionRecords definitions := by
  rcases exists_entryOf_of_define h with ⟨name, hentry, hstored⟩
  refine ⟨name, hentry, hstored, ?_⟩
  simp only [definitionRecords, hentry, h]

/-- A definition that fails is not recorded, nor are those that would follow it. -/
theorem definitionRecords_of_error {failure : Failure}
    (h : (d.define definition).1 = .error failure) (definitions : List Definition) :
    d.definitionRecords (definition :: definitions) = [] := by
  simp only [definitionRecords]
  split
  · next hdefine =>
      rw [hdefine] at h
      cases h
  · rfl

/-- Every record is that of an entry, made by a dictionary to which definitions have led. -/
theorem exists_entryOf_of_mem_definitionRecords {P : Dictionary → Prop}
    (hstep : ∀ (d : Dictionary) (definition : Definition), P d → P (d.define definition).2)
    (hd : P d) {r : Record} (h : r ∈ d.definitionRecords definitions) :
    ∃ (d' : Dictionary) (definition : Definition) (name : Text) (expansion : Expansion),
      P d' ∧ definition ∈ definitions ∧ d'.entryOf definition = .ok (name, expansion) ∧
        r = .defined name expansion := by
  induction definitions generalizing d with
  | nil => cases h
  | cons definition definitions ih =>
      have hnext := hstep d definition hd
      rcases hdefine : d.define definition with ⟨failure | expansion, d'⟩
      · rw [definitionRecords_of_error (congrArg Prod.fst hdefine)] at h
        cases h
      · rcases definitionRecords_of_ok hdefine definitions with ⟨name, hentry, -, hrecords⟩
        rw [hdefine] at hnext
        rw [hrecords, List.mem_cons] at h
        rcases h with hfirst | hrest
        · exact ⟨d, definition, name, expansion, hd, List.mem_cons_self, hentry, hfirst⟩
        · rcases ih hnext hrest with ⟨d'', later, name', expansion', hP, hmem, hentry', hr⟩
          exact ⟨d'', later, name', expansion', hP, List.mem_cons_of_mem _ hmem, hentry', hr⟩

/-- The definitions of a line are recorded legibly. -/
theorem legible_of_mem_definitionRecords {charset : Charset} {text : Text}
    (hd : d.Grounded (Evaluator.new charset).primitives) {r : Record}
    (h : r ∈ d.definitionRecords (Line.parse .plain text).definitions) : r.Legible := by
  rcases exists_entryOf_of_mem_definitionRecords (fun _ definition hd => hd.define definition)
    hd h with ⟨d', definition, name, expansion, hgrounded, hmem, hentry, rfl⟩
  rcases entryOf_eq_ok hentry with ⟨hname, hread, -⟩
  refine ⟨isName_of_define hmem hname hread, ?_⟩
  intro token htoken
  exact (hgrounded.of_entryOf hentry token htoken).legible

end Dictionary

/-- A line of a session is recorded legibly. -/
theorem Evaluator.legible_records (before : List Text) (line : Text) :
    ∀ r ∈ ((new .plain).afterLines before).records line, r.Legible := by
  have hgrounded := grounded_afterLines .plain before
  rw [Evaluator.Grounded, primitives_afterLines] at hgrounded
  rw [records, List.forall_mem_cons, List.forall_mem_append]
  refine ⟨trivial, ?_, ?_⟩
  · rw [charset_afterLines]
    exact fun r hr => Dictionary.legible_of_mem_definitionRecords hgrounded hr
  · split
    · next fault heval =>
        have hcharset : '\n' ∉ Charset.plain.extra := by decide
        have hanswer := newline_not_mem_answer hcharset
          (congrArg Reply.answer (respond_of_fault heval))
        rw [List.forall_mem_singleton]
        exact fun hmem => hanswer (List.mem_append_right _ hmem)
    · exact List.forall_mem_nil _

/-- A record of a conversation is that of a line of the session. -/
theorem exists_records_of_mem_journal {ev : Evaluator} {lines : List Text} {r : Record}
    (h : r ∈ (converse ev lines).journal) :
    ∃ before line, r ∈ (ev.afterLines before).records line := by
  induction lines generalizing ev with
  | nil => cases h
  | cons line lines ih =>
      rw [converse] at h
      split at h
      · cases h
      · split at h
        · exact ⟨[], line, h⟩
        · next answer after hrespond =>
            rcases List.mem_append.mp h with hfirst | hrest
            · exact ⟨[], line, hfirst⟩
            · rcases ih hrest with ⟨before, line', hmem⟩
              refine ⟨line :: before, line', ?_⟩
              rw [Evaluator.afterLines_cons, ← respond_after, hrespond]
              exact hmem

/-- All records of a conversation, where printable ASCII alone is accepted, are legible. -/
theorem legible_journal (lines : List Text) :
    ∀ r ∈ (converse (.new .plain) lines).journal, r.Legible := by
  intro r hr
  rcases exists_records_of_mem_journal hr with ⟨before, line, hmem⟩
  exact Evaluator.legible_records before line r hmem

end EagerForth
