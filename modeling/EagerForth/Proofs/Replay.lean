import EagerForth.Proofs.WrittenJournal

/-!
# Replaying a journal

A definition is recorded as soon as it is made, while its line may still be taken back.  So the
dictionary at the end of a conversation cannot be had by making all definitions of the journal
again.  But the records of a line stand together, behind the one that opens it; if those of the
lines that were refused are left out, the definitions that are left lead from the built-in words
to exactly that dictionary.  All this can be done with nothing but the text that the program
shows, and showing it changes nothing else.

Main results:

- Theorem {lit}`Dictionary.replay_append`: a journal can be replayed in parts, if it is cut
  before an opening.
- Theorem {lit}`replay_records`: the records of a line replayed.
- Theorem {lit}`replay_journal`: the records of a conversation replayed.
- Theorem {lit}`Program.fields_writeJournal`: the lines of a written journal are its records.
- Theorem {lit}`Program.journal_tells_dictionary`: the dictionary at the end, from the text that
  the program shows.
-/

namespace EagerForth

/-! ## Replaying -/

/-- Carry out what a note says: a definition gives its name its expansion. -/
def Note.carryOut (d : Dictionary) : Note → Dictionary
  | .definition name expansion => d.insert name expansion
  | .opening | .refusal | .other => d

/-- The notes in groups, each but the first behind an opening. -/
def Note.groups (notes : List Note) : List (List Note) :=
  notes.splitBy fun _ next => next != .opening

namespace Dictionary

variable {d : Dictionary}

/-- Make again the definitions of all groups without a refusal. -/
def replay (d : Dictionary) (notes : List Note) : Dictionary :=
  ((Note.groups notes).filter fun group => !group.contains .refusal).flatten.foldl
    Note.carryOut d

/-- A journal can be replayed in parts, if it is cut before an opening. -/
theorem replay_append (d : Dictionary) (first : List Note) {rest : List Note}
    (h : ∀ note ∈ rest.head?, note = .opening) :
    d.replay (first ++ rest) = (d.replay first).replay rest := by
  have hgroups : Note.groups (first ++ rest) = Note.groups first ++ Note.groups rest := by
    apply List.splitBy_append
    intro last _ next hnext
    rw [h next hnext]
    rfl
  simp only [replay, hgroups, List.filter_append, List.flatten_append, List.foldl_append]

/-- Notes without an opening behind the first one are replayed all or not at all. -/
theorem replay_group (d : Dictionary) {first : Note} {rest : List Note}
    (h : .opening ∉ rest) :
    d.replay (first :: rest) =
      if .refusal ∈ first :: rest then d else (first :: rest).foldl Note.carryOut d := by
  have hnext : ∀ next ∈ rest, (next != .opening) = true := by
    intro next hmem
    rw [bne_iff_ne]
    exact fun hopening => h (hopening ▸ hmem)
  have hgroup : Note.groups (first :: rest) = [first :: rest] := by
    apply List.splitBy_of_isChain (List.cons_ne_nil _ _)
    apply List.Pairwise.isChain
    exact List.pairwise_cons.mpr
      ⟨hnext, List.pairwise_of_forall_mem_list fun _ _ next hmem => hnext next hmem⟩
  rw [replay, hgroup]
  split
  · next hrefusal => simp [hrefusal]
  · next hrefusal => simp [hrefusal]

/-- Definitions that all succeed lead to what their records say. -/
theorem foldl_definitionRecords {d' : Dictionary} {definitions : List Definition}
    (h : d.defineAll definitions = .ok d') :
    ((d.definitionRecords definitions).map Record.note).foldl Note.carryOut d = d' := by
  induction definitions generalizing d with
  | nil => exact Except.ok.inj h
  | cons definition definitions ih =>
      simp only [defineAll] at h
      split at h
      · next expansion next hdefine =>
          rcases definitionRecords_of_ok hdefine definitions with ⟨name, -, hstored, hrecords⟩
          rw [hrecords, List.map_cons, List.foldl_cons]
          subst hstored
          exact ih h
      · cases h

/-- Definitions that are recorded open nothing and refuse nothing. -/
theorem note_of_mem_definitionRecords {definitions : List Definition} {r : Record}
    (h : r ∈ d.definitionRecords definitions) : r.note ≠ .opening ∧ r.note ≠ .refusal := by
  rcases exists_entryOf_of_mem_definitionRecords (P := fun _ => True) (fun _ _ => id) trivial h
    with ⟨-, -, name, expansion, -, -, -, rfl⟩
  exact ⟨nofun, nofun⟩

end Dictionary

/-! ## Conversations -/

variable {ev : Evaluator}

theorem Evaluator.records_of_fault {line : Text} {fault : Fault}
    (h : ev.eval line = .error (.fault fault)) :
    ev.records line = .evaluating line ::
      (Dictionary.definitionRecords ev.words (Line.parse ev.charset line).definitions ++
        [.refused line fault]) := by
  rw [records, h]

theorem Evaluator.records_of_ok {line : Text} {after : Evaluator}
    (h : ev.eval line = .ok after) :
    ev.records line = .evaluating line ::
      Dictionary.definitionRecords ev.words (Line.parse ev.charset line).definitions := by
  rw [records, h, List.append_nil]

/-- The records of a line that is answered lead to the dictionary after it.  If the line has a
fault, its definitions are recorded up to the place of the fault, but not made again. -/
theorem replay_records {line answer : Text} (h : (respond ev line).answer = .ok answer) :
    ev.words.replay ((ev.records line).map Record.note) = (respond ev line).after.words := by
  rcases respond_eq_ok h with ⟨fault, heval, -⟩ | ⟨after, stack, heval, -, -⟩
  · -- The refusal stands in the group of its own line, which is left out as a whole.
    rw [respond_after_of_error heval, Evaluator.records_of_fault heval, List.map_cons,
      Dictionary.replay_group, if_pos]
    · simp [Record.note]
    · rw [List.mem_map]
      rintro ⟨r, hr, hopening⟩
      rcases List.mem_append.mp hr with hdefined | hrefused
      · exact (Dictionary.note_of_mem_definitionRecords hdefined).1 hopening
      · rw [List.mem_singleton.mp hrefused] at hopening
        cases hopening
  · rcases Evaluator.carryOut_eq_ok_iff.mp heval with ⟨words, stack, hwords, -, hafter⟩
    rw [respond_after_of_ok heval, Evaluator.records_of_ok heval, List.map_cons,
      Dictionary.replay_group, if_neg, hafter]
    · exact Dictionary.foldl_definitionRecords hwords
    · rw [List.mem_cons, List.mem_map, not_or]
      refine ⟨nofun, ?_⟩
      rintro ⟨r, hr, hrefusal⟩
      exact (Dictionary.note_of_mem_definitionRecords hr).2 hrefusal
    · rw [List.mem_map]
      rintro ⟨r, hr, hopening⟩
      exact (Dictionary.note_of_mem_definitionRecords hr).1 hopening

/-- The records of a conversation start with an opening. -/
theorem head?_note_journal (ev : Evaluator) (lines : List Text) :
    ∀ note ∈ ((converse ev lines).journal.map Record.note).head?, note = .opening := by
  intro note hnote
  cases lines with
  | nil => cases hnote
  | cons line lines =>
      rw [converse] at hnote
      split at hnote
      · cases hnote
      · split at hnote
        · exact (Option.some.inj hnote).symm
        · exact (Option.some.inj hnote).symm

/-- The records of a conversation that did not fail lead to the dictionary at its end. -/
theorem replay_journal {lines : List Text}
    (h : ∀ failure, (converse ev lines).ending ≠ .failed failure) :
    ev.words.replay ((converse ev lines).journal.map Record.note) =
      (converse ev lines).final.words := by
  induction lines generalizing ev with
  | nil => rfl
  | cons line lines ih =>
      rw [converse] at h ⊢
      split at h
      · next hbye =>
          rw [if_pos hbye]
          rfl
      · next hbye =>
          rw [if_neg hbye]
          split at h
          · next failure after hrespond => exact absurd rfl (h failure)
          · next answer after hrespond =>
              -- The other lines start with an opening, so this one is a group by itself.
              have hfirst := replay_records (congrArg Reply.answer hrespond)
              rw [hrespond] at hfirst
              rw [List.map_append, Dictionary.replay_append _ _ (head?_note_journal after lines),
                hfirst]
              exact ih h

/-! ## Written journals -/

namespace Program

/-- Texts that are printed in lines are the lines of what is printed. -/
theorem fields_writeLines {ts : List Text} (h : ∀ t ∈ ts, t ≠ [] ∧ '\n' ∉ t) :
    Text.fields (· == '\n') (writeLines ts) = ts := by
  have hsplit := splitOn_writeLines fun t ht => (h t ht).2
  rw [List.splitOn_eq_splitOnP] at hsplit
  have hfilter : ts.filter (! ·.isEmpty) = ts := by
    rw [List.filter_eq_self]
    intro t ht
    simpa using (h t ht).1
  rw [Text.fields, hsplit, List.filter_append, hfilter]
  exact List.append_nil ts

/-- A journal that is shown in full has its records in writing for its lines. -/
theorem fields_writeJournal {journal : List Record} (h : ∀ r ∈ journal, r.Legible) :
    Text.fields (· == '\n') (writeJournal .everything journal) = journal.map Record.write := by
  have hall : journal.filter (fun r => Verbosity.shows .everything r.level) = journal :=
    List.filter_eq_self.mpr fun r _ => rfl
  rw [writeJournal, hall]
  apply fields_writeLines
  intro line hline
  rcases List.mem_map.mp hline with ⟨r, hr, rfl⟩
  refine ⟨?_, (h r hr).newline_not_mem_write⟩
  simp [Record.write]

/-- The journal that the program shows, once its command line is accepted. -/
theorem errors_of_start {arguments : List Text} {options : Options}
    (h : Invocation.ofArguments arguments = .start options) (lines : List Text) :
    (run arguments lines).errors = writeJournal options.verbosity
      (.started options.charset :: (converse (.new options.charset) lines).journal) := by
  rw [run, h]

/-- Read a journal from the text that is shown, and replay it over the built-in words. -/
def replay (shown : Text) : Dictionary :=
  (Dictionary.ofBuiltins (Primitive.builtins.map Prod.fst)).replay
    ((Text.fields (· == '\n') shown).map Note.read)

/-- The text of a journal that is shown in full tells the dictionary. -/
theorem replay_writeJournal {lines : List Text}
    (h : ∀ failure, (converse (.new .plain) lines).ending ≠ .failed failure) :
    replay (writeJournal .everything
        (.started .plain :: (converse (.new .plain) lines).journal)) =
      (converse (.new .plain) lines).final.words := by
  have hlegible : ∀ r ∈ Record.started .plain :: (converse (.new .plain) lines).journal,
      r.Legible := List.forall_mem_cons.mpr ⟨trivial, legible_journal lines⟩
  have hread : ((Record.started .plain :: (converse (.new .plain) lines).journal).map
      Record.write).map Note.read =
        [.other] ++ (converse (.new .plain) lines).journal.map Record.note := by
    rw [List.map_map]
    exact List.map_congr_left fun r hr => Note.read_write (hlegible r hr)
  rw [replay, fields_writeJournal hlegible, hread, ← Evaluator.words_new .plain,
    Dictionary.replay_append _ _ (head?_note_journal _ lines)]
  exact replay_journal h

/-- The journal is faithful and harmless.  If the program comes to the end of a conversation, it
does so as well when everything is shown, and prints and leaves unread the same.  What it shows
besides are the records of the journal, a line each, and these tell the dictionary at the end:
leave out the groups of the lines that were refused, and make the other definitions again, one
after another, over the built-in words.  A record of a definition tells its name and tokens; no
other definition, of whatever conversation, has the same message. -/
theorem journal_tells_dictionary (lines : List Text) (h : (run [] lines).status = .finished) :
    let quiet := run [] lines
    let shown := run ["--debug".toList] lines
    let transcript := converse (.new .plain) lines
    (shown.status = .finished ∧ shown.output = quiet.output ∧ shown.unread = quiet.unread) ∧
      Text.fields (· == '\n') shown.errors =
        (.started .plain :: transcript.journal).map Record.write ∧
      replay shown.errors = transcript.final.words ∧
      ∀ name expansion, .defined name expansion ∈ transcript.journal →
        ∀ lines' name' expansion',
          .defined name' expansion' ∈ (converse (.new .plain) lines').journal →
          Record.message (.defined name expansion) =
            Record.message (.defined name' expansion') →
          name = name' ∧ expansion = expansion' := by
  intro quiet shown transcript
  have hnothing : Invocation.ofArguments [] = .start .defaults := rfl
  have hdebug : Invocation.ofArguments ["--debug".toList] = .start ⟨false, true, false⟩ := rfl
  rcases run_of_start hnothing lines with ⟨hquietOutput, hquietUnread, hquietStatus⟩
  rcases run_of_start hdebug lines with ⟨houtput, hunread, hstatus⟩
  have herrors : shown.errors = writeJournal .everything
      (.started .plain :: transcript.journal) := errors_of_start hdebug lines
  have hending : ∀ failure, transcript.ending ≠ .failed failure := by
    intro failure hfailed
    rw [hquietStatus] at h
    exact absurd (h.symm.trans (congrArg statusOf hfailed)) nofun
  refine ⟨⟨hstatus.trans (hquietStatus.symm.trans h), houtput.trans hquietOutput.symm,
    hunread.trans hquietUnread.symm⟩, ?_, ?_, ?_⟩
  · rw [herrors]
    exact fields_writeJournal (List.forall_mem_cons.mpr ⟨trivial, legible_journal lines⟩)
  · rw [herrors]
    exact replay_writeJournal hending
  · intro name expansion hmem lines' name' expansion' hmem' hmessage
    exact Record.defined_of_message_eq (legible_journal lines _ hmem)
      (legible_journal lines' _ hmem') hmessage

/-- A definition, a line that gives the same name another meaning before it fails, and
good-bye. -/
def tentativeLines : List Text :=
  [": twice dup + ;".toList, ": twice 3 ; nip".toList, "bye".toList]

/-- What the first line makes of a new evaluator. -/
def withTwice : Evaluator :=
  { Evaluator.new .plain with
    words := (Evaluator.new .plain).words.insert "twice".toList
      [.primitive "dup".toList, .primitive "+".toList] }

/-- The second meaning is shown, but refused with its line; so the journal tells the first. -/
theorem journal_tells_dictionary_tentative :
    (run [] tentativeLines).status = .finished ∧
      Record.defined "twice".toList [.literal 3] ∈
        (converse (.new .plain) tentativeLines).journal ∧
      (replay (run ["--debug".toList] tentativeLines).errors).find? "twice".toList =
        some [.primitive "dup".toList, .primitive "+".toList] := by
  have hblank : Line.parse .plain [] = ⟨[], []⟩ := Line.parse_of_tokenize_eq_nil rfl
  have hnip : Line.parse .plain " nip".toList = ⟨[], ["nip".toList]⟩ :=
    Line.parse_of_not_definition rfl
  have hfirst : (Evaluator.new .plain).eval ": twice dup + ;".toList = .ok withTwice := by
    have hparse := Line.parse_definition_append Charset.settled_plain
      (c := " twice dup + ".toList) (by decide) []
    rw [hblank] at hparse
    rw [Evaluator.eval_eq_carryOut]
    change (Evaluator.new .plain).carryOut
      (Line.parse .plain (':' :: " twice dup + ".toList ++ ';' :: [])) = _
    rw [hparse, Evaluator.carryOut_single]
    rfl
  have hparse : Line.parse .plain ": twice 3 ; nip".toList =
      ⟨[⟨some "twice".toList, ["3".toList]⟩], ["nip".toList]⟩ := by
    have hparse := Line.parse_definition_append Charset.settled_plain
      (c := " twice 3 ".toList) (by decide) " nip".toList
    rw [hnip] at hparse
    exact hparse
  have hsecond : withTwice.eval ": twice 3 ; nip".toList =
      .error (.fault (.unknownWord "nip".toList)) := by
    rw [Evaluator.eval_eq_carryOut]
    change withTwice.carryOut (Line.parse .plain ": twice 3 ; nip".toList) = _
    rw [hparse]
    rfl
  have hok : respond (.new .plain) ": twice dup + ;".toList =
      ⟨.ok " ok".toList, withTwice⟩ := by
    rw [respond_of_ok hfirst]
    rfl
  have hconverse : converse (.new .plain) tentativeLines =
      { answers := [" ok".toList, " ? ".toList ++ Fault.message (.unknownWord "nip".toList)]
        journal := (Evaluator.new .plain).records ": twice dup + ;".toList ++
          (withTwice.records ": twice 3 ; nip".toList ++ [])
        ending := .bye
        unread := []
        final := withTwice } := by
    have hbyes : isBye ": twice dup + ;".toList = false ∧
        isBye ": twice 3 ; nip".toList = false ∧ isBye "bye".toList = true := by
      decide
    simp only [tentativeLines, converse, hbyes, hok, respond_of_fault hsecond,
      Bool.false_eq_true, if_false, if_true]
  have hstatus : (run [] tentativeLines).status = .finished := by
    have hnothing : Invocation.ofArguments [] = .start .defaults := rfl
    rw [(run_of_start hnothing tentativeLines).2.2]
    exact congrArg (fun transcript => statusOf transcript.ending) hconverse
  refine ⟨hstatus, ?_, ?_⟩
  · rw [hconverse]
    refine List.mem_append_right _ (List.mem_append_left _ ?_)
    rw [Evaluator.records_of_fault hsecond]
    refine List.mem_cons_of_mem _ (List.mem_append_left _ ?_)
    change _ ∈ Dictionary.definitionRecords withTwice.words
      (Line.parse .plain ": twice 3 ; nip".toList).definitions
    rw [hparse]
    exact List.mem_singleton_self _
  · rw [(journal_tells_dictionary tentativeLines hstatus).2.2.1, hconverse]
    exact NameTable.find?_insert_self _ _ _

end Program

end EagerForth
