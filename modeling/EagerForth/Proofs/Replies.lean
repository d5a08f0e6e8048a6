import EagerForth.Proofs.Conversation
import EagerForth.Proofs.StackText

/-!
# What an answer tells

The prompt answers a line with the report of a fault or with the stack in writing and the word
ok.  A word may be called ok itself, and a fault may name any word that stands in a line.  All
the same an answer says which of the two it is, which fault there was and which stack there is
now.  No answer has a line feed in it unless line feeds are accepted in lines, so every line that
is answered makes one line of what is printed, however it was laid out.

Main results:

- Theorem {lit}`Fault.message_injective`: a message tells which fault it reports.
- Theorem {lit}`Numeral.unwords_write_injective`: a row of written integers tells the integers.
- Theorem {lit}`same_outcome_of_answer_eq`: lines with the same answer had the same outcome.
- Theorem {lit}`newline_not_mem_answer`: answers have no line feeds in them.
- Theorem {lit}`answer_tells_outcome`: what an answer tells, what there is if there is no
  answer, and what is printed.
-/

namespace EagerForth

/-! ## Messages -/

/-- The letter that the message of a fault starts with. -/
def Fault.initial : Fault → Char
  | .stackUnderflow => 's'
  | .divisionByZero => 'd'
  | .invalidWord _ => 'i'
  | .unknownWord _ => 'u'

theorem Fault.head?_message (fault : Fault) : fault.message.head? = some fault.initial := by
  cases fault <;> rfl

/-- A message tells which fault it reports. -/
theorem Fault.message_injective {f g : Fault} (h : f.message = g.message) : f = g := by
  have hinitial : f.initial = g.initial := by
    rw [← Option.some.injEq, ← head?_message, ← head?_message, h]
  -- Messages of different kinds start with different letters.
  cases f <;> cases g <;> cases hinitial
  · rfl
  · rfl
  · rw [List.append_cancel_left h]
  · rw [List.append_cancel_left h]

/-- A message ends in the word that it names, and has no line feed before that. -/
theorem Fault.exists_heading (fault : Fault) :
    ∃ heading : Text, '\n' ∉ heading ∧ fault.message = heading ++ fault.word := by
  cases fault with
  | stackUnderflow =>
      exact ⟨"stack underflow".toList, by decide, (List.append_nil _).symm⟩
  | divisionByZero =>
      exact ⟨"division by zero".toList, by decide, (List.append_nil _).symm⟩
  | invalidWord word => exact ⟨"invalid word: ".toList, by decide, rfl⟩
  | unknownWord word => exact ⟨"unknown word: ".toList, by decide, rfl⟩

/-- A message has a line feed in it only if the word that it names has. -/
theorem Fault.newline_mem_word {fault : Fault} (h : '\n' ∈ fault.message) :
    '\n' ∈ fault.word := by
  rcases fault.exists_heading with ⟨heading, hheading, hmessage⟩
  rw [hmessage, List.mem_append] at h
  exact h.resolve_left hheading

/-! ## Rows of numerals -/

/-- A written integer tells the integer. -/
theorem Numeral.write_injective {m n : Int} (h : write m = write n) : m = n := by
  have hsplit := congrArg splitSign h
  rw [splitSign_write, splitSign_write, Prod.mk.injEq] at hsplit
  rw [← ofDigits_magnitudeDigits m, hsplit.1, hsplit.2, ofDigits_magnitudeDigits]

/-- A row of written integers tells the integers. -/
theorem Numeral.unwords_write_injective {ms ns : List Int}
    (h : Text.unwords (ms.map write) = Text.unwords (ns.map write)) : ms = ns := by
  have hwords := congrArg Charset.plain.tokenize h
  rw [Charset.tokenize_unwords_write, Charset.tokenize_unwords_write] at hwords
  exact (List.map_inj_right fun _ _ => write_injective).mp hwords

/-- A stack in writing is the row of its values, the bottom first. -/
theorem Evaluator.eq_unwords_of_formatStack {ev : Evaluator} {text : Text}
    (h : ev.formatStack = some text) :
    text = Text.unwords (ev.stack.reverse.map Numeral.write) := by
  rw [formatStack, Numeral.mapM_write?] at h
  split at h
  · rw [Option.map_some, Option.some.injEq] at h
    exact h.symm
  · cases h

/-- A stack in writing tells the stack. -/
theorem Evaluator.stack_eq_of_formatStack {ev ev' : Evaluator} {text : Text}
    (h : ev.formatStack = some text) (h' : ev'.formatStack = some text) :
    ev.stack = ev'.stack := by
  rw [eq_unwords_of_formatStack h] at h'
  have hvalues := Numeral.unwords_write_injective (eq_unwords_of_formatStack h')
  rwa [List.reverse_inj] at hvalues

/-! ## Answers -/

variable {ev ev' : Evaluator} {line line' answer : Text}

theorem respond_after_of_ok {after : Evaluator} (h : ev.eval line = .ok after) :
    (respond ev line).after = after := by
  rw [respond_of_ok h]

theorem respond_after_of_error {failure : Failure} (h : ev.eval line = .error failure) :
    (respond ev line).after = ev := by
  simp only [respond_after, Evaluator.perform, h]

/-- A stack in writing with the word ok behind it has no characters but digits, minus signs,
spaces and the letters of that word. -/
theorem not_mem_stack_ok {stack : Text} (h : ev.formatStack = some stack) {c : Char}
    (hc : c.isDigit = false ∧ c ∉ "- ok".toList) : c ∉ stack ++ " ok".toList := by
  rcases hc with ⟨hdigit, hother⟩
  intro hmem
  rcases List.mem_append.mp hmem with hstack | hok
  · rw [Evaluator.eq_unwords_of_formatStack h] at hstack
    rcases Numeral.eq_or_isDigit_of_mem_unwords hstack with rfl | rfl | hdigit'
    · exact hother (by decide)
    · exact hother (by decide)
    · rw [hdigit'] at hdigit
      cases hdigit
  · exact hother (List.mem_cons_of_mem '-' hok)

/-- An answer starts with a space and a question mark exactly when it reports a fault. -/
theorem mark_isPrefix_answer_iff (h : (respond ev line).answer = .ok answer) :
    " ?".toList <+: answer ↔ ∃ fault, ev.eval line = .error (.fault fault) := by
  rcases respond_eq_ok h with ⟨fault, heval, rfl⟩ | ⟨after, stack, heval, hstack, rfl⟩
  · have hmark : " ?".toList <+: " ? ".toList := by decide
    exact iff_of_true (hmark.trans (List.prefix_append _ _)) ⟨fault, heval⟩
  · constructor
    · intro hmark
      have hmem : '?' ∈ stack ++ " ok".toList := hmark.subset (by decide)
      exact absurd hmem (not_mem_stack_ok hstack (by decide))
    · rintro ⟨fault, hfault⟩
      rw [heval] at hfault
      cases hfault

/-- Lines with the same answer had the same fault, or left the same stack. -/
theorem same_outcome_of_answer_eq (h : (respond ev line).answer = .ok answer)
    (h' : (respond ev' line').answer = .ok answer) :
    (∃ fault, ev.eval line = .error (.fault fault) ∧
        ev'.eval line' = .error (.fault fault)) ∨
      ∃ after after', ev.eval line = .ok after ∧ ev'.eval line' = .ok after' ∧
        after.stack = after'.stack := by
  have hkind := (mark_isPrefix_answer_iff h).symm.trans (mark_isPrefix_answer_iff h')
  rcases respond_eq_ok h with ⟨fault, heval, hanswer⟩ | ⟨after, stack, heval, hstack, hanswer⟩
  · rcases respond_eq_ok h' with ⟨fault', heval', hanswer'⟩ | ⟨after', stack', heval', -⟩
    · rw [hanswer] at hanswer'
      have hfault := Fault.message_injective (List.append_cancel_left hanswer')
      exact Or.inl ⟨fault, heval, hfault ▸ heval'⟩
    · rcases hkind.mp ⟨fault, heval⟩ with ⟨fault', hfault⟩
      rw [heval'] at hfault
      cases hfault
  · rcases respond_eq_ok h' with ⟨fault', heval', -⟩ | ⟨after', stack', heval', hstack', hanswer'⟩
    · rcases hkind.mpr ⟨fault', heval'⟩ with ⟨fault, hfault⟩
      rw [heval] at hfault
      cases hfault
    · rw [hanswer] at hanswer'
      have htext : stack = stack' := List.append_cancel_right hanswer'
      exact Or.inr ⟨after, after', heval, heval',
        Evaluator.stack_eq_of_formatStack hstack (htext ▸ hstack')⟩

/-! ## Line feeds -/

/-- A line feed that is not accepted stands in no normal form. -/
theorem Charset.newline_not_mem_normalize {cs : Charset} (h : '\n' ∉ cs.extra) (t : Text) :
    '\n' ∉ cs.normalize t := by
  intro hmem
  rcases cs.accepts_or_le_of_mem_normalize hmem with haccepts | hle
  · apply h
    simpa [accepts, isPrintableAscii] using haccepts
  · exact absurd hle (by decide)

/-- Answers have no line feeds in them if line feeds are not accepted in lines. -/
theorem newline_not_mem_answer {charset : Charset} {lines : List Text}
    (hcharset : '\n' ∉ charset.extra)
    (h : (respond ((Evaluator.new charset).afterLines lines) line).answer = .ok answer) :
    '\n' ∉ answer := by
  intro hmem
  rcases respond_eq_ok h with ⟨fault, heval, rfl⟩ | ⟨after, stack, -, hstack, rfl⟩
  · rcases List.mem_append.mp hmem with hmark | hmessage
    · exact absurd hmark (by decide)
    · have hword := Fault.newline_mem_word hmessage
      have hnormal : ∀ t, ∀ c ∈ charset.normalize t, c ≠ '\n' := by
        rintro t c hc rfl
        exact charset.newline_not_mem_normalize hcharset t hc
      rcases Evaluator.word_of_fault heval with hnone | hwords
      · rw [hnone] at hword
        cases hword
      · exact (Line.of_mem_words hnormal line _ hwords).2 _ hword rfl
  · exact not_mem_stack_ok hstack (by decide) hmem

/-- Texts without line feeds that are printed in lines are the lines of what is printed. -/
theorem Program.splitOn_writeLines {ts : List Text} (h : ∀ t ∈ ts, '\n' ∉ t) :
    (writeLines ts).splitOn '\n' = ts ++ [[]] := by
  induction ts with
  | nil => rfl
  | cons t ts ih =>
      rcases List.forall_mem_cons.mp h with ⟨ht, hts⟩
      have hwrite : writeLines (t :: ts) = t ++ '\n' :: writeLines ts := by
        simp [writeLines]
      have hline : t.splitOnP (· == '\n') = [t] := by
        apply List.splitOnP_eq_singleton
        intro c hc
        rw [beq_eq_false_iff_ne]
        rintro rfl
        exact ht hc
      have hrest := ih hts
      rw [List.splitOn_eq_splitOnP] at hrest ⊢
      rw [hwrite, List.splitOnP_append_cons (p := (· == '\n')) _ _ rfl, hline, hrest]
      rfl

/-- The answers of a conversation are the replies to its first lines. -/
theorem map_answer_replies_take (ev : Evaluator) (lines : List Text) :
    (replies ev (lines.take (converse ev lines).answers.length)).map Reply.answer =
      (converse ev lines).answers.map .ok := by
  induction lines generalizing ev with
  | nil => rfl
  | cons line lines ih =>
      rw [converse]
      split
      · rfl
      · split
        · rfl
        · next answer after hrespond =>
            rw [List.length_cons, List.take_succ_cons, replies, hrespond, List.map_cons, ih]
            rfl

/-- A reply to one of several lines is that of the evaluator that some lines have led to. -/
theorem exists_respond_of_mem_replies {lines : List Text} {reply : Reply}
    (h : reply ∈ replies ev lines) :
    ∃ before line, reply = respond (ev.afterLines before) line := by
  rcases List.mem_iff_getElem?.mp h with ⟨n, hn⟩
  rw [getElem?_replies, Option.map_eq_some_iff] at hn
  rcases hn with ⟨line, -, hreply⟩
  exact ⟨lines.take n, line, hreply.symm⟩

/-- No line feed is accepted on account of the command line. -/
theorem Options.newline_not_mem_extra (options : Options) : '\n' ∉ options.charset.extra := by
  unfold charset
  split
  · decide
  · decide

/-- What the program prints are the banner and the answers, a line each. -/
theorem Program.splitOn_output {arguments : List Text} {options : Options}
    (h : Invocation.ofArguments arguments = .start options) (lines : List Text) :
    (run arguments lines).output.splitOn '\n' =
      banner :: (converse (.new options.charset) lines).answers ++ [[]] := by
  rw [(run_of_start h lines).1, Transcript.output]
  apply splitOn_writeLines
  intro text htext
  rcases List.mem_cons.mp htext with rfl | hanswer
  · decide
  · have hreplies : (.ok text : Except Failure Text) ∈
        (converse (.new options.charset) lines).answers.map .ok :=
      List.mem_map_of_mem hanswer
    rw [← map_answer_replies_take, List.mem_map] at hreplies
    rcases hreplies with ⟨reply, hmem, hreply⟩
    rcases exists_respond_of_mem_replies hmem with ⟨before, line, rfl⟩
    exact newline_not_mem_answer options.newline_not_mem_extra hreply

/-! ## Replies -/

/-- An answer tells what happened.  In every session, an answer starts with a space and a
question mark exactly when the line has a fault, and then the line changes nothing; otherwise it
ends in the word ok and the line has been evaluated.  Two lines with the same answer, in whatever
sessions, have the same fault, or have both been evaluated and left the same stack.  There is no
line feed in an answer unless the line feed is an accepted character.  A reply without an answer
has failed at the digit limit, either in the line, which then changes nothing, or in writing the
stack after a line that has been evaluated.  So the program, once its command line is accepted,
prints the banner and the answers to the first lines of its input, a line each. -/
theorem answer_tells_outcome (charset : Charset) (lines : List Text) (line : Text) :
    let ev := (Evaluator.new charset).afterLines lines
    let reply := respond ev line
    (∀ answer, reply.answer = .ok answer →
        (" ?".toList <+: answer ↔ ∃ fault, ev.eval line = .error (.fault fault)) ∧
          (" ?".toList <+: answer → reply.after = ev) ∧
          (¬ " ?".toList <+: answer →
            " ok".toList <:+ answer ∧ ev.eval line = .ok reply.after) ∧
          (∀ charset' lines' line',
            let ev' := (Evaluator.new charset').afterLines lines'
            (respond ev' line').answer = .ok answer →
              (∃ fault, ev.eval line = .error (.fault fault) ∧
                ev'.eval line' = .error (.fault fault)) ∨
              ∃ after after', ev.eval line = .ok after ∧ ev'.eval line' = .ok after' ∧
                after.stack = after'.stack) ∧
          ('\n' ∉ charset.extra → '\n' ∉ answer)) ∧
      (∀ failure, reply.answer = .error failure →
        failure = .digitLimit ∧
          (ev.eval line = .error .digitLimit ∧ reply.after = ev ∨
            ev.eval line = .ok reply.after ∧ reply.after.formatStack = none)) ∧
      ∀ arguments options input, Invocation.ofArguments arguments = .start options →
        let start := Evaluator.new options.charset
        let answers := (converse start input).answers
        (replies start (input.take answers.length)).map Reply.answer = answers.map .ok ∧
          (Program.run arguments input).output.splitOn '\n' = banner :: answers ++ [[]] := by
  intro ev reply
  refine ⟨?_, ?_, ?_⟩
  · intro answer hanswer
    have hmark := mark_isPrefix_answer_iff hanswer
    refine ⟨hmark, ?_, ?_, ?_, ?_⟩
    · intro hstarts
      rcases hmark.mp hstarts with ⟨fault, heval⟩
      exact respond_after_of_error heval
    · intro hstarts
      rcases respond_eq_ok hanswer with ⟨fault, heval, -⟩ | ⟨after, stack, heval, -, rfl⟩
      · exact absurd (hmark.mpr ⟨fault, heval⟩) hstarts
      · exact ⟨List.suffix_append _ _, (respond_after_of_ok heval).symm ▸ heval⟩
    · intro charset' lines' line' ev' hanswer'
      exact same_outcome_of_answer_eq hanswer hanswer'
    · intro hcharset
      exact newline_not_mem_answer hcharset hanswer
  · intro failure hfailure
    rcases respond_eq_error hfailure with ⟨heval, hfault⟩ | ⟨hlimit, after, heval, hstack⟩
    · have hgrounded := Evaluator.grounded_afterLines charset lines
      rcases hgrounded.eval_eq_error heval with ⟨fault, rfl⟩ | ⟨rfl, -⟩
      · exact absurd rfl (hfault fault)
      · exact ⟨rfl, Or.inl ⟨heval, respond_after_of_error heval⟩⟩
    · refine ⟨hlimit, Or.inr ?_⟩
      rw [show reply.after = after from respond_after_of_ok heval]
      exact ⟨heval, hstack⟩
  · intro arguments options input haccepted start answers
    exact ⟨map_answer_replies_take start input, Program.splitOn_output haccepted input⟩

/-- A word that is called ok and is not known, a line with a line feed in it, a numeral with too
many digits, and the program with one line of input. -/
theorem answer_tells_outcome_unknown :
    (respond (.new .plain) "1 ok".toList).answer = .ok " ? unknown word: ok".toList ∧
      (∃ fault, (Evaluator.new .plain).eval "1 ok".toList = .error (.fault fault)) ∧
      (respond (.new .plain) "1\n2".toList).answer = .ok "1 2 ok".toList ∧
      (Evaluator.new .plain).eval "1\n2".toList =
        .ok (respond (.new .plain) "1\n2".toList).after ∧
      (respond (.new .plain) tooManyOnes).answer = .error .digitLimit ∧
      (respond (.new .plain) tooManyOnes).after = .new .plain ∧
      (Program.run [] ["1\n2".toList]).output.splitOn '\n' =
        banner :: (converse (.new .plain) ["1\n2".toList]).answers ++ [[]] := by
  have hunknown : (respond (.new .plain) "1 ok".toList).answer =
      .ok " ? unknown word: ok".toList := by
    have heval : (Evaluator.new .plain).eval "1 ok".toList =
        .error (.fault (.unknownWord "ok".toList)) := by
      rw [Evaluator.eval_of_not_definition rfl]
      rfl
    rw [respond_of_fault heval]
    rfl
  have hnumbers : (respond (.new .plain) "1\n2".toList).answer = .ok "1 2 ok".toList := by
    have heval : (Evaluator.new .plain).eval "1\n2".toList =
        .ok { Evaluator.new .plain with stack := [2, 1] } := by
      rw [Evaluator.eval_of_not_definition rfl]
      rfl
    rw [respond_of_ok heval]
    rfl
  have hones : (respond (.new .plain) tooManyOnes).answer = .error .digitLimit := by
    rw [respond_tooManyOnes]
  have hprinted : (Program.run [] ["1\n2".toList]).output.splitOn '\n' =
      banner :: (converse (.new .plain) ["1\n2".toList]).answers ++ [[]] :=
    ((answer_tells_outcome .plain [] []).2.2 [] .defaults ["1\n2".toList] rfl).2
  have hok := (answer_tells_outcome .plain [] "1 ok".toList).1
  have hfeed := (answer_tells_outcome .plain [] "1\n2".toList).1
  have hlong := (answer_tells_outcome .plain [] tooManyOnes).2.1
  simp only [Evaluator.afterLines_nil] at hok hfeed hlong
  refine ⟨hunknown, ?_, hnumbers, ?_, hones, ?_, hprinted⟩
  · exact (hok _ hunknown).1.mp (by decide)
  · exact ((hfeed _ hnumbers).2.2.1 (by decide)).2
  · rcases (hlong _ hones).2 with ⟨-, hafter⟩ | ⟨heval, -⟩
    · exact hafter
    · rw [Evaluator.eval_tooManyOnes] at heval
      cases heval

end EagerForth
