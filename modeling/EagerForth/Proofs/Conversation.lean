import EagerForth.Program
import EagerForth.Proofs.Sessions

/-!
# The course of a conversation

Look at the replies to all lines, as if nothing could end the conversation: there may be a first
line that says good-bye and a first reply that fails at the digit limit.  Whichever comes first
ends the conversation.  All lines before it have been answered, it has been read itself, and the
lines behind it have neither been read nor had any effect.  When there is neither, all lines are
answered and the conversation ends with its input.

Main results:

- Theorem {lit}`isBye_eq_saysBye`: a good-bye is the word BYE in any mixture of capitals and
  small letters.
- Theorem {lit}`respond_after`: a reply leaves the evaluator that the line leads to.
- Theorem {lit}`converse_append`: lines that are answered come before the rest of the
  conversation.
- Theorem {lit}`converse_course`: how a conversation goes, and how the program ends.
-/

namespace EagerForth

/-! ## Good-bye -/

namespace Text

theorem toNat_toLower (c : Char) :
    c.toLower.toNat = if 65 ≤ c.toNat ∧ c.toNat ≤ 90 then c.toNat + 32 else c.toNat := by
  by_cases hup : c.isUpper = true
  · rw [if_pos (toNat_of_isUpper hup), toNat_toLower_of_isUpper hup]
  · have hrange : ¬ (65 ≤ c.toNat ∧ c.toNat ≤ 90) := by
      intro h
      apply hup
      have hcond : 'A'.val ≤ c.val ∧ c.val ≤ 'Z'.val :=
        ⟨UInt32.le_iff_toNat_le.mpr h.1, UInt32.le_iff_toNat_le.mpr h.2⟩
      exact decide_eq_true hcond
    rw [if_neg hrange, toLower_of_not_isUpper hup]

theorem toNat_toUpper (c : Char) :
    c.toUpper.toNat = if 97 ≤ c.toNat ∧ c.toNat ≤ 122 then c.toNat - 32 else c.toNat := by
  have hrange : ('a'.val ≤ c.val ∧ c.val ≤ 'z'.val) ↔ 97 ≤ c.toNat ∧ c.toNat ≤ 122 := by
    rw [UInt32.le_iff_toNat_le, UInt32.le_iff_toNat_le]
    rfl
  unfold Char.toUpper
  by_cases h : 'a'.val ≤ c.val ∧ c.val ≤ 'z'.val
  · have hnat := hrange.mp h
    have hdiff : 'A'.val - 'a'.val = (4294967264 : UInt32) := by decide
    rw [dif_pos h, if_pos hnat]
    change (c.val + ('A'.val - 'a'.val)).toNat = c.val.toNat - 32
    rw [hdiff, UInt32.toNat_add]
    change (c.toNat + 4294967264) % 4294967296 = c.toNat - 32
    omega
  · rw [dif_neg h, if_neg (hrange.not.mp h)]

/-- Characters that agree as small letters agree as capitals, and the other way round. -/
theorem toLower_eq_toLower_iff (c d : Char) :
    c.toLower = d.toLower ↔ c.toUpper = d.toUpper := by
  rw [← Char.toNat_inj, ← Char.toNat_inj, toNat_toLower, toNat_toLower, toNat_toUpper,
    toNat_toUpper]
  split <;> split <;> split <;> split <;> omega

theorem map_toLower_eq_iff (s t : Text) :
    s.map Char.toLower = t.map Char.toLower ↔ s.map Char.toUpper = t.map Char.toUpper := by
  induction s generalizing t with
  | nil => cases t <;> simp
  | cons c s ih =>
      cases t with
      | nil => simp
      | cons d t => simp only [List.map_cons, List.cons.injEq, toLower_eq_toLower_iff, ih]

theorem strip_subset (t : Text) : strip t ⊆ t := by
  intro c hc
  rw [strip, List.mem_reverse] at hc
  have hinner := (List.dropWhile_sublist isBlank).subset hc
  rw [List.mem_reverse] at hinner
  exact (List.dropWhile_sublist isBlank).subset hinner

end Text

/-- Whether a line, with the blanks at its ends removed and its letters made capitals, is the
word BYE.  No letter outside ASCII has one of these three for its capital. -/
def saysBye (line : Text) : Bool :=
  (Text.strip line).map Char.toUpper == "BYE".toList

/-- A line is a good-bye when it says BYE. -/
theorem isBye_eq_saysBye (line : Text) : isBye line = saysBye line := by
  have hbye := Text.map_toLower_eq_iff (Text.strip line) "BYE".toList
  have hlower : "BYE".toList.map Char.toLower = "bye".toList := by decide
  have hupper : "BYE".toList.map Char.toUpper = "BYE".toList := by decide
  rw [hlower, hupper] at hbye
  rw [Bool.eq_iff_iff, isBye, saysBye, beq_iff_eq, beq_iff_eq, hbye]

/-! ## Replies -/

/-- The replies to lines in a row, each by the evaluator that the lines before it have led
to. -/
def replies (ev : Evaluator) : List Text → List Reply
  | [] => []
  | line :: lines => respond ev line :: replies (respond ev line).after lines

/-- Whether a reply failed at the digit limit. -/
def Reply.hitsLimit (reply : Reply) : Bool :=
  match reply.answer with
  | .error .digitLimit => true
  | _ => false

theorem Reply.answer_of_hitsLimit {reply : Reply} (h : reply.hitsLimit = true) :
    reply.answer = .error .digitLimit := by
  unfold hitsLimit at h
  split at h
  · next hanswer => exact hanswer
  · cases h

variable {ev : Evaluator} {line : Text} {lines before : List Text}

theorem respond_of_fault {fault : Fault} (h : ev.eval line = .error (.fault fault)) :
    respond ev line = ⟨.ok (" ? ".toList ++ fault.message), ev⟩ := by
  rw [respond, h]

theorem respond_of_failure {failure : Failure} (h : ev.eval line = .error failure)
    (hfault : ∀ fault, failure ≠ .fault fault) : respond ev line = ⟨.error failure, ev⟩ := by
  rw [respond, h]
  split
  · next heq =>
      cases heq
      exact absurd rfl (hfault _)
  · next heq =>
      cases heq
      rfl
  · next heq => cases heq

theorem respond_of_ok {after : Evaluator} (h : ev.eval line = .ok after) :
    respond ev line =
      ⟨match after.formatStack with
        | some stack => .ok (stack ++ " ok".toList)
        | none => .error .digitLimit, after⟩ := by
  simp only [respond, h]
  cases after.formatStack <;> rfl

/-- A reply leaves the evaluator that the line leads to. -/
theorem respond_after (ev : Evaluator) (line : Text) :
    (respond ev line).after = ev.perform (.line line) := by
  simp only [Evaluator.perform]
  cases heval : ev.eval line with
  | ok after => rw [respond_of_ok heval]
  | error failure =>
      cases failure with
      | fault fault => rw [respond_of_fault heval]
      | digitLimit => rw [respond_of_failure heval (by simp)]
      | missingPrimitive name => rw [respond_of_failure heval (by simp)]

/-- An answer reports the fault of a line, or the stack after it. -/
theorem respond_eq_ok {answer : Text} (h : (respond ev line).answer = .ok answer) :
    (∃ fault, ev.eval line = .error (.fault fault) ∧
        answer = " ? ".toList ++ fault.message) ∨
      ∃ after stack, ev.eval line = .ok after ∧ after.formatStack = some stack ∧
        answer = stack ++ " ok".toList := by
  cases heval : ev.eval line with
  | ok after =>
      rw [respond_of_ok heval] at h
      cases hstack : after.formatStack with
      | none =>
          rw [hstack] at h
          cases h
      | some stack =>
          rw [hstack, Except.ok.injEq] at h
          exact Or.inr ⟨after, stack, rfl, hstack, h.symm⟩
  | error failure =>
      by_cases hfault : ∃ fault, failure = .fault fault
      · rcases hfault with ⟨fault, rfl⟩
        rw [respond_of_fault heval, Except.ok.injEq] at h
        exact Or.inl ⟨fault, rfl, h.symm⟩
      · rw [respond_of_failure heval (by simpa using hfault)] at h
        cases h

/-- A reply without an answer comes of a line that failed without a fault, or of a stack that
cannot be written. -/
theorem respond_eq_error {failure : Failure} (h : (respond ev line).answer = .error failure) :
    (ev.eval line = .error failure ∧ ∀ fault, failure ≠ .fault fault) ∨
      failure = .digitLimit ∧ ∃ after, ev.eval line = .ok after ∧ after.formatStack = none := by
  cases heval : ev.eval line with
  | ok after =>
      rw [respond_of_ok heval] at h
      cases hstack : after.formatStack with
      | none =>
          rw [hstack, Except.error.injEq] at h
          exact Or.inr ⟨h.symm, after, rfl, hstack⟩
      | some stack =>
          rw [hstack] at h
          cases h
  | error first =>
      by_cases hfault : ∃ fault, first = .fault fault
      · rcases hfault with ⟨fault, rfl⟩
        rw [respond_of_fault heval] at h
        cases h
      · have hother : ∀ fault, first ≠ .fault fault := by simpa using hfault
        rw [respond_of_failure heval hother, Except.error.injEq] at h
        subst h
        exact Or.inl ⟨rfl, hother⟩

/-- Over a grounded evaluator there is an answer, or the reply fails at the digit limit. -/
theorem exists_answer_of_not_hitsLimit (hev : ev.Grounded)
    (h : (respond ev line).hitsLimit = false) :
    ∃ answer, (respond ev line).answer = .ok answer := by
  cases hanswer : (respond ev line).answer with
  | ok answer => exact ⟨answer, rfl⟩
  | error failure =>
      exfalso
      have hlimit : failure = .digitLimit := by
        rcases respond_eq_error hanswer with ⟨heval, hfault⟩ | ⟨hlimit, -⟩
        · rcases hev.eval_eq_error heval with ⟨fault, rfl⟩ | ⟨hlimit, -⟩
          · exact absurd rfl (hfault fault)
          · exact hlimit
        · exact hlimit
      simp [Reply.hitsLimit, hanswer, hlimit] at h

@[simp]
theorem length_replies (ev : Evaluator) (lines : List Text) :
    (replies ev lines).length = lines.length := by
  induction lines generalizing ev with
  | nil => rfl
  | cons line lines ih => rw [replies, List.length_cons, List.length_cons, ih]

/-- The first replies are those to the first lines. -/
theorem take_replies (ev : Evaluator) (lines : List Text) (n : Nat) :
    (replies ev lines).take n = replies ev (lines.take n) := by
  induction lines generalizing ev n with
  | nil => simp [replies]
  | cons line lines ih =>
      cases n with
      | zero => rfl
      | succ n => rw [replies, List.take_succ_cons, List.take_succ_cons, replies, ih]

/-- The reply at a position is that of the evaluator that the lines before it have led to. -/
theorem getElem?_replies (ev : Evaluator) (lines : List Text) (n : Nat) :
    (replies ev lines)[n]? = lines[n]?.map (respond (ev.afterLines (lines.take n))) := by
  induction lines generalizing ev n with
  | nil => rfl
  | cons line lines ih =>
      cases n with
      | zero => rfl
      | succ n =>
          rw [replies, List.getElem?_cons_succ, List.getElem?_cons_succ, ih, respond_after]
          rfl

/-- Over a grounded evaluator, lines are answered as long as no reply fails at the digit
limit. -/
theorem exists_answers (hev : ev.Grounded)
    (h : ∀ reply ∈ replies ev lines, reply.hitsLimit = false) :
    ∃ answers : List Text, (replies ev lines).map Reply.answer = answers.map .ok := by
  induction lines generalizing ev with
  | nil => exact ⟨[], rfl⟩
  | cons line lines ih =>
      rcases List.forall_mem_cons.mp h with ⟨hfirst, hrest⟩
      rcases exists_answer_of_not_hitsLimit hev hfirst with ⟨answer, hanswer⟩
      have hafter : (respond ev line).after.Grounded := by
        rw [respond_after]
        exact hev.perform _
      rcases ih hafter hrest with ⟨answers, hanswers⟩
      refine ⟨answer :: answers, ?_⟩
      rw [replies, List.map_cons, List.map_cons, hanswer, hanswers]

/-! ## Conversations -/

/-- Lines that are answered come before the rest of the conversation. -/
theorem converse_append {answers : List Text} (hbye : ∀ line ∈ before, saysBye line = false)
    (hanswers : (replies ev before).map Reply.answer = answers.map .ok)
    (lines : List Text) :
    (converse ev (before ++ lines)).answers =
        answers ++ (converse (ev.afterLines before) lines).answers ∧
      (converse ev (before ++ lines)).ending =
        (converse (ev.afterLines before) lines).ending ∧
      (converse ev (before ++ lines)).unread =
        (converse (ev.afterLines before) lines).unread ∧
      (converse ev (before ++ lines)).final =
        (converse (ev.afterLines before) lines).final := by
  induction before generalizing ev answers with
  | nil =>
      rw [List.map_eq_nil_iff.mp hanswers.symm]
      exact ⟨rfl, rfl, rfl, rfl⟩
  | cons line before ih =>
      rcases List.forall_mem_cons.mp hbye with ⟨hline, hrest⟩
      rw [← isBye_eq_saysBye] at hline
      cases answers with
      | nil => cases hanswers
      | cons answer answers =>
          rw [replies, List.map_cons, List.map_cons, List.cons.injEq] at hanswers
          have hrespond : respond ev line = ⟨.ok answer, ev.perform (.line line)⟩ := by
            rw [← respond_after, ← hanswers.1]
          have hmore := ih hrest hanswers.2
          rw [respond_after] at hmore
          simp only [List.cons_append, converse, hline, Bool.false_eq_true, if_false, hrespond,
            Evaluator.afterLines_cons]
          exact ⟨by rw [hmore.1], hmore.2⟩

/-- All that a conversation prints. -/
def Transcript.output (transcript : Transcript) : Text :=
  Program.writeLines (banner :: transcript.answers)

/-- The position of the first line that says good-bye. -/
def firstBye (lines : List Text) : Option Nat :=
  lines.findIdx? saysBye

/-- The position of the first line whose reply fails at the digit limit. -/
def firstFailure (ev : Evaluator) (lines : List Text) : Option Nat :=
  (replies ev lines).findIdx? Reply.hitsLimit

/-- The first good-bye is at the given position, and no reply fails before it. -/
def ByeEnds (ev : Evaluator) (lines : List Text) (i : Nat) : Prop :=
  firstBye lines = some i ∧ ∀ j, firstFailure ev lines = some j → i ≤ j

/-- The first reply that fails is at the given position, and no line up to it says good-bye. -/
def FailureEnds (ev : Evaluator) (lines : List Text) (j : Nat) : Prop :=
  firstFailure ev lines = some j ∧ ∀ i, firstBye lines = some i → j < i

/-- No line says good-bye and no reply fails. -/
def InputEnds (ev : Evaluator) (lines : List Text) : Prop :=
  firstBye lines = none ∧ firstFailure ev lines = none

/-- Good-bye, a failure or the end of the input: one of them ends a conversation. -/
theorem byeEnds_or_failureEnds_or_inputEnds (ev : Evaluator) (lines : List Text) :
    (∃ i, ByeEnds ev lines i) ∨ (∃ j, FailureEnds ev lines j) ∨ InputEnds ev lines := by
  cases hbye : firstBye lines with
  | none =>
      cases hfailure : firstFailure ev lines with
      | none => exact Or.inr (Or.inr ⟨hbye, hfailure⟩)
      | some j => exact Or.inr (Or.inl ⟨j, hfailure, by simp [hbye]⟩)
  | some i =>
      cases hfailure : firstFailure ev lines with
      | none => exact Or.inl ⟨i, hbye, by simp [hfailure]⟩
      | some j =>
          by_cases hij : i ≤ j
          · exact Or.inl ⟨i, hbye, by simpa [hfailure] using hij⟩
          · exact Or.inr (Or.inl ⟨j, hfailure, by simpa [hbye] using hij⟩)

/-- No element before the first one with a property has it. -/
theorem forall_mem_take_of_findIdx? {α : Type} {p : α → Bool} {xs : List α} {n : Nat}
    (h : ∀ i, xs.findIdx? p = some i → n ≤ i) : ∀ x ∈ xs.take n, p x = false := by
  rw [← List.findIdx?_eq_none_iff, List.findIdx?_take]
  cases hfirst : xs.findIdx? p with
  | none => rfl
  | some i => simpa [Option.guard] using h i hfirst

/-- The lines before a position at which the conversation is still going on are answered. -/
theorem exists_answers_take (hev : ev.Grounded) {n : Nat}
    (h : ∀ j, firstFailure ev lines = some j → n ≤ j) :
    ∃ answers : List Text,
      (replies ev (lines.take n)).map Reply.answer = answers.map .ok := by
  apply exists_answers hev
  rw [← take_replies]
  exact forall_mem_take_of_findIdx? h

/-- A conversation that good-bye ends. -/
theorem converse_of_byeEnds (hev : ev.Grounded) {i : Nat} (h : ByeEnds ev lines i) :
    (replies ev (lines.take i)).map Reply.answer =
        (converse ev lines).answers.map .ok ∧
      (converse ev lines).ending = .bye ∧
      (converse ev lines).unread = lines.drop (i + 1) ∧
      (converse ev lines).final = ev.afterLines (lines.take i) := by
  rcases h with ⟨hbye, hfailure⟩
  rcases List.findIdx?_eq_some_iff_getElem.mp hbye with ⟨hi, hsays, -⟩
  have hbefore : ∀ line ∈ lines.take i, saysBye line = false := by
    apply forall_mem_take_of_findIdx?
    intro k hk
    rw [Option.some.inj (hbye.symm.trans hk)]
  rcases exists_answers_take hev hfailure with ⟨answers, hanswers⟩
  have hcourse := converse_append hbefore hanswers (lines.drop i)
  have hend : converse (ev.afterLines (lines.take i)) (lines.drop i) =
      ⟨[], [], .bye, lines.drop (i + 1), ev.afterLines (lines.take i)⟩ := by
    rw [List.drop_eq_getElem_cons hi, converse, isBye_eq_saysBye, hsays, if_pos rfl]
  rw [List.take_append_drop, hend, List.append_nil] at hcourse
  rw [hanswers, hcourse.1]
  exact ⟨rfl, hcourse.2⟩

/-- A conversation that a failure ends. -/
theorem converse_of_failureEnds (hev : ev.Grounded) {j : Nat} (h : FailureEnds ev lines j) :
    (replies ev (lines.take j)).map Reply.answer =
        (converse ev lines).answers.map .ok ∧
      (converse ev lines).ending = .failed .digitLimit ∧
      (converse ev lines).unread = lines.drop (j + 1) ∧
      (converse ev lines).final = ev.afterLines (lines.take (j + 1)) := by
  rcases h with ⟨hfailure, hbye⟩
  rcases List.findIdx?_eq_some_iff_getElem.mp hfailure with ⟨hj, hlimit, -⟩
  have hline : j < lines.length := by
    rwa [length_replies] at hj
  have hbefore : ∀ line ∈ lines.take j, saysBye line = false :=
    forall_mem_take_of_findIdx? fun i hi => Nat.le_of_lt (hbye i hi)
  have hsays : saysBye lines[j] = false := by
    apply forall_mem_take_of_findIdx? (n := j + 1) hbye
    rw [← List.take_append_getElem hline]
    exact List.mem_append_right _ List.mem_cons_self
  have hfirst : ∀ k, firstFailure ev lines = some k → j ≤ k := by
    intro k hk
    rw [Option.some.inj (hfailure.symm.trans hk)]
  rcases exists_answers_take hev hfirst with ⟨answers, hanswers⟩
  have hcourse := converse_append hbefore hanswers (lines.drop j)
  -- The reply that fails is that of the evaluator that the lines before it have led to.
  have hreply : (replies ev lines)[j] = respond (ev.afterLines (lines.take j)) lines[j] := by
    have hat := getElem?_replies ev lines j
    rwa [List.getElem?_eq_getElem hj, List.getElem?_eq_getElem hline, Option.map_some,
      Option.some.injEq] at hat
  rw [hreply] at hlimit
  have hfinal : (respond (ev.afterLines (lines.take j)) lines[j]).after =
      ev.afterLines (lines.take (j + 1)) := by
    rw [respond_after, ← List.take_append_getElem hline, Evaluator.afterLines_append]
    rfl
  have hrespond : respond (ev.afterLines (lines.take j)) lines[j] =
      ⟨.error .digitLimit, ev.afterLines (lines.take (j + 1))⟩ := by
    rw [← hfinal, ← Reply.answer_of_hitsLimit hlimit]
  have hend : (converse (ev.afterLines (lines.take j)) (lines.drop j)).answers = [] ∧
      (converse (ev.afterLines (lines.take j)) (lines.drop j)).ending =
        .failed .digitLimit ∧
      (converse (ev.afterLines (lines.take j)) (lines.drop j)).unread = lines.drop (j + 1) ∧
      (converse (ev.afterLines (lines.take j)) (lines.drop j)).final =
        ev.afterLines (lines.take (j + 1)) := by
    rw [List.drop_eq_getElem_cons hline, converse, isBye_eq_saysBye, hsays,
      if_neg Bool.false_ne_true, hrespond]
    exact ⟨rfl, rfl, rfl, rfl⟩
  rw [List.take_append_drop, hend.1, List.append_nil] at hcourse
  rw [hanswers, hcourse.1, hcourse.2.1, hcourse.2.2.1, hcourse.2.2.2]
  exact ⟨rfl, hend.2⟩

/-- A conversation that goes on to the end of its input. -/
theorem converse_of_inputEnds (hev : ev.Grounded) (h : InputEnds ev lines) :
    (replies ev lines).map Reply.answer = (converse ev lines).answers.map .ok ∧
      (converse ev lines).ending = .endOfInput ∧ (converse ev lines).unread = [] ∧
      (converse ev lines).final = ev.afterLines lines := by
  rcases exists_answers hev (List.findIdx?_eq_none_iff.mp h.2) with ⟨answers, hanswers⟩
  have hcourse := converse_append (List.findIdx?_eq_none_iff.mp h.1) hanswers []
  rw [List.append_nil, converse, List.append_nil] at hcourse
  rw [hanswers, hcourse.1]
  exact ⟨rfl, hcourse.2⟩

/-- The program, once its command line is accepted, shows a conversation. -/
theorem Program.run_of_start {arguments : List Text} {options : Options}
    (h : Invocation.ofArguments arguments = .start options) (lines : List Text) :
    (run arguments lines).output = (converse (.new options.charset) lines).output ∧
      (run arguments lines).unread = (converse (.new options.charset) lines).unread ∧
      (run arguments lines).status =
        statusOf (converse (.new options.charset) lines).ending := by
  rw [run, h]
  exact ⟨rfl, rfl, rfl⟩

/-- The course of a conversation with a new evaluator, told from the first line that says
good-bye and the first reply that fails at the digit limit.  If good-bye comes first, the replies
before it are printed after the banner, and the lines behind it are left unread and have no
effect.  If the failure comes first, the replies before it are printed, it ends the conversation,
and the lines behind it are left unread.  If there is neither, all replies are printed and
nothing is left unread when the input has ended.  The program, once its command line is accepted,
prints and leaves unread the same, and it finishes exactly in the first case and the third. -/
theorem converse_course (charset : Charset) (lines : List Text) :
    let ev := Evaluator.new charset
    let transcript := converse ev lines
    (∀ i, ByeEnds ev lines i →
        ∃ answers, ((replies ev lines).take i).map Reply.answer = answers.map .ok ∧
          transcript.output = Program.writeLines (banner :: answers) ∧
          transcript.ending = .bye ∧ transcript.unread = lines.drop (i + 1) ∧
          transcript.final = ev.afterLines (lines.take i)) ∧
      (∀ j, FailureEnds ev lines j →
        ∃ answers, ((replies ev lines).take j).map Reply.answer = answers.map .ok ∧
          transcript.output = Program.writeLines (banner :: answers) ∧
          transcript.ending = .failed .digitLimit ∧
          transcript.unread = lines.drop (j + 1) ∧
          transcript.final = ev.afterLines (lines.take (j + 1))) ∧
      (InputEnds ev lines →
        ∃ answers, (replies ev lines).map Reply.answer = answers.map .ok ∧
          transcript.output = Program.writeLines (banner :: answers) ∧
          transcript.ending = .endOfInput ∧ transcript.unread = [] ∧
          transcript.final = ev.afterLines lines) ∧
      ∀ arguments options, Invocation.ofArguments arguments = .start options →
        options.charset = charset →
        (Program.run arguments lines).output = transcript.output ∧
          (Program.run arguments lines).unread = transcript.unread ∧
          ((Program.run arguments lines).status = .finished ↔
            (∃ i, ByeEnds ev lines i) ∨ InputEnds ev lines) := by
  intro ev transcript
  have hev : ev.Grounded := Evaluator.grounded_new charset
  refine ⟨?_, ?_, ?_, ?_⟩
  · intro i hi
    rcases converse_of_byeEnds hev hi with ⟨hanswers, hcourse⟩
    rw [← take_replies] at hanswers
    exact ⟨transcript.answers, hanswers, rfl, hcourse⟩
  · intro j hj
    rcases converse_of_failureEnds hev hj with ⟨hanswers, hcourse⟩
    rw [← take_replies] at hanswers
    exact ⟨transcript.answers, hanswers, rfl, hcourse⟩
  · intro hinput
    rcases converse_of_inputEnds hev hinput with ⟨hanswers, hcourse⟩
    exact ⟨transcript.answers, hanswers, rfl, hcourse⟩
  · intro arguments options haccepted hcharset
    rcases Program.run_of_start haccepted lines with ⟨houtput, hunread, hstatus⟩
    rw [hcharset] at houtput hunread hstatus
    refine ⟨houtput, hunread, ?_⟩
    rw [hstatus]
    constructor
    · intro hfinished
      rcases byeEnds_or_failureEnds_or_inputEnds ev lines with hbye | ⟨j, hj⟩ | hinput
      · exact Or.inl hbye
      · rw [(converse_of_failureEnds hev hj).2.1] at hfinished
        cases hfinished
      · exact Or.inr hinput
    · rintro (⟨i, hi⟩ | hinput)
      · rw [(converse_of_byeEnds hev hi).2.1]
        rfl
      · rw [(converse_of_inputEnds hev hinput).2.1]
        rfl

/-- Too many digits in a row are refused at the digit limit by every evaluator. -/
theorem Evaluator.eval_of_digitLimit_lt (ev : Evaluator) {digits : Text}
    (hdigits : ∀ c ∈ digits, c.isDigit = true)
    (hlong : Numeral.digitLimit < digits.length) : ev.eval digits = .error .digitLimit := by
  have hne : digits ≠ [] := by
    rintro rfl
    cases hlong
  have hchars : ∀ c ∈ digits, Text.IsWordChar c :=
    fun c hc => Text.isWordChar_of_isDigit (hdigits c hc)
  have hcolon : digits.head? ≠ some ':' := by
    intro hhead
    cases hdigits ':' (List.mem_of_head? hhead)
  have hread := Numeral.read_of_splitSign (Numeral.splitSign_of_digits hdigits) hne hdigits
  rw [if_pos hlong] at hread
  have hresolve : Dictionary.resolve ev.words digits = .error .digitLimit :=
    Dictionary.resolve_eq_error_iff.mpr (Or.inl ⟨hread, rfl⟩)
  rw [ev.eval_word hne hchars hcolon]
  simp only [runWords, hresolve]
  rfl

/-- A row of ones with one digit more than the limit allows. -/
def tooManyOnes : Text :=
  List.replicate (Numeral.digitLimit + 1) '1'

theorem Evaluator.eval_tooManyOnes (ev : Evaluator) :
    ev.eval tooManyOnes = .error .digitLimit := by
  apply ev.eval_of_digitLimit_lt
  · intro c hc
    rw [List.eq_of_mem_replicate hc]
    rfl
  · rw [tooManyOnes, List.length_replicate]
    exact Nat.lt_succ_self _

theorem respond_tooManyOnes (ev : Evaluator) :
    respond ev tooManyOnes = ⟨.error .digitLimit, ev⟩ :=
  respond_of_failure ev.eval_tooManyOnes (by simp)

theorem saysBye_tooManyOnes : saysBye tooManyOnes = false := by
  rw [saysBye, beq_eq_false_iff_ne]
  intro hbye
  have hmem : 'B' ∈ (Text.strip tooManyOnes).map Char.toUpper := by
    rw [hbye]
    exact List.mem_cons_self
  rcases List.mem_map.mp hmem with ⟨c, hc, hupper⟩
  rw [List.eq_of_mem_replicate (Text.strip_subset tooManyOnes hc)] at hupper
  cases hupper

/-- Good-bye before a line that would fail, the same lines in the other order, and the program
with one line of input.  The sum is printed after the banner each time. -/
theorem converse_course_sum :
    let printed := banner ++ "\n3 ok\n".toList
    let after : Evaluator := { Evaluator.new .plain with stack := [3] }
    let parted := converse (.new .plain) ["1 2 +".toList, " Bye\t".toList, tooManyOnes]
    let broken := converse (.new .plain) ["1 2 +".toList, tooManyOnes, "bye".toList]
    let program := Program.run [] ["1 2 +".toList]
    (parted.output = printed ∧ parted.ending = .bye ∧ parted.unread = [tooManyOnes] ∧
        parted.final = after) ∧
      (broken.output = printed ∧ broken.ending = .failed .digitLimit ∧
        broken.unread = ["bye".toList] ∧ broken.final = after) ∧
      program.output = printed ∧ program.unread = [] ∧ program.status = .finished := by
  intro printed after parted broken program
  have heval : (Evaluator.new .plain).eval "1 2 +".toList = .ok after := by
    rw [Evaluator.eval_of_not_definition rfl]
    rfl
  have hsum : respond (.new .plain) "1 2 +".toList = ⟨.ok "3 ok".toList, after⟩ := by
    rw [respond_of_ok heval]
    rfl
  have hperform : (Evaluator.new .plain).perform (.line "1 2 +".toList) = after := by
    rw [← respond_after, hsum]
  have hfirst : ∀ lines, firstFailure (.new .plain) ("1 2 +".toList :: lines) =
      (firstFailure after lines).map (· + 1) := by
    intro lines
    rw [firstFailure, replies, List.findIdx?_cons, hsum]
    rfl
  -- The sum is the only line that is answered, so its answer is all that is printed.
  have hprinted : ∀ (lines answers : List Text),
      ((replies (.new .plain) ("1 2 +".toList :: lines)).take 1).map Reply.answer =
        answers.map .ok → Program.writeLines (banner :: answers) = printed := by
    intro lines answers hanswers
    rw [replies, hsum] at hanswers
    have hone : ["3 ok".toList] = answers :=
      (List.map_inj_right fun _ _ => Except.ok.inj).mp hanswers
    rw [← hone]
    rfl
  have hbye : ByeEnds (.new .plain) ["1 2 +".toList, " Bye\t".toList, tooManyOnes] 1 := by
    refine ⟨rfl, ?_⟩
    intro j hj
    rw [hfirst, Option.map_eq_some_iff] at hj
    rcases hj with ⟨k, -, rfl⟩
    exact Nat.le_add_left 1 k
  have hfailure : FailureEnds (.new .plain) ["1 2 +".toList, tooManyOnes, "bye".toList] 1 := by
    constructor
    · rw [hfirst, firstFailure, replies, List.findIdx?_cons, respond_tooManyOnes]
      rfl
    · intro i hi
      rw [firstBye, List.findIdx?_cons, List.findIdx?_cons, saysBye_tooManyOnes] at hi
      cases hi
      exact Nat.one_lt_two
  have hinput : InputEnds (.new .plain) ["1 2 +".toList] := by
    refine ⟨rfl, ?_⟩
    rw [hfirst]
    rfl
  refine ⟨?_, ?_, ?_⟩
  · rcases (converse_course .plain _).1 1 hbye with
      ⟨answers, hanswers, houtput, hending, hunread, hfinal⟩
    exact ⟨houtput.trans (hprinted _ _ hanswers), hending, hunread, hfinal.trans hperform⟩
  · rcases (converse_course .plain _).2.1 1 hfailure with
      ⟨answers, hanswers, houtput, hending, hunread, hfinal⟩
    refine ⟨houtput.trans (hprinted _ _ hanswers), hending, hunread, hfinal.trans ?_⟩
    rw [List.take_succ_cons, Evaluator.afterLines_cons, hperform, List.take_succ_cons,
      Evaluator.afterLines_cons, ← respond_after, respond_tooManyOnes]
    rfl
  · rcases (converse_course .plain _).2.2.1 hinput with ⟨answers, hanswers, houtput, -, hunread, -⟩
    rcases (converse_course .plain _).2.2.2 [] .defaults rfl rfl with ⟨hshown, hleft, hstatus⟩
    exact ⟨(hshown.trans houtput).trans (hprinted [] _ hanswers), hleft.trans hunread,
      hstatus.mpr (Or.inr hinput)⟩

end EagerForth
