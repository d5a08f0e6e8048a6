import EagerForth.Proofs.Sessions
import EagerForth.Proofs.Statements

/-!
# Names that can be given and called

Definitions and expressions read their words in different ways, so it is no matter of course
that a word which one of them stores can be looked up by the other.  Where printable ASCII alone
is accepted, the names in the dictionary of a session are always of one kind, and every text of
that kind can be made a name.  A line that is nothing but such a name calls it, unless the name
starts with a colon: then the line is a definition.  Behind another word of an expression every
name is called.

Main results:

- Theorem {lit}`Numeral.read_eq_notNumeral_iff`: what is read as a numeral can be told from its
  spelling.
- Theorem {lit}`Evaluator.named_afterLines`: the names in the dictionary of a session.
- Theorem {lit}`Evaluator.eval_emptyDefinition`: every name can be given.
- Theorems {lit}`Evaluator.eval_name` and {lit}`Evaluator.eval_colon`: what a line that is a
  name comes to.
- Theorem {lit}`Evaluator.definable_and_callable`: all of this for every session.
-/

namespace EagerForth

/-! ## Names -/

/-- The spelling of a numeral: a sign, which may be missing, and one or more decimal digits. -/
inductive Numeral.IsNumeral : Text → Prop where
  | unsigned {digits : Text} (hne : digits ≠ []) (hdigits : ∀ c ∈ digits, c.isDigit = true) :
      IsNumeral digits
  | signed {sign : Char} {digits : Text} (hsign : sign = '+' ∨ sign = '-')
      (hne : digits ≠ []) (hdigits : ∀ c ∈ digits, c.isDigit = true) :
      IsNumeral (sign :: digits)

theorem Numeral.isNumeral_iff (w : Text) :
    IsNumeral w ↔ (splitSign w).2 ≠ [] ∧ ∀ c ∈ (splitSign w).2, c.isDigit = true := by
  constructor
  · intro h
    cases h with
    | unsigned hne hdigits =>
        rw [splitSign_of_digits hdigits]
        exact ⟨hne, hdigits⟩
    | signed hsign hne hdigits =>
        rcases hsign with rfl | rfl
        · exact ⟨hne, hdigits⟩
        · exact ⟨hne, hdigits⟩
  · rintro ⟨hne, hdigits⟩
    revert hne hdigits
    unfold splitSign
    split
    · exact .signed (Or.inl rfl)
    · exact .signed (Or.inr rfl)
    · exact .unsigned

/-- Exactly the texts that are no numerals by their spelling are not read as numerals. -/
theorem Numeral.read_eq_notNumeral_iff (w : Text) : read w = .notNumeral ↔ ¬ IsNumeral w := by
  rw [isNumeral_iff]
  rcases hsplit : splitSign w with ⟨negative, digits⟩
  constructor
  · rintro hread ⟨hne, hdigits⟩
    rw [read_of_splitSign hsplit hne hdigits] at hread
    split at hread
    · cases hread
    · cases hread
  · intro hnot
    by_contra hread
    rcases read_of_ne_notNumeral hread with ⟨hne, hdigits, -⟩
    rw [hsplit] at hne hdigits
    exact hnot ⟨hne, hdigits⟩

/-- A text that can be the name of a word where printable ASCII alone is accepted.  It has one
or more printable characters, none of which is a space, a capital or a semicolon, and is no
numeral. -/
structure Text.IsName (n : Text) : Prop where
  ne_nil : n ≠ []
  isWordChar : ∀ c ∈ n, IsWordChar c
  noSemicolon : ';' ∉ n
  notNumeral : ¬ Numeral.IsNumeral n

/-- Whether a text is a name can be told by reading it as a numeral. -/
theorem Text.isName_iff (n : Text) :
    IsName n ↔ n ≠ [] ∧ (∀ c ∈ n, IsWordChar c) ∧ ';' ∉ n ∧ Numeral.read n = .notNumeral := by
  rw [Numeral.read_eq_notNumeral_iff]
  constructor
  · rintro ⟨hne, hchars, hsemicolon, hnumeral⟩
    exact ⟨hne, hchars, hsemicolon, hnumeral⟩
  · rintro ⟨hne, hchars, hsemicolon, hnumeral⟩
    exact ⟨hne, hchars, hsemicolon, hnumeral⟩

instance (n : Text) : Decidable (Text.IsName n) :=
  haveI := List.decidableBAll Text.IsWordChar n
  decidable_of_iff _ (Text.isName_iff n).symm

theorem Text.IsName.read_eq {n : Text} (h : IsName n) : Numeral.read n = .notNumeral :=
  ((isName_iff n).mp h).2.2.2

theorem Primitive.isName_of_mem_builtins : ∀ n ∈ builtins.map Prod.fst, Text.IsName n := by
  decide

/-- All names in a dictionary are of that kind. -/
def Dictionary.Named (d : Dictionary) : Prop :=
  ∀ n expansion, d.find? n = some expansion → Text.IsName n

/-! ## The names in a dictionary -/

theorem NameTable.mem_names_iff {α : Type} (table : NameTable α) (name : Text) :
    name ∈ table.names ↔ ∃ value, table.find? name = some value := by
  simp only [names, List.mem_map, find?_eq_some_iff, Prod.exists, exists_and_right,
    exists_eq_right]

namespace Dictionary

variable {d d' : Dictionary}

/-- A name that is of the right kind may be given any expansion. -/
theorem Named.insert (h : d.Named) {name : Text} (hname : Text.IsName name)
    (expansion : Expansion) : Named (NameTable.insert d name expansion) := by
  intro other found hfound
  by_cases hother : other = name
  · rw [hother]
    exact hname
  · rw [NameTable.find?_insert_of_ne _ hother] at hfound
    exact h other found hfound

/-- A definition of a line, where printable ASCII alone is accepted, makes a name of the right
kind. -/
theorem isName_of_define {text : Text} {definition : Definition}
    (hmem : definition ∈ (Line.parse .plain text).definitions) {name : Text}
    (hname : definition.name = some name) (hread : Numeral.read name = .notNumeral) :
    Text.IsName name := by
  have hnormal : ∀ t, ∀ c ∈ Charset.plain.normalize t,
      (0x20 ≤ c.toNat ∧ c.toNat ≤ 0x7E) ∧ c.isUpper = false := by
    intro t c hc
    have haccepts := Charset.settled_plain.accepts_of_mem_normalize hc
    refine ⟨?_, Charset.settled_plain.isUpper_eq_false_of_mem_normalize hc⟩
    simpa [Charset.accepts, Charset.plain, Charset.isPrintableAscii] using haccepts
  have hword : name ∈ definition.words := by
    rw [Definition.words, hname]
    exact List.mem_cons_self
  rcases Line.of_mem_definitions hnormal text definition hmem name hword with ⟨hne, hchars⟩
  refine (Text.isName_iff name).mpr ⟨hne, ?_, ?_, hread⟩
  · intro c hc
    rcases hchars c hc with ⟨⟨⟨hlo, hhi⟩, hup⟩, hblank, -⟩
    have hspace : c.toNat ≠ 0x20 := by
      intro hcode
      rw [show c = ' ' from Char.ext (UInt32.toNat_inj.mp hcode)] at hblank
      cases hblank
    exact ⟨by omega, hhi, hup⟩
  · intro hsemicolon
    exact (hchars ';' hsemicolon).2.2 rfl

/-- The definitions of a line keep all names of the right kind. -/
theorem Named.defineAll {text : Text} {definitions : List Definition}
    (hsubset : definitions ⊆ (Line.parse .plain text).definitions) (h : d.Named)
    (hdefine : d.defineAll definitions = .ok d') : d'.Named := by
  induction definitions generalizing d with
  | nil =>
      cases hdefine
      exact h
  | cons definition definitions ih =>
      rcases List.cons_subset.mp hsubset with ⟨hmem, hrest⟩
      simp only [Dictionary.defineAll] at hdefine
      split at hdefine
      · next expansion next hnext =>
          rcases define_eq_ok hnext with ⟨name, hname, hread, -, rfl⟩
          exact ih hrest (h.insert (isName_of_define hmem hname hread) expansion) hdefine
      · cases hdefine

/-- A name stands for its expansion. -/
theorem resolve_of_isName {n : Text} (h : Text.IsName n) {expansion : Expansion}
    (hfind : d.find? n = some expansion) : d.resolve n = .ok expansion := by
  simp only [resolve, h.read_eq, hfind]

end Dictionary

namespace Evaluator

/-- The names of the primitives that are installed one after another. -/
theorem words_foldl_addPrimitive (entries : List (Text × Primitive)) (ev : Evaluator) :
    (entries.foldl (fun ev entry => ev.addPrimitive entry.1 entry.2) ev).words =
      (entries.map Prod.fst).foldl Dictionary.addBuiltin ev.words := by
  induction entries generalizing ev with
  | nil => rfl
  | cons entry entries ih =>
      rw [List.foldl_cons, ih, List.map_cons, List.foldl_cons]
      rfl

/-- The words of a new evaluator are the built-in ones. -/
theorem words_new (charset : Charset) :
    (new charset).words = .ofBuiltins (Primitive.builtins.map Prod.fst) :=
  words_foldl_addPrimitive Primitive.builtins (bare charset)

/-- The built-in words have names of the right kind. -/
theorem named_new (charset : Charset) : (new charset).words.Named := by
  intro n expansion hfind
  rw [words_new, Dictionary.find?_ofBuiltins] at hfind
  split at hfind
  · next hmem => exact Primitive.isName_of_mem_builtins n hmem
  · cases hfind

/-- A line that succeeds keeps all names of the right kind. -/
theorem named_of_eval {ev after : Evaluator} (hcharset : ev.charset = .plain)
    (hnamed : ev.words.Named) {text : Text} (heval : ev.eval text = .ok after) :
    after.words.Named := by
  rcases carryOut_eq_ok_iff.mp heval with ⟨words, stack, hwords, -, rfl⟩
  rw [hcharset] at hwords
  exact hnamed.defineAll (List.Subset.refl _) hwords

/-- The names in the dictionary of a session, where printable ASCII alone is accepted. -/
theorem named_afterLines (lines : List Text) :
    ((new .plain).afterLines lines).words.Named := by
  have hsession : ((new .plain).afterLines lines).charset = .plain ∧
      ((new .plain).afterLines lines).words.Named := by
    apply afterLines_induction (P := fun ev => ev.charset = .plain ∧ ev.words.Named)
    · rintro ev after text ⟨hcharset, hnamed⟩ heval
      exact ⟨(eval_eq_ok_keeps heval).1.trans hcharset, named_of_eval hcharset hnamed heval⟩
    · exact ⟨rfl, named_new .plain⟩
  exact hsession.2

end Evaluator

/-! ## Giving names -/

theorem Text.IsWordChar.isBlank_eq_false {c : Char} (h : IsWordChar c) : isBlank c = false :=
  isBlank_eq_false_of_printable h.1 h.2.1

/-- A definition without a body gives its name the empty expansion. -/
theorem Dictionary.define_empty (d : Dictionary) {n : Text} (h : Text.IsName n) :
    d.define ⟨some n, []⟩ = (.ok [], d.insert n []) := by
  have hname : checkName (some n) = .ok n := by
    simp [checkName, h.ne_nil, h.read_eq]
  simp only [define, entryOf, hname, expand]
  rfl

/-- What has the characters of a name but is none is empty or a numeral, and cannot be given. -/
theorem Dictionary.checkName_of_not_isName {n : Text} (hchars : ∀ c ∈ n, Text.IsWordChar c)
    (hsemicolon : ';' ∉ n) (h : ¬ Text.IsName n) :
    checkName (if n = [] then none else some n) = .error (.fault (.invalidWord n)) ∨
      checkName (if n = [] then none else some n) = .error .digitLimit := by
  by_cases hne : n = []
  · rw [if_pos hne, hne]
    exact Or.inl rfl
  · rw [if_neg hne]
    simp only [checkName, List.isEmpty_eq_false_iff.mpr hne, Bool.false_eq_true, if_false]
    cases hread : Numeral.read n with
    | value k => exact Or.inl rfl
    | tooLong => exact Or.inr rfl
    | notNumeral =>
        exact absurd ((Text.isName_iff n).mpr ⟨hne, hchars, hsemicolon, hread⟩) h

/-- A colon, a name and a semicolon with spaces between them are a definition without a body. -/
theorem Line.parse_emptyDefinition {cs : Charset} (hcs : cs.Settled) {n : Text}
    (h : Text.IsName n) :
    parse cs (": ".toList ++ n ++ " ;".toList) = ⟨[⟨some n, []⟩], []⟩ := by
  have htext : ": ".toList ++ n ++ " ;".toList = ':' :: (' ' :: n ++ [' ']) ++ ';' :: [] := by
    simp
  have hsemicolon : ';' ∉ ' ' :: n ++ [' '] := by
    simpa using h.noSemicolon
  have hnormal : cs.normalize (' ' :: n ++ [' ']) = ' ' :: n ++ [' '] := by
    have hbefore := cs.normalize_append_separator [] (n ++ [' ']) (c := ' ') rfl
    have hbehind := cs.normalize_append_separator n [] (c := ' ') rfl
    rw [hbehind, cs.normalize_word h.isWordChar] at hbefore
    exact hbefore
  have hfields : Text.fields Text.isBlank (' ' :: (n ++ [' '])) = [n] := by
    rw [Text.fields_cons_of_separator _ _ Text.isBlank_space,
      Text.fields_append_cons _ _ _ Text.isBlank_space,
      Text.fields_eq_singleton _ h.ne_nil fun c hc => (h.isWordChar c hc).isBlank_eq_false,
      Text.fields_nil, List.append_nil]
  rw [htext, parse_definition_append hcs hsemicolon, hnormal, List.cons_append, hfields,
    parse_of_tokenize_eq_nil rfl]
  rfl

/-- A colon and name characters behind it without a space are a definition too. -/
theorem Line.parse_colon_cons (cs : Charset) {n : Text} (hchars : ∀ c ∈ n, Text.IsWordChar c)
    (hsemicolon : ';' ∉ n) :
    parse cs (':' :: n) = ⟨[⟨if n = [] then none else some n, []⟩], []⟩ := by
  have hcolon : Text.IsWordChar ':' := by
    decide
  have hinside : (cs.normalize (':' :: n)).dropWhile (· == ' ') = ':' :: n := by
    rw [cs.normalize_word (List.forall_mem_cons.mpr ⟨hcolon, hchars⟩)]
    rfl
  have hblank : ∀ c ∈ n, Text.isBlank c = false := fun c hc => (hchars c hc).isBlank_eq_false
  rw [parse_of_definition hinside, Clause.ofInside, Text.takeWhile_ne_of_not_mem hsemicolon,
    Text.dropWhile_ne_of_not_mem hsemicolon, Text.fields_of_free hblank]
  by_cases hne : n = []
  · rw [if_pos hne, if_pos hne]
    rfl
  · rw [if_neg hne, if_neg hne]
    rfl

namespace Evaluator

variable {ev : Evaluator} {n : Text} {expansion : Expansion}

/-- A definition without a body that is carried out by itself. -/
theorem carryOut_empty (ev : Evaluator) (h : Text.IsName n) :
    ev.carryOut ⟨[⟨some n, []⟩], []⟩ = .ok { ev with words := ev.words.insert n [] } := by
  rw [carryOut_single, Dictionary.define_empty ev.words h]

/-- Every name can be given. -/
theorem eval_emptyDefinition (hcharset : ev.charset.Settled) (h : Text.IsName n) :
    ev.eval (": ".toList ++ n ++ " ;".toList) =
      .ok { ev with words := ev.words.insert n [] } := by
  rw [eval_eq_carryOut, Line.parse_emptyDefinition hcharset h, carryOut_empty ev h]

/-- A line that is a name with a colon in front of it gives that name the empty expansion. -/
theorem eval_colon (ev : Evaluator) (h : Text.IsName n) :
    ev.eval (':' :: n) = .ok { ev with words := ev.words.insert n [] } := by
  rw [eval_eq_carryOut, Line.parse_colon_cons _ h.isWordChar h.noSemicolon, if_neg h.ne_nil]
  exact carryOut_empty ev h

/-- A line that is a colon with something else than a name behind it fails. -/
theorem eval_colon_of_not_isName (ev : Evaluator) (hchars : ∀ c ∈ n, Text.IsWordChar c)
    (hsemicolon : ';' ∉ n) (h : ¬ Text.IsName n) :
    ev.eval (':' :: n) = .error (.fault (.invalidWord n)) ∨
      ev.eval (':' :: n) = .error .digitLimit := by
  rw [eval_eq_carryOut, Line.parse_colon_cons _ hchars hsemicolon, carryOut_single]
  simp only [Dictionary.define, Dictionary.entryOf]
  rcases Dictionary.checkName_of_not_isName hchars hsemicolon h with hinvalid | hlimit
  · rw [hinvalid]
    exact Or.inl rfl
  · rw [hlimit]
    exact Or.inr rfl

/-! ## Calling names -/

/-- A line that is a name, and does not start with a colon, runs the expansion of the name. -/
theorem eval_name (h : Text.IsName n) (hfind : ev.words.find? n = some expansion)
    (hcolon : n.head? ≠ some ':') : ev.eval n = ev.commit (ev.interpret expansion ev.stack) := by
  have hresolve : Dictionary.resolve ev.words n = .ok expansion :=
    Dictionary.resolve_of_isName h hfind
  rw [ev.eval_word h.ne_nil h.isWordChar hcolon]
  simp only [runWords, hresolve, interpret]
  cases EagerForth.interpret ev.primitives expansion ev.stack with
  | done stack => rfl
  | stopped failure left => rfl

/-- A name among the words of an expression is called when its turn has come. -/
theorem eval_of_mem_words (h : Text.IsName n) (hfind : ev.words.find? n = some expansion)
    {text first : Text} {before after : List Text}
    (htext : ev.charset.tokenize text = first :: before ++ n :: after)
    (hfirst : first.head? ≠ some ':') :
    ev.eval text = ev.commit
      ((runWords ev.primitives ev.words (first :: before) ev.stack).andThen fun stack =>
        (ev.interpret expansion stack).andThen (runWords ev.primitives ev.words after)) := by
  have hwords : Text.words (ev.charset.normalize text) = first :: before ++ n :: after := htext
  have hresolve : Dictionary.resolve ev.words n = .ok expansion :=
    Dictionary.resolve_of_isName h hfind
  have hhead : ((ev.charset.normalize text).dropWhile (· == ' ')).head? ≠ some ':' := by
    rw [Text.head?_dropWhile_space, hwords]
    exact hfirst
  rw [eval_of_head?_ne hhead, htext, runWords_append]
  congr 2
  funext stack
  simp only [runWords, hresolve, interpret]

/-- Names that can be given and called, in every session where printable ASCII alone is accepted.
All names in the dictionary are texts of one or more printable characters, none of them a space,
a capital or a semicolon, that are no numerals; and every such text can be given as a name.  A
line that is nothing but a name of the dictionary comes to running its expansion, unless the name
starts with a colon.  Then the line is read as a definition of what stands behind the colon: it
gives that the empty expansion or fails, and leaves the stack alone in either case.  But as a
word of an expression behind the first one, such a name is called like any other. -/
theorem definable_and_callable (lines : List Text) :
    let ev := (new .plain).afterLines lines
    (∀ n ∈ ev.words.names, Text.IsName n) ∧
      (∀ n, Text.IsName n →
        ev.eval (": ".toList ++ n ++ " ;".toList) =
          .ok { ev with words := ev.words.insert n [] }) ∧
      (∀ n expansion, ev.words.find? n = some expansion → n.head? ≠ some ':' →
        ev.eval n = ev.commit (ev.interpret expansion ev.stack)) ∧
      ∀ (m : Text) expansion, ev.words.find? (':' :: m) = some expansion →
        (Text.IsName m →
            ev.eval (':' :: m) = .ok { ev with words := ev.words.insert m [] }) ∧
          (¬ Text.IsName m →
            ev.eval (':' :: m) = .error (.fault (.invalidWord m)) ∨
              ev.eval (':' :: m) = .error .digitLimit) ∧
          (ev.perform (.line (':' :: m))).stack = ev.stack ∧
          ∀ (text first : Text) (before after : List Text),
            Charset.plain.tokenize text = first :: before ++ (':' :: m) :: after →
            first.head? ≠ some ':' →
            ev.eval text = ev.commit
              ((runWords ev.primitives ev.words (first :: before) ev.stack).andThen
                fun stack => (ev.interpret expansion stack).andThen
                  (runWords ev.primitives ev.words after)) := by
  intro ev
  have hcharset : ev.charset = .plain := charset_afterLines _ _
  have hnamed : ev.words.Named := named_afterLines lines
  refine ⟨?_, ?_, ?_, ?_⟩
  · intro n hn
    rcases (ev.words.mem_names_iff n).mp hn with ⟨expansion, hfind⟩
    exact hnamed n expansion hfind
  · intro n hn
    exact eval_emptyDefinition (hcharset ▸ Charset.settled_plain) hn
  · intro n expansion hfind hcolon
    exact eval_name (hnamed n expansion hfind) hfind hcolon
  · intro m expansion hfind
    have hname := hnamed _ expansion hfind
    have hchars := (List.forall_mem_cons.mp hname.isWordChar).2
    have hsemicolon : ';' ∉ m := fun hmem => hname.noSemicolon (List.mem_cons_of_mem ':' hmem)
    have hfails := ev.eval_colon_of_not_isName hchars hsemicolon
    refine ⟨ev.eval_colon, hfails, ?_, ?_⟩
    · simp only [perform]
      by_cases hm : Text.IsName m
      · rw [ev.eval_colon hm]
      · rcases hfails hm with hinvalid | hlimit
        · rw [hinvalid]
        · rw [hlimit]
    · intro text first before after htext hfirst
      rw [← hcharset] at htext
      exact eval_of_mem_words hname hfind htext hfirst

/-- A new evaluator after a line that gives a name with a colon in front. -/
def withColonName : Evaluator :=
  (new .plain).afterLines [": :x 5 ;".toList]

/-- The name with the colon calls for a definition by itself, and is called behind a numeral. -/
theorem definable_and_callable_colon :
    withColonName.words.find? ":x".toList = some [.literal 5] ∧
      withColonName.eval ": +x ;".toList =
        .ok { withColonName with words := withColonName.words.insert "+x".toList [] } ∧
      withColonName.eval "dup".toList = .error (.fault .stackUnderflow) ∧
      withColonName.eval ":x".toList =
        .ok { withColonName with words := withColonName.words.insert "x".toList [] } ∧
      withColonName.eval "1 :x".toList = .ok { withColonName with stack := [5, 1] } := by
  have hsession : withColonName =
      { new .plain with words := (new .plain).words.insert ":x".toList [.literal 5] } := by
    have hrest : Line.parse .plain [] = ⟨[], []⟩ := Line.parse_of_tokenize_eq_nil rfl
    have hparse := Line.parse_definition_append Charset.settled_plain (c := " :x 5 ".toList)
      (by decide) []
    rw [hrest] at hparse
    have heval : (new .plain).eval ": :x 5 ;".toList =
        .ok { new .plain with words := (new .plain).words.insert ":x".toList [.literal 5] } := by
      rw [eval_eq_carryOut]
      change (new .plain).carryOut (Line.parse .plain (':' :: " :x 5 ".toList ++ ';' :: [])) = _
      rw [hparse, carryOut_single]
      rfl
    simp only [withColonName, afterLines_cons, perform, heval, afterLines_nil]
  have hfind : withColonName.words.find? ":x".toList = some [.literal 5] := by
    rw [hsession]
    exact NameTable.find?_insert_self _ _ _
  have hdup : withColonName.words.find? "dup".toList = some [.primitive "dup".toList] := by
    rw [hsession]
    rfl
  have hcase := definable_and_callable [": :x 5 ;".toList]
  rw [← withColonName] at hcase
  rcases hcase with ⟨-, hgive, hcall, hcolon⟩
  refine ⟨hfind, ?_, ?_, ?_, ?_⟩
  · exact hgive "+x".toList (by decide)
  · rw [hcall _ _ hdup (by decide), hsession]
    rfl
  · exact (hcolon "x".toList _ hfind).1 (by decide)
  · rw [(hcolon "x".toList _ hfind).2.2.2 "1 :x".toList "1".toList [] [] rfl (by decide),
      hsession]
    rfl

end Evaluator

end EagerForth
