import EagerForth.Proofs.DefinableNames

/-!
# What comes of a definition

A definition looks at its name first, then at the words of its body from left to right, and the
first thing that is wrong decides the failure.  The new entry is announced after it has been
stored, and the announcement can fail at the digit limit; then the entry would stay although the
definition has failed.  This never happens to a dictionary that was built up from nothing: only
literals that have been read get into its expansions, and these can be written.  So a definition
makes its entry and nothing else, or it fails and changes nothing.

Main results:

- Theorems {lit}`Numeral.exists_read_eq_value_iff` and {lit}`Numeral.read_eq_tooLong_iff`: which
  numerals can be read, told from their spelling.
- Theorem {lit}`Dictionary.expand_eq_ok_iff`: the tokens of words are those of each word, one
  after the other.
- Theorem {lit}`Shelf.exists_grounded`: what holds for all dictionaries that are built up from
  nothing.
- Theorem {lit}`Shelf.define_outcome`: what comes of a definition in such a dictionary.
-/

namespace EagerForth

/-! ## Numerals within the digit limit -/

namespace Numeral

/-- A numeral with at most as many digits as can be read, signs not being counted. -/
def IsShort (w : Text) : Prop :=
  IsNumeral w ∧ w.countP Char.isDigit ≤ digitLimit

/-- A numeral with more digits than can be read, signs not being counted. -/
def IsLong (w : Text) : Prop :=
  IsNumeral w ∧ digitLimit < w.countP Char.isDigit

/-- The digits of a numeral are all that is left when its sign is removed. -/
theorem IsNumeral.length_splitSign {w : Text} (h : IsNumeral w) :
    (splitSign w).2.length = w.countP Char.isDigit := by
  cases h with
  | unsigned hne hdigits =>
      rw [splitSign_of_digits hdigits]
      exact (List.countP_eq_length.mpr hdigits).symm
  | signed hsign hne hdigits =>
      rcases hsign with rfl | rfl
      · exact (List.countP_eq_length.mpr hdigits).symm
      · exact (List.countP_eq_length.mpr hdigits).symm

/-- A numeral is read unless it has too many digits. -/
theorem IsNumeral.read_eq {w : Text} (h : IsNumeral w) :
    read w = if digitLimit < w.countP Char.isDigit then .tooLong
      else .value (ofDigits (splitSign w).1 (splitSign w).2) := by
  rcases (isNumeral_iff w).mp h with ⟨hne, hdigits⟩
  rw [← h.length_splitSign]
  exact read_of_splitSign rfl hne hdigits

theorem isNumeral_of_read_ne {w : Text} (h : read w ≠ .notNumeral) : IsNumeral w := by
  by_contra hnot
  exact h ((read_eq_notNumeral_iff w).mpr hnot)

/-- Exactly the numerals with too many digits are too long to be read. -/
theorem read_eq_tooLong_iff (w : Text) : read w = .tooLong ↔ IsLong w := by
  constructor
  · intro h
    have hnumeral : IsNumeral w := isNumeral_of_read_ne (by simp [h])
    rw [hnumeral.read_eq] at h
    split at h
    · next hlimit => exact ⟨hnumeral, hlimit⟩
    · cases h
  · rintro ⟨hnumeral, hlimit⟩
    rw [hnumeral.read_eq, if_pos hlimit]

/-- Exactly the numerals within the digit limit have a value. -/
theorem exists_read_eq_value_iff (w : Text) : (∃ n, read w = .value n) ↔ IsShort w := by
  constructor
  · rintro ⟨n, h⟩
    have hnumeral : IsNumeral w := isNumeral_of_read_ne (by simp [h])
    rw [hnumeral.read_eq] at h
    split at h
    · cases h
    · next hlimit => exact ⟨hnumeral, Nat.not_lt.mp hlimit⟩
  · rintro ⟨hnumeral, hlimit⟩
    rw [hnumeral.read_eq, if_neg (Nat.not_lt.mpr hlimit)]
    exact ⟨_, rfl⟩

end Numeral

/-! ## Words that can be resolved -/

namespace Dictionary

variable {d : Dictionary} {words : List Text} {word : Text}

/-- A word can be resolved. -/
def Knows (d : Dictionary) (word : Text) : Prop :=
  ∃ expansion, d.resolve word = .ok expansion

/-- What is wrong with a word that cannot be resolved can be told from its spelling. -/
theorem resolve_of_not_knows (h : ¬ d.Knows word) :
    d.resolve word = .error .digitLimit ∧ Numeral.IsLong word ∨
      d.resolve word = .error (.fault (.unknownWord word)) ∧ ¬ Numeral.IsLong word := by
  cases hword : d.resolve word with
  | ok expansion => exact absurd ⟨expansion, hword⟩ h
  | error failure =>
      rcases resolve_eq_error_iff.mp hword with ⟨hread, rfl⟩ | ⟨hread, -, rfl⟩
      · exact Or.inl ⟨rfl, (Numeral.read_eq_tooLong_iff word).mp hread⟩
      · refine Or.inr ⟨rfl, ?_⟩
        rw [← Numeral.read_eq_tooLong_iff, hread]
        simp

/-- The tokens of words are those of each word, one after the other. -/
theorem expand_eq_ok_iff {tokens : Expansion} :
    d.expand words = .ok tokens ↔
      ∃ meanings : List Expansion, words.map d.resolve = meanings.map .ok ∧
        tokens = meanings.flatten := by
  induction words generalizing tokens with
  | nil =>
      constructor
      · intro h
        cases h
        exact ⟨[], rfl, rfl⟩
      · rintro ⟨meanings, hmeanings, rfl⟩
        rw [List.map_eq_nil_iff.mp hmeanings.symm]
        rfl
  | cons word words ih =>
      constructor
      · intro h
        cases hword : d.resolve word with
        | error failure => simp [expand, hword] at h
        | ok first =>
            cases hwords : d.expand words with
            | error failure => simp [expand, hword, hwords] at h
            | ok rest =>
                simp only [expand, hword, hwords, Except.ok.injEq] at h
                rcases ih.mp hwords with ⟨meanings, hmeanings, rfl⟩
                refine ⟨first :: meanings, ?_, h.symm⟩
                rw [List.map_cons, List.map_cons, hword, hmeanings]
      · rintro ⟨meanings, hmeanings, rfl⟩
        cases meanings with
        | nil => cases hmeanings
        | cons first meanings =>
            rw [List.map_cons, List.map_cons, List.cons.injEq] at hmeanings
            have hwords := ih.mpr ⟨meanings, hmeanings.2, rfl⟩
            simp only [expand, hmeanings.1, hwords, List.flatten_cons]

/-- Words that can all be resolved can be expanded. -/
theorem exists_expand_eq_ok (h : ∀ w ∈ words, d.Knows w) :
    ∃ tokens, d.expand words = .ok tokens := by
  cases hwords : d.expand words with
  | ok tokens => exact ⟨tokens, rfl⟩
  | error failure =>
      rcases expand_eq_error_iff.mp hwords with ⟨before, word, after, tokens, rfl, -, hword⟩
      rcases h word (by simp) with ⟨expansion, hok⟩
      rw [hword] at hok
      cases hok

/-- The first word that cannot be resolved decides how the expansion fails. -/
theorem expand_of_not_knows {before : List Text} (hbefore : ∀ w ∈ before, d.Knows w)
    (hword : ¬ d.Knows word) (after : List Text) :
    (Numeral.IsLong word → d.expand (before ++ word :: after) = .error .digitLimit) ∧
      (¬ Numeral.IsLong word →
        d.expand (before ++ word :: after) = .error (.fault (.unknownWord word))) := by
  rcases exists_expand_eq_ok hbefore with ⟨tokens, htokens⟩
  have hfails : ∀ failure, d.resolve word = .error failure →
      d.expand (before ++ word :: after) = .error failure :=
    fun failure hfailure =>
      expand_eq_error_iff.mpr ⟨before, word, after, tokens, rfl, htokens, hfailure⟩
  rcases resolve_of_not_knows hword with ⟨hresolve, hlong⟩ | ⟨hresolve, hshort⟩
  · exact ⟨fun _ => hfails _ hresolve, fun hshort => absurd hlong hshort⟩
  · exact ⟨fun hlong => absurd hlong hshort, fun _ => hfails _ hresolve⟩

/-! ## Names and bodies -/

/-- A name that is missing, empty or a numeral within the digit limit is invalid. -/
theorem checkName_of_invalid {name? : Option Text}
    (h : name? = none ∨ name? = some [] ∨ ∃ name, name? = some name ∧ Numeral.IsShort name) :
    checkName name? = .error (.fault (.invalidWord (name?.getD []))) := by
  rcases h with rfl | rfl | ⟨name, rfl, hshort⟩
  · rfl
  · rfl
  · rcases (Numeral.exists_read_eq_value_iff name).mpr hshort with ⟨n, hread⟩
    cases name with
    | nil => rfl
    | cons c name =>
        simp only [checkName, hread, List.isEmpty_cons, Bool.false_eq_true, if_false]
        rfl

/-- A name that is a numeral with too many digits meets with the digit limit. -/
theorem checkName_of_isLong {name : Text} (h : Numeral.IsLong name) :
    checkName (some name) = .error .digitLimit := by
  have hread := (Numeral.read_eq_tooLong_iff name).mpr h
  cases name with
  | nil => cases hread
  | cons c name => simp only [checkName, hread, List.isEmpty_cons, Bool.false_eq_true, if_false]

/-- Any other name can be given. -/
theorem checkName_of_not_isNumeral {name : Text} (hne : name ≠ [])
    (h : ¬ Numeral.IsNumeral name) : checkName (some name) = .ok name := by
  have hread := (Numeral.read_eq_notNumeral_iff name).mpr h
  simp [checkName, hread, hne]

/-- A definition whose name cannot be given fails and stores nothing. -/
theorem define_of_checkName {name? : Option Text} {failure : Failure}
    (h : checkName name? = .error failure) (d : Dictionary) (body : List Text) :
    d.define ⟨name?, body⟩ = (.error failure, d) := by
  simp only [define, entryOf, h]

/-- A definition whose body cannot be expanded fails and stores nothing. -/
theorem define_of_expand {name? : Option Text} {name : Text} {body : List Text}
    {failure : Failure} (hname : checkName name? = .ok name)
    (hbody : d.expand body = .error failure) :
    d.define ⟨name?, body⟩ = (.error failure, d) := by
  simp only [define, entryOf, hname, hbody]

/-- A definition over grounded expansions succeeds if its name can be given and its body can be
expanded. -/
theorem Grounded.define_eq_ok {primitives : Primitives} (hd : d.Grounded primitives)
    {name? : Option Text} {name : Text} {body : List Text} {expansion : Expansion}
    (hname : checkName name? = .ok name) (hbody : d.expand body = .ok expansion) :
    d.define ⟨name?, body⟩ = (.ok expansion, d.insert name expansion) := by
  have hwritable := (hd.of_expand hbody).isWritable
  simp only [Dictionary.define, entryOf, hname, hbody, hwritable, if_true]

end Dictionary

/-! ## Dictionaries that are built up from nothing -/

/-- What can be done with dictionaries that are kept in a row and counted from zero. -/
inductive Deed where
  /-- Let a name stand for its primitive in one of them. -/
  | addBuiltin (index : Nat) (name : Text)
  /-- Make a definition in one of them, and go on if it fails. -/
  | define (index : Nat) (definition : Definition)
  /-- Put a copy of one of them at the end of the row. -/
  | copy (index : Nat)

/-- Dictionaries in a row. -/
abbrev Shelf := List Dictionary

namespace Shelf

/-- The dictionaries after a deed. -/
def perform (shelf : Shelf) : Deed → Shelf
  | .addBuiltin index name => shelf.modify index fun d => d.addBuiltin name
  | .define index definition => shelf.modify index fun d => (d.define definition).2
  | .copy index => shelf ++ shelf[index]?.toList

/-- The dictionaries that deeds lead to from an empty one. -/
def after (deeds : List Deed) : Shelf :=
  deeds.foldl perform [.empty]

/-- All dictionaries of a row are grounded in the same primitives. -/
def Grounded (primitives : Primitives) (shelf : Shelf) : Prop :=
  ∀ (index : Nat) (d : Dictionary), shelf[index]? = some d → d.Grounded primitives

variable {primitives : Primitives} {shelf : Shelf}

/-- A change of one dictionary keeps a row grounded if it keeps that dictionary grounded. -/
theorem Grounded.modify (h : Grounded primitives shelf) {change : Dictionary → Dictionary}
    (hchange : ∀ d : Dictionary, d.Grounded primitives → (change d).Grounded primitives)
    (index : Nat) : Grounded primitives (shelf.modify index change) := by
  intro other d hd
  rw [List.getElem?_modify, Option.map_eq_map, Option.map_eq_some_iff] at hd
  rcases hd with ⟨before, hbefore, rfl⟩
  have hgrounded := h other before hbefore
  split
  · exact hchange before hgrounded
  · exact hgrounded

/-- No deed takes the ground from a row of dictionaries, if a primitive is installed for every
name that is made to stand for one. -/
theorem Grounded.perform (h : Grounded primitives shelf) (deed : Deed) :
    ∃ primitives', Grounded primitives' (shelf.perform deed) := by
  cases deed with
  | addBuiltin index name =>
      -- What the primitive does is of no account here, only that there is one.
      have hinstalled : Grounded (primitives.insert name .drop) shelf :=
        fun other d hd => (h other d hd).install name .drop
      refine ⟨primitives.insert name .drop, hinstalled.modify ?_ index⟩
      intro d hd
      exact hd.addBuiltin (by simp [NameTable.contains])
  | define index definition =>
      exact ⟨primitives, h.modify (fun d hd => hd.define definition) index⟩
  | copy index =>
      refine ⟨primitives, ?_⟩
      intro other d hd
      rcases List.mem_append.mp (List.mem_of_getElem? hd) with hmem | hcopy
      · rcases List.mem_iff_getElem?.mp hmem with ⟨place, hplace⟩
        exact h place d hplace
      · exact h index d (Option.mem_toList.mp hcopy)

/-- Dictionaries that are built up from nothing are grounded in some primitives. -/
theorem exists_grounded (deeds : List Deed) :
    ∃ primitives, Grounded primitives (after deeds) := by
  -- Primitives are added on the way, so the induction is over any primitives and any row.
  have hrun : ∀ (deeds : List Deed) (primitives : Primitives) (shelf : Shelf),
      Grounded primitives shelf →
      ∃ primitives', Grounded primitives' (deeds.foldl Shelf.perform shelf) := by
    intro deeds
    induction deeds with
    | nil => exact fun primitives shelf h => ⟨primitives, h⟩
    | cons deed deeds ih =>
        intro primitives shelf h
        rcases h.perform deed with ⟨primitives', h'⟩
        exact ih primitives' (shelf.perform deed) h'
  apply hrun deeds .empty
  intro index d hd
  rw [List.mem_singleton.mp (List.mem_of_getElem? hd)]
  intro name expansion hfind
  cases hfind

/-- A change that leaves one dictionary as it is leaves the row as it is. -/
theorem modify_eq_self {index : Nat} {d : Dictionary} {change : Dictionary → Dictionary}
    (hd : shelf[index]? = some d) (hchange : change d = d) :
    shelf.modify index change = shelf := by
  apply List.ext_getElem?
  intro other
  rw [List.getElem?_modify]
  by_cases hother : index = other
  · subst hother
    simp [hd, hchange]
  · simp [hother]

/-- What comes of a definition in a dictionary that was built up from nothing.  A name that is
missing, empty or a numeral is refused before the body is looked at, and the first word of the
body that cannot be resolved decides how the definition fails.  Otherwise the name gets the
tokens that the words of the body had before, one word after the other.  A definition that fails
changes nothing. -/
theorem define_outcome (deeds : List Deed) (index : Nat) (d : Dictionary)
    (hd : (after deeds)[index]? = some d) (name? : Option Text) (body : List Text) :
    let outcome := d.define ⟨name?, body⟩
    ((name? = none ∨ name? = some [] ∨ ∃ name, name? = some name ∧ Numeral.IsShort name) →
      outcome.1 = .error (.fault (.invalidWord (name?.getD [])))) ∧
    (∀ name, name? = some name →
      (Numeral.IsLong name → outcome.1 = .error .digitLimit) ∧
      (name ≠ [] → ¬ Numeral.IsNumeral name →
        (∀ before word rest, body = before ++ word :: rest → (∀ w ∈ before, d.Knows w) →
          ¬ d.Knows word →
          (Numeral.IsLong word → outcome.1 = .error .digitLimit) ∧
          (¬ Numeral.IsLong word → outcome.1 = .error (.fault (.unknownWord word)))) ∧
        ((∀ w ∈ body, d.Knows w) →
          ∃ meanings : List Expansion, body.map d.resolve = meanings.map .ok ∧
            outcome.1 = .ok meanings.flatten ∧
            outcome.2.find? name = some meanings.flatten ∧
            ∀ other, other ≠ name → outcome.2.find? other = d.find? other))) ∧
    (∀ failure, outcome.1 = .error failure →
      outcome.2 = d ∧
        (after deeds).perform (.define index ⟨name?, body⟩) = after deeds) := by
  intro outcome
  rcases exists_grounded deeds with ⟨primitives, hshelf⟩
  have hgrounded : d.Grounded primitives := hshelf index d hd
  refine ⟨?_, ?_, ?_⟩
  · intro hinvalid
    exact congrArg Prod.fst
      (Dictionary.define_of_checkName (Dictionary.checkName_of_invalid hinvalid) d body)
  · rintro name rfl
    refine ⟨?_, ?_⟩
    · intro hlong
      exact congrArg Prod.fst
        (Dictionary.define_of_checkName (Dictionary.checkName_of_isLong hlong) d body)
    · intro hne hnumeral
      have hname := Dictionary.checkName_of_not_isNumeral hne hnumeral
      refine ⟨?_, ?_⟩
      · rintro before word rest rfl hbefore hword
        rcases Dictionary.expand_of_not_knows hbefore hword rest with ⟨hlong, hshort⟩
        exact ⟨fun h => congrArg Prod.fst (Dictionary.define_of_expand hname (hlong h)),
          fun h => congrArg Prod.fst (Dictionary.define_of_expand hname (hshort h))⟩
      · intro hbody
        rcases Dictionary.exists_expand_eq_ok hbody with ⟨tokens, htokens⟩
        rcases Dictionary.expand_eq_ok_iff.mp htokens with ⟨meanings, hmeanings, rfl⟩
        have houtcome : outcome = (.ok meanings.flatten, d.insert name meanings.flatten) :=
          hgrounded.define_eq_ok hname htokens
        rw [houtcome]
        refine ⟨meanings, hmeanings, rfl, NameTable.find?_insert_self .., ?_⟩
        intro other hother
        exact NameTable.find?_insert_of_ne d hother _
  · intro failure hfailure
    have hkeeps : outcome.2 = d := (hgrounded.define_eq_error (Prod.ext hfailure rfl)).2
    exact ⟨hkeeps, modify_eq_self hd hkeeps⟩

/-- A dictionary with one built-in word, and a copy in which the word has been given a new
meaning by means of itself, after an attempt with a word that is not known. -/
def dupDeeds : List Deed :=
  [.addBuiltin 0 "dup".toList, .copy 0,
    .define 1 ⟨some "dup".toList, ["dup".toList, "swap".toList]⟩,
    .define 1 ⟨some "dup".toList, ["dup".toList, "dup".toList]⟩]

/-- In the copy the word can be used for its own next meaning; an unknown word and a numeral for
a name are refused, and leave both dictionaries as they are. -/
theorem define_outcome_copy :
    ∃ d : Dictionary, (after dupDeeds)[1]? = some d ∧
      (d.define ⟨some "dup".toList, ["7".toList, "dup".toList]⟩).2.find? "dup".toList =
        some [.literal 7, .primitive "dup".toList, .primitive "dup".toList] ∧
      (d.define ⟨some "twin".toList, ["dup".toList, "swap".toList]⟩).1 =
        .error (.fault (.unknownWord "swap".toList)) ∧
      (after dupDeeds).perform (.define 1 ⟨some "-5".toList, ["swap".toList]⟩) =
        after dupDeeds := by
  let d : Dictionary := .insert .empty "dup".toList
    [.primitive "dup".toList, .primitive "dup".toList]
  have hd : (after dupDeeds)[1]? = some d := rfl
  have hknows : d.Knows "dup".toList := ⟨_, rfl⟩
  have hswap : ¬ d.Knows "swap".toList := by
    rintro ⟨expansion, h⟩
    cases h
  have hname : ∀ name ∈ ["dup".toList, "twin".toList, "swap".toList],
      ¬ Numeral.IsNumeral name := by
    intro name hname
    rw [← Numeral.read_eq_notNumeral_iff]
    revert name
    decide
  refine ⟨d, hd, ?_, ?_, ?_⟩
  · have hdup := ((define_outcome dupDeeds 1 d hd (some "dup".toList)
      ["7".toList, "dup".toList]).2.1 _ rfl).2 (by decide) (hname _ (by simp))
    have hbody : ∀ w ∈ ["7".toList, "dup".toList], d.Knows w := by
      rintro w (_ | ⟨_, _ | ⟨_, ⟨⟩⟩⟩)
      · exact ⟨_, rfl⟩
      · exact hknows
    rcases hdup.2 hbody with ⟨meanings, hmeanings, -, hfind, -⟩
    have htokens : meanings =
        [[.literal 7], [.primitive "dup".toList, .primitive "dup".toList]] :=
      (List.map_inj_right fun _ _ => Except.ok.inj).mp hmeanings.symm
    rw [hfind, htokens]
    rfl
  · have htwin := ((define_outcome dupDeeds 1 d hd (some "twin".toList)
      ["dup".toList, "swap".toList]).2.1 _ rfl).2 (by decide) (hname _ (by simp))
    refine (htwin.1 ["dup".toList] "swap".toList [] rfl (by simpa using hknows) hswap).2 ?_
    intro hlong
    exact hname _ (by simp) hlong.1
  · exact ((define_outcome dupDeeds 1 d hd (some "-5".toList) ["swap".toList]).2.2 _ rfl).2

end Shelf

end EagerForth
