import EagerForth.Proofs.Inlining
import Mathlib.Data.List.Pairwise

/-!
# Independent definitions

Every definition changes the dictionary in which the bodies of those after it are expanded, so
the order of definitions matters in general.  It does not matter for definitions that have
nothing to do with each other: they give different names, and none of them uses the name of
another in its body.  Its own name a definition may use, and the names may have had a meaning
before.

Main results:

- Theorem {lit}`Dictionary.entryOf_define`: a definition does not change the entry that one apart
  from it makes.
- Theorem {lit}`Dictionary.define_define_comm`: two definitions that are apart can be made in
  either order.
- Theorem {lit}`Dictionary.returns_of_independent`: each of several independent definitions
  returns what it would return by itself.
- Theorem {lit}`Dictionary.independent_definitions_commute`: independent definitions can be made
  in any order.
-/

namespace EagerForth

/-! ## Definitions that are apart -/

/-- Two definitions have nothing to do with each other: their names are different, and neither
name is a word of the body of the other. -/
structure Definition.Apart (a b : Definition) : Prop where
  name_ne : a.name ≠ b.name
  left_not_used : ∀ word ∈ b.body, a.name ≠ some word
  right_not_used : ∀ word ∈ a.body, b.name ≠ some word

theorem Definition.Apart.symm {a b : Definition} (h : a.Apart b) : b.Apart a :=
  ⟨h.name_ne.symm, h.right_not_used, h.left_not_used⟩

instance : Std.Symm Definition.Apart :=
  ⟨fun _ _ => Definition.Apart.symm⟩

instance (a b : Definition) : Decidable (a.Apart b) :=
  decidable_of_iff
    (a.name ≠ b.name ∧ (∀ word ∈ b.body, a.name ≠ some word) ∧
      ∀ word ∈ a.body, b.name ≠ some word)
    ⟨fun ⟨hname, hleft, hright⟩ => ⟨hname, hleft, hright⟩,
      fun h => ⟨h.name_ne, h.left_not_used, h.right_not_used⟩⟩

/-- Any two of the definitions have nothing to do with each other. -/
def Independent (definitions : List Definition) : Prop :=
  definitions.Pairwise Definition.Apart

instance (definitions : List Definition) : Decidable (Independent definitions) :=
  inferInstanceAs (Decidable (definitions.Pairwise Definition.Apart))

namespace Dictionary

variable {d d' : Dictionary} {a b definition : Definition} {definitions : List Definition}

/-! ## What a definition leaves alone -/

theorem define_snd_of_error {failure : Failure} (h : d.entryOf definition = .error failure) :
    (d.define definition).2 = d := by
  simp only [define, h]

theorem define_snd_of_ok {name : Text} {expansion : Expansion}
    (h : d.entryOf definition = .ok (name, expansion)) :
    (d.define definition).2 = d.insert name expansion := by
  simp only [define, h]

/-- A definition changes the meaning of its own name only, whether it succeeds or fails. -/
theorem resolve_define_of_ne {word : Text} (hne : definition.name ≠ some word) :
    (d.define definition).2.resolve word = d.resolve word := by
  cases hentry : d.entryOf definition with
  | error failure => rw [define_snd_of_error hentry]
  | ok entry =>
      obtain ⟨name, expansion⟩ := entry
      have hword : word ≠ name := by
        rintro rfl
        exact hne (entryOf_eq_ok hentry).1
      rw [define_snd_of_ok hentry, resolve_insert_of_ne hword]

/-- Dictionaries in which the words mean the same expand them alike. -/
theorem expand_congr {words : List Text} (h : ∀ word ∈ words, d'.resolve word = d.resolve word) :
    d'.expand words = d.expand words := by
  induction words with
  | nil => rfl
  | cons word words ih =>
      rcases List.forall_mem_cons.mp h with ⟨hword, hwords⟩
      rw [expand_cons, expand_cons, hword, ih hwords]

/-- A definition does not change the entry that one apart from it makes. -/
theorem entryOf_define (h : a.Apart b) (d : Dictionary) :
    (d.define a).2.entryOf b = d.entryOf b := by
  have hbody : (d.define a).2.expand b.body = d.expand b.body :=
    expand_congr fun word hword => resolve_define_of_ne (h.left_not_used word hword)
  simp only [entryOf, hbody]

/-- What a definition returns depends on nothing but the entry it makes. -/
theorem define_fst_congr (h : d'.entryOf definition = d.entryOf definition) :
    (d'.define definition).1 = (d.define definition).1 := by
  unfold define
  rw [h]
  cases d.entryOf definition with
  | error failure => rfl
  | ok entry => rfl

/-- Two definitions that are apart can be made in either order. -/
theorem define_define_comm (h : a.Apart b) (d : Dictionary) :
    ((d.define a).2.define b).2 = ((d.define b).2.define a).2 := by
  have hafter := entryOf_define h d
  have hbefore := entryOf_define h.symm d
  cases ha : d.entryOf a with
  | error failure => rw [define_snd_of_error (hbefore.trans ha), define_snd_of_error ha]
  | ok entry =>
      obtain ⟨name, expansion⟩ := entry
      cases hb : d.entryOf b with
      | error failure => rw [define_snd_of_error (hafter.trans hb), define_snd_of_error hb]
      | ok entry' =>
          obtain ⟨name', expansion'⟩ := entry'
          have hne : name ≠ name' := by
            rintro rfl
            exact h.name_ne ((entryOf_eq_ok ha).1.trans (entryOf_eq_ok hb).1.symm)
          rw [define_snd_of_ok (hafter.trans hb), define_snd_of_ok ha,
            define_snd_of_ok (hbefore.trans ha), define_snd_of_ok hb,
            NameTable.insert_comm d hne]

/-! ## Definitions in a row -/

/-- The dictionary after definitions that are made one after another, where one that fails does
not keep the others from being made. -/
def defineEach (d : Dictionary) (definitions : List Definition) : Dictionary :=
  definitions.foldl (fun d definition => (d.define definition).2) d

theorem defineEach_cons (d : Dictionary) (definition : Definition)
    (definitions : List Definition) :
    d.defineEach (definition :: definitions) =
      (d.define definition).2.defineEach definitions :=
  rfl

/-- What each of these definitions returns, with its name. -/
def returns (d : Dictionary) : List Definition → List (Option Text × Except Failure Expansion)
  | [] => []
  | definition :: definitions =>
      (definition.name, (d.define definition).1) :: (d.define definition).2.returns definitions

/-- Definitions all succeed when each of them returns an expansion, and then it makes no
difference what would have been done after a failure. -/
theorem defineAll_eq_ok_iff {last : Dictionary} :
    d.defineAll definitions = .ok last ↔
      (∀ call ∈ d.returns definitions, ∃ expansion, call.2 = .ok expansion) ∧
        d.defineEach definitions = last := by
  induction definitions generalizing d with
  | nil => simp [defineAll, returns, defineEach]
  | cons definition definitions ih =>
      rcases hdefine : d.define definition with ⟨outcome, next⟩
      simp only [defineAll, returns, defineEach_cons, hdefine, List.forall_mem_cons]
      cases outcome with
      | error failure => simp
      | ok expansion => simpa using ih

/-- Each of several independent definitions returns what it would return by itself. -/
theorem returns_of_independent (h : Independent definitions) (d : Dictionary) :
    d.returns definitions =
      definitions.map fun definition => (definition.name, (d.define definition).1) := by
  induction definitions generalizing d with
  | nil => rfl
  | cons definition definitions ih =>
      rcases List.pairwise_cons.mp h with ⟨hfirst, hrest⟩
      rw [returns, ih hrest, List.map_cons]
      congr 1
      apply List.map_congr_left
      intro other hother
      rw [define_fst_congr (entryOf_define (hfirst other hother) d)]

/-- Independent definitions lead to the same dictionary in any order. -/
theorem defineEach_perm {definitions' : List Definition} (hperm : definitions'.Perm definitions)
    (h : Independent definitions) (d : Dictionary) :
    d.defineEach definitions' = d.defineEach definitions := by
  refine (hperm.symm.foldl_eq' ?_ d).symm
  intro a ha b hb d
  -- Nothing is known of a definition and itself, but their order cannot matter.
  by_cases hab : a = b
  · rw [hab]
  · exact define_define_comm (List.Pairwise.forall h ha hb hab) d

/-- Of independent definitions, no two have the same name. -/
theorem eq_of_name_eq (h : Independent definitions) (ha : a ∈ definitions) (hb : b ∈ definitions)
    (hname : a.name = b.name) : a = b := by
  by_contra hab
  exact (List.Pairwise.forall h ha hb hab).name_ne hname

/-- Independent definitions can be made in any order.  They all succeed in one order exactly when
they do in the other, and then they lead to the same dictionary, and each of them returns the
same expansion for its name. -/
theorem independent_definitions_commute (d : Dictionary)
    (definitions definitions' : List Definition) (h : Independent definitions)
    (hperm : definitions'.Perm definitions) :
    ((∃ last, d.defineAll definitions' = .ok last) ↔
        ∃ last, d.defineAll definitions = .ok last) ∧
      ∀ last last', d.defineAll definitions = .ok last → d.defineAll definitions' = .ok last' →
        last' = last ∧ (d.returns definitions').Perm (d.returns definitions) ∧
          ∀ name expansion expansion', (name, .ok expansion) ∈ d.returns definitions →
            (name, .ok expansion') ∈ d.returns definitions' → expansion' = expansion := by
  have h' : Independent definitions' := hperm.symm.pairwise h Definition.Apart.symm
  have heach : d.defineEach definitions' = d.defineEach definitions := defineEach_perm hperm h d
  have hreturns : (d.returns definitions').Perm (d.returns definitions) := by
    rw [returns_of_independent h, returns_of_independent h']
    exact hperm.map _
  have hsame : ∀ last, d.defineAll definitions' = .ok last ↔
      d.defineAll definitions = .ok last := by
    intro last
    rw [defineAll_eq_ok_iff, defineAll_eq_ok_iff, heach]
    simp only [hreturns.mem_iff]
  refine ⟨exists_congr hsame, ?_⟩
  intro last last' hlast hlast'
  refine ⟨?_, hreturns, ?_⟩
  · have hagain := (hsame last').mp hlast'
    rw [hlast] at hagain
    exact (Except.ok.inj hagain).symm
  · intro name expansion expansion' hcall hcall'
    rw [hreturns.mem_iff] at hcall'
    rw [returns_of_independent h, List.mem_map] at hcall hcall'
    rcases hcall with ⟨a, ha, hcall⟩
    rcases hcall' with ⟨b, hb, hcall'⟩
    rw [Prod.mk.injEq] at hcall hcall'
    have hab : a = b := eq_of_name_eq h ha hb (hcall.1.trans hcall'.1.symm)
    rw [hab] at hcall
    exact Except.ok.inj (hcall'.2.symm.trans hcall.2)

/-- A built-in name given a new meaning by means of itself, another built-in name given a number
for its meaning, and a new name. -/
def threeDefinitions : List Definition :=
  [⟨some "dup".toList, ["dup".toList, "dup".toList]⟩, ⟨some "+".toList, ["1".toList]⟩,
    ⟨some "nip".toList, ["swap".toList, "drop".toList]⟩]

/-- The three definitions are made from the first to the last and from the last to the first. -/
theorem independent_definitions_commute_reverse :
    Independent threeDefinitions ∧
      ∃ last, Dictionary.defineAll (Evaluator.new .plain).words threeDefinitions = .ok last ∧
        Dictionary.defineAll (Evaluator.new .plain).words threeDefinitions.reverse = .ok last ∧
        last.find? "dup".toList = some [.primitive "dup".toList, .primitive "dup".toList] := by
  have h : Independent threeDefinitions := by decide
  have hperm : threeDefinitions.reverse.Perm threeDefinitions := List.reverse_perm _
  have hcommute := independent_definitions_commute (Evaluator.new .plain).words _ _ h hperm
  rcases hcommute.1.mpr ⟨_, rfl⟩ with ⟨last, hlast⟩
  have hsame := (hcommute.2 _ _ rfl hlast).1
  exact ⟨h, last, by rw [hsame]; rfl, hlast, by rw [hsame]; rfl⟩

end Dictionary

end EagerForth
