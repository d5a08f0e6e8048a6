import EagerForth.Text.Basic

/-!
# Tables of names

A finite map from names to values, kept in the order of the names by their characters.  The
order is part of the type, so two tables with the same content are equal.

Main results:

- Theorems {lit}`NameTable.find?_insert_self` and {lit}`NameTable.find?_insert_of_ne`: what
  insertion does to look-up.
- Theorem {lit}`NameTable.ext_find?`: tables that answer every look-up alike are equal.
-/

namespace EagerForth

/-- A finite map from names to values, in the order of the names. -/
@[ext]
structure NameTable (α : Type) where
  /-- The names with their values. -/
  entries : List (Text × α)
  /-- The names are in strictly increasing order. -/
  sorted : entries.Pairwise fun a b => a.1 < b.1

namespace NameTable

variable {α : Type}

/-! ## Operations -/

/-- The table without names. -/
def empty : NameTable α where
  entries := []
  sorted := .nil

/-- The value of a name in a list of entries. -/
def findIn (name : Text) : List (Text × α) → Option α
  | [] => none
  | (key, value) :: rest => if name = key then some value else findIn name rest

/-- The value of a name. -/
def find? (table : NameTable α) (name : Text) : Option α :=
  findIn name table.entries

/-- Whether a name has a value. -/
def contains (table : NameTable α) (name : Text) : Bool :=
  (table.find? name).isSome

/-- The names, in increasing order. -/
def names (table : NameTable α) : List Text :=
  table.entries.map Prod.fst

/-- The number of names. -/
def size (table : NameTable α) : Nat :=
  table.entries.length

/-- Put an entry in its place in an ordered list, instead of any entry of the same name. -/
def insertIn (name : Text) (value : α) : List (Text × α) → List (Text × α)
  | [] => [(name, value)]
  | (key, old) :: rest =>
      if name = key then (name, value) :: rest
      else if name < key then (name, value) :: (key, old) :: rest
      else (key, old) :: insertIn name value rest

/-- An entry of the longer list is the new one or one of the shorter list. -/
theorem mem_insertIn {name : Text} {value : α} {entry : Text × α} {l : List (Text × α)}
    (h : entry ∈ insertIn name value l) : entry = (name, value) ∨ entry ∈ l := by
  induction l with
  | nil => simpa [insertIn] using h
  | cons e rest ih =>
      obtain ⟨key, old⟩ := e
      simp only [insertIn] at h
      split at h
      · rcases List.mem_cons.mp h with h | h <;> simp [h]
      · split at h
        · rcases List.mem_cons.mp h with h | h
          · exact Or.inl h
          · exact Or.inr h
        · rcases List.mem_cons.mp h with h | h
          · simp [h]
          · rcases ih h with h | h <;> simp [h]

/-- Of two different names, one comes first. -/
theorem lt_of_ne_of_not_lt {a b : Text} (hne : a ≠ b) (hlt : ¬ a < b) : b < a := by
  rcases Std.Trichotomous.rel_or_eq_or_rel_swap (r := (· < · : Text → Text → Prop))
    (a := a) (b := b) with h | h | h
  · exact absurd h hlt
  · exact absurd h hne
  · exact h

/-- Insertion keeps the order of the names. -/
theorem pairwise_insertIn (name : Text) (value : α) {l : List (Text × α)}
    (h : l.Pairwise fun a b => a.1 < b.1) :
    (insertIn name value l).Pairwise fun a b => a.1 < b.1 := by
  induction l with
  | nil => simp [insertIn]
  | cons e rest ih =>
      obtain ⟨key, old⟩ := e
      obtain ⟨hhead, htail⟩ := List.pairwise_cons.mp h
      simp only [insertIn]
      split
      · next heq =>
          subst heq
          exact List.pairwise_cons.mpr ⟨hhead, htail⟩
      · next hne =>
          split
          · next hlt =>
              refine List.pairwise_cons.mpr ⟨?_, h⟩
              intro entry hentry
              rcases List.mem_cons.mp hentry with rfl | hentry
              · exact hlt
              · exact List.lt_trans hlt (hhead entry hentry)
          · next hnlt =>
              refine List.pairwise_cons.mpr ⟨?_, ih htail⟩
              intro entry hentry
              rcases mem_insertIn hentry with rfl | hentry
              · exact lt_of_ne_of_not_lt hne hnlt
              · exact hhead entry hentry

/-- Give a name a value, instead of any value it has. -/
def insert (table : NameTable α) (name : Text) (value : α) : NameTable α where
  entries := insertIn name value table.entries
  sorted := pairwise_insertIn name value table.sorted

/-- The table of a list of entries, in which a later entry replaces an earlier one. -/
def ofList (l : List (Text × α)) : NameTable α :=
  l.foldl (fun table entry => table.insert entry.1 entry.2) empty

/-! ## Look-up -/

/-- The empty table has no values. -/
@[simp]
theorem find?_empty (name : Text) : (empty : NameTable α).find? name = none :=
  rfl

/-- Insertion into a list of entries is seen at the inserted name. -/
theorem findIn_insertIn_self (name : Text) (value : α) (l : List (Text × α)) :
    findIn name (insertIn name value l) = some value := by
  induction l with
  | nil => simp [insertIn, findIn]
  | cons e rest ih =>
      obtain ⟨key, old⟩ := e
      simp only [insertIn]
      split
      · simp [findIn]
      · next hne =>
          split
          · simp [findIn]
          · simpa [findIn, hne] using ih

/-- Insertion into a list of entries is not seen at other names. -/
theorem findIn_insertIn_of_ne {name other : Text} (hne : other ≠ name) (value : α)
    (l : List (Text × α)) : findIn other (insertIn name value l) = findIn other l := by
  induction l with
  | nil => simp [insertIn, findIn, hne]
  | cons e rest ih =>
      obtain ⟨key, old⟩ := e
      simp only [insertIn]
      split
      · next heq =>
          subst heq
          simp [findIn, hne]
      · split
        · simp [findIn, hne]
        · simp [findIn, ih]

/-- A name has the value that was inserted for it. -/
@[simp]
theorem find?_insert_self (table : NameTable α) (name : Text) (value : α) :
    (table.insert name value).find? name = some value :=
  findIn_insertIn_self name value table.entries

/-- Insertion leaves the values of other names alone. -/
@[simp]
theorem find?_insert_of_ne (table : NameTable α) {name other : Text} (hne : other ≠ name)
    (value : α) : (table.insert name value).find? other = table.find? other :=
  findIn_insertIn_of_ne hne value table.entries

/-- A name has a value exactly when some entry gives it one. -/
theorem findIn_eq_some_iff {name : Text} {value : α} {l : List (Text × α)}
    (h : l.Pairwise fun a b => a.1 < b.1) :
    findIn name l = some value ↔ (name, value) ∈ l := by
  induction l with
  | nil => simp [findIn]
  | cons e rest ih =>
      obtain ⟨key, old⟩ := e
      obtain ⟨hhead, htail⟩ := List.pairwise_cons.mp h
      by_cases heq : name = key
      · subst heq
        have habsent : (name, value) ∉ rest := by
          intro hmem
          exact List.lt_irrefl name (hhead _ hmem)
        simp [findIn, habsent, eq_comm]
      · simp [findIn, heq, ih htail]

/-- A name has a value exactly when some entry gives it one. -/
theorem find?_eq_some_iff (table : NameTable α) {name : Text} {value : α} :
    table.find? name = some value ↔ (name, value) ∈ table.entries :=
  findIn_eq_some_iff table.sorted

/-! ## Extensionality -/

/-- No entry of a table occurs twice. -/
theorem nodup_entries (table : NameTable α) : table.entries.Nodup := by
  refine table.sorted.imp ?_
  rintro a b hlt rfl
  exact List.lt_irrefl _ hlt

/-- Tables that answer every look-up alike are equal. -/
theorem ext_find? {a b : NameTable α} (h : ∀ name, a.find? name = b.find? name) : a = b := by
  apply NameTable.ext
  refine List.Perm.eq_of_pairwise (fun x y _ _ hxy hyx => ?_) a.sorted b.sorted ?_
  · exact absurd (List.lt_trans hxy hyx) (List.lt_irrefl _)
  · apply (List.perm_ext_iff_of_nodup a.nodup_entries b.nodup_entries).mpr
    rintro ⟨name, value⟩
    rw [← find?_eq_some_iff, ← find?_eq_some_iff, h]

/-- Values of different names may be inserted in either order. -/
theorem insert_comm (table : NameTable α) {name name' : Text} (hne : name ≠ name')
    (value value' : α) :
    (table.insert name value).insert name' value' =
      (table.insert name' value').insert name value := by
  apply ext_find?
  intro other
  by_cases h : other = name
  · subst h
    simp [hne]
  · by_cases h' : other = name'
    · subst h'
      simp [h]
    · simp [h, h']

end NameTable

end EagerForth
