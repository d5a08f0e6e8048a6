import EagerForth.Definition
import EagerForth.Fault
import EagerForth.NameTable
import EagerForth.Token

/-!
# Dictionaries

A dictionary gives names their expansions.  A definition is expanded when it is made: each
word of its body is replaced by what it stands for at that moment, so a later definition of
the same word does not change the meaning of words that were built on the earlier one.

Main results:

- Theorem {lit}`Dictionary.resolve_value`: a numeral stands for itself in every dictionary.
- Theorem {lit}`Dictionary.expand_append`: word lists are expanded one after the other.
-/

namespace EagerForth

/-- A table of names and their expansions. -/
abbrev Dictionary := NameTable Expansion

namespace Dictionary

/-! ## Built-in words -/

/-- Let a name stand for the primitive of the same name. -/
def addBuiltin (d : Dictionary) (name : Text) : Dictionary :=
  d.insert name [.primitive name]

/-- Whether a name stands for the primitive of the same name and nothing else. -/
def isBuiltin (d : Dictionary) (name : Text) : Bool :=
  d.find? name == some [.primitive name]

/-! ## What words stand for -/

/-- The tokens a word stands for: a numeral for itself, another word for its expansion. -/
def resolve (d : Dictionary) (word : Text) : Except Failure Expansion :=
  match Numeral.read word with
  | .value n => .ok [.literal n]
  | .tooLong => .error .digitLimit
  | .notNumeral =>
      match d.find? word with
      | some expansion => .ok expansion
      | none => .error (.fault (.unknownWord word))

/-- The tokens that words stand for, one word after another. -/
def expand (d : Dictionary) : List Text → Except Failure Expansion
  | [] => .ok []
  | word :: words =>
      match d.resolve word with
      | .error failure => .error failure
      | .ok first =>
          match d.expand words with
          | .error failure => .error failure
          | .ok rest => .ok (first ++ rest)

/-- A numeral stands for itself in every dictionary. -/
theorem resolve_value (d : Dictionary) {word : Text} {n : Int}
    (h : Numeral.read word = .value n) : d.resolve word = .ok [.literal n] := by
  simp [resolve, h]

/-- Word lists are expanded one after the other. -/
theorem expand_append (d : Dictionary) (xs ys : List Text) :
    d.expand (xs ++ ys) =
      (d.expand xs).bind fun first => (d.expand ys).map fun rest => first ++ rest := by
  induction xs with
  | nil =>
      cases h : d.expand ys <;> simp [expand, h, Except.bind, Except.map]
  | cons x xs ih =>
      cases hx : d.resolve x with
      | error failure => simp [expand, hx, Except.bind]
      | ok first =>
          cases hxs : d.expand xs with
          | error failure => simp [expand, hx, hxs, ih, Except.bind]
          | ok middle =>
              cases hys : d.expand ys <;>
                simp [expand, hx, hxs, hys, ih, Except.bind, Except.map]

/-! ## Making definitions -/

/-- The name under which a definition is stored.  It must not be missing, empty or a
numeral. -/
def checkName : Option Text → Except Failure Text
  | none => .error (.fault (.invalidWord []))
  | some name =>
      if name.isEmpty then .error (.fault (.invalidWord []))
      else match Numeral.read name with
        | .value _ => .error (.fault (.invalidWord name))
        | .tooLong => .error .digitLimit
        | .notNumeral => .ok name

/-- The entry that a definition makes: its name, and the expansion of its body by the
dictionary as it is before the definition. -/
def entryOf (d : Dictionary) (definition : Definition) : Except Failure (Text × Expansion) :=
  match checkName definition.name with
  | .error failure => .error failure
  | .ok name =>
      match d.expand definition.body with
      | .error failure => .error failure
      | .ok expansion => .ok (name, expansion)

/-- Make a definition, instead of any earlier one of that name.  The new entry is announced in
writing after it has been stored: an entry that cannot be written stays, but the definition
fails. -/
def define (d : Dictionary) (definition : Definition) :
    Except Failure Expansion × Dictionary :=
  match d.entryOf definition with
  | .error failure => (.error failure, d)
  | .ok (name, expansion) =>
      (if expansion.isWritable then .ok expansion else .error .digitLimit,
        d.insert name expansion)

/-- Make definitions one after another, up to the first that fails. -/
def defineAll (d : Dictionary) : List Definition → Except Failure Dictionary
  | [] => .ok d
  | definition :: definitions =>
      match d.define definition with
      | (.ok _, d') => defineAll d' definitions
      | (.error failure, _) => .error failure

end Dictionary

end EagerForth
