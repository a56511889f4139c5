import TreeQuery.Proofs.Settings.Keys

/-!
# Merging settings

A library of settings that sets a value at a path changes what stands at this
path and nothing else, merges tables field by field, and takes anything else as
it is.  What a field holds afterwards depends on what it held before and on
nothing else of the tree.
-/

namespace TreeQuery

open Unicode Setting

namespace Settings.Library

/-- What is asked of a library. -/
structure Lawful (library : Library) : Prop where
  /-- A path starts with a name, and so does all that a file sets. -/
  steps_child : ∀ {path steps}, library.steps path = .ok steps →
    ∃ first further, steps = .child first :: further
  pieces_child : ∀ {name content pieces},
    library.pieces name content = some pieces → ∀ piece ∈ pieces,
      ∃ first further, piece.1 = .child first :: further
  /-- The path of a key has the names of its section and of its field. -/
  steps_path : ∀ key : Key, library.steps key.path = .ok key.steps
  /-- Overrides are set one after the other, in some order. -/
  order_perm : ∀ pieces, (library.order pieces).Perm pieces
  /-- What is set under a name leaves other names alone.  Case does not count. -/
  assign_other : ∀ {value root first path other}, lower first ≠ lower other →
    (library.assign value (.child first :: path) root).get? other =
      root.get? other
  /-- What is no table takes the place of what was there. -/
  assign_value : ∀ {value root name}, value.isTable = false →
    (library.assign value [.child name] root).get? name = some value
  /-- A table is merged field by field into what was there. -/
  assign_table : ∀ {origin fields root name},
    (library.assign (.table origin fields) [.child name] root).get? name =
      some (library.mergeFields fields ((root.get? name).getD emptyTable))
  /-- A longer path goes on in what is there. -/
  assign_further : ∀ {value root name step path},
    (library.assign value (.child name :: step :: path) root).get? name =
      some (library.assign value (step :: path)
        ((root.get? name).getD emptyTable))
  /-- What has a name is a table, and what has a position is a list. -/
  assign_child : ∀ {value root name path},
    (library.assign value (.child name :: path) root).isTable = true
  assign_item : ∀ {value root position path},
    (library.assign value (.item position :: path) root).isList = true
  /-- An unsigned integer stands for itself, and a word for the format that it
  names. -/
  toNat_integer : ∀ {key} {number : Nat}, number < UInt64.size →
    library.toNat key (.scalar none (.integer number)) = .ok number
  toFormat_word : ∀ {key word format},
    (word, format) ∈ [("text", .text), ("json", .json), ("yaml", .yaml)] →
      library.toFormat key (.scalar none (.string word)) = .ok format

end Settings.Library

/-! ## Fields of the usual library -/

namespace Setting

section

variable {setting value root : Setting} {name other first : String}
  {fields : List (String × Setting)} {path : List Step}

theorem get?_congr (same : lower name = lower other) :
    setting.get? name = setting.get? other := by
  rw [get?, get?, same]

end

namespace Step

end Step

end Setting

namespace Settings.Library

section

variable {library : Library} (lawful : library.Lawful) {value root : Setting}
  {first other : String} {path : List Step}

include lawful

/-- What stands under a name when a value has been set. -/
theorem Lawful.get?_assign :
    (library.assign value (.child first :: path) root).get? other =
      if lower first = lower other then
        some (library.give value path (root.get? other))
      else root.get? other := by
  by_cases same : lower first = lower other
  · rw [if_pos same, ← get?_congr same, ← get?_congr same]
    match path, value with
    | [], .table origin fields => exact lawful.assign_table
    | [], .scalar _ _ => exact lawful.assign_value rfl
    | [], .list _ _ => exact lawful.assign_value rfl
    | step :: path, value => exact lawful.assign_further
  · rw [if_neg same, lawful.assign_other same]

end

end Settings.Library

end TreeQuery
