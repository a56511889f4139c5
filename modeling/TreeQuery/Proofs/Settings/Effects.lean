import TreeQuery.Proofs.Settings.Merging

/-!
# Effects of values

A tree holds under a key what the effects of the values that were set leave of
the default.  A section is a list only where the last effect made it one.
-/

namespace TreeQuery

open Unicode Setting

namespace Settings

/-- What stands in the place of a section is what some effects on the key of the
section leave. -/
structure Tracks (library : Library) (key : Key) (found : Option Setting)
    (effects : List Effect) : Prop where
  left_eq : library.left key effects =
    found.bind fun setting => setting.get? key.name
  listed : ∀ setting ∈ found, setting.isList = true →
    effects.getLast? = some (.replaced true)

theorem get?_of_not_isTable {setting : Setting} (plain : setting.isTable = false)
    (name : String) : setting.get? name = none := by
  cases setting with
  | table => cases plain
  | scalar | list => rfl

namespace Tracks

variable {library : Library} {key : Key} {found : Option Setting}
  {effects : List Effect} {setting value root : Setting} {name first : String}
  {path : List Step}

theorem defaults (library : Library) (key : Key) :
    Tracks library key (Settings.defaults.get? key.part) [] := by
  cases key <;> exact ⟨rfl, by rintro _ ⟨⟩ ⟨⟩⟩

/-- Where there is no section yet, there is an empty one. -/
theorem getD (tracks : Tracks library key found effects) :
    Tracks library key (some (found.getD emptyTable)) effects := by
  cases found with
  | none => exact ⟨tracks.left_eq, by rintro _ ⟨⟩ ⟨⟩⟩
  | some setting => exact tracks

theorem replaced (plain : value.isTable = false) (isList : Bool)
    (same : value.isList = true → isList = true) :
    Tracks library key (some value) (effects ++ [.replaced isList]) := by
  refine ⟨?_, ?_⟩
  · rw [Library.left, List.foldl_append, Option.bind_some,
      get?_of_not_isTable plain]
    rfl
  · rintro _ ⟨⟩ listed
    rw [List.getLast?_concat, same listed]

variable (lawful : library.Lawful)

include lawful

theorem child (tracks : Tracks library key (some setting) effects) :
    Tracks library key
      (some (library.assign value (.child name :: path) setting))
      (effects ++
        if lower name = key.name then [.given path value] else []) := by
  have isTable := @Library.Lawful.assign_child _ lawful value setting name path
  refine ⟨?_, ?_⟩
  · rw [Option.bind_some, lawful.get?_assign, Key.lower_name, Library.left,
      List.foldl_append, ← Library.left, tracks.left_eq, Option.bind_some]
    split <;> rfl
  · rintro _ ⟨⟩ listed
    generalize library.assign value (.child name :: path) setting = result
      at isTable listed
    cases result <;> contradiction

theorem mergeFields {fields : List (String × Setting)}
    (tracks : Tracks library key (some setting) effects) :
    Tracks library key (some (library.mergeFields fields setting))
      (effects ++ fields.filterMap fun field =>
        if lower field.1 = key.name then some (.given [] field.2) else none) := by
  induction fields generalizing setting effects with
  | nil =>
      rw [List.filterMap_nil, List.append_nil]
      exact tracks
  | cons field fields induction =>
      have first := @child _ _ _ _ field.2 field.1 [] lawful tracks
      have later := induction first
      rw [List.append_assoc] at later
      rw [List.filterMap_cons]
      split
      · next apart =>
        split at apart
        · cases apart
        · next other => rwa [if_neg other] at later
      · next effect named =>
        split at named
        · next same =>
          cases named
          rwa [if_pos same] at later
        · cases named

/-- The effects of a value that is set at a path of the section. -/
theorem within (tracks : Tracks library key found effects) :
    Tracks library key (some (library.give value path found))
      (effects ++ key.effectsWithin path value) := by
  match path, value with
  | [], .table origin fields => exact mergeFields lawful tracks.getD
  | [], .scalar _ _ | [], .list _ _ => exact replaced rfl _ id
  | .child name :: path, value => exact child lawful tracks.getD
  | .item position :: path, value =>
      have isList := @Library.Lawful.assign_item _ lawful value
        (found.getD emptyTable) position path
      rw [Library.give, Key.effectsWithin]
      refine replaced ?_ true fun _ => rfl
      generalize library.assign value (.item position :: path) _ = result
        at isList ⊢
      cases result with
      | list => rfl
      | scalar | table => cases isList

theorem assign (tracks : Tracks library key (root.get? key.part) effects) :
    Tracks library key
      ((library.assign value (.child first :: path) root).get? key.part)
      (effects ++ key.effects (.child first :: path, value)) := by
  rw [lawful.get?_assign, Key.lower_part, Key.effects]
  split
  · exact tracks.within lawful
  · rw [List.append_nil]
    exact tracks

/-- The effects of several values, one after the other. -/
theorem assignAll {pieces : List Piece}
    (named : ∀ piece ∈ pieces, ∃ first further, piece.1 = .child first :: further)
    (tracks : Tracks library key (root.get? key.part) effects) :
    Tracks library key ((library.assignAll root pieces).get? key.part)
      (effects ++ pieces.flatMap key.effects) := by
  induction pieces generalizing root effects with
  | nil =>
      rw [List.flatMap_nil, List.append_nil]
      exact tracks
  | cons piece pieces induction =>
      obtain ⟨⟨first, path, steps⟩, later⟩ := List.forall_mem_cons.mp named
      obtain ⟨_, value⟩ := piece
      obtain rfl := steps
      rw [List.flatMap_cons, ← List.append_assoc]
      exact induction later (tracks.assign lawful)

end Tracks

end Settings

end TreeQuery
