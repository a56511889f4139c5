import Mathlib.Data.List.Induction
import TreeQuery.Proofs.Settings.Layers

/-!
# Overrides of keys

Overrides are set in an order that is not known.  Where each of them is one of a
key, or has no effect on any key, at most one of those that are kept has an effect
on a key: the last one of this key.
-/

namespace TreeQuery

open Setting

namespace Settings

namespace Library

/-- The layer has no effect on any key. -/
def Foreign (library : Library) (layer : Layer) : Prop :=
  ∀ piece ∈ library.piecesOf layer, ∀ key : Key, key.effects piece = []

/-- Each override is one of a key or has no effect on any key. -/
def Admits (library : Library) (layers : List Layer) : Prop :=
  ∀ path value, .override path value ∈ layers →
    (∃ key : Key, path = key.path) ∨ library.Foreign (.override path value)

end Library

namespace Key

/-- The value of the key that the layer overrides. -/
def overriding? (key : Key) : Layer → Option Setting
  | .override path value => if path = key.path then some value else none
  | .file _ _ _ => none

/-- The value of the last override of the key. -/
def override? (key : Key) (layers : List Layer) : Option Setting :=
  (layers.filterMap key.overriding?).getLast?

/-- Of what is kept, only the value of this override has an effect on the key. -/
structure Keeps (key : Key) (kept : List Piece) (value : Option Setting) :
    Prop where
  filter_eq : kept.filter (fun piece => piece.1 == key.steps) =
    value.toList.map fun value => (key.steps, value)
  effects_eq : ∀ piece ∈ kept, piece.1 ≠ key.steps → key.effects piece = []

theorem steps_injective {key other : Key} (same : key.steps = other.steps) :
    key = other := by
  cases key <;> cases other <;> simp [steps, part, name] at same ⊢

theorem path_injective {key other : Key} (same : key.path = other.path) :
    key = other := by
  cases key <;> cases other <;> simp [path, part, name] at same ⊢

theorem effects_steps_ne_nil (key : Key) (value : Setting) :
    key.effects (key.steps, value) ≠ [] := by
  rw [effects_steps, if_pos rfl]
  exact List.cons_ne_nil _ _

section

variable {key : Key} {library : Library} {kept pieces : List Piece}
  {layer : Layer} {layers : List Layer} {old : Option Setting} {piece : Piece}

/-- What is set at a path takes the place of what was set there. -/
theorem Keeps.put (keeps : key.Keeps kept old)
    (apart : piece.1 ≠ key.steps → key.effects piece = []) :
    key.Keeps (kept.filter (fun other => other.1 != piece.1) ++ [piece])
      (if piece.1 = key.steps then some piece.2 else old) := by
  refine ⟨?_, ?_⟩
  · rw [List.filter_append, List.filter_filter]
    by_cases same : piece.1 = key.steps
    · have none : kept.filter (fun other =>
          other.1 == key.steps && other.1 != piece.1) = [] := by
        refine List.filter_eq_nil_iff.mpr fun other _ => ?_
        simp [same]
      rw [none, if_pos same, List.filter_singleton]
      simp [← same]
    · have others : kept.filter (fun other =>
          other.1 == key.steps && other.1 != piece.1) =
            kept.filter fun other => other.1 == key.steps := by
        refine List.filter_congr fun other _ => ?_
        by_cases here : other.1 = key.steps
        · simp [here, Ne.symm same]
        · simp [here]
      rw [others, keeps.filter_eq, if_neg same, List.filter_singleton,
        beq_eq_false_iff_ne.mpr same]
      exact List.append_nil _
  · refine List.forall_mem_append.mpr ⟨fun other member => ?_, ?_⟩
    · exact keeps.effects_eq other (List.mem_filter.mp member).1
    · exact List.forall_mem_singleton.mpr apart

variable (lawful : library.Lawful)

include lawful

theorem piecesOf_override (value : Setting) :
    library.piecesOf (.override key.path value) = [(key.steps, value)] := by
  rw [Library.piecesOf, lawful.steps_path]

theorem overriding?_of_foreign (foreign : library.Foreign layer) :
    key.overriding? layer = none := by
  cases layer with
  | file => rfl
  | override path value =>
      refine if_neg ?_
      rintro rfl
      have effects := foreign (key.steps, value)
        (by rw [piecesOf_override lawful]; exact List.mem_singleton_self _) key
      exact absurd effects (key.effects_steps_ne_nil value)

theorem Keeps.keep (keeps : key.Keeps kept old)
    (isOverride : layer.isOverride = true)
    (admitted : (∃ (target : Key) (value : Setting),
      layer = .override target.path value) ∨ library.Foreign layer) :
    key.Keeps (library.keep kept layer) ((key.overriding? layer).or old) := by
  rcases admitted with ⟨target, value, rfl⟩ | foreign
  · have stays := @Keeps.put key kept old (target.steps, value) keeps
    rw [Library.keep, piecesOf_override lawful, overriding?]
    by_cases same : target = key
    · subst same
      simpa using stays fun apart => absurd rfl apart
    · have otherSteps : target.steps ≠ key.steps := fun steps =>
        same (steps_injective steps)
      have otherPath : target.path ≠ key.path := fun path =>
        same (path_injective path)
      have none : key.effects (target.steps, value) = [] := by
        rw [effects_steps, if_neg same]
      simpa [otherSteps, otherPath] using stays fun _ => none
  · rw [overriding?_of_foreign lawful foreign]
    cases layer with
    | file => cases isOverride
    | override path value =>
        rw [Library.Foreign, Library.piecesOf] at foreign
        rw [Library.keep, Library.piecesOf]
        cases read : library.steps path with
        | error flaw => exact keeps
        | ok steps =>
            rw [read, List.forall_mem_singleton] at foreign
            have apart : steps ≠ key.steps := by
              rintro rfl
              exact key.effects_steps_ne_nil value (foreign key)
            have stays := @Keeps.put key kept old (steps, value) keeps
              fun _ => foreign key
            rw [if_neg apart] at stays
            exact stays

end

end Key

end Settings

end TreeQuery
