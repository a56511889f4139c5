import TreeQuery.Proofs.Value.Postorder
import TreeQuery.Proofs.Value.Same

/-!
# Values arranged as they were first met

Occurrences are met one after the other.  Of the constructors that are the same,
the one that was met first decides the order of the named children of all, and a
value is arranged by putting the named children of each of its constructors in
that order.
-/

namespace TreeQuery

namespace Occurrence

/-- Equality of occurrences up to the order of named children. -/
def Same : Occurrence → Occurrence → Prop
  | value tree, value tree' => tree.Same tree'
  | entry key tree, entry key' tree' =>
      Value.SameEntry (key, tree) (key', tree')
  | _, _ => False

/-- The occurrence is met, and nothing met before it is the same. -/
def FirstMet (met : List Occurrence) (occurrence : Occurrence) : Prop :=
  ∃ before behind, met = before ++ occurrence :: behind ∧
    ∀ earlier ∈ before, ¬ earlier.Same occurrence

section

variable {met more : List Occurrence} {first first' : Occurrence}

theorem FirstMet.append (isFirst : FirstMet met first) :
    FirstMet (met ++ more) first := by
  obtain ⟨before, behind, rfl, fresh⟩ := isFirst
  exact ⟨before, behind ++ more, by simp, fresh⟩

theorem FirstMet.last (fresh : ∀ earlier ∈ met, ¬ earlier.Same first) :
    FirstMet (met ++ [first]) first :=
  ⟨met, [], rfl, fresh⟩

/-- Of the occurrences that are the same, only one is met first. -/
theorem FirstMet.unique (isFirst : FirstMet met first)
    (isFirst' : FirstMet met first') (same : first.Same first')
    (same' : first'.Same first) : first = first' := by
  obtain ⟨before, behind, rfl, fresh⟩ := isFirst
  obtain ⟨before', behind', split, fresh'⟩ := isFirst'
  rcases List.append_eq_append_iff.mp split with
    ⟨between, rfl, rest⟩ | ⟨between, rfl, rest⟩
  · cases between with
    | nil => exact (List.cons.inj rest).1
    | cons head between =>
        obtain rfl := (List.cons.inj rest).1
        exact absurd same (fresh' first (by simp))
  · cases between with
    | nil => exact (List.cons.inj rest).1.symm
    | cons head between =>
        obtain rfl := (List.cons.inj rest).1
        exact absurd same' (fresh first' (by simp))

end

end Occurrence

namespace Value

mutual

/-- The second value is the first one with the named children of every
constructor in the order of the constructor that is the same and was met
first.  Children of one name are told apart by what they are, so children that
are the same may change places. -/
def Arranged (met : List Occurrence) : Value → Value → Prop
  | map entries, map entries' => ArrangedEntries met entries entries'
  | list items, list items' => ArrangedItems met items items'
  | set items, set items' => ArrangedItems met items items'
  | tuple items, tuple items' => ArrangedItems met items items'
  | constr kind name positional named,
      constr kind' name' positional' named' =>
      kind = kind' ∧ name = name' ∧ ArrangedItems met positional positional' ∧
        (∃ arranged, ArrangedFields met named arranged ∧
          arranged.Perm named') ∧
        ∃ items fields,
          Occurrence.FirstMet met (.value (constr kind name items fields)) ∧
          Same (constr kind name positional named)
            (constr kind name items fields) ∧
          SameFields fields named'
  | string text, string text' => text = text'
  | number digits, number digits' => digits = digits'
  | boolean truth, boolean truth' => truth = truth'
  | location place, location place' => place = place'
  | _, _ => False
termination_by structural value => value

def ArrangedItems (met : List Occurrence) : List Value → List Value → Prop
  | [], [] => True
  | value :: values, value' :: values' =>
      Arranged met value value' ∧ ArrangedItems met values values'
  | _, _ => False
termination_by structural values => values

def ArrangedEntries (met : List Occurrence) :
    List (Value × Value) → List (Value × Value) → Prop
  | [], [] => True
  | entry :: entries, entry' :: entries' =>
      ArrangedEntry met entry entry' ∧ ArrangedEntries met entries entries'
  | _, _ => False
termination_by structural entries => entries

def ArrangedEntry (met : List Occurrence) :
    Value × Value → Value × Value → Prop
  | (key, value), (key', value') =>
      Arranged met key key' ∧ Arranged met value value'
termination_by structural entry => entry

/-- The names are the same, one by one. -/
def ArrangedFields (met : List Occurrence) :
    List (String × Value) → List (String × Value) → Prop
  | [], [] => True
  | (name, value) :: fields, (name', value') :: fields' =>
      name = name' ∧ Arranged met value value' ∧
        ArrangedFields met fields fields'
  | _, _ => False
termination_by structural fields => fields

end

end Value

end TreeQuery
