import Mathlib.Data.Set.Card
import TreeQuery.Proofs.Value.Arranged

/-!
# Classes of values

Being the same is an equivalence, for values and for map entries.  Its classes
are what is left of a value when the order of named children is forgotten, and a
list of trees has finitely many: one for each value and each map entry that
occurs in it, counted once however often it occurs.
-/

namespace TreeQuery

namespace Value

theorem sameFields_iff_forall₂ {fields fields' : List (String × Value)} :
    SameFields fields fields' ↔
      List.Forall₂ (fun field field' => field.1 = field'.1 ∧
        Same field.2 field'.2) fields fields' := by
  induction fields generalizing fields' with
  | nil => cases fields' <;> simp [SameFields]
  | cons field fields induction =>
      cases fields' <;> simp [SameFields, induction, and_assoc]

/-- Fields in another order are the same as others in a matching order. -/
theorem SameFields.rearrange {fields fields' others : List (String × Value)}
    (order : fields.Perm fields') (same : SameFields fields' others) :
    ∃ others', SameFields fields others' ∧ others'.Perm others := by
  obtain ⟨others', matching, order'⟩ :=
    List.perm_comp_forall₂ order (sameFields_iff_forall₂.mp same)
  exact ⟨others', sameFields_iff_forall₂.mpr matching, order'⟩

mutual

theorem Same.refl (value : Value) : value.Same value := by
  match value with
  | map entries => exact SameEntries.refl entries
  | list items | set items | tuple items => exact SameItems.refl items
  | constr kind name positional named =>
      exact ⟨rfl, rfl, SameItems.refl positional, named,
        SameFields.refl named, .refl named⟩
  | string _ | number _ | boolean _ | location _ => exact Eq.refl _
termination_by structural value

theorem SameItems.refl (items : List Value) : SameItems items items := by
  match items with
  | [] => trivial
  | value :: values => exact ⟨Same.refl value, SameItems.refl values⟩
termination_by structural items

theorem SameEntries.refl (entries : List (Value × Value)) :
    SameEntries entries entries := by
  match entries with
  | [] => trivial
  | entry :: entries => exact ⟨SameEntry.refl entry, SameEntries.refl entries⟩
termination_by structural entries

theorem SameEntry.refl (entry : Value × Value) : SameEntry entry entry := by
  match entry with
  | (key, value) => exact ⟨Same.refl key, Same.refl value⟩
termination_by structural entry

theorem SameFields.refl (fields : List (String × Value)) :
    SameFields fields fields := by
  match fields with
  | [] => trivial
  | (_, value) :: fields => exact ⟨rfl, Same.refl value, SameFields.refl fields⟩
termination_by structural fields

end

mutual

theorem Same.symm {value value' : Value} (same : value.Same value') :
    value'.Same value := by
  match value, value' with
  | map _, map _ => exact SameEntries.symm same
  | list _, list _ | set _, set _ | tuple _, tuple _ =>
      exact SameItems.symm same
  | constr _ _ _ named, constr _ _ _ _ =>
      obtain ⟨rfl, rfl, samePositional, arranged, sameNamed, order⟩ := same
      obtain ⟨arranged', sameNamed', order'⟩ :=
        (SameFields.symm sameNamed).rearrange order.symm
      exact ⟨rfl, rfl, SameItems.symm samePositional, arranged', sameNamed',
        order'⟩
  | string _, string _ | number _, number _ | boolean _, boolean _
  | location _, location _ => exact Eq.symm same
termination_by structural value

theorem SameItems.symm {items items' : List Value}
    (same : SameItems items items') : SameItems items' items := by
  match items, items' with
  | [], [] => trivial
  | _ :: _, _ :: _ => exact ⟨Same.symm same.1, SameItems.symm same.2⟩
  | [], _ :: _ | _ :: _, [] => exact same.elim
termination_by structural items

theorem SameEntries.symm {entries entries' : List (Value × Value)}
    (same : SameEntries entries entries') : SameEntries entries' entries := by
  match entries, entries' with
  | [], [] => trivial
  | _ :: _, _ :: _ => exact ⟨SameEntry.symm same.1, SameEntries.symm same.2⟩
  | [], _ :: _ | _ :: _, [] => exact same.elim
termination_by structural entries

theorem SameEntry.symm {entry entry' : Value × Value}
    (same : SameEntry entry entry') : SameEntry entry' entry := by
  match entry, entry' with
  | (_, _), (_, _) => exact ⟨Same.symm same.1, Same.symm same.2⟩
termination_by structural entry

theorem SameFields.symm {fields fields' : List (String × Value)}
    (same : SameFields fields fields') : SameFields fields' fields := by
  match fields, fields' with
  | [], [] => trivial
  | (_, _) :: _, (_, _) :: _ =>
      exact ⟨same.1.symm, Same.symm same.2.1, SameFields.symm same.2.2⟩
  | [], _ :: _ | _ :: _, [] => exact same.elim
termination_by structural fields

end

mutual

theorem Same.trans {value value' value'' : Value} (same : value.Same value')
    (same' : value'.Same value'') : value.Same value'' := by
  match value, value', value'' with
  | map _, map _, map _ => exact SameEntries.trans same same'
  | list _, list _, list _ | set _, set _, set _ | tuple _, tuple _, tuple _ =>
      exact SameItems.trans same same'
  | constr _ _ _ named, constr _ _ _ _, constr _ _ _ _ =>
      obtain ⟨rfl, rfl, samePositional, arranged, sameNamed, order⟩ := same
      obtain ⟨rfl, rfl, samePositional', arranged', sameNamed', order'⟩ := same'
      obtain ⟨spelled, sameSpelled, order''⟩ := sameNamed'.rearrange order
      exact ⟨rfl, rfl, SameItems.trans samePositional samePositional', spelled,
        SameFields.trans sameNamed sameSpelled, order''.trans order'⟩
  | string _, string _, string _ | number _, number _, number _
  | boolean _, boolean _, boolean _ | location _, location _, location _ =>
      exact Eq.trans same same'
termination_by structural value

theorem SameItems.trans {items items' items'' : List Value}
    (same : SameItems items items') (same' : SameItems items' items'') :
    SameItems items items'' := by
  match items, items', items'' with
  | [], [], [] => trivial
  | _ :: _, _ :: _, _ :: _ =>
      exact ⟨Same.trans same.1 same'.1, SameItems.trans same.2 same'.2⟩
  | [], _ :: _, _ | _ :: _, [], _ => exact same.elim
  | _, [], _ :: _ | _, _ :: _, [] => exact same'.elim
termination_by structural items

theorem SameEntries.trans {entries entries' entries'' : List (Value × Value)}
    (same : SameEntries entries entries')
    (same' : SameEntries entries' entries'') :
    SameEntries entries entries'' := by
  match entries, entries', entries'' with
  | [], [], [] => trivial
  | _ :: _, _ :: _, _ :: _ =>
      exact ⟨SameEntry.trans same.1 same'.1, SameEntries.trans same.2 same'.2⟩
  | [], _ :: _, _ | _ :: _, [], _ => exact same.elim
  | _, [], _ :: _ | _, _ :: _, [] => exact same'.elim
termination_by structural entries

theorem SameEntry.trans {entry entry' entry'' : Value × Value}
    (same : SameEntry entry entry') (same' : SameEntry entry' entry'') :
    SameEntry entry entry'' := by
  match entry, entry', entry'' with
  | (_, _), (_, _), (_, _) =>
      exact ⟨Same.trans same.1 same'.1, Same.trans same.2 same'.2⟩
termination_by structural entry

theorem SameFields.trans {fields fields' fields'' : List (String × Value)}
    (same : SameFields fields fields')
    (same' : SameFields fields' fields'') : SameFields fields fields'' := by
  match fields, fields', fields'' with
  | [], [], [] => trivial
  | (_, _) :: _, (_, _) :: _, (_, _) :: _ =>
      exact ⟨same.1.trans same'.1, Same.trans same.2.1 same'.2.1,
        SameFields.trans same.2.2 same'.2.2⟩
  | [], _ :: _, _ | _ :: _, [], _ => exact same.elim
  | _, [], _ :: _ | _, _ :: _, [] => exact same'.elim
termination_by structural fields

end

/-- Values up to the order of named children. -/
def setoid : Setoid Value :=
  ⟨Same, Same.refl, Same.symm, Same.trans⟩

/-- Map entries whose keys and whose values are the same. -/
def entrySetoid : Setoid (Value × Value) :=
  ⟨SameEntry, SameEntry.refl, SameEntry.symm, SameEntry.trans⟩

/-- The classes of the values that occur in the trees. -/
def classes (trees : List Value) : Set (Quotient setoid) :=
  {found | ∃ value, Occurrence.value value ∈ listingItems trees ∧
    Quotient.mk setoid value = found}

/-- The classes of the map entries that occur in the trees. -/
def entryClasses (trees : List Value) : Set (Quotient entrySetoid) :=
  {found | ∃ key value, Occurrence.entry key value ∈ listingItems trees ∧
    Quotient.mk entrySetoid (key, value) = found}

theorem mem_listingItems_iff {trees : List Value} {occurrence : Occurrence} :
    occurrence ∈ listingItems trees ↔
      ∃ tree ∈ trees, occurrence ∈ tree.listing := by
  rw [Occurrence.listingItems_eq, List.flatMap_map, List.mem_flatMap]
  rfl

end Value

namespace Occurrence

variable {occurrence occurrence' : Occurrence}

/-- The class of a value or of a map entry. -/
def classOf :
    Occurrence → Quotient Value.setoid ⊕ Quotient Value.entrySetoid
  | value tree => .inl (Quotient.mk _ tree)
  | entry key tree => .inr (Quotient.mk _ (key, tree))

theorem classOf_eq_iff :
    occurrence.classOf = occurrence'.classOf ↔ occurrence.Same occurrence' := by
  cases occurrence <;> cases occurrence' <;>
    simp only [classOf, Sum.inl.injEq, Sum.inr.injEq, Quotient.eq, Same,
      reduceCtorEq]
  · rfl
  · rfl

/-- The classes of what occurs in trees are those of its values and those of its
map entries. -/
theorem image_classOf (trees : List Value) :
    classOf '' {occurrence | occurrence ∈ Value.listingItems trees} =
      Sum.inl '' Value.classes trees ∪ Sum.inr '' Value.entryClasses trees := by
  ext found
  constructor
  · intro among
    obtain ⟨occurrence, member, rfl⟩ := among
    cases occurrence with
    | value tree => exact .inl ⟨_, ⟨tree, member, rfl⟩, rfl⟩
    | entry key tree => exact .inr ⟨_, ⟨key, tree, member, rfl⟩, rfl⟩
  · intro among
    rcases among with ⟨_, ⟨tree, member, rfl⟩, rfl⟩ |
      ⟨_, ⟨key, tree, member, rfl⟩, rfl⟩
    · exact ⟨.value tree, member, rfl⟩
    · exact ⟨.entry key tree, member, rfl⟩

theorem encard_image_classOf (trees : List Value) :
    (classOf '' {occurrence |
      occurrence ∈ Value.listingItems trees}).encard =
      (Value.classes trees).encard + (Value.entryClasses trees).encard := by
  have apart : Disjoint (Sum.inl '' Value.classes trees)
      (Sum.inr '' Value.entryClasses trees) :=
    Set.disjoint_image_inl_image_inr
  rw [image_classOf, Set.encard_union_eq apart,
    Sum.inl_injective.encard_image, Sum.inr_injective.encard_image]

end Occurrence

end TreeQuery
