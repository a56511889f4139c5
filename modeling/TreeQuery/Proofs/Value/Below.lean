import Mathlib.Data.List.Forall2
import Mathlib.Logic.Relation
import TreeQuery.Value

/-!
# Values that hold more

A value lies below another one when lists, tuples and positional children are
matched one by one, and members of sets, entries of maps and named children each
have a counterpart in the other value.  Strings count as what they spell.
Editing a value so that nothing is lost gives a value above it.
-/

namespace TreeQuery

namespace Value

mutual

/-- The other value is built alike and holds a counterpart of every part. -/
def Below : Value → Value → Prop
  | map entries, map entries' => BelowEntries entries entries'
  | list items, list items' => BelowItems items items'
  | set items, set items' => BelowMembers items items'
  | tuple items, tuple items' => BelowItems items items'
  | constr kind name positional named,
      constr kind' name' positional' named' =>
      kind = kind' ∧ name = name' ∧ BelowItems positional positional' ∧
        BelowFields named named'
  | string text, string text' => text.plain = text'.plain
  | number digits, number digits' => digits = digits'
  | boolean truth, boolean truth' => truth = truth'
  | location place, location place' => place = place'
  | _, _ => False
termination_by structural value => value

/-- Each item lies below the one at its place. -/
def BelowItems : List Value → List Value → Prop
  | [], [] => True
  | value :: values, value' :: values' =>
      Below value value' ∧ BelowItems values values'
  | _, _ => False
termination_by structural values => values

/-- Each member lies below some member. -/
def BelowMembers : List Value → List Value → Prop
  | [], _ => True
  | value :: values, values' =>
      (∃ value' ∈ values', Below value value') ∧ BelowMembers values values'
termination_by structural values => values

/-- Each entry has its key and its value below those of some entry. -/
def BelowEntries : List (Value × Value) → List (Value × Value) → Prop
  | [], _ => True
  | entry :: entries, entries' =>
      (∃ entry' ∈ entries', BelowEntry entry entry') ∧
        BelowEntries entries entries'
termination_by structural entries => entries

def BelowEntry : Value × Value → Value × Value → Prop
  | (key, value), (key', value') => Below key key' ∧ Below value value'
termination_by structural entry => entry

/-- Each child lies below some child of its name. -/
def BelowFields : List (String × Value) → List (String × Value) → Prop
  | [], _ => True
  | field :: fields, fields' =>
      (∃ field' ∈ fields', BelowField field field') ∧ BelowFields fields fields'
termination_by structural fields => fields

def BelowField : String × Value → String × Value → Prop
  | (name, value), (name', value') => name = name' ∧ Below value value'
termination_by structural field => field

end

section

variable {items items' : List Value} {entries entries' : List (Value × Value)}
  {fields fields' : List (String × Value)}

theorem belowItems_iff_forall₂ :
    BelowItems items items' ↔ List.Forall₂ Below items items' := by
  induction items generalizing items' with
  | nil => cases items' <;> simp [BelowItems]
  | cons item items induction =>
      cases items' <;> simp [BelowItems, induction]

theorem belowMembers_iff :
    BelowMembers items items' ↔
      ∀ item ∈ items, ∃ item' ∈ items', item.Below item' := by
  induction items with
  | nil => simp [BelowMembers]
  | cons item items induction => simp [BelowMembers, induction]

theorem belowEntry_iff {entry entry' : Value × Value} :
    BelowEntry entry entry' ↔
      entry.1.Below entry'.1 ∧ entry.2.Below entry'.2 := by
  cases entry
  cases entry'
  rfl

theorem belowField_iff {field field' : String × Value} :
    BelowField field field' ↔
      field.1 = field'.1 ∧ field.2.Below field'.2 := by
  cases field
  cases field'
  rfl

theorem belowEntries_iff :
    BelowEntries entries entries' ↔
      ∀ entry ∈ entries, ∃ entry' ∈ entries', BelowEntry entry entry' := by
  induction entries with
  | nil => simp [BelowEntries]
  | cons entry entries induction =>
      rw [BelowEntries, induction, List.forall_mem_cons]

theorem belowFields_iff :
    BelowFields fields fields' ↔
      ∀ field ∈ fields, ∃ field' ∈ fields', BelowField field field' := by
  induction fields with
  | nil => simp [BelowFields]
  | cons field fields induction =>
      rw [BelowFields, induction, List.forall_mem_cons]

end

mutual

theorem below_refl (value : Value) : value.Below value := by
  match value with
  | map entries =>
      rw [Below, belowEntries_iff]
      intro entry member
      exact ⟨entry, member, belowEntries_refl entries entry member⟩
  | list items | tuple items =>
      rw [Below, belowItems_iff_forall₂]
      exact List.forall₂_same.mpr (belowItems_refl items)
  | set items =>
      rw [Below, belowMembers_iff]
      intro item member
      exact ⟨item, member, belowItems_refl items item member⟩
  | constr kind name positional named =>
      rw [Below, belowItems_iff_forall₂, belowFields_iff]
      refine ⟨rfl, rfl, List.forall₂_same.mpr (belowItems_refl positional), ?_⟩
      intro field member
      exact ⟨field, member, belowFields_refl named field member⟩
  | string _ | number _ | boolean _ | location _ => rfl
termination_by structural value

theorem belowItems_refl (items : List Value) :
    ∀ item ∈ items, item.Below item := by
  match items with
  | [] => exact List.forall_mem_nil _
  | item :: items =>
      exact List.forall_mem_cons.mpr ⟨below_refl item, belowItems_refl items⟩
termination_by structural items

theorem belowEntries_refl (entries : List (Value × Value)) :
    ∀ entry ∈ entries, BelowEntry entry entry := by
  match entries with
  | [] => exact List.forall_mem_nil _
  | entry :: entries =>
      exact List.forall_mem_cons.mpr
        ⟨belowEntry_refl entry, belowEntries_refl entries⟩
termination_by structural entries

theorem belowEntry_refl (entry : Value × Value) : BelowEntry entry entry := by
  match entry with
  | (key, value) => exact ⟨below_refl key, below_refl value⟩
termination_by structural entry

theorem belowFields_refl (fields : List (String × Value)) :
    ∀ field ∈ fields, BelowField field field := by
  match fields with
  | [] => exact List.forall_mem_nil _
  | field :: fields =>
      exact List.forall_mem_cons.mpr
        ⟨belowField_refl field, belowFields_refl fields⟩
termination_by structural fields

theorem belowField_refl (field : String × Value) : BelowField field field := by
  match field with
  | (_, value) => exact ⟨rfl, below_refl value⟩
termination_by structural field

end

/-! ## Edits that lose nothing -/

/-- One edit at some place of a value: members, entries and named children may
be added, repeated and put in another order, and a string may be spelled in
another way. -/
inductive Edited : Value → Value → Prop where
  | members {items items' : List Value} :
      items ⊆ items' → Edited (.set items) (.set items')
  | entries {entries entries' : List (Value × Value)} :
      entries ⊆ entries' → Edited (.map entries) (.map entries')
  | fields {kind : ConstructorKind} {name : String} {positional : List Value}
      {named named' : List (String × Value)} :
      named ⊆ named' →
      Edited (.constr kind name positional named)
        (.constr kind name positional named')
  | respelled {text text' : Text} :
      text.plain = text'.plain → Edited (.string text) (.string text')
  | inList {before behind : List Value} {value value' : Value} :
      Edited value value' →
      Edited (.list (before ++ value :: behind))
        (.list (before ++ value' :: behind))
  | inTuple {before behind : List Value} {value value' : Value} :
      Edited value value' →
      Edited (.tuple (before ++ value :: behind))
        (.tuple (before ++ value' :: behind))
  | inSet {before behind : List Value} {value value' : Value} :
      Edited value value' →
      Edited (.set (before ++ value :: behind))
        (.set (before ++ value' :: behind))
  | inKey {before behind : List (Value × Value)} {key key' value : Value} :
      Edited key key' →
      Edited (.map (before ++ (key, value) :: behind))
        (.map (before ++ (key', value) :: behind))
  | inEntry {before behind : List (Value × Value)} {key value value' : Value} :
      Edited value value' →
      Edited (.map (before ++ (key, value) :: behind))
        (.map (before ++ (key, value') :: behind))
  | inPositional {kind : ConstructorKind} {name : String}
      {before behind : List Value} {named : List (String × Value)}
      {value value' : Value} :
      Edited value value' →
      Edited (.constr kind name (before ++ value :: behind) named)
        (.constr kind name (before ++ value' :: behind) named)
  | inNamed {kind : ConstructorKind} {name : String} {positional : List Value}
      {before behind : List (String × Value)} {label : String}
      {value value' : Value} :
      Edited value value' →
      Edited
        (.constr kind name positional (before ++ (label, value) :: behind))
        (.constr kind name positional (before ++ (label, value') :: behind))

section

variable {α : Type} {related : α → α → Prop} {before behind : List α}
  {item item' : α}

private theorem exists_counterpart (unchanged : ∀ item, related item item)
    (changed : related item item') :
    ∀ inner ∈ before ++ item :: behind,
      ∃ inner' ∈ before ++ item' :: behind, related inner inner' := by
  intro inner member
  rcases List.mem_append.mp member with early | late
  · exact ⟨inner, List.mem_append_left _ early, unchanged inner⟩
  · rcases List.mem_cons.mp late with rfl | later
    · exact ⟨item', List.mem_append_right _ List.mem_cons_self, changed⟩
    · exact ⟨inner, List.mem_append_right _ (List.mem_cons_of_mem _ later),
        unchanged inner⟩

private theorem forall₂_replace (unchanged : ∀ item, related item item)
    (changed : related item item') :
    List.Forall₂ related (before ++ item :: behind)
      (before ++ item' :: behind) := by
  have same (items : List α) : List.Forall₂ related items items :=
    List.forall₂_same.mpr fun item _ => unchanged item
  exact List.rel_append (same before) (.cons changed (same behind))

end

/-- An edit gives a value above. -/
theorem below_of_edited {value value' : Value} (edited : Edited value value') :
    value.Below value' := by
  induction edited with
  | members kept =>
      rw [Below, belowMembers_iff]
      intro item member
      exact ⟨item, kept member, below_refl item⟩
  | entries kept =>
      rw [Below, belowEntries_iff]
      intro entry member
      exact ⟨entry, kept member, belowEntry_refl entry⟩
  | fields kept =>
      rw [Below, belowItems_iff_forall₂, belowFields_iff]
      refine ⟨rfl, rfl, List.forall₂_same.mpr fun item _ => below_refl item, ?_⟩
      intro field member
      exact ⟨field, kept member, belowField_refl field⟩
  | respelled same => exact same
  | inList _ below | inTuple _ below =>
      rw [Below, belowItems_iff_forall₂]
      exact forall₂_replace below_refl below
  | inSet _ below =>
      rw [Below, belowMembers_iff]
      exact exists_counterpart below_refl below
  | inKey _ below =>
      rw [Below, belowEntries_iff]
      exact exists_counterpart belowEntry_refl ⟨below, below_refl _⟩
  | inEntry _ below =>
      rw [Below, belowEntries_iff]
      exact exists_counterpart belowEntry_refl ⟨below_refl _, below⟩
  | inPositional _ below =>
      rw [Below, belowItems_iff_forall₂, belowFields_iff]
      refine ⟨rfl, rfl, forall₂_replace below_refl below, ?_⟩
      intro field member
      exact ⟨field, member, belowField_refl field⟩
  | inNamed _ below =>
      rw [Below, belowItems_iff_forall₂, belowFields_iff]
      refine ⟨rfl, rfl, List.forall₂_same.mpr fun item _ => below_refl item, ?_⟩
      exact exists_counterpart belowField_refl ⟨rfl, below⟩

end Value

end TreeQuery
