import TreeQuery.Proofs.Related
import TreeQuery.Proofs.Value.Below

/-!
# Values that are spelled in another way

A value is respelled by putting the named children of its constructors in
another order and by writing the characters of its strings in another way, at
any depth.  Nothing is lost, so the value lies below the respelled one.
-/

namespace TreeQuery

namespace Value

mutual

/-- The values differ at most in the order of named children and in how strings
are spelled. -/
def Respelled : Value → Value → Prop
  | map entries, map entries' => RespelledEntries entries entries'
  | list items, list items' => RespelledItems items items'
  | set items, set items' => RespelledItems items items'
  | tuple items, tuple items' => RespelledItems items items'
  | constr kind name positional named,
      constr kind' name' positional' named' =>
      kind = kind' ∧ name = name' ∧ RespelledItems positional positional' ∧
        ∃ arranged, RespelledFields named arranged ∧ arranged.Perm named'
  | string text, string text' => text.plain = text'.plain
  | number digits, number digits' => digits = digits'
  | boolean truth, boolean truth' => truth = truth'
  | location place, location place' => place = place'
  | _, _ => False
termination_by structural value => value

def RespelledItems : List Value → List Value → Prop
  | [], [] => True
  | value :: values, value' :: values' =>
      Respelled value value' ∧ RespelledItems values values'
  | _, _ => False
termination_by structural values => values

def RespelledEntries : List (Value × Value) → List (Value × Value) → Prop
  | [], [] => True
  | entry :: entries, entry' :: entries' =>
      RespelledEntry entry entry' ∧ RespelledEntries entries entries'
  | _, _ => False
termination_by structural entries => entries

def RespelledEntry : Value × Value → Value × Value → Prop
  | (key, value), (key', value') => Respelled key key' ∧ Respelled value value'
termination_by structural entry => entry

/-- The names are the same, one by one. -/
def RespelledFields : List (String × Value) → List (String × Value) → Prop
  | [], [] => True
  | (name, value) :: fields, (name', value') :: fields' =>
      name = name' ∧ Respelled value value' ∧ RespelledFields fields fields'
  | _, _ => False
termination_by structural fields => fields

end

mutual

/-- A value lies below every respelling of it. -/
theorem Respelled.below {value value' : Value}
    (respelled : value.Respelled value') : value.Below value' := by
  match value, value' with
  | map entries, map _ =>
      rw [Below, belowEntries_iff]
      exact exists_mem_of_forall₂ (RespelledEntries.below respelled).flip
  | list items, list _ | tuple items, tuple _ =>
      exact belowItems_iff_forall₂.mpr (RespelledItems.below respelled)
  | set items, set _ =>
      rw [Below, belowMembers_iff]
      exact exists_mem_of_forall₂ (RespelledItems.below respelled).flip
  | constr kind name positional named, constr _ _ _ _ =>
      obtain ⟨rfl, rfl, items, arranged, fields, order⟩ := respelled
      refine ⟨rfl, rfl, belowItems_iff_forall₂.mpr (RespelledItems.below items),
        belowFields_iff.mpr ?_⟩
      intro field member
      obtain ⟨field', member', below⟩ :=
        exists_mem_of_forall₂ (RespelledFields.below fields).flip field member
      exact ⟨field', order.mem_iff.mp member', below⟩
  | string _, string _ | number _, number _ | boolean _, boolean _
  | location _, location _ => exact respelled
termination_by structural value

theorem RespelledItems.below {items items' : List Value}
    (respelled : RespelledItems items items') :
    List.Forall₂ Below items items' := by
  match items, items' with
  | [], [] => exact .nil
  | item :: items, _ :: _ =>
      exact .cons respelled.1.below (RespelledItems.below respelled.2)
termination_by structural items

theorem RespelledEntries.below {entries entries' : List (Value × Value)}
    (respelled : RespelledEntries entries entries') :
    List.Forall₂ BelowEntry entries entries' := by
  match entries, entries' with
  | [], [] => exact .nil
  | entry :: entries, _ :: _ =>
      exact .cons (RespelledEntry.below respelled.1)
        (RespelledEntries.below respelled.2)
termination_by structural entries

theorem RespelledEntry.below {entry entry' : Value × Value}
    (respelled : RespelledEntry entry entry') : BelowEntry entry entry' := by
  match entry, entry' with
  | (key, value), (_, _) => exact ⟨respelled.1.below, respelled.2.below⟩
termination_by structural entry

theorem RespelledFields.below {fields fields' : List (String × Value)}
    (respelled : RespelledFields fields fields') :
    List.Forall₂ BelowField fields fields' := by
  match fields, fields' with
  | [], [] => exact .nil
  | (_, value) :: fields, _ :: _ =>
      exact .cons ⟨respelled.1, respelled.2.1.below⟩
        (RespelledFields.below respelled.2.2)
termination_by structural fields

end

end Value

end TreeQuery
