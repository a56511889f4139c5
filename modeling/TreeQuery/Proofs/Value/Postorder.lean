import Mathlib.Data.List.Perm.Basic
import TreeQuery.Proofs.Value.Listing

/-!
# Occurrences in post-order

The same occurrences as in the listing of a value, each behind the ones inside
it.  This is the order in which they are interned.
-/

namespace TreeQuery

namespace Value

mutual

/-- All occurrences of a value, the value itself last. -/
def postorder : Value → List Occurrence
  | map entries => postorderEntries entries ++ [.value (map entries)]
  | list items => postorderItems items ++ [.value (list items)]
  | set items => postorderItems items ++ [.value (set items)]
  | tuple items => postorderItems items ++ [.value (tuple items)]
  | constr kind name positional named =>
      postorderItems positional ++ postorderFields named ++
        [.value (constr kind name positional named)]
  | string text => [.value (string text)]
  | number digits => [.value (number digits)]
  | boolean truth => [.value (boolean truth)]
  | location place => [.value (location place)]

def postorderItems : List Value → List Occurrence
  | [] => []
  | value :: values => postorder value ++ postorderItems values

def postorderEntries : List (Value × Value) → List Occurrence
  | [] => []
  | (key, value) :: entries =>
      postorder key ++ postorder value ++ [.entry key value] ++
        postorderEntries entries

def postorderFields : List (String × Value) → List Occurrence
  | [] => []
  | (_, value) :: fields => postorder value ++ postorderFields fields

end

private theorem perm_of_last {α : Type} {items items' : List α} (item : α)
    (order : items.Perm items') : (items ++ [item]).Perm (item :: items') :=
  (List.perm_append_singleton item items).trans (order.cons item)

mutual

theorem postorder_perm (value : Value) :
    value.postorder.Perm value.listing := by
  match value with
  | map entries => exact perm_of_last _ (postorderEntries_perm entries)
  | list items | set items | tuple items =>
      exact perm_of_last _ (postorderItems_perm items)
  | constr kind name positional named =>
      exact perm_of_last _ ((postorderItems_perm positional).append
        (postorderFields_perm named))
  | string _ | number _ | boolean _ | location _ => exact .refl _
termination_by structural value

theorem postorderItems_perm (items : List Value) :
    (postorderItems items).Perm (listingItems items) := by
  match items with
  | [] => exact .refl _
  | value :: values =>
      exact (postorder_perm value).append (postorderItems_perm values)
termination_by structural items

theorem postorderEntries_perm (entries : List (Value × Value)) :
    (postorderEntries entries).Perm (listingEntries entries) := by
  match entries with
  | [] => exact .refl _
  | entry :: entries =>
      exact (postorderEntry_perm entry).append (postorderEntries_perm entries)
termination_by structural entries

theorem postorderEntry_perm (entry : Value × Value) :
    (entry.1.postorder ++ entry.2.postorder ++
      [Occurrence.entry entry.1 entry.2]).Perm
      (Occurrence.entry entry.1 entry.2).listing := by
  match entry with
  | (key, value) =>
      exact perm_of_last _ ((postorder_perm key).append (postorder_perm value))
termination_by structural entry

theorem postorderFields_perm (fields : List (String × Value)) :
    (postorderFields fields).Perm (listingFields fields) := by
  match fields with
  | [] => exact .refl _
  | (_, value) :: fields =>
      exact (postorder_perm value).append (postorderFields_perm fields)
termination_by structural fields

end

end Value

end TreeQuery
