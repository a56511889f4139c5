import TreeQuery.Value

/-!
# Occurrences in pre-order

The listing of a value names every value and every map entry that occurs in it,
each before the ones inside it.  A part that occurs twice is listed twice.
-/

namespace TreeQuery

/-- A value or a map entry at some place of a tree. -/
inductive Occurrence where
  | value (value : Value)
  | entry (key value : Value)

namespace Value

mutual

/-- All occurrences of a value in the order of reading.  A map is followed by
its entries, and an entry by what lies in its key and in its value. -/
def listing : Value → List Occurrence
  | map entries => .value (map entries) :: listingEntries entries
  | list items => .value (list items) :: listingItems items
  | set items => .value (set items) :: listingItems items
  | tuple items => .value (tuple items) :: listingItems items
  | constr kind name positional named =>
      .value (constr kind name positional named) ::
        (listingItems positional ++ listingFields named)
  | string text => [.value (string text)]
  | number digits => [.value (number digits)]
  | boolean truth => [.value (boolean truth)]
  | location place => [.value (location place)]

def listingItems : List Value → List Occurrence
  | [] => []
  | value :: values => listing value ++ listingItems values

def listingEntries : List (Value × Value) → List Occurrence
  | [] => []
  | (key, value) :: entries =>
      .entry key value ::
        (listing key ++ listing value ++ listingEntries entries)

def listingFields : List (String × Value) → List Occurrence
  | [] => []
  | (_, value) :: fields => listing value ++ listingFields fields

end

end Value

namespace Occurrence

/-- All occurrences in an occurrence, itself first. -/
def listing : Occurrence → List Occurrence
  | value tree => tree.listing
  | entry key tree => entry key tree :: (key.listing ++ tree.listing)

/-- The occurrences directly inside. -/
def parts : Occurrence → List Occurrence
  | value (.map entries) => entries.map fun (key, tree) => entry key tree
  | value (.list items) => items.map value
  | value (.set items) => items.map value
  | value (.tuple items) => items.map value
  | value (.constr _ _ positional named) =>
      positional.map value ++ named.map fun (_, tree) => value tree
  | value (.string _) => []
  | value (.number _) => []
  | value (.boolean _) => []
  | value (.location _) => []
  | entry key tree => [value key, value tree]

theorem listingItems_eq (items : List Value) :
    Value.listingItems items = (items.map value).flatMap listing := by
  induction items with
  | nil => rfl
  | cons item items induction =>
      rw [Value.listingItems, List.map_cons, List.flatMap_cons, induction,
        listing]

theorem listingEntries_eq (entries : List (Value × Value)) :
    Value.listingEntries entries =
      (entries.map fun (key, tree) => entry key tree).flatMap listing := by
  induction entries with
  | nil => rfl
  | cons first entries induction =>
      rw [Value.listingEntries, List.map_cons, List.flatMap_cons, induction,
        listing, List.cons_append]

theorem listingFields_eq (fields : List (String × Value)) :
    Value.listingFields fields =
      (fields.map fun (_, tree) => value tree).flatMap listing := by
  induction fields with
  | nil => rfl
  | cons field fields induction =>
      rw [Value.listingFields, List.map_cons, List.flatMap_cons, induction,
        listing]

/-- An occurrence is listed before what lies in its parts. -/
theorem listing_eq (occurrence : Occurrence) :
    occurrence.listing = occurrence :: occurrence.parts.flatMap listing := by
  cases occurrence with
  | entry key tree => simp [listing, parts]
  | value tree =>
      cases tree with
      | map entries =>
          rw [listing, Value.listing, listingEntries_eq, parts]
      | list items | set items | tuple items =>
          rw [listing, Value.listing, listingItems_eq, parts]
      | constr kind name positional named =>
          rw [listing, Value.listing, listingItems_eq, listingFields_eq, parts,
            List.flatMap_append]
      | string | number | boolean | location => rfl

end Occurrence

end TreeQuery
