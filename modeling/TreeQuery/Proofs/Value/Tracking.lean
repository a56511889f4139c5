import TreeQuery.Proofs.Reading.TrackingItems
import TreeQuery.Value.Reader

/-!
# The rule for values looks as far as the frontier

By induction on the depth: inside the items there is less input left, and fewer
levels to go.
-/

namespace TreeQuery.Value

open Reading

section

variable {item : Rule Value} {language : Language Token} {bound : Nat}
  (shapely : Shapely .value language)
  (tracks : item.Tracks 2 bound language) (quiet : item.Quiet)

include shapely tracks quiet

theorem constrRule_tracks {kind : ConstructorKind} {name : Rule String}
    {names : List Token.Kind}
    (tracksName : name.Tracks 2 (bound + 1) (ofKinds names)) :
    (constrRule kind name item).Tracks 2 (bound + 1)
      (Branch.language loose language (.call names)) :=
  (tracksName.andThen
    (tracks.arguments shapely ((Rule.token_tracks _ 2 bound).map Token.written)
      ((Rule.token_plain _).map _)
      (fun cursor => Rule.token_emitted) quiet)
    shapely.solid_arguments.profile.inhabited single_separated
    (by omega)).map _

theorem otherRules_track :
    Rule.TrackEach (bound + 1)
      (constrRule .identifier Rule.identifier item :: otherRules item)
      (Dialect.value.branches.map (Branch.language loose language)) := by
  have text := (Rule.token_tracks .string 2 (bound + 1)).map fun found =>
    Text.decode found.body
  exact .cons (constrRule_tracks shapely tracks quiet
      ((Rule.token_tracks .identifier 2 _).map Token.written)) <|
    .cons (constrRule_tracks shapely tracks quiet (text.map Text.plain)) <|
    .cons (text.map string) <|
    Rule.sharedRules_track tracks shapely map set list tuple number boolean
      location

end

theorem rule_quiet (depth : Nat) : (rule depth).Quiet := by
  cases depth with
  | zero => exact fun _ _ _ => rfl
  | succ depth => exact Rule.firstOf_quiet _ _

/-- A rule for enough levels tracks the texts of any depth that are shorter. -/
theorem rule_tracks {depth depth' : Nat} (less : depth ≤ depth') :
    (rule depth).Tracks 2 depth (shapedWithin .value depth') := by
  induction depth generalizing depth' with
  | zero =>
      intro cursor short
      cases short
  | succ depth induction =>
      obtain _ | depth' := depth'
      · cases less
      · have shapely := shapely_shapedWithin .value depth'
        exact (otherRules_track shapely (induction (Nat.le_of_succ_le_succ less))
          (rule_quiet depth)).firstOf shapely.branches_apart

end TreeQuery.Value
