import TreeQuery.Pattern.Reader
import TreeQuery.Proofs.Reading.TrackingItems

/-!
# The rule for patterns looks as far as the frontier

Whatever the reader of expressions accepts, an expression is one token; what it
refuses is objected to there.
-/

namespace TreeQuery.Pattern

open Reading

section

variable (readRegex : RegexReader) {item : Rule Pattern}
  {language : Language Token} {bound : Nat}

theorem regexRule_tracks (bound : Nat) :
    (regexRule readRegex).Tracks 2 bound (ofKinds [.regex]) := by
  apply ((Rule.token_tracks .regex 2 bound).map Token.body).located.inspect
  intro cursor word progress _ result _ start member objection objected
  have place := Rule.located_start result
  obtain ⟨token, among, same⟩ :=
    Rule.exists_start (fun empty => nil_not_mem_single (empty ▸ member)) start
  refine ⟨token, among, ?_⟩
  rw [← same, ← place]
  obtain ⟨⟨body, start⟩, next, passed⟩ := progress
  cases read : readRegex body with
  | ok expression => simp [read] at objected
  | error message => simp_all

theorem nameRule_tracks (bound : Nat) :
    (nameRule readRegex).Tracks 2 bound
      (ofKinds [.identifier, .string, .regex, .text]) := by
  have quoted (kind : Token.Kind) :
      (Rule.quoted kind).Tracks 2 bound (ofKinds [kind]) :=
    (Rule.token_tracks kind 2 bound).map _
  have each : Rule.TrackEach bound _
      ([Token.Kind.identifier, .string, .regex, .text].map fun kind =>
        ofKinds [kind]) :=
    .cons (((Rule.token_tracks .identifier 2 bound).map Token.written).map
        NamePattern.identifier) <|
      .cons ((quoted .string).map fun name => NamePattern.quoted name.plain) <|
      .cons ((regexRule_tracks readRegex bound).map NamePattern.regex) <|
      .cons ((quoted .text).map NamePattern.text) .nil
  have choice := each.firstOf (kinds_apart (by decide))
  rwa [sum_kinds] at choice

variable (shapely : Shapely .pattern language)
  (tracks : item.Tracks 2 bound language) (quiet : item.Quiet)

include shapely tracks quiet

theorem atomRule_tracks :
    (atomRule readRegex item).Tracks 2 (bound + 1) (atom loose .pattern language) := by
  have quoted (kind : Token.Kind) :
      (Rule.quoted kind).Tracks 2 (bound + 1) (ofKinds [kind]) :=
    (Rule.token_tracks kind 2 _).map _
  have wild : ((Rule.token .underscore).orElse (Rule.token .dot)).Tracks 2
      (bound + 1) (ofKinds [.underscore, .dot]) := by
    have choice := (Rule.token_tracks .underscore 2 (bound + 1)).orElse
      (Rule.token_tracks .dot 2 (bound + 1)) (Rule.token_quiet _)
      (Rule.token_quiet _) (fork_kinds (by decide))
    rwa [← ofKinds_append] at choice
  have arguments : (Rule.arguments (Rule.identifier.map .identifier) item
      fieldName?).Tracks 2 (bound + 1)
        (loose language) :=
    tracks.arguments shapely (((Rule.token_tracks .identifier 2 bound).map
        Token.written).map NamePattern.identifier)
      (((Rule.token_plain .identifier).map _).map _)
      (fun cursor => Rule.token_emitted) quiet
  have call := (nameRule_tracks readRegex (bound + 1)).andThen
    arguments shapely.solid_arguments.profile.inhabited single_separated
    (by omega)
  have each : Rule.TrackEach (bound + 1) _
      (Dialect.pattern.branches.map (Branch.language loose language)) :=
    .cons (wild.map fun _ => any) <|
      .cons (call.map fun parts => constr parts.1 parts.2.1 parts.2.2) <|
      .cons ((quoted .string).map string) <|
      .cons ((regexRule_tracks readRegex _).map regex) <|
      .cons ((quoted .text).map text) <|
      Rule.sharedRules_track tracks shapely map set list tuple number boolean
        location
  exact each.firstOf shapely.branches_apart

theorem termRule_tracks :
    (termRule (atomRule readRegex item)).Tracks 2 (bound + 1)
      (term (atom loose .pattern language)) := by
  have atoms := atomRule_tracks readRegex shapely tracks quiet
  have profile := shapely.atom_profile
  have proper := shapely.nil_not_mem_atom
  have before := ((Rule.token_tracks .star 2 (bound + 1)).andThen atoms
    profile.inhabited single_separated (by omega)).map Prod.snd
  have behind := atoms.andThen
    ((Rule.token_tracks .star 2 (bound + 1)).optional (by omega))
    (solid_kind .star).profile.optional.inhabited (separated_star profile)
    (by omega)
  have each (change : Pattern × Option Token → Pattern) :
      Rule.TrackEach (bound + 1) _
        [ofKinds [.star] * atom loose .pattern language,
        atom loose .pattern language * (1 + ofKinds [.star])] :=
    .cons (before.map star) <| .cons (behind.map change) .nil
  have choice (change : Pattern × Option Token → Pattern) :=
    (each change).firstOf (by
      simpa using (fork_star profile proper (by decide)).toApart)
  simp only [List.sum_cons, List.sum_nil, add_zero] at choice
  exact choice _

end

theorem rule_quiet (readRegex : RegexReader) (depth : Nat) :
    (rule readRegex depth).Quiet := by
  cases depth with
  | zero => exact fun _ _ _ => rfl
  | succ depth => exact (Rule.firstOf_quiet _ _).separatedChain.map _

/-- A rule for enough levels tracks the texts of any depth that are shorter. -/
theorem rule_tracks (readRegex : RegexReader) {depth depth' : Nat}
    (less : depth ≤ depth') :
    (rule readRegex depth).Tracks 2 depth (shapedWithin .pattern depth') := by
  induction depth generalizing depth' with
  | zero =>
      intro cursor short
      cases short
  | succ depth induction =>
      obtain _ | depth' := depth'
      · cases less
      · have shapely := shapely_shapedWithin .pattern depth'
        have proper := nil_not_mem_term shapely.nil_not_mem_atom
        have profile := term_profile shapely.atom_profile
          shapely.nil_not_mem_atom (by decide)
        have terms := termRule_tracks readRegex shapely
          (induction (Nat.le_of_succ_le_succ less)) (rule_quiet readRegex depth)
        exact (terms.separatedChain proper
          (profile.chained proper (by decide)).inhabited
          (profile.separated_behind (by decide))).map _

end TreeQuery.Pattern
