import TreeQuery.Proofs.Pattern.Completeness
import TreeQuery.Proofs.Pattern.Alike
import TreeQuery.Proofs.Reading.Failures

/-!
# Stars around a pattern

An atom takes one star, in front or behind.  A term that has its star takes no
other one: the rule for terms reads a star and an atom, or an atom and a star,
and neither begins or goes on with a star.
-/

namespace TreeQuery

open Reading

namespace Pattern

variable {readRegex : RegexReader} {source : String} {pattern : Pattern}

theorem valid_of_readWith (read : readWith readRegex source = .ok pattern) :
    ∀ token ∈ tokenize source, token.kind ≠ .invalid :=
  valid_of_readAll (fun _ => rule_grounded readRegex _) read

section

variable {tokens tokens' after after' rest : List Token} {inner : Pattern}
  {mark mark' : Token}

/-- Two atoms that begin the same tokens are one, unless a parenthesis follows
one of them. -/
theorem DerivesAtom.eq_of_append (derived : DerivesAtom readRegex tokens pattern)
    (derived' : DerivesAtom readRegex tokens' inner)
    (same : tokens ++ after = tokens' ++ after')
    (ends : ∀ token ∈ after.head?, token.kind ≠ .openParen)
    (ends' : ∀ token ∈ after'.head?, token.kind ≠ .openParen) :
    tokens = tokens' := by
  have reads {piece behind : List Token} {found : Pattern}
      (derived : DerivesAtom readRegex piece found)
      (split : tokens ++ after = piece ++ behind)
      (ends : ∀ token ∈ behind.head?, token.kind ≠ .openParen) :
      (atomRule readRegex (rule readRegex (tokens ++ after).length)).Reads
        ⟨tokens ++ after, 0, 0⟩ found ⟨behind, piece.length, 0⟩ := by
    refine atomRule_complete (rule_complete _) ⟨?_, derived⟩
      ⟨split, (Nat.zero_add _).symm, rfl⟩ ?_
    · rw [split, List.length_append]
      omega
    · intro kind member
      obtain ⟨token, first, rfl⟩ := Option.map_eq_some_iff.mp member
      exact ends token first
  obtain ⟨passed, outcome⟩ := reads derived rfl ends
  obtain ⟨passed', outcome'⟩ := reads derived' same ends'
  rw [outcome] at outcome'
  have lengths : tokens.length = tokens'.length := by
    simp only [Outcome.mk.injEq, Except.ok.injEq, Progress.mk.injEq,
      Cursor.mk.injEq] at outcome'
    exact outcome'.2.2.1.2.1
  exact (List.append_inj same lengths).1

theorem DerivesAtom.head_ne_star (derived : DerivesAtom readRegex tokens pattern)
    (split : tokens ++ after = mark :: rest) : mark.kind ≠ .star := by
  obtain ⟨first, others, rfl, kind⟩ := derived.exists_first
  obtain ⟨rfl, -⟩ := List.cons.inj split
  intro isStar
  rw [isStar] at kind
  simp [atomKinds] at kind

/-- The first term of a pattern ends with it, or before a bar. -/
theorem Derives.exists_term (derived : Derives readRegex tokens pattern) :
    ∃ piece rest first, tokens = piece ++ rest ∧
      DerivesTerm readRegex piece first ∧
      ∀ token ∈ rest.head?, token.kind = .alternation := by
  cases derived with
  | term found =>
      exact ⟨tokens, [], pattern, (List.append_nil _).symm, found, nofun⟩
  | or chained terms =>
      cases chained with
      | @more bar _ later _ kind _ =>
          cases terms with
          | cons found _ =>
              refine ⟨_, bar :: later, _, rfl, found, ?_⟩
              intro token member
              cases member
              exact kind

section

variable (isStar : mark.kind = .star) (isStar' : mark'.kind = .star)

include isStar isStar'

theorem not_derives_two_before :
    ¬Derives readRegex (mark :: mark' :: rest) pattern := by
  intro derived
  obtain ⟨piece, behind, first, split, term, -⟩ := derived.exists_term
  cases term with
  | atom found => exact found.head_ne_star split.symm isStar
  | starBefore _ found =>
      exact found.head_ne_star (List.cons.inj split).2.symm isStar'
  | starBehind _ found =>
      rw [List.append_assoc] at split
      exact found.head_ne_star split.symm isStar

variable (atom : DerivesAtom readRegex tokens inner)

include atom

theorem not_derives_between :
    ¬Derives readRegex (mark :: (tokens ++ mark' :: rest)) pattern := by
  intro derived
  obtain ⟨piece, behind, first, split, term, ends⟩ := derived.exists_term
  cases term with
  | atom found => exact found.head_ne_star split.symm isStar
  | starBehind _ found =>
      rw [List.append_assoc] at split
      exact found.head_ne_star split.symm isStar
  | starBefore _ found =>
      -- The atom is read up to the star behind it, and no bar follows there.
      have same := (List.cons.inj split).2
      obtain rfl := atom.eq_of_append found same (by simp [isStar'])
        fun token member => by simp [ends token member]
      have there := List.append_cancel_left same
      have bar := ends mark' (by rw [← there]; rfl)
      rw [isStar'] at bar
      cases bar

theorem not_derives_two_behind :
    ¬Derives readRegex (tokens ++ mark :: mark' :: rest) pattern := by
  intro derived
  obtain ⟨piece, behind, first, split, term, ends⟩ := derived.exists_term
  cases term with
  | atom found =>
      obtain rfl := atom.eq_of_append found split (by simp [isStar])
        fun token member => by simp [ends token member]
      have there := List.append_cancel_left split
      have bar := ends mark (by rw [← there]; rfl)
      rw [isStar] at bar
      cases bar
  | starBefore kind => exact atom.head_ne_star split kind
  | @starBehind found piece _ kind read =>
      rw [List.append_assoc, List.singleton_append] at split
      obtain rfl := atom.eq_of_append read split (by simp [isStar])
        (by simp [kind])
      have there := (List.cons.inj (List.append_cancel_left split)).2
      have bar := ends mark' (by rw [← there]; rfl)
      rw [isStar'] at bar
      cases bar

end

end

/-- A star in front of an accepted text without alternation, or behind it, gives
the repeated pattern if the pattern had no star yet, and otherwise no pattern at
all. -/
theorem readWith_starred (readRegex : RegexReader) (source : String)
    (pattern : Pattern) (read : readWith readRegex source = .ok pattern)
    (single : ∀ options, pattern ≠ .or options) (text : String)
    (starred : text = "*" ++ source ∨ text = source ++ "*")
    (pattern' : Pattern) :
    readWith readRegex text = .ok pattern' ↔
      pattern' = star pattern ∧ ∀ inner, pattern ≠ repeated inner := by
  have derived := derives_of_readWith read
  obtain ⟨mark, isStar, behind⟩ := tokenize_append_star (valid_of_readWith read)
  obtain ⟨mark', isStar', before⟩ := tokenize_star_append source
  rcases derived.atom_cases single with ⟨atom, plain⟩ | ⟨star, piece, inner,
    rfl, kind, atom, split⟩
  · have accepted : readWith readRegex text = .ok (Pattern.star pattern) := by
      apply readWith_of_derives
      rw [atom.star_eq]
      rcases starred with rfl | rfl
      · rw [before]
        exact .term (.starBefore isStar' atom.moved)
      · rw [behind]
        exact .term (.starBehind isStar atom)
    rw [accepted]
    constructor
    · intro same
      exact ⟨(Except.ok.inj same).symm, plain⟩
    · intro both
      rw [both.1]
  · refine iff_of_false ?_ fun both => both.2 inner rfl
    intro found
    have derived' := derives_of_readWith found
    rcases starred with rfl | rfl
    · have further : (star.moved 1).kind = .star := kind
      rw [before] at derived'
      rcases split with same | same
      · rw [same] at derived'
        exact not_derives_two_before isStar' further derived'
      · rw [same, List.map_append] at derived'
        exact not_derives_between isStar' further atom.moved derived'
    · rw [behind] at derived'
      rcases split with same | same
      · rw [same] at derived'
        exact not_derives_between kind isStar atom derived'
      · rw [same, List.append_assoc] at derived'
        exact not_derives_two_behind kind isStar atom derived'

theorem readWith_starred_list :
    readWith regexReader "[_*]*" = .ok (repeated (list [repeated any])) := by
  have read : readWith regexReader "[_*]" = .ok (list [repeated any]) := by
    rfl
  exact (readWith_starred regexReader "[_*]" _ read (fun _ => nofun) _ (.inr rfl)
    _).mpr ⟨rfl, fun _ => nofun⟩

/-- A star in front of a starred wildcard is refused. -/
theorem read_star_of_starred :
    read "_*" = .ok (repeated any) ∧
      read ("*" ++ "_*") ≠ .ok (star (repeated any)) ∧
      read "*_" = .ok (repeated any) ∧
      read ("*_" ++ "*") ≠ .ok (star (repeated any)) := by
  refine ⟨rfl, ?_, rfl, ?_⟩
  · intro found
    cases found
  · intro found
    cases found

end Pattern

end TreeQuery
