import TreeQuery.Proofs.Pattern.Grammar
import TreeQuery.Proofs.Reading.Alike
import TreeQuery.Proofs.Token.Extending

/-!
# Patterns of tokens that are spelled alike

What tokens derive does not depend on where they stand: tokens that are spelled
alike derive the same patterns.
-/

namespace TreeQuery

open Reading

namespace Pattern

variable {readRegex : RegexReader} {tokens tokens' : List Token}

theorem DerivesRegex.alike {expression : RegexPattern}
    (derived : DerivesRegex readRegex tokens expression)
    (alike : Alike tokens tokens') :
    DerivesRegex readRegex tokens' expression := by
  obtain ⟨token, regex, rfl, kind, read, rfl⟩ := derived
  obtain ⟨token', rfl, same⟩ := alike.singleton_cases
  have body := body_eq_of_spelling same
  exact ⟨token', regex, rfl, (kind_eq_of_spelling same).trans kind,
    by rw [body]; exact read, by rw [body]⟩

theorem DerivesName.alike {name : NamePattern}
    (derived : DerivesName readRegex tokens name)
    (alike : Alike tokens tokens') : DerivesName readRegex tokens' name := by
  cases derived with
  | identifier found => exact .identifier (found.written_alike alike)
  | quoted found => exact .quoted (found.plain_alike alike)
  | regex found => exact .regex (found.alike alike)
  | text found => exact .text (found.body_alike alike)

theorem DerivesFieldName.alike {name : NamePattern}
    (derived : DerivesFieldName readRegex tokens name)
    (alike : Alike tokens tokens') :
    DerivesFieldName readRegex tokens' name := by
  cases derived with
  | identifier found => exact .identifier (found.written_alike alike)
  | regex found => exact .regex (found.alike alike)
  | text found => exact .text (found.body_alike alike)

section

variable {bound : Nat} (each : ∀ piece piece' pattern, piece.length ≤ bound →
  Alike piece piece' → Derives readRegex piece pattern →
    Derives readRegex piece' pattern)

include each

theorem forall₂_derives_alike {pieces pieces' : List (List Token)}
    {items : List Pattern} (short : ∀ piece ∈ pieces, piece.length ≤ bound)
    (respelled : List.Forall₂ Alike pieces pieces')
    (found : List.Forall₂ (Derives readRegex) pieces items) :
    List.Forall₂ (Derives readRegex) pieces' items :=
  forall₂_alike respelled found fun piece member piece' item =>
    each piece piece' item (short piece member)

theorem DerivesPairs.alike {pieces pieces' : List (List Token)}
    {pairs : List (Pattern × Pattern)}
    (short : ∀ piece ∈ pieces, piece.length ≤ bound)
    (respelled : List.Forall₂ Alike pieces pieces')
    (found : DerivesPairs readRegex pieces pairs) :
    DerivesPairs readRegex pieces' pairs := by
  apply derivesPairs_iff_forall₂.mpr
  refine forall₂_alike respelled (derivesPairs_iff_forall₂.mp found) ?_
  intro piece member piece' pair same derived
  have less := short piece member
  obtain ⟨left, colon, right, rfl, kind, key, value⟩ := derived
  obtain ⟨left', colon', right', rfl, isColon, sameKey, sameValue⟩ :=
    same.between_cases
  rw [List.length_append, List.length_cons] at less
  exact ⟨left', colon', right', rfl, isColon.trans kind,
    each _ _ _ (by omega) sameKey key, each _ _ _ (by omega) sameValue value⟩

theorem DerivesFields.alike {pieces pieces' : List (List Token)}
    {fields : List (NamePattern × Pattern)}
    (short : ∀ piece ∈ pieces, piece.length ≤ bound)
    (respelled : List.Forall₂ Alike pieces pieces')
    (found : DerivesFields readRegex pieces fields) :
    DerivesFields readRegex pieces' fields := by
  apply derivesFields_iff_forall₂.mpr
  refine forall₂_alike respelled (derivesFields_iff_forall₂.mp found) ?_
  intro piece member piece' field same derived
  have less := short piece member
  obtain ⟨left, equals, right, rfl, kind, name, value⟩ := derived
  obtain ⟨left', equals', right', rfl, isEquals, sameName, sameValue⟩ :=
    same.between_cases
  rw [List.length_append, List.length_cons] at less
  exact ⟨left', equals', right', rfl, isEquals.trans kind,
    name.alike sameName, each _ _ _ (by omega) sameValue value⟩

theorem DerivesAtom.alike_of {pattern : Pattern}
    (derived : DerivesAtom readRegex tokens pattern)
    (short : tokens.length ≤ bound + 1) (alike : Alike tokens tokens') :
    DerivesAtom readRegex tokens' pattern := by
  cases derived with
  | any kinds =>
      obtain ⟨token', rfl, same⟩ := alike.singleton_cases
      exact .any (kind_eq_of_spelling same ▸ kinds)
  | constr names enclosed items fields =>
      obtain ⟨head', arguments', rfl, same, same'⟩ := alike.append_cases
      rw [List.length_append] at short
      obtain ⟨first, second⟩ := List.forall_mem_append.mp
        (enclosed.forall_length_le (show _ ≤ bound + 1 by omega))
      obtain ⟨pieces', fieldPieces', respelled, respelled', enclosed'⟩ :=
        enclosed.alike_append same'
      exact .constr (names.alike same) enclosed'
        (forall₂_derives_alike each first respelled items)
        (DerivesFields.alike each second respelled' fields)
  | string found => exact .string (found.body_alike alike)
  | regex found => exact .regex (found.alike alike)
  | text found => exact .text (found.body_alike alike)
  | map enclosed found =>
      have less := enclosed.forall_length_le short
      obtain ⟨pieces', respelled, enclosed'⟩ := enclosed.alike alike
      exact .map enclosed' (DerivesPairs.alike each less respelled found)
  | set enclosed items =>
      have less := enclosed.forall_length_le short
      obtain ⟨pieces', respelled, enclosed'⟩ := enclosed.alike alike
      exact .set enclosed' (forall₂_derives_alike each less respelled items)
  | list enclosed items =>
      have less := enclosed.forall_length_le short
      obtain ⟨pieces', respelled, enclosed'⟩ := enclosed.alike alike
      exact .list enclosed' (forall₂_derives_alike each less respelled items)
  | tuple enclosed items =>
      have less := enclosed.forall_length_le short
      obtain ⟨pieces', respelled, enclosed'⟩ := enclosed.alike alike
      exact .tuple enclosed' (forall₂_derives_alike each less respelled items)
  | number found => exact .number (found.written_alike alike)
  | boolean found => exact .boolean (found.alike alike)
  | location found => exact .location (found.alike alike)

theorem DerivesTerm.alike_of {pattern : Pattern}
    (derived : DerivesTerm readRegex tokens pattern)
    (short : tokens.length ≤ bound + 1) (alike : Alike tokens tokens') :
    DerivesTerm readRegex tokens' pattern := by
  cases derived with
  | atom found => exact .atom (found.alike_of each short alike)
  | starBefore kind found =>
      obtain ⟨star', rest', rfl, same, others⟩ := alike.cons_cases
      exact .starBefore ((kind_eq_of_spelling same).trans kind)
        (found.alike_of each (Nat.le_of_succ_le short) others)
  | starBehind kind found =>
      obtain ⟨rest', star', _, rfl, isStar, others, last⟩ := alike.between_cases
      obtain rfl := last.eq_nil
      rw [List.length_append] at short
      exact .starBehind (isStar.trans kind)
        (found.alike_of each (by omega) others)

end

/-- Tokens that are spelled alike derive the same patterns.  Items are shorter
than what encloses them, so the induction is on a bound for the number of
tokens. -/
theorem Derives.alike {pattern : Pattern}
    (derived : Derives readRegex tokens pattern)
    (alike : Alike tokens tokens') : Derives readRegex tokens' pattern := by
  suffices bounded : ∀ bound tokens tokens' pattern, tokens.length ≤ bound →
      Alike tokens tokens' → Derives readRegex tokens pattern →
      Derives readRegex tokens' pattern from
    bounded _ _ _ _ (Nat.le_refl _) alike derived
  intro bound
  induction bound with
  | zero =>
      intro tokens tokens' pattern short alike derived
      exact absurd (List.length_eq_zero_iff.mp (Nat.le_zero.mp short))
        derived.nonempty
  | succ bound induction =>
      intro tokens tokens' pattern short alike derived
      obtain ⟨pieces, options, chained, terms, rfl⟩ :=
        derives_iff_chained.mp derived
      obtain ⟨pieces', respelled, chained'⟩ := chained.alike alike
      refine derives_iff_chained.mpr ⟨pieces', options, chained', ?_, rfl⟩
      refine forall₂_alike respelled terms ?_
      intro piece member piece' option same found
      have less := Nat.le_trans (chained.length_le piece member) short
      exact found.alike_of induction less same

/-- An atom may stand further on in a text. -/
theorem DerivesAtom.moved {bytes : Nat} {pattern : Pattern}
    (derived : DerivesAtom readRegex tokens pattern) :
    DerivesAtom readRegex (tokens.map (Token.moved bytes)) pattern := by
  have alike : Alike tokens (tokens.map (Token.moved bytes)) := by
    rw [Alike, List.map_map]
    rfl
  exact derived.alike_of (fun _ _ _ _ same found => found.alike same)
    (Nat.le_succ _) alike

end Pattern

end TreeQuery
