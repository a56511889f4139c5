import Mathlib.Logic.Relation
import TreeQuery.Proofs.Pattern.Alike
import TreeQuery.Proofs.Pattern.Completeness
import TreeQuery.Proofs.Token.Cutting
import TreeQuery.Proofs.Value.Alike

/-!
# Spacing

How much space stands between tokens means nothing.  Where the tokens are all
valid, none of them can grow into space or be cut by it, and reading looks at
nothing but how they are spelled.
-/

namespace TreeQuery

open Reading

namespace Token

/-- Characters that may stand between tokens, and nothing else. -/
def IsSpace (chars : List Char) : Prop :=
  ∀ char ∈ chars, isSkipped char = true

instance (chars : List Char) : Decidable (IsSpace chars) :=
  decidable_of_iff (chars.all isSkipped = true) List.all_eq_true

/-- Some space stands in the place of other space, or of none.  No token of the
source covers the place. -/
def Respaced (source source' : String) : Prop :=
  ∃ front space space' back,
    source.toList = front ++ (space ++ back) ∧
    source'.toList = front ++ (space' ++ back) ∧
    IsSpace space ∧ IsSpace space' ∧ space' ≠ [] ∧
    ∀ token ∈ tokenize source, token.stop ≤ byteLength front ∨
      byteLength front + byteLength space ≤ token.start

section

variable {space rest : List Char}

theorem scan_space (isSpace : IsSpace space) (offset : Nat) :
    scan offset 0 (space ++ rest) =
      scan (offset + byteLength space) 0 rest := by
  induction space generalizing offset with
  | nil => rfl
  | cons char space induction =>
      obtain ⟨skipped, others⟩ := List.forall_mem_cons.mp isSpace
      rw [List.cons_append, scan_of_isSkipped skipped, induction others,
        byteLength, Nat.add_assoc]

/-- Space continues no token. -/
theorem IsSpace.severed (isSpace : IsSpace space) (nonempty : space ≠ []) :
    Severed (space ++ rest) := by
  cases space with
  | nil => exact absurd rfl nonempty
  | cons first space =>
      have skipped := isSpace first List.mem_cons_self
      refine ⟨?_, ?_⟩
      · intro char member
        obtain rfl : first = char := by simpa using member
        refine ⟨?_, ?_⟩
        · rw [Bool.eq_false_iff]
          intro goesOn
          rw [not_isSkipped goesOn] at skipped
          cases skipped
        · rintro rfl
          cases skipped
      · intro minus
        obtain rfl : first = '-' := by simpa using minus
        cases skipped

theorem scan_alike (offset offset' : Nat) (chars : List Char) :
    Alike (scan offset 0 chars) (scan offset' 0 chars) := by
  have moves (bytes : Nat) :
      (scan bytes 0 chars).map spelling = (scan 0 0 chars).map spelling := by
    have moved := scan_moved bytes 0 0 chars
    rw [Nat.add_zero] at moved
    rw [moved, List.map_map]
    rfl
  exact (moves offset).trans (moves offset').symm

end

section

variable {source source' : String}
  (valid : ∀ token ∈ tokenize source, token.kind ≠ .invalid)

include valid

/-- The tokens are the same before the place and behind it. -/
theorem Respaced.alike (respaced : Respaced source source') :
    Alike (tokenize source) (tokenize source') := by
  obtain ⟨front, space, space', back, split, split', isSpace, isSpace', nonempty,
    apart⟩ := respaced
  have whole : tokenize source = scan 0 0 (front ++ (space ++ back)) := by
    rw [tokenize, split]
  rw [whole] at valid apart
  have cut : scan 0 0 (front ++ (space ++ back)) = scan 0 0 front ++
      scan (0 + byteLength front) 0 (space ++ back) := by
    refine scan_within valid ?_ (Nat.zero_le _)
    intro token among
    have outside := apart token among
    omega
  rw [scan_space isSpace] at cut
  have frontValid : ∀ token ∈ scan 0 0 front, token.kind ≠ .invalid := by
    intro token among
    exact valid token (by rw [cut]; exact List.mem_append_left _ among)
  have cut' : tokenize source' = scan 0 0 front ++
      scan (0 + byteLength front) 0 (space' ++ back) := by
    rw [tokenize, split']
    exact scan_extend (isSpace'.severed nonempty) frontValid (Nat.zero_le _)
  rw [scan_space isSpace'] at cut'
  rw [whole, cut, cut']
  exact (Alike.refl _).append (scan_alike _ _ back)

/-- However often space is changed, the tokens stay the same. -/
theorem alike_of_respaced
    (respaced : Relation.ReflTransGen Respaced source source') :
    Alike (tokenize source) (tokenize source') := by
  induction respaced with
  | refl => exact .refl _
  | @tail middle _ _ step alike =>
      have stillValid : ∀ token ∈ tokenize middle, token.kind ≠ .invalid := by
        intro token' among
        obtain ⟨token, member, same⟩ := alike.exists_mem among
        rw [kind_eq_of_spelling same]
        exact valid token member
      exact alike.trans (step.alike stillValid)

end

end Token

section

variable {source source' : String}

theorem Value.read_of_alike {value : Value}
    (alike : Alike (tokenize source) (tokenize source'))
    (read : Value.read source = .ok value) : Value.read source' = .ok value :=
  read_eq_ok_iff.mpr
    (Derives.alike value _ _ (read_eq_ok_iff.mp read) alike)

theorem Pattern.readWith_of_alike {readRegex : RegexReader} {pattern : Pattern}
    (alike : Alike (tokenize source) (tokenize source'))
    (read : readWith readRegex source = .ok pattern) :
    readWith readRegex source' = .ok pattern :=
  readWith_of_derives ((derives_of_readWith read).alike alike)

/-- Space between tokens means nothing: where all tokens are valid, other space
in any places leaves the kinds and the lexemes of the tokens as they are, and so
the value or the pattern that is read. -/
theorem read_respaced
    (valid : ∀ token ∈ tokenize source, token.kind ≠ .invalid)
    (respaced : Relation.ReflTransGen Token.Respaced source source') :
    (tokenize source').map (fun token => (token.kind, token.lexeme)) =
        (tokenize source).map (fun token => (token.kind, token.lexeme)) ∧
      (∀ value, Value.read source' = .ok value ↔
        Value.read source = .ok value) ∧
      ∀ readRegex pattern, Pattern.readWith readRegex source' = .ok pattern ↔
        Pattern.readWith readRegex source = .ok pattern := by
  have alike := Token.alike_of_respaced valid respaced
  refine ⟨alike.symm, ?_, ?_⟩
  · intro value
    exact ⟨Value.read_of_alike alike.symm, Value.read_of_alike alike⟩
  · intro readRegex pattern
    exact ⟨Pattern.readWith_of_alike alike.symm,
      Pattern.readWith_of_alike alike⟩

theorem read_respaced_call :
    (∀ token ∈ tokenize "f(1)", token.kind ≠ .invalid) ∧
      Relation.ReflTransGen Token.Respaced "f(1)" "\n f( 1)" ∧
      Value.read "\n f( 1)" =
        .ok (.constr .identifier "f" [.number "1"] []) ∧
      Pattern.read "\n f( 1)" =
        .ok (.constr (.identifier "f") [.number "1"] []) := by
  have valid : ∀ token ∈ tokenize "f(1)", token.kind ≠ .invalid := by decide
  have inner : Token.Respaced "f(1)" "f( 1)" :=
    ⟨['f', '('], [], [' '], ['1', ')'], rfl, rfl, by decide, by decide,
      by decide, by decide⟩
  have front : Token.Respaced "f( 1)" "\n f( 1)" :=
    ⟨[], [], ['\n', ' '], ['f', '(', ' ', '1', ')'], rfl, rfl, by decide,
      by decide, by decide, by decide⟩
  have respaced := (Relation.ReflTransGen.single inner).tail front
  obtain ⟨-, values, patterns⟩ := read_respaced valid respaced
  exact ⟨valid, respaced, (values _).mpr rfl, (patterns _ _).mpr rfl⟩

end

end TreeQuery
