import Mathlib.Data.List.Chain
import TreeQuery.Proofs.Reading.Continuation

/-!
# Names before equals signs

In an accepted text an equals sign stands right behind a token that may name an
argument.
-/

namespace TreeQuery.Reading

/-- Each equals sign stands right behind a token that may name an argument. -/
structure Named (dialect : Dialect) (tokens : List Token) : Prop where
  first : ∀ token ∈ tokens.head?, token.kind ≠ .equals
  behind : tokens.IsChain fun token equals =>
    equals.kind = .equals → token.kind ∈ dialect.names

section

variable {dialect : Dialect} {token equals : Token}
  {tokens left right before : List Token} {first second item : Language Token}

theorem named_nil : Named dialect [] :=
  ⟨nofun, .nil⟩

theorem named_singleton (other : token.kind ≠ .equals) : Named dialect [token] :=
  ⟨fun found same => by simp_all, .singleton token⟩

theorem Named.append (named : Named dialect left) (named' : Named dialect right) :
    Named dialect (left ++ right) := by
  refine ⟨?_, List.isChain_append.mpr ⟨named.behind, named'.behind, ?_⟩⟩
  · intro token head
    rw [List.head?_append] at head
    cases given : left.head? with
    | none => exact named'.first token (by simpa [given] using head)
    | some found => exact named.first token (by simp_all)
  · intro last _ head isHead same
    exact absurd same (named'.first head isHead)

theorem Named.separated (named : Named dialect left)
    (other : token.kind ≠ .equals) (named' : Named dialect right) :
    Named dialect (left ++ token :: right) :=
  named.append ((named_singleton other).append named')

/-- The words of the language have names before their equals signs. -/
def NamesBefore (dialect : Dialect) (language : Language Token) : Prop :=
  ∀ word ∈ language, Named dialect word

theorem namesBefore_kinds {kinds : List Token.Kind} (plain : .equals ∉ kinds) :
    NamesBefore dialect (ofKinds kinds) := by
  intro word member
  obtain ⟨token, rfl, known⟩ := member
  exact named_singleton fun same => plain (same ▸ known)

theorem NamesBefore.mul (named : NamesBefore dialect first)
    (named' : NamesBefore dialect second) :
    NamesBefore dialect (first * second) := by
  intro _ both
  obtain ⟨left, member, right, member', rfl⟩ := Language.mem_mul.mp both
  exact (named left member).append (named' right member')

theorem NamesBefore.listed (named : NamesBefore dialect item) :
    NamesBefore dialect (listed item) := by
  intro _ member
  refine listed_induction (motive := Named dialect) named_nil
    (fun piece among => named piece among) ?_ member
  intro piece among comma kind rest induction
  exact (named piece among).separated (by simp [kind]) induction

theorem NamesBefore.chained (named : NamesBefore dialect item) :
    NamesBefore dialect (chained item) := by
  intro _ member
  refine chained_induction (motive := Named dialect)
    (fun piece among => named piece among) ?_ member
  intro piece among bar kind rest induction
  exact (named piece among).separated (by simp [kind]) induction

/-- A field is a name, its equals sign and an item. -/
theorem NamesBefore.field (named : NamesBefore dialect item) :
    NamesBefore dialect (field dialect item) := by
  intro word member
  obtain ⟨_, equals, right, rfl, kind, ⟨token, rfl, known⟩, inside⟩ :=
    exists_separated member
  have other : token.kind ≠ .equals := by
    intro same
    rw [same] at known
    revert known
    cases dialect <;> decide
  have names := named right inside
  refine ⟨fun found same => by simp_all, .cons_cons (fun _ => known) ?_⟩
  exact List.isChain_cons.mpr
    ⟨fun next head sign => absurd sign (names.first next head), names.behind⟩

theorem Ordered.named {named : Bool} (names : NamesBefore dialect item)
    (ordered : Ordered Nothing dialect item named tokens) :
    Named dialect tokens := by
  have each {named after : Bool} {word : List Token}
      (placed : Placed Nothing dialect item named word after) :
      Named dialect word := by
    cases placed with
    | field member => exact names.field word member
    | positional member => exact names word member
    | offending none => exact none.elim
  induction ordered with
  | empty => exact named_nil
  | last placed => exact each placed
  | more placed kind _ induction =>
      exact (each placed).separated (by simp [kind]) induction

theorem NamesBefore.tolerant (names : NamesBefore dialect item) :
    NamesBefore dialect (tolerant Nothing dialect item) := by
  have arguments : NamesBefore dialect (ordered Nothing dialect item) :=
    fun word member => Ordered.named names member
  exact ((namesBefore_kinds (by decide)).mul arguments).mul
    (namesBefore_kinds (by decide))

end

end TreeQuery.Reading
