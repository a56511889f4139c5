import TreeQuery.Proofs.Reading.Alike
import TreeQuery.Proofs.Reading.Tolerance
import TreeQuery.Proofs.Token.Rereading

/-!
# Other texts of the same tokens

Valid tokens make a text again.  Where they stand in it does not matter for its
shape, nor for the order of its arguments.
-/

namespace TreeQuery

namespace Reading

/-! ## Texts -/

open Token

/-- The words of which every respelling is in the language. -/
def respelled (language : Language Token) : Language Token :=
  {word | ∀ word', Alike word word' → word' ∈ language}

section

variable {first first' second second' item item' : Language Token}
  {dialect : Dialect} {before after : Bool} {word word' : List Token}

theorem le_respelled_single {allowed : Token → Prop}
    (respells : ∀ token token' : Token, token.spelling = token'.spelling →
      allowed token → allowed token') :
    single allowed ≤ respelled (single allowed) := by
  intro word member word' alike
  obtain ⟨token, rfl, fits⟩ := member
  obtain ⟨token', rest, rfl, same, others⟩ := alike.cons_cases
  rw [others.eq_nil]
  exact ⟨token', rfl, respells token token' same fits⟩

theorem le_respelled_kinds (kinds : List Token.Kind) :
    ofKinds kinds ≤ respelled (ofKinds kinds) := by
  apply le_respelled_single
  intro token token' same known
  rwa [kind_eq_of_spelling same]

theorem le_respelled_integer : integer ≤ respelled integer := by
  apply le_respelled_single
  intro token token' same spelled
  obtain ⟨value, kind, word⟩ := spelled
  obtain ⟨kinds, lexemes⟩ := Prod.mk.inj same
  exact ⟨value, kinds ▸ kind, lexemes ▸ word⟩

theorem le_respelled_one : (1 : Language Token) ≤ respelled 1 := by
  intro word empty word' alike
  obtain rfl : word = [] := empty
  exact alike.eq_nil

theorem le_respelled_add (less : first ≤ respelled first')
    (less' : second ≤ respelled second') :
    first + second ≤ respelled (first' + second') := by
  intro word either word' alike
  rcases either with member | member
  · exact .inl (less member word' alike)
  · exact .inr (less' member word' alike)

theorem le_respelled_mul (less : first ≤ respelled first')
    (less' : second ≤ respelled second') :
    first * second ≤ respelled (first' * second') := by
  intro _ both _ alike
  obtain ⟨left, member, right, member', rfl⟩ := Language.mem_mul.mp both
  obtain ⟨left', right', rfl, same, same'⟩ := alike.append_cases
  exact Language.append_mem_mul (less member left' same)
    (less' member' right' same')

theorem le_respelled_listed (less : item ≤ respelled item') :
    listed item ≤ respelled (listed item') := by
  intro _ member
  refine listed_induction
    (motive := fun word => word ∈ respelled (listed item')) ?_ ?_ ?_ member
  · intro word alike
    rw [alike.eq_nil]
    exact nil_mem_listed
  · intro piece among word alike
    exact mem_listed (less among word alike)
  · intro piece among comma kind rest induction _ alike
    obtain ⟨left, _, rfl, same, same'⟩ := alike.append_cases
    obtain ⟨comma', right, rfl, spelled, others⟩ := same'.cons_cases
    exact listed_more (less among left same)
      ((kind_eq_of_spelling spelled).trans kind) (induction right others)

theorem le_respelled_chained (less : item ≤ respelled item') :
    chained item ≤ respelled (chained item') := by
  intro _ member
  refine chained_induction
    (motive := fun word => word ∈ respelled (chained item')) ?_ ?_ member
  · intro piece among word alike
    exact mem_chained (less among word alike)
  · intro piece among bar kind rest induction _ alike
    obtain ⟨left, _, rfl, same, same'⟩ := alike.append_cases
    obtain ⟨bar', right, rfl, spelled, others⟩ := same'.cons_cases
    exact chained_more (less among left same)
      ((kind_eq_of_spelling spelled).trans kind) (induction right others)

theorem congruence_respelled :
    Congruence fun language language' => language ≤ respelled language' where
  zero := nofun
  one := le_respelled_one
  kinds _ := le_respelled_kinds _
  integer := le_respelled_integer
  add := le_respelled_add
  mul := le_respelled_mul
  listed := le_respelled_listed
  chained := le_respelled_chained

theorem le_respelled_equated (less : item ≤ respelled item') :
    ofKinds [.equals] * item ≤ respelled (ofKinds [.equals] * item') :=
  le_respelled_mul (le_respelled_kinds _) less

theorem le_respelled_loose (less : item ≤ respelled item') :
    loose item ≤ respelled (loose item') := by
  have equated := le_respelled_equated less
  have name := le_respelled_kinds [.identifier]
  have key : ofKinds [.identifier] * ofKinds [.equals] * item ≤
      respelled (ofKinds [.identifier] * ofKinds [.equals] * item') :=
    le_respelled_mul (le_respelled_mul name (le_respelled_kinds _)) less
  exact congruence_respelled.enclosed (by decide) (le_respelled_add key
    (le_respelled_mul less (le_respelled_add le_respelled_one equated)))

theorem mem_shapedWithin_of_alike {depth : Nat} (alike : Alike word word')
    (member : word ∈ shapedWithin dialect depth) :
    word' ∈ shapedWithin dialect depth :=
  congruence_respelled.nested le_respelled_loose depth member word' alike

theorem viable_shapedWithin_of_alike {depth : Nat} (alike : Alike word word')
    (viable : Viable (shapedWithin dialect depth) word) :
    Viable (shapedWithin dialect depth) word' := by
  obtain ⟨rest, member⟩ := viable
  exact ⟨rest, mem_shapedWithin_of_alike (alike.append (.refl rest)) member⟩

end

/-! ## Validity -/

/-- No token of the words is invalid. -/
def Valid (language : Language Token) : Prop :=
  ∀ word ∈ language, ∀ token ∈ word, token.kind ≠ .invalid

section

variable {first second item : Language Token} {dialect : Dialect}

theorem valid_kinds {kinds : List Token.Kind} (valid : .invalid ∉ kinds) :
    Valid (ofKinds kinds) := by
  intro word member
  obtain ⟨token, rfl, known⟩ := member
  exact List.forall_mem_singleton.mpr fun same => valid (same ▸ known)

theorem valid_integer : Valid integer := by
  intro word member
  obtain ⟨token, rfl, value, kind, -⟩ := member
  exact List.forall_mem_singleton.mpr (by simp [kind])

theorem Valid.add (valid : Valid first) (valid' : Valid second) :
    Valid (first + second) :=
  fun word either => either.elim (valid word) (valid' word)

theorem Valid.mul (valid : Valid first) (valid' : Valid second) :
    Valid (first * second) := by
  intro _ both
  obtain ⟨left, member, right, member', rfl⟩ := Language.mem_mul.mp both
  exact List.forall_mem_append.mpr ⟨valid left member, valid' right member'⟩

theorem Valid.listed (valid : Valid item) : Valid (listed item) := by
  intro _ member
  refine listed_induction (motive := fun word =>
    ∀ token ∈ word, token.kind ≠ .invalid) ?_ ?_ ?_ member
  · exact List.forall_mem_nil _
  · intro piece among
    exact valid piece among
  · intro piece among comma kind rest induction
    exact List.forall_mem_append.mpr ⟨valid piece among,
      List.forall_mem_cons.mpr ⟨by simp [kind], induction⟩⟩

theorem Valid.chained (valid : Valid item) : Valid (chained item) := by
  intro _ member
  refine chained_induction (motive := fun word =>
    ∀ token ∈ word, token.kind ≠ .invalid) ?_ ?_ member
  · intro piece among
    exact valid piece among
  · intro piece among bar kind rest induction
    exact List.forall_mem_append.mpr ⟨valid piece among,
      List.forall_mem_cons.mpr ⟨by simp [kind], induction⟩⟩

theorem congruence_valid : Congruence fun language _ => Valid language where
  zero := nofun
  one := by
    intro word empty
    obtain rfl : word = [] := empty
    exact List.forall_mem_nil _
  kinds plain := valid_kinds fun invalid => (plain _ invalid).2 rfl
  integer := valid_integer
  add := Valid.add
  mul := Valid.mul
  listed := Valid.listed
  chained := Valid.chained

theorem Valid.loose (valid : Valid item) : Valid (loose item) := by
  have kind {kind : Token.Kind} (other : kind ≠ .invalid) :
      Valid (ofKinds [kind]) := valid_kinds (by simpa using other.symm)
  have equals := kind (show Token.Kind.equals ≠ .invalid by decide)
  have empty : Valid 1 := congruence_valid.one
  exact ((kind (by decide)).mul (((((kind (by decide)).mul equals).mul
    valid).add (valid.mul (empty.add (equals.mul valid)))).listed)).mul
    (kind (by decide))

end

end Reading

end TreeQuery
