import TreeQuery.Reading.Rule

/-!
# Faults at one place

When faults are joined, those that lie furthest decide: they give the place and
the token that was found, and together they give what was expected.
-/

namespace TreeQuery.Reading

/-- Of two faults, either of which may be missing, the joined one stands where
the furthest of them stands.  It says what one of these says and expects what
they expect. -/
structure Joins (first second joined : Option Fault) : Prop where
  source : ∀ fault ∈ joined, ∃ origin, (origin ∈ first ∨ origin ∈ second) ∧
    origin.position = fault.position ∧ origin.start = fault.start ∧
    origin.found = fault.found ∧ origin.objection = fault.objection
  expected : ∀ fault ∈ joined, ∀ expectation ∈ fault.expected, ∃ origin,
    (origin ∈ first ∨ origin ∈ second) ∧ origin.position = fault.position ∧
    expectation ∈ origin.expected
  furthest : ∀ origin, origin ∈ first ∨ origin ∈ second →
    ∃ fault ∈ joined, origin.position < fault.position ∨
      origin.position = fault.position ∧ origin.expected ⊆ fault.expected

namespace Joins

variable {first second joined : Option Fault}

theorem symm (joins : Joins first second joined) :
    Joins second first joined := by
  refine ⟨?_, ?_, ?_⟩
  · intro fault member
    obtain ⟨origin, among, rest⟩ := joins.source fault member
    exact ⟨origin, among.symm, rest⟩
  · intro fault member expectation expects
    obtain ⟨origin, among, rest⟩ :=
      joins.expected fault member expectation expects
    exact ⟨origin, among.symm, rest⟩
  · intro origin among
    exact joins.furthest origin among.symm

theorem none_right (fault : Option Fault) : Joins fault none fault := by
  refine ⟨?_, ?_, ?_⟩
  · intro origin member
    exact ⟨origin, .inl member, rfl, rfl, rfl, rfl⟩
  · intro origin member expectation expects
    exact ⟨origin, .inl member, rfl, expects⟩
  · intro origin member
    rcases member with member | member
    · exact ⟨origin, member, .inr ⟨rfl, List.Subset.refl _⟩⟩
    · cases member

/-- The further of two faults stands alone. -/
theorem of_lt {near far : Fault} (before : near.position < far.position) :
    Joins (some near) (some far) (some far) := by
  refine ⟨?_, ?_, ?_⟩
  · intro fault member
    exact ⟨fault, .inr member, rfl, rfl, rfl, rfl⟩
  · intro fault member expectation expects
    exact ⟨fault, .inr member, rfl, expects⟩
  · intro origin member
    refine ⟨far, rfl, ?_⟩
    rcases member with member | member
    · cases member
      exact .inl before
    · cases member
      exact .inr ⟨rfl, List.Subset.refl _⟩

theorem further (first second : Fault) :
    Joins (some first) (some second) (some (first.further second)) := by
  unfold Fault.further
  split
  · next before => exact of_lt before
  · split
    · next behind => exact (of_lt behind).symm
    · next notBefore notBehind =>
        have same : first.position = second.position := by omega
        refine ⟨?_, ?_, ?_⟩
        · intro fault member
          cases member
          exact ⟨first, .inl rfl, rfl, rfl, rfl, rfl⟩
        · intro fault member expectation expects
          cases member
          rcases List.mem_append.mp expects with left | right
          · exact ⟨first, .inl rfl, rfl, left⟩
          · exact ⟨second, .inr rfl, same.symm, right⟩
        · intro origin member
          refine ⟨_, rfl, .inr ?_⟩
          rcases member with member | member
          · cases member
            exact ⟨rfl, List.subset_append_left _ _⟩
          · cases member
            exact ⟨same.symm, List.subset_append_right _ _⟩

theorem note (passed new : Option Fault) :
    Joins passed new (Fault.note passed new) := by
  cases passed with
  | none => exact (none_right new).symm
  | some fault =>
      cases new with
      | none => exact none_right _
      | some fault' => exact (further fault' fault).symm

theorem le (joins : Joins first second joined) {bound : Nat}
    (below : ∀ fault ∈ first, fault.position ≤ bound)
    (below' : ∀ fault ∈ second, fault.position ≤ bound) :
    ∀ fault ∈ joined, fault.position ≤ bound := by
  intro fault member
  obtain ⟨origin, among, same, -⟩ := joins.source fault member
  rw [← same]
  rcases among with left | right
  · exact below origin left
  · exact below' origin right

theorem exists_at (joins : Joins first second joined) {place : Nat}
    (below : ∀ fault ∈ first, fault.position ≤ place)
    (below' : ∀ fault ∈ second, fault.position ≤ place) {origin : Fault}
    (among : origin ∈ first ∨ origin ∈ second)
    (here : origin.position = place) :
    ∃ fault ∈ joined, fault.position = place ∧
      origin.expected ⊆ fault.expected := by
  obtain ⟨fault, member, above⟩ := joins.furthest origin among
  have within := joins.le below below' fault member
  rcases above with above | ⟨same, more⟩
  · omega
  · exact ⟨fault, member, same.symm.trans here, more⟩

/-- A fault behind all others is kept as it is. -/
theorem eq_right {far : Fault} (joins : Joins first (some far) joined)
    (before : ∀ fault ∈ first, fault.position < far.position) :
    ∃ fault, joined = some fault ∧ fault.position = far.position ∧
      fault.objection = far.objection := by
  obtain ⟨fault, member, above⟩ := joins.furthest far (.inr rfl)
  obtain ⟨origin, among, same, -, -, objection⟩ := joins.source fault member
  rcases among with left | right
  · have below := before origin left
    omega
  · cases right
    exact ⟨fault, member, same.symm, objection.symm⟩

end Joins

theorem Fault.further_assoc (first second third : Fault) :
    (first.further second).further third =
      first.further (second.further third) := by
  grind [further]

theorem Fault.note_none (passed : Option Fault) : note passed none = passed := by
  cases passed <;> rfl

theorem Fault.note_assoc (first second third : Option Fault) :
    note (note first second) third = note first (note second third) := by
  cases third with
  | none => rw [note_none, note_none]
  | some third =>
      cases second with
      | none => rw [note_none]; rfl
      | some second =>
          cases first with
          | none => rfl
          | some first => simp only [note, further_assoc]

namespace Cursor

/-- The place so many tokens further on. -/
def skip (cursor : Cursor) (count : Nat) : Cursor :=
  { cursor with
    ahead := cursor.ahead.drop count
    position := cursor.position + count }

theorem skip_skip (cursor : Cursor) (count count' : Nat) :
    (cursor.skip count).skip count' = cursor.skip (count + count') := by
  simp [skip, Nat.add_assoc]

theorem length_skip_le (cursor : Cursor) (count : Nat) :
    (cursor.skip count).ahead.length ≤ cursor.ahead.length := by
  simp [skip]

theorem skip_zero (cursor : Cursor) : cursor.skip 0 = cursor := by
  simp [skip]

end Cursor

/-- The fault stands so many tokens further on at most.  If it stands there, it
tells what was found there, objects to nothing, and expects only tokens of
`possible` kinds and all of `certain` kinds. -/
structure Points (cursor : Cursor) (count : Nat) (fault : Option Fault)
    (possible certain : Token.Kind → Prop) : Prop where
  le : ∀ met ∈ fault, met.position ≤ (cursor.skip count).position
  found : ∀ met ∈ fault, met.position = (cursor.skip count).position →
    met.objection = none ∧ met.start = (cursor.skip count).start ∧
      met.found = (cursor.skip count).ahead.head?
  possible : ∀ met ∈ fault, met.position = (cursor.skip count).position →
    ∀ expectation ∈ met.expected,
      ∃ kind, expectation = .token kind ∧ possible kind
  certain : ∀ kind, certain kind → ∃ met ∈ fault,
    met.position = (cursor.skip count).position ∧
      .token kind ∈ met.expected

namespace Points

variable {cursor : Cursor} {count : Nat} {first second joined : Option Fault}
  {possible certain certain' : Token.Kind → Prop}

theorem join (points : Points cursor count first possible certain)
    (points' : Points cursor count second possible certain')
    (joins : Joins first second joined) :
    Points cursor count joined possible
      fun kind => certain kind ∨ certain' kind := by
  refine ⟨joins.le points.le points'.le, ?_, ?_, ?_⟩
  · intro met member here
    obtain ⟨origin, among, same, start, found, objection⟩ :=
      joins.source met member
    rw [← start, ← found, ← objection]
    rcases among with left | right
    · exact points.found origin left (same.trans here)
    · exact points'.found origin right (same.trans here)
  · intro met member here expectation expects
    obtain ⟨origin, among, same, expects'⟩ :=
      joins.expected met member expectation expects
    rcases among with left | right
    · exact points.possible origin left (same.trans here) expectation expects'
    · exact points'.possible origin right (same.trans here) expectation expects'
  · intro kind either
    have hold : ∃ origin, (origin ∈ first ∨ origin ∈ second) ∧
        origin.position = (cursor.skip count).position ∧
        .token kind ∈ origin.expected := by
      rcases either with holds | holds
      · obtain ⟨origin, member, here, expects⟩ := points.certain kind holds
        exact ⟨origin, .inl member, here, expects⟩
      · obtain ⟨origin, member, here, expects⟩ := points'.certain kind holds
        exact ⟨origin, .inr member, here, expects⟩
    obtain ⟨origin, among, here, expects⟩ := hold
    obtain ⟨met, member, there, more⟩ :=
      joins.exists_at points.le points'.le among here
    exact ⟨met, member, there, more expects⟩

theorem mono {possible' : Token.Kind → Prop}
    (points : Points cursor count first possible certain)
    (weaker : ∀ kind, possible kind → possible' kind)
    (stronger : ∀ kind, certain' kind → certain kind) :
    Points cursor count first possible' certain' := by
  refine ⟨points.le, points.found, ?_, ?_⟩
  · intro met member here expectation expects
    obtain ⟨kind, same, holds⟩ :=
      points.possible met member here expectation expects
    exact ⟨kind, same, weaker kind holds⟩
  · intro kind holds
    exact points.certain kind (stronger kind holds)

/-- A fault before the place says nothing about it. -/
theorem of_lt
    (before : ∀ met ∈ first, met.position < (cursor.skip count).position) :
    Points cursor count first possible fun _ => False := by
  refine ⟨fun met member => Nat.le_of_lt (before met member), ?_, ?_, ?_⟩
  · intro met member here
    exact absurd here (Nat.ne_of_lt (before met member))
  · intro met member here
    exact absurd here (Nat.ne_of_lt (before met member))
  · intro kind holds
    exact holds.elim

theorem shift {count' : Nat}
    (points : Points (cursor.skip count) count' first possible certain) :
    Points cursor (count + count') first possible certain := by
  obtain ⟨le, found, possible, certain⟩ := points
  rw [Cursor.skip_skip] at le found possible certain
  exact ⟨le, found, possible, certain⟩

end Points

end TreeQuery.Reading
