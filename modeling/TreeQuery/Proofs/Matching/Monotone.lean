import TreeQuery.Proofs.Matching.Tree
import TreeQuery.Proofs.Value.Below

/-!
# Matching values that hold more

What matches a value matches every value above it: sequences are matched one by
one, and a member, an entry or a named child that served the pattern has a
counterpart that serves it.  So no edit that adds, repeats, reorders or respells
loses a match.
-/

namespace TreeQuery

namespace Pattern

theorem carries_below (item : Pattern) :
    Carries Value.Below acceptsTree acceptsTree item := by
  induction item using nestedInduction with
  | any => exact .single rfl fun _ accepted => accepted
  | or options each =>
      refine .or ?_ each
      intro value value' below
      rw [acceptsTree, acceptsTree, acceptsTreeSome_iff, acceptsTreeSome_iff]
      intro accepted
      obtain ⟨option, member, takes⟩ := accepted
      exact ⟨option, member, (each option member).one below takes⟩
  | repeated inner carries =>
      exact .repeated (fun _ accepted => by cases accepted) carries
  | regex _ | text _ | string _ =>
      apply Carries.single rfl
      intro value value' below accepted
      cases value <;> cases value' <;> simp_all [acceptsTree, Value.Below]
  | number _ | boolean _ | location _ =>
      apply Carries.single rfl
      intro value value' below accepted
      cases value <;> cases value' <;> simp_all [acceptsTree, Value.Below]
  | list items each =>
      apply Carries.single rfl
      intro value value' below
      rw [acceptsTree_list_iff, acceptsTree_list_iff]
      intro accepted
      obtain ⟨values, rfl, cut⟩ := accepted
      cases value' with
      | list values' =>
          exact ⟨values', rfl,
            Carries.cuts each (Value.belowItems_iff_forall₂.mp below) cut⟩
      | _ => exact below.elim
  | tuple items each =>
      apply Carries.single rfl
      intro value value' below
      rw [acceptsTree_tuple_iff, acceptsTree_tuple_iff]
      intro accepted
      obtain ⟨values, rfl, cut⟩ := accepted
      cases value' with
      | tuple values' =>
          exact ⟨values', rfl,
            Carries.cuts each (Value.belowItems_iff_forall₂.mp below) cut⟩
      | _ => exact below.elim
  | set items each =>
      apply Carries.single rfl
      intro value value' below
      rw [acceptsTree_set_iff, acceptsTree_set_iff]
      intro accepted
      obtain ⟨values, rfl, served⟩ := accepted
      cases value' with
      | set values' =>
          refine ⟨values', rfl, ?_⟩
          intro item member
          obtain ⟨inner, among, takes⟩ := served item member
          obtain ⟨inner', among', belowInner⟩ :=
            Value.belowMembers_iff.mp below inner among
          exact ⟨inner', among', (each item member).one belowInner takes⟩
      | _ => exact below.elim
  | map pairs each =>
      apply Carries.single rfl
      intro value value' below
      rw [acceptsTree_map_iff, acceptsTree_map_iff]
      intro accepted
      obtain ⟨entries, rfl, served⟩ := accepted
      cases value' with
      | map entries' =>
          refine ⟨entries', rfl, ?_⟩
          intro pair member
          obtain ⟨entry, among, takesKey, takesValue⟩ := served pair member
          obtain ⟨entry', among', belowEntry⟩ :=
            Value.belowEntries_iff.mp below entry among
          obtain ⟨belowKey, belowValue⟩ := Value.belowEntry_iff.mp belowEntry
          obtain ⟨carriesKey, carriesValue⟩ := each pair member
          exact ⟨entry', among', carriesKey.one belowKey takesKey,
            carriesValue.one belowValue takesValue⟩
      | _ => exact below.elim
  | constr name positional named each eachField =>
      apply Carries.single rfl
      intro value value' below
      rw [acceptsTree_constr_iff, acceptsTree_constr_iff]
      intro accepted
      obtain ⟨kind, actual, values, fields, rfl, fits, cut, served⟩ := accepted
      cases value' with
      | constr kind' actual' values' fields' =>
          obtain ⟨rfl, rfl, belowItems, belowFields⟩ := below
          refine ⟨kind, actual, values', fields', rfl, fits,
            Carries.cuts each (Value.belowItems_iff_forall₂.mp belowItems) cut,
            ?_⟩
          intro item member
          obtain ⟨field, among, called, takes⟩ := served item member
          obtain ⟨field', among', belowField⟩ :=
            Value.belowFields_iff.mp belowFields field among
          obtain ⟨sameName, belowChild⟩ := Value.belowField_iff.mp belowField
          exact ⟨field', among', sameName ▸ called,
            (eachField item member).one belowChild takes⟩
      | _ => exact below.elim

theorem acceptsTree_of_edits {pattern : Pattern} {value value' : Value}
    (edits : Relation.ReflTransGen Value.Edited value value')
    (accepted : pattern.acceptsTree value = true) :
    pattern.acceptsTree value' = true := by
  induction edits with
  | refl => exact accepted
  | tail _ edit accepted =>
      exact (carries_below pattern).one (Value.below_of_edited edit) accepted

/-- A value above one that matches matches, in whatever runs the two were
interned, and so does one that was made from it by edits that lose nothing. -/
theorem accepts_returned_mono {interner interner' : Interner}
    (room : interner.graph.size ≤ UInt32.size)
    (room' : interner'.graph.size ≤ UInt32.size) {value value' : Value}
    {id id' : ValueId} (returned : interner.Returned value id)
    (returned' : interner'.Returned value' id')
    (above : value.Below value' ∨
      Relation.ReflTransGen Value.Edited value value')
    {pattern : Pattern}
    (accepted : pattern.accepts interner.graph id = true) :
    pattern.accepts interner'.graph id' = true := by
  rw [accepts_of_denotes (returned.denotes room)] at accepted
  rw [accepts_of_denotes (returned'.denotes room')]
  rcases above with below | edits
  · exact (carries_below pattern).one below accepted
  · exact acceptsTree_of_edits edits accepted

/-- A repetition of sets, one of which gets one more member and has another one
respelled. -/
theorem accepts_returned_mono_extended :
    let value := Value.list
      [.set [.string ⟨[.raw ['a']]⟩], .set [.number "1"]]
    let value' := Value.list
      [.set [.boolean true, .string ⟨[.escaped 'a']⟩], .set [.number "1"]]
    let pattern := Pattern.list
      [.repeated (.set [.string ⟨[.raw ['a']]⟩]), .repeated .any]
    let first := Interner.empty.intern value
    let early := Interner.empty.intern (.list [.boolean true])
    let second := early.2.intern value'
    first.2.graph.size ≤ UInt32.size ∧ second.2.graph.size ≤ UInt32.size ∧
      first.2.Returned value first.1 ∧ second.2.Returned value' second.1 ∧
      value.Below value' ∧ pattern.accepts first.2.graph first.1 = true ∧
      pattern.accepts second.2.graph second.1 = true := by
  intro value value' pattern first early second
  have count : first.2.graph.size = 5 := by
    simp only [first, value]
    cbv
  have count' : second.2.graph.size = 7 := by
    simp only [second, early, value']
    cbv
  have room : first.2.graph.size ≤ UInt32.size := by
    rw [count]
    decide
  have room' : second.2.graph.size ≤ UInt32.size := by
    rw [count']
    decide
  have returned : first.2.Returned value first.1 :=
    ⟨.empty, .refl, rfl, .refl⟩
  have returned' : second.2.Returned value' second.1 :=
    ⟨early.2, Interner.intern_run _ _, rfl, .refl⟩
  have spelled : (Text.mk [.raw ['a']]).plain = (Text.mk [.escaped 'a']).plain :=
    rfl
  have below : value.Below value' :=
    ⟨⟨⟨_, .tail _ (.head _), spelled⟩, trivial⟩,
      ⟨⟨_, .head _, rfl⟩, trivial⟩, trivial⟩
  have accepted : pattern.accepts first.2.graph first.1 = true := by
    rw [accepts_of_denotes (returned.denotes room)]
    simp only [pattern, value]
    cbv
  exact ⟨room, room', returned, returned', below, accepted,
    accepts_returned_mono room room' returned returned' (.inl below) accepted⟩

end Pattern

end TreeQuery
