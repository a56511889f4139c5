import TreeQuery.Proofs.Graph.History
import TreeQuery.Proofs.Value.Classes

/-!
# A graph holds one slot for each class

The slots of a graph stand for the classes of what was interned, one for each.
Neither the order of the calls nor a repeated call changes these classes, so
graphs of the same trees differ only in the indices of their slots and in the
order in which a slot lists named children.
-/

namespace TreeQuery

/-! ## Renaming handles -/

def ValueId.rename (change : UInt32 → UInt32) (id : ValueId) : ValueId :=
  ⟨change id.index⟩

def EntryId.rename (change : UInt32 → UInt32) (id : EntryId) : EntryId :=
  ⟨change id.index⟩

def Target.rename (change : UInt32 → UInt32) : Target → Target
  | value id => .value (id.rename change)
  | entry id => .entry (id.rename change)

theorem Target.index_rename (change : UInt32 → UInt32) (target : Target) :
    (target.rename change).index = change target.index := by
  cases target <;> rfl

def Node.rename (change : UInt32 → UInt32) : Node → Node
  | map entries => .map (entries.map (EntryId.rename change))
  | list items => .list (items.map (ValueId.rename change))
  | set items => .set (items.map (ValueId.rename change))
  | tuple items => .tuple (items.map (ValueId.rename change))
  | constr kind name positional named =>
      .constr kind name (positional.map (ValueId.rename change))
        (named.map fun (name, id) => (name, id.rename change))
  | string text => .string text
  | number digits => .number digits
  | boolean truth => .boolean truth
  | location place => .location place

/-- The slot with its handles renamed and all else kept. -/
def Slot.rename (change : UInt32 → UInt32) : Slot → Slot
  | value node => .value (node.rename change)
  | entry stored =>
      .entry ⟨stored.key.rename change, stored.value.rename change⟩

/-- Equality of slots up to the order of named children. -/
inductive Slot.Reordered : Slot → Slot → Prop where
  | same (slot : Slot) : Reordered slot slot
  | named {kind : ConstructorKind} {name : String} {positional : List ValueId}
      {named named' : List (String × ValueId)} :
      named.Perm named' →
      Reordered (.value (.constr kind name positional named))
        (.value (.constr kind name positional named'))

theorem Slot.reordered_of_key_eq {slot slot' : Slot}
    (same : slot.key = slot'.key) : slot.Reordered slot' := by
  cases slot' with
  | entry stored =>
      obtain rfl := eq_of_key_eq rfl (by simp) same
      exact .same _
  | value node =>
      cases node with
      | constr kind name positional named =>
          obtain ⟨named', rfl, order⟩ := key_constr_eq_iff.mp same
          exact .named order
      | _ =>
          obtain rfl := eq_of_key_eq rfl (by simp) same
          exact .same _

namespace Graph

/-- The indices of the slots. -/
def indices (graph : Graph) : Set UInt32 :=
  {index | index.toNat < graph.size}

/-- The second graph has the slots of the first one under other indices, with
the named children of each in some order. -/
structure Renames (graph graph' : Graph) (change : UInt32 → UInt32) : Prop where
  bijOn : Set.BijOn change graph.indices graph'.indices
  slots : ∀ (index : UInt32) (slot : Slot),
    graph.slots[index.toNat]? = some slot →
      ∃ slot', graph'.slots[(change index).toNat]? = some slot' ∧
        (slot.rename change).Reordered slot'

theorem encard_indices {graph : Graph} (room : graph.size ≤ UInt32.size) :
    graph.indices.encard = graph.size := by
  have counted : UInt32.toNat '' graph.indices =
      (Finset.range graph.size : Set Nat) := by
    ext place
    rw [Finset.mem_coe, Finset.mem_range]
    constructor
    · intro among
      obtain ⟨index, inside, rfl⟩ := among
      exact inside
    · intro inside
      have there : (UInt32.ofNat place).toNat = place :=
        UInt32.toNat_ofNat_of_lt' (inside.trans_le room)
      exact ⟨.ofNat place, there.trans_lt inside, there⟩
  have injective : Function.Injective UInt32.toNat :=
    fun _ _ => UInt32.toNat_inj.mp
  rw [← injective.encard_image, counted, Set.encard_coe_eq_coe_finsetCard,
    Finset.card_range]

variable {graph graph' : Graph} {change : UInt32 → UInt32}

theorem Means.index_mem {target : Target} {occurrence : Occurrence}
    (means : graph.Means target occurrence) : target.index ∈ graph.indices :=
  means.resolves.index_lt

/-- Targets that mean one occurrence are of one kind. -/
theorem Means.eq_rename {target target' : Target} {occurrence : Occurrence}
    (means : graph.Means target occurrence)
    (means' : graph'.Means target' occurrence)
    (there : target'.index = change target.index) :
    target' = target.rename change := by
  cases means with
  | value =>
      cases means' with
      | value => exact congrArg (fun index => Target.value ⟨index⟩) there
  | entry =>
      cases means' with
      | entry => exact congrArg (fun index => Target.entry ⟨index⟩) there

/-- When renamed handles mean the same, a renamed slot shows the same. -/
theorem shows_rename
    (kept : ∀ target occurrence, graph.Means target occurrence →
      graph'.Means (target.rename change) occurrence)
    {slot : Slot} {occurrence : Occurrence}
    (shows : slot.Shows graph occurrence) :
    (slot.rename change).Shows graph' occurrence := by
  have value {id : ValueId} {tree : Value} (denotes : graph.Denotes id tree) :
      graph'.Denotes (id.rename change) tree := by
    cases kept _ _ (.value denotes) with
    | value denotes => exact denotes
  have entry {id : EntryId} {pair : Value × Value}
      (denotes : graph.UnfoldsEntry graph.Denotes id pair) :
      graph'.UnfoldsEntry graph'.Denotes (id.rename change) pair := by
    cases kept _ _ (.entry denotes) with
    | entry denotes => exact denotes
  cases shows with
  | entry key tree => exact .entry (value key) (value tree)
  | value shape =>
      refine .value ?_
      cases shape with
      | map entries =>
          exact .map (List.forall₂_map_left_iff.mpr
            (entries.imp fun _ _ => entry))
      | list items | set items | tuple items =>
          constructor
          exact List.forall₂_map_left_iff.mpr (items.imp fun _ _ => value)
      | constr items fields =>
          refine .constr
            (List.forall₂_map_left_iff.mpr (items.imp fun _ _ => value)) ?_
          refine List.forall₂_map_left_iff.mpr (fields.imp ?_)
          intro id field unfolds
          exact ⟨unfolds.1, value unfolds.2⟩
      | string text => exact .string text
      | number digits => exact .number digits
      | boolean truth => exact .boolean truth
      | location place => exact .location place

end Graph

namespace Interner

/-- The slots show listed occurrences, and every listed occurrence has a
handle. -/
structure Holds (interner : Interner) (listed : List Occurrence) : Prop where
  valid : interner.Valid
  means : ∀ occurrence ∈ listed, ∃ target,
    interner.graph.Means target occurrence
  shows : ∀ slot ∈ interner.graph.slots.toList, ∃ occurrence ∈ listed,
    slot.Shows interner.graph occurrence

namespace Holds

variable {interner interner' : Interner} {listed listed' : List Occurrence}

theorem congr (holds : interner.Holds listed)
    (same : ∀ occurrence, occurrence ∈ listed ↔ occurrence ∈ listed') :
    interner.Holds listed' := by
  refine ⟨holds.valid, ?_, ?_⟩
  · intro occurrence member
    exact holds.means occurrence ((same occurrence).mpr member)
  · intro slot stored
    obtain ⟨occurrence, member, shows⟩ := holds.shows slot stored
    exact ⟨occurrence, (same occurrence).mp member, shows⟩

/-- What an index leads to. -/
theorem exists_means (holds : interner.Holds listed) {index : UInt32}
    {slot : Slot} (found : interner.graph.slots[index.toNat]? = some slot) :
    ∃ target occurrence, target.index = index ∧ occurrence ∈ listed ∧
      slot.Shows interner.graph occurrence ∧
      interner.graph.Means target occurrence := by
  have stored := Array.mem_toList_iff.mpr (Array.mem_of_getElem? found)
  obtain ⟨occurrence, member, shows⟩ := holds.shows slot stored
  obtain ⟨target, there, means⟩ := Graph.exists_means_of_key found rfl shows
  exact ⟨target, occurrence, there, member, shows, means⟩

/-- The slots stand for the classes of the listed occurrences, one for each. -/
theorem exists_bijOn (holds : interner.Holds listed) :
    ∃ found : UInt32 → Quotient Value.setoid ⊕ Quotient Value.entrySetoid,
      Set.BijOn found interner.graph.indices
        (Occurrence.classOf '' {occurrence | occurrence ∈ listed}) ∧
      ∀ target occurrence, interner.graph.Means target occurrence →
        found target.index = occurrence.classOf := by
  have placed : ∀ index ∈ interner.graph.indices, ∃ found,
      ∃ target occurrence, target.index = index ∧ occurrence ∈ listed ∧
        interner.graph.Means target occurrence ∧
        found = occurrence.classOf := by
    intro index inside
    obtain ⟨target, occurrence, there, member, -, means⟩ :=
      holds.exists_means (Array.getElem?_eq_getElem inside)
    exact ⟨_, target, occurrence, there, member, means, rfl⟩
  choose! found leads using placed
  have isClass (target : Target) (occurrence : Occurrence)
      (means : interner.graph.Means target occurrence) :
      found target.index = occurrence.classOf := by
    obtain ⟨target', occurrence', there, -, means', isClass⟩ :=
      leads target.index means.index_mem
    obtain rfl := means'.resolves.eq_of_index_eq means.resolves there
    exact isClass.trans (Occurrence.classOf_eq_iff.mpr (means'.same means))
  refine ⟨found, ⟨?_, ?_, ?_⟩, isClass⟩
  · intro index inside
    obtain ⟨target, occurrence, -, member, -, isClass⟩ := leads index inside
    exact ⟨occurrence, member, isClass.symm⟩
  · intro index inside index' inside' together
    obtain ⟨target, occurrence, rfl, -, means, isClass⟩ := leads index inside
    obtain ⟨target', occurrence', rfl, -, means', isClass'⟩ :=
      leads index' inside'
    have same : occurrence.Same occurrence' := by
      rw [← Occurrence.classOf_eq_iff, ← isClass, together, isClass']
    rw [holds.valid.indexed.means_unique (means.ofSame same) means']
  · intro _ among
    obtain ⟨occurrence, member, rfl⟩ := among
    obtain ⟨target, means⟩ := holds.means occurrence member
    exact ⟨target.index, means.index_mem, isClass target occurrence means⟩

theorem size_eq (holds : interner.Holds listed) :
    (interner.graph.size : ℕ∞) =
      (Occurrence.classOf '' {occurrence | occurrence ∈ listed}).encard := by
  obtain ⟨found, bijOn, -⟩ := holds.exists_bijOn
  rw [← Graph.encard_indices holds.valid.size_le]
  exact Set.encard_congr bijOn.equiv

/-- Two interners that hold the same occurrences mean the same by the handles of
one class. -/
theorem exists_change (holds : interner.Holds listed)
    (holds' : interner'.Holds listed) :
    ∃ change, Set.BijOn change interner.graph.indices interner'.graph.indices ∧
      ∀ target occurrence, interner.graph.Means target occurrence →
        interner'.graph.Means (target.rename change) occurrence := by
  obtain ⟨found, bijOn, isClass⟩ := holds.exists_bijOn
  obtain ⟨found', bijOn', isClass'⟩ := holds'.exists_bijOn
  -- Go to the class of the slot and from there to the other graph.
  let change := Function.invFunOn found' interner'.graph.indices ∘ found
  have inverse := bijOn'.invOn_invFunOn
  have bijOnChange :
      Set.BijOn change interner.graph.indices interner'.graph.indices :=
    (bijOn'.symm inverse.symm).comp bijOn
  refine ⟨change, bijOnChange, ?_⟩
  intro target occurrence means
  have moved := bijOnChange.mapsTo means.index_mem
  obtain ⟨target', occurrence', there, -, -, means'⟩ :=
    holds'.exists_means (Array.getElem?_eq_getElem moved)
  have same : occurrence'.Same occurrence := by
    rw [← Occurrence.classOf_eq_iff, ← isClass' _ _ means',
      ← isClass _ _ means, there]
    exact inverse.2 (bijOn.mapsTo means.index_mem)
  have means' := means'.ofSame same
  rwa [means.eq_rename means' there] at means'

/-- Interners that hold the same occurrences have graphs that differ by the
indices of slots and the order of named children. -/
theorem exists_renames (holds : interner.Holds listed)
    (holds' : interner'.Holds listed) :
    ∃ change, interner.graph.Renames interner'.graph change := by
  obtain ⟨change, bijOn, kept⟩ := holds.exists_change holds'
  refine ⟨change, bijOn, ?_⟩
  intro index slot found
  obtain ⟨target, occurrence, rfl, -, shows, means⟩ := holds.exists_means found
  have means' := kept target occurrence means
  have found' :=
    Array.getElem?_eq_getElem (bijOn.mapsTo means.index_mem)
  obtain ⟨target', occurrence', there, -, shows', means''⟩ :=
    holds'.exists_means found'
  have sameTarget := means'.resolves.eq_of_index_eq means''.resolves
    ((target.index_rename change).trans there.symm)
  have same := means'.same (sameTarget ▸ means'')
  refine ⟨_, found', Slot.reordered_of_key_eq ?_⟩
  exact holds'.valid.indexed.key_eq_of_shows (Graph.shows_rename kept shows)
    shows' same

end Holds

theorem internItems_holds {trees : List Value}
    (room : (empty.internItems trees).2.graph.size ≤ UInt32.size) :
    (empty.internItems trees).2.Holds (Value.listingItems trees) := by
  have ordered := internItems_ordered .refl trees
  have listed := Value.postorderItems_perm trees
  refine ⟨ordered.run.valid empty_valid room, ?_, ?_⟩
  · intro occurrence member
    exact ordered.means room occurrence (listed.mem_iff.mpr member)
  · exact (internItems_showing .refl trees).shows room

/-- The graph of a list of trees has one slot for each class of the values and
one for each class of the map entries that occur in them.  Lists with the same
trees, in any order and number, have graphs of one size, which differ by a
bijection of the indices and the order of named children. -/
theorem internItems_classes (trees : List Value)
    (room : (empty.internItems trees).2.graph.size ≤ UInt32.size) :
    let graph := (empty.internItems trees).2.graph
    (graph.size : ℕ∞) =
      (Value.classes trees).encard + (Value.entryClasses trees).encard ∧
    ∀ trees' : List Value, (∀ tree, tree ∈ trees ↔ tree ∈ trees') →
      let graph' := (empty.internItems trees').2.graph
      graph'.size = graph.size ∧
        ∃ change, graph.Renames graph' change := by
  intro graph
  have holds := internItems_holds room
  refine ⟨holds.size_eq.trans (Occurrence.encard_image_classOf trees), ?_⟩
  intro trees' same graph'
  have sameListed (occurrence : Occurrence) :
      occurrence ∈ Value.listingItems trees ↔
        occurrence ∈ Value.listingItems trees' := by
    simp only [Value.mem_listingItems_iff, same]
  have holdsAll := holds.congr sameListed
  have held : ∀ occurrence ∈ Value.listingItems trees', ∃ target,
      graph.Means target occurrence ∧ target.index.toNat < graph.size := by
    intro occurrence member
    obtain ⟨target, means⟩ := holdsAll.means occurrence member
    exact ⟨target, means, means.index_mem⟩
  have room' : graph'.size ≤ UInt32.size :=
    ((internItems_showing .refl trees').size_le held room).trans room
  have holds' := internItems_holds room'
  refine ⟨?_, holdsAll.exists_renames holds'⟩
  exact Nat.cast_inj.mp (holds'.size_eq.trans holdsAll.size_eq.symm)

/-- The constructors are one class, with two numbers, a map and its entry below
it. -/
theorem internItems_classes_swapped :
    let pairs := Value.map [(.number "1", .number "2")]
    let left := Value.constr .identifier "f" []
      [("a", .number "1"), ("b", pairs)]
    let right := Value.constr .identifier "f" []
      [("b", pairs), ("a", .number "1")]
    let trees := [left, right, .number "2"]
    let trees' := [.number "2", right, left, right]
    let graph := (empty.internItems trees).2.graph
    let graph' := (empty.internItems trees').2.graph
    graph.size ≤ UInt32.size ∧ (∀ tree, tree ∈ trees ↔ tree ∈ trees') ∧
      (Value.classes trees).encard + (Value.entryClasses trees).encard = 5 ∧
      graph.value? ⟨0⟩ = some (.number "1") ∧
      graph'.value? ⟨0⟩ = some (.number "2") ∧ graph'.size = 5 ∧
      ∃ change, graph.Renames graph' change := by
  intro pairs left right trees trees' graph graph'
  have count : graph.size = 5 := by
    simp only [graph, trees, left, right, pairs]
    cbv
  have room : graph.size ≤ UInt32.size := by
    rw [count]
    decide
  have same : ∀ tree, tree ∈ trees ↔ tree ∈ trees' := by
    intro tree
    simp only [trees, trees', List.mem_cons, List.not_mem_nil, or_false]
    grind
  have first : graph.value? ⟨0⟩ = some (.number "1") := by
    simp only [graph, trees, left, right, pairs]
    cbv
  have first' : graph'.value? ⟨0⟩ = some (.number "2") := by
    simp only [graph', trees', left, right, pairs]
    cbv
  obtain ⟨counted, reordered⟩ := internItems_classes trees room
  obtain ⟨count', renames⟩ := reordered trees' same
  have total : (graph.size : ℕ∞) = 5 := by
    rw [count]
    rfl
  exact ⟨room, same, counted.symm.trans total, first, first',
    count'.trans count, renames⟩

end Interner

end TreeQuery
