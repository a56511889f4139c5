import Mathlib.Data.List.Nodup
import Mathlib.Data.List.Perm.Subperm
import Mathlib.Data.List.Range
import TreeQuery.Proofs.Graph.Handles
import TreeQuery.Proofs.Graph.Layers
import TreeQuery.Proofs.Value.Arranged

/-!
# Graphs of parts

A target means the occurrences that its slot denotes, which are all the same.
The occurrences of a tree in a graph are the trees of handles up to its own.  A
graph that is built of such occurrences alone has at most one slot for each of
these handles, so whatever a handle leads to can be interned anew and counted.
-/

namespace TreeQuery

namespace Graph

/-- The target leads to a slot of its kind that denotes the occurrence. -/
inductive Means (graph : Graph) : Target → Occurrence → Prop where
  | value {id : ValueId} {tree : Value} :
      graph.Denotes id tree → Means graph (.value id) (.value tree)
  | entry {id : EntryId} {key tree : Value} :
      graph.DenotesEntry id (key, tree) →
      Means graph (.entry id) (.entry key tree)

section

variable {graph large small : Graph} {target target' : Target}
  {occurrence occurrence' : Occurrence}

theorem Means.mono (growth : large.Extends small)
    (means : small.Means target occurrence) : large.Means target occurrence := by
  cases means with
  | value denotes => exact .value (denotes.mono growth)
  | entry denotes => exact .entry (denotes.mono growth)

theorem Means.resolves (means : graph.Means target occurrence) :
    graph.Resolves target := by
  cases means with
  | value denotes => exact denotes.resolves
  | entry denotes =>
      obtain ⟨stored, found, -⟩ := denotes
      exact ⟨stored, found⟩

theorem Means.ofSame (means : graph.Means target occurrence)
    (same : occurrence.Same occurrence') : graph.Means target occurrence' := by
  cases means with
  | value denotes =>
      cases occurrence' with
      | value tree => exact .value (denotes.ofSame same)
      | entry key tree => exact same.elim
  | entry denotes =>
      cases occurrence' with
      | value tree => exact same.elim
      | entry key tree => exact .entry (denotes.ofSame same)

theorem Means.same (means : graph.Means target occurrence)
    (means' : graph.Means target occurrence') :
    occurrence.Same occurrence' := by
  cases means with
  | value denotes =>
      cases means' with
      | value denotes' => exact denotes.same denotes'
  | entry denotes =>
      cases means' with
      | entry denotes' => exact denotes.same denotes'

theorem Expands.means (expands : graph.Expands target occurrence) :
    graph.Means target occurrence := by
  cases expands with
  | value expanded => exact .value (ExpandsWithin.denotes expanded)
  | entry found key tree =>
      exact .entry ⟨_, found, ExpandsWithin.denotes key,
        ExpandsWithin.denotes tree⟩

/-- A slot with the key of one that shows an occurrence denotes the
occurrence. -/
theorem exists_means_of_key {index : UInt32} {stored slot : Slot}
    (found : graph.slots[index.toNat]? = some stored)
    (same : stored.key = slot.key) (shows : slot.Shows graph occurrence) :
    ∃ target, target.index = index ∧ graph.Means target occurrence := by
  cases shows with
  | entry key tree =>
      obtain rfl := Slot.eq_of_key_eq rfl (by simp) same
      refine ⟨.entry ⟨index⟩, rfl, .entry ?_⟩
      exact ⟨_, entry?_eq_some_iff.mpr found, key, tree⟩
  | value shape =>
      refine ⟨.value ⟨index⟩, rfl, .value ?_⟩
      have denotes (stays : graph.value? ⟨index⟩ = some _) :=
        shape.denotes stays
      cases shape with
      | constr items fields =>
          obtain ⟨fields', rfl, order⟩ := Slot.key_constr_eq_iff.mp same
          exact ⟨_, fields', value?_eq_some_iff.mpr found,
            denotesItems_iff_forall₂.mpr items, _, order,
            denotesFields_iff_forall₂.mpr fields⟩
      | _ =>
          obtain rfl := Slot.eq_of_key_eq rfl (by simp) same
          exact denotes (value?_eq_some_iff.mpr found)

theorem Expands.resolves (expands : graph.Expands target occurrence) :
    graph.Resolves target :=
  expands.means.resolves

/-- A slot holds a value or an entry, so its index stands for one target. -/
theorem Resolves.eq_of_index_eq (resolves : graph.Resolves target)
    (resolves' : graph.Resolves target') (same : target.index = target'.index) :
    target = target' := by
  obtain ⟨⟨index⟩⟩ | ⟨⟨index⟩⟩ := target <;>
    obtain ⟨⟨index'⟩⟩ | ⟨⟨index'⟩⟩ := target'
  · exact congrArg (fun index => Target.value ⟨index⟩) same
  · obtain ⟨node, found⟩ := resolves
    obtain ⟨stored, found'⟩ := resolves'
    obtain rfl : index = index' := same
    cases (value?_eq_some_iff.mp found).symm.trans (entry?_eq_some_iff.mp found')
  · obtain ⟨stored, found⟩ := resolves
    obtain ⟨node, found'⟩ := resolves'
    obtain rfl : index = index' := same
    cases (entry?_eq_some_iff.mp found).symm.trans (value?_eq_some_iff.mp found')
  · exact congrArg (fun index => Target.entry ⟨index⟩) same

/-- What occurs in an occurrence belongs to a handle up to its own. -/
theorem Layered.exists_expands_of_mem_listing (layered : graph.Layered)
    (expands : graph.Expands target occurrence) :
    ∀ inner ∈ occurrence.listing, ∃ target', graph.Expands target' inner ∧
      target'.index.toNat ≤ target.index.toNat := by
  induction bound : target.index.toNat using Nat.strong_induction_on
    generalizing target occurrence with
  | _ bound induction =>
      subst bound
      intro inner member
      rw [Occurrence.listing_eq] at member
      rcases List.mem_cons.mp member with rfl | below
      · exact ⟨target, expands, Nat.le_refl _⟩
      · obtain ⟨part, among, inside⟩ := List.mem_flatMap.mp below
        obtain ⟨inner', among', expands'⟩ :=
          exists_mem_of_forall₂ expands.parts part among
        obtain ⟨named, within, rfl⟩ := List.mem_map.mp among'
        have before := layered.parts target named within
        obtain ⟨target', expandsInner, le⟩ :=
          induction _ before expands' rfl inner inside
        exact ⟨target', expandsInner, le.trans before.le⟩

end

end Graph

namespace Interner

variable {interner : Interner}

theorem Indexed.means_unique (indexed : interner.Indexed)
    {target target' : Target} {occurrence : Occurrence}
    (means : interner.graph.Means target occurrence)
    (means' : interner.graph.Means target' occurrence) : target = target' := by
  cases means with
  | value denotes =>
      cases means' with
      | value denotes' =>
          exact congrArg _ (indexed.denotes_unique denotes denotes')
  | entry denotes =>
      cases means' with
      | entry denotes' =>
          exact congrArg _ (indexed.denotesEntry_unique denotes denotes')

/-- Nodes that unfold to the same value have one key. -/
theorem Indexed.key_eq_of_unfolds (indexed : interner.Indexed)
    {node node' : Node} {tree tree' : Value}
    (shape : interner.graph.Unfolds interner.graph.Denotes node tree)
    (shape' : interner.graph.Unfolds interner.graph.Denotes node' tree')
    (same : tree.Same tree') :
    (Slot.value node).key = (Slot.value node').key := by
  cases shape with
  | map entries =>
      -- A node of another kind does not unfold to the same.
      cases shape' <;> try exact same.elim
      next entries' =>
      have sameIds := indexed.denotesEntries_unique
        ((Graph.denotesEntries_iff_unfolds.mpr entries).ofSame same)
        (Graph.denotesEntries_iff_unfolds.mpr entries')
      rw [sameIds]
  | list items | set items | tuple items =>
      cases shape' <;> try exact same.elim
      next items' =>
      have sameIds := indexed.denotesItems_unique
        ((Graph.denotesItems_iff_forall₂.mpr items).ofSame same)
        (Graph.denotesItems_iff_forall₂.mpr items')
      rw [sameIds]
  | constr items fields =>
      cases shape' <;> try exact same.elim
      next items' fields' =>
      obtain ⟨rfl, rfl, sameItems, arranged, sameFields, order⟩ := same
      have sameIds := indexed.denotesItems_unique
        ((Graph.denotesItems_iff_forall₂.mpr items).ofSame sameItems)
        (Graph.denotesItems_iff_forall₂.mpr items')
      have denotes := Graph.denotesFields_iff_forall₂.mpr fields
      obtain ⟨ids, rearranged, denotesArranged⟩ :=
        (denotes.ofSame sameFields).follow order
      have sameFieldIds := indexed.denotesFields_unique denotesArranged
        (Graph.denotesFields_iff_forall₂.mpr fields')
      rw [sameIds, Slot.key_constr_eq_iff]
      exact ⟨_, rfl, sameFieldIds ▸ rearranged⟩
  | string | number | boolean | location =>
      cases shape' <;> try exact same.elim
      obtain rfl := same
      rfl

/-- Slots that show the same occurrence have one key. -/
theorem Indexed.key_eq_of_shows (indexed : interner.Indexed)
    {slot slot' : Slot} {occurrence occurrence' : Occurrence}
    (shows : slot.Shows interner.graph occurrence)
    (shows' : slot'.Shows interner.graph occurrence')
    (same : occurrence.Same occurrence') : slot.key = slot'.key := by
  cases shows with
  | value shape =>
      cases shows' with
      | value shape' => exact indexed.key_eq_of_unfolds shape shape' same
      | entry => exact same.elim
  | entry key tree =>
      cases shows' with
      | value => exact same.elim
      | entry key' tree' =>
          have sameKey := indexed.denotes_unique (key.ofSame same.1) key'
          have sameTree := indexed.denotes_unique (tree.ofSame same.2) tree'
          exact congrArg₂ (fun key tree => Slot.entry ⟨key, tree⟩) sameKey
            sameTree

/-- The table leads to the slot at any place. -/
theorem Valid.table_key (valid : interner.Valid) {place : Nat} {slot : Slot}
    (found : interner.graph.slots[place]? = some slot) :
    ∃ index : UInt32, index.toNat = place ∧
      interner.table[slot.key]? = some index := by
  obtain ⟨inside, -⟩ := Array.getElem?_eq_some_iff.mp found
  have counted : (UInt32.ofNat place).toNat = place :=
    UInt32.toNat_ofNat_of_lt' (inside.trans_le valid.size_le)
  refine ⟨.ofNat place, counted, ?_⟩
  exact (valid.table_iff _ _).mpr ⟨slot, by rw [counted, found], rfl⟩

theorem Valid.nodup_keys (valid : interner.Valid) :
    (interner.graph.slots.toList.map Slot.key).Nodup := by
  apply List.nodup_iff_injective_getElem.mpr
  intro place place' same
  simp only [List.getElem_map, Array.getElem_toList] at same
  obtain ⟨index, there, entered⟩ :=
    valid.table_key (Array.getElem?_eq_getElem (by simpa using place.2))
  obtain ⟨index', there', entered'⟩ :=
    valid.table_key (Array.getElem?_eq_getElem (by simpa using place'.2))
  rw [same, entered'] at entered
  cases entered
  exact Fin.ext (there.symm.trans there')

/-- Slots with different keys show different occurrences, so they are no more
than there are targets below a bound for these. -/
theorem Valid.length_le_of_shows (valid : interner.Valid) {graph : Graph}
    {slots : List Slot} {listed : List Occurrence} {bound : Nat}
    (distinct : (slots.map Slot.key).Nodup)
    (each : ∀ slot ∈ slots, ∃ occurrence ∈ listed,
      slot.Shows interner.graph occurrence)
    (held : ∀ occurrence ∈ listed, ∃ target,
      graph.Means target occurrence ∧ target.index.toNat < bound) :
    slots.length ≤ bound := by
  have placed : ∀ slot ∈ slots, ∃ place < bound, ∃ target occurrence,
      target.index.toNat = place ∧ graph.Means target occurrence ∧
        slot.Shows interner.graph occurrence := by
    intro slot member
    obtain ⟨occurrence, among, shows⟩ := each slot member
    obtain ⟨target, means, below⟩ := held occurrence among
    exact ⟨_, below, target, occurrence, rfl, means, shows⟩
  choose! place below shown using placed
  have apart : (slots.map place).Nodup := by
    refine distinct.of_map.map_on ?_
    intro slot member slot' member' same
    obtain ⟨target, occurrence, there, means, shows⟩ := shown slot member
    obtain ⟨target', occurrence', there', means', shows'⟩ := shown slot' member'
    have sameIndex : target.index = target'.index :=
      UInt32.toNat_inj.mp (there.trans (same.trans there'.symm))
    obtain rfl := means.resolves.eq_of_index_eq means'.resolves sameIndex
    exact List.inj_on_of_nodup_map distinct member member'
      (valid.indexed.key_eq_of_shows shows shows' (means.same means'))
  have inside : slots.map place ⊆ List.range bound := by
    intro index member
    obtain ⟨slot, among, rfl⟩ := List.mem_map.mp member
    exact List.mem_range.mpr (below slot among)
  simpa using (apart.subperm inside).length_le

end Interner

theorem Slot.Shows.mono {large small : Graph} {slot : Slot}
    {occurrence : Occurrence} (growth : large.Extends small)
    (shows : slot.Shows small occurrence) : slot.Shows large occurrence := by
  cases shows with
  | value shape => exact .value (shape.mono growth fun _ _ => .mono growth)
  | entry key tree => exact .entry (key.mono growth) (tree.mono growth)

namespace Interner

variable {interner : Interner} {listed : List Occurrence}

theorem ShowingRun.shows (showing : ShowingRun listed empty interner)
    (room : interner.graph.size ≤ UInt32.size) :
    ∀ slot ∈ interner.graph.slots.toList, ∃ occurrence ∈ listed,
      slot.Shows interner.graph occurrence := by
  induction showing with
  | refl =>
      intro slot member
      simp [empty, Graph.empty] at member
  | @insert middle added occurrence _ among shows induction =>
      have growth := insert_extends middle added
      have smaller := growth.size_le.trans room
      have keep : ∀ slot ∈ middle.graph.slots.toList, ∃ occurrence ∈ listed,
          slot.Shows (middle.insert added).2.graph occurrence := by
        intro slot member
        obtain ⟨occurrence, among, shows⟩ := induction smaller slot member
        exact ⟨occurrence, among, shows.mono growth⟩
      have new : added.Shows (middle.insert added).2.graph occurrence :=
        (shows smaller).mono growth
      rcases insert_cases middle added with ⟨_, -, result⟩ | ⟨-, result⟩
      · rw [result] at keep ⊢
        exact keep
      · rw [result] at keep new ⊢
        intro slot member
        simp only [Graph.push, Array.toList_push, List.mem_append,
          List.mem_singleton] at member
        rcases member with former | rfl
        · exact keep slot former
        · exact ⟨occurrence, among, new⟩

/-- A graph that is built of occurrences of another graph alone has no more
slots than there are handles of these occurrences. -/
theorem ShowingRun.size_le {graph : Graph} {bound : Nat}
    (showing : ShowingRun listed empty interner)
    (held : ∀ occurrence ∈ listed, ∃ target,
      graph.Means target occurrence ∧ target.index.toNat < bound)
    (room : bound ≤ UInt32.size) : interner.graph.size ≤ bound := by
  induction showing with
  | refl => exact Nat.zero_le _
  | @insert middle added occurrence showing among shows smaller =>
      have counted := smaller.trans room
      have valid := showing.run.valid empty_valid counted
      rcases insert_cases middle added with ⟨_, -, result⟩ | ⟨missing, result⟩
      · rw [result]
        exact smaller
      · have fresh : added.key ∉ middle.graph.slots.toList.map Slot.key := by
          intro member
          obtain ⟨slot, member, same⟩ := List.mem_map.mp member
          obtain ⟨place, found⟩ := List.mem_iff_getElem?.mp member
          obtain ⟨index, -, entered⟩ :=
            valid.table_key (Array.getElem?_toList.symm.trans found)
          rw [same, missing] at entered
          cases entered
        have distinct :
            ((added :: middle.graph.slots.toList).map Slot.key).Nodup :=
          List.nodup_cons.mpr ⟨fresh, valid.nodup_keys⟩
        have each := List.forall_mem_cons.mpr
          ⟨⟨occurrence, among, shows counted⟩, showing.shows counted⟩
        have total := valid.length_le_of_shows distinct each held
        rw [result, Graph.size, Graph.push, Array.size_push]
        simpa using total

/-- The tree of a handle is interned anew with no more slots than there are
handles up to this one, so all of them can be counted. -/
theorem intern_size_le {graph : Graph} {root : ValueId} {tree : Value}
    (layered : graph.Layered) (expands : graph.expand? root = some tree) :
    (empty.intern tree).2.graph.size ≤ root.index.toNat + 1 := by
  have shown : graph.Expands (.value root) (.value tree) := .value expands
  have held : ∀ occurrence ∈ tree.listing, ∃ target,
      graph.Means target occurrence ∧
        target.index.toNat < root.index.toNat + 1 := by
    intro occurrence member
    obtain ⟨target, expands', le⟩ :=
      layered.exists_expands_of_mem_listing shown occurrence member
    exact ⟨target, expands'.means, Nat.lt_succ_of_le le⟩
  exact (intern_showing .refl tree).size_le held root.index.toNat_lt_size

theorem insert_size_le (interner : Interner) (slot : Slot) :
    (interner.insert slot).2.graph.size ≤ interner.graph.size + 1 := by
  rcases insert_cases interner slot with ⟨_, -, result⟩ | ⟨-, result⟩
  · rw [result]
    exact Nat.le_succ _
  · rw [result, Graph.size, Graph.push, Array.size_push, Graph.size]

/-- The same holds for a map of one entry of the tree: the entry lies below the
root, which makes room for the map. -/
theorem intern_entry_size_le {graph : Graph} {root : ValueId} {tree : Value}
    (layered : graph.Layered) (expands : graph.expand? root = some tree)
    {key value : Value} (member : .entry key value ∈ tree.listing) :
    (empty.intern (.map [(key, value)])).2.graph.size ≤
      root.index.toNat + 1 := by
  have shown : graph.Expands (.value root) (.value tree) := .value expands
  obtain ⟨target, expandsEntry, le⟩ :=
    layered.exists_expands_of_mem_listing shown _ member
  have other : target.index.toNat ≠ root.index.toNat := by
    intro same
    have sameTarget := expandsEntry.resolves.eq_of_index_eq shown.resolves
      (UInt32.toNat_inj.mp same)
    rw [sameTarget] at expandsEntry
    cases expandsEntry
  have below : target.index.toNat < root.index.toNat := lt_of_le_of_ne le other
  have counted : root.index.toNat < UInt32.size := root.index.toNat_lt_size
  have held : ∀ occurrence ∈ Value.listingEntries [(key, value)], ∃ target',
      graph.Means target' occurrence ∧
        target'.index.toNat < target.index.toNat + 1 := by
    intro occurrence member
    have within : occurrence ∈ (Occurrence.entry key value).listing := by
      simpa [Value.listingEntries, Occurrence.listing] using member
    obtain ⟨target', expands', le'⟩ :=
      layered.exists_expands_of_mem_listing expandsEntry occurrence within
    exact ⟨target', expands'.means, Nat.lt_succ_of_le le'⟩
  have entries := (internEntries_showing .refl [(key, value)]).size_le held
    (by omega)
  have total := insert_size_le (empty.internEntries [(key, value)]).2
    (.value (.map (empty.internEntries [(key, value)]).1))
  exact total.trans (by omega)

end Interner

end TreeQuery
