import TreeQuery.Outline
import TreeQuery.Proofs.Graph.Occurrences
import TreeQuery.Proofs.Related

/-!
# Layers of a graph

In a graph that was built by interning values, the handles in a slot lead to
earlier slots of the right kind.  So every handle of a value expands to a tree,
and the handle denotes the tree it expands to.
-/

namespace TreeQuery

private theorem map_fst_mapIdx {α β γ : Type} (change : α → β) (mark : Nat → γ)
    (items : List α) :
    (items.mapIdx fun position item => (change item, mark position)).map
      Prod.fst = items.map change := by
  apply List.ext_getElem <;> simp

def Target.index : Target → UInt32
  | value id => id.index
  | entry id => id.index

/-- The handles of a canonical value, in order. -/
def Node.targets : Node → List Target
  | map entries => entries.map .entry
  | list items | set items | tuple items => items.map .value
  | constr _ _ positional named =>
      positional.map .value ++ named.map fun field => .value field.2
  | string _ | number _ | boolean _ | location _ => []

def Slot.targets : Slot → List Target
  | value node => node.targets
  | entry stored => [.value stored.key, .value stored.value]

namespace Graph

/-- The handle leads to a slot of its kind. -/
def Resolves (graph : Graph) : Target → Prop
  | .value id => ∃ node, graph.value? id = some node
  | .entry id => ∃ stored, graph.entry? id = some stored

/-- The handles of every slot that an index leads to are handles of earlier
slots. -/
def Layered (graph : Graph) : Prop :=
  ∀ (index : UInt32) (slot : Slot),
    graph.slots[index.toNat]? = some slot →
      ∀ target ∈ slot.targets,
        target.index.toNat < index.toNat ∧ graph.Resolves target

section

variable {graph large small : Graph}

theorem Resolves.mono (growth : large.Extends small) {target : Target}
    (resolves : small.Resolves target) : large.Resolves target := by
  cases target with
  | value id =>
      obtain ⟨node, found⟩ := resolves
      exact ⟨node, growth.value? found⟩
  | entry id =>
      obtain ⟨stored, found⟩ := resolves
      exact ⟨stored, growth.entry? found⟩

theorem Resolves.index_lt {target : Target}
    (resolves : graph.Resolves target) : target.index.toNat < graph.size := by
  cases target with
  | value id =>
      obtain ⟨node, found⟩ := resolves
      exact (Array.getElem?_eq_some_iff.mp (value?_eq_some_iff.mp found)).1
  | entry id =>
      obtain ⟨stored, found⟩ := resolves
      exact (Array.getElem?_eq_some_iff.mp (entry?_eq_some_iff.mp found)).1

end

end Graph

/-- The handles of a slot that shows an occurrence lead to slots of the graph. -/
theorem Slot.Shows.resolves {graph : Graph} {slot : Slot}
    {occurrence : Occurrence} (shows : slot.Shows graph occurrence) :
    ∀ target ∈ slot.targets, graph.Resolves target := by
  cases shows with
  | entry key tree =>
      simp only [targets, List.forall_mem_cons]
      exact ⟨key.resolves, tree.resolves, List.forall_mem_nil _⟩
  | value shape =>
      cases shape with
      | map entries =>
          refine List.forall_mem_map.mpr ?_
          refine forall_mem_of_forall₂ entries fun id entry unfolds => ?_
          obtain ⟨stored, found, -⟩ := unfolds
          exact ⟨stored, found⟩
      | list items | set items | tuple items =>
          refine List.forall_mem_map.mpr ?_
          exact forall_mem_of_forall₂ items fun _ _ denotes => denotes.resolves
      | constr items fields =>
          refine List.forall_mem_append.mpr ⟨?_, ?_⟩
          · refine List.forall_mem_map.mpr ?_
            exact forall_mem_of_forall₂ items fun _ _ denotes =>
              denotes.resolves
          · refine List.forall_mem_map.mpr ?_
            exact forall_mem_of_forall₂ fields fun _ _ unfolds =>
              unfolds.2.resolves
      | string | number | boolean | location => exact List.forall_mem_nil _

namespace Interner

/-- The interners reached from the empty one by interning values. -/
inductive Reached : Interner → Prop where
  | empty : Reached .empty
  | intern {interner : Interner} (value : Value) :
      Reached interner → Reached (interner.intern value).2

variable {interner : Interner}

theorem Reached.exists_showing (reached : Reached interner) :
    ∃ listed, ShowingRun listed Interner.empty interner := by
  induction reached with
  | empty => exact ⟨[], .refl⟩
  | intern value _ induction =>
      obtain ⟨listed, showing⟩ := induction
      have added := intern_showing showing.run value
      exact ⟨listed ++ value.listing,
        (showing.mono (List.subset_append_left _ _)).trans
          (added.mono (List.subset_append_right _ _))⟩

theorem Reached.run (reached : Reached interner) :
    Run Interner.empty interner := by
  obtain ⟨listed, showing⟩ := reached.exists_showing
  exact showing.run

theorem ShowingRun.layered {listed : List Occurrence}
    (showing : ShowingRun listed Interner.empty interner) : interner.graph.Layered := by
  induction showing with
  | refl =>
      intro index slot found
      simp [empty, Graph.empty] at found
  | @insert middle slot occurrence _ _ shows layered =>
      have growth := insert_extends middle slot
      have keep (index : UInt32) (stored : Slot)
          (former : middle.graph.slots[index.toNat]? = some stored) :
          ∀ target ∈ stored.targets, target.index.toNat < index.toNat ∧
            (middle.insert slot).2.graph.Resolves target := by
        intro target member
        obtain ⟨earlier, resolves⟩ := layered index stored former target member
        exact ⟨earlier, resolves.mono growth⟩
      rcases insert_cases middle slot with ⟨_, -, result⟩ | ⟨-, result⟩
      · rw [result] at keep ⊢
        exact keep
      · rw [result] at growth keep ⊢
        intro index stored found
        rcases Graph.push_cases found with ⟨atEnd, rfl⟩ | former
        · -- An index leads to the new slot, so all slots were counted.
          have room : middle.graph.size < UInt32.size := by
            rw [← atEnd]
            exact index.toNat_lt_size
          intro target member
          have resolves := (shows room.le).resolves target member
          exact ⟨atEnd ▸ resolves.index_lt, resolves.mono growth⟩
        · exact keep index stored former

/-- In a graph that was built by interning values, handles lead to earlier
slots. -/
theorem Reached.layered (reached : Reached interner) :
    interner.graph.Layered := by
  obtain ⟨listed, showing⟩ := reached.exists_showing
  exact showing.layered

end Interner

namespace Graph

section

variable {graph : Graph}

theorem Layered.value (layered : graph.Layered) {id : ValueId} {node : Node}
    (found : graph.value? id = some node) :
    ∀ target ∈ node.targets,
      target.index.toNat < id.index.toNat ∧ graph.Resolves target :=
  layered id.index (.value node) (value?_eq_some_iff.mp found)

theorem Layered.entry (layered : graph.Layered) {id : EntryId} {stored : Entry}
    (found : graph.entry? id = some stored) :
    ∀ target ∈ [Target.value stored.key, .value stored.value],
      target.index.toNat < id.index.toNat ∧ graph.Resolves target :=
  layered id.index (.entry stored) (entry?_eq_some_iff.mp found)

/-- A node unfolds to something if the handles before its own lead to
something. -/
theorem Layered.exists_unfolds (layered : graph.Layered) {id : ValueId}
    {node : Node} {related : ValueId → Value → Prop}
    (found : graph.value? id = some node)
    (each : ∀ child : ValueId, child.index.toNat < id.index.toNat →
      graph.Resolves (.value child) → ∃ value, related child value) :
    ∃ value, graph.Unfolds related node value := by
  have children := layered.value found
  have all (ids : List ValueId)
      (earlier : ∀ target ∈ ids.map Target.value,
        target.index.toNat < id.index.toNat ∧ graph.Resolves target) :
      ∃ items, List.Forall₂ related ids items := by
    refine exists_forall₂ _ fun child member => ?_
    obtain ⟨below, resolves⟩ := earlier _ (List.mem_map_of_mem member)
    exact each child below resolves
  cases node with
  | map ids =>
      obtain ⟨entries, unfolded⟩ := exists_forall₂
        (graph.UnfoldsEntry related) <| by
          intro entryId member
          obtain ⟨earlier, stored, found'⟩ :=
            children _ (List.mem_map_of_mem member)
          have parts := layered.entry found'
          simp only [List.forall_mem_cons] at parts
          obtain ⟨⟨keyBelow, keyResolves⟩, ⟨valueBelow, valueResolves⟩, -⟩ :=
            parts
          obtain ⟨key, relatedKey⟩ :=
            each _ (keyBelow.trans earlier) keyResolves
          obtain ⟨value, relatedValue⟩ :=
            each _ (valueBelow.trans earlier) valueResolves
          exact ⟨(key, value), stored, found', relatedKey, relatedValue⟩
      exact ⟨_, .map unfolded⟩
  | list ids =>
      obtain ⟨items, unfolded⟩ := all ids children
      exact ⟨_, .list unfolded⟩
  | set ids =>
      obtain ⟨items, unfolded⟩ := all ids children
      exact ⟨_, .set unfolded⟩
  | tuple ids =>
      obtain ⟨items, unfolded⟩ := all ids children
      exact ⟨_, .tuple unfolded⟩
  | constr kind name ids fields =>
      obtain ⟨ofItems, ofFields⟩ := List.forall_mem_append.mp children
      obtain ⟨items, unfolded⟩ := all ids ofItems
      obtain ⟨named, others⟩ := exists_forall₂ (UnfoldsField related) <| by
        intro field member
        obtain ⟨earlier, resolves⟩ := ofFields _ (List.mem_map_of_mem member)
        obtain ⟨value, unfolds⟩ := each field.2 earlier resolves
        exact ⟨(field.1, value), rfl, unfolds⟩
      exact ⟨_, .constr unfolded others⟩
  | string text => exact ⟨_, .string text⟩
  | number digits => exact ⟨_, .number digits⟩
  | boolean truth => exact ⟨_, .boolean truth⟩
  | location place => exact ⟨_, .location place⟩

/-- A handle of a layered graph expands within as many levels as there are
slots up to its own. -/
theorem Layered.exists_expandsWithin (layered : graph.Layered) {depth : Nat}
    {id : ValueId} {node : Node} (found : graph.value? id = some node)
    (below : id.index.toNat < depth) :
    ∃ value, graph.ExpandsWithin depth id value := by
  induction depth generalizing id node with
  | zero => exact absurd below (Nat.not_lt_zero _)
  | succ depth induction =>
      have expand (child : ValueId) (earlier : child.index.toNat < id.index.toNat)
          (resolves : graph.Resolves (.value child)) :
          ∃ value, graph.ExpandsWithin depth child value := by
        obtain ⟨node, found⟩ := resolves
        exact induction found (by omega)
      obtain ⟨value, shape⟩ := layered.exists_unfolds found expand
      exact ⟨value, expandsWithin_succ_iff.mpr ⟨node, found, shape⟩⟩

/-- Every handle of a value expands to a tree. -/
theorem Layered.exists_expand (layered : graph.Layered) {id : ValueId}
    {node : Node} (found : graph.value? id = some node) :
    ∃ tree, graph.expand? id = some tree :=
  have resolves : graph.Resolves (.value id) := ⟨node, found⟩
  layered.exists_expandsWithin found resolves.index_lt

/-- A handle denotes what its node unfolds to. -/
theorem Unfolds.denotes {id : ValueId} {node : Node} {value : Value}
    (shape : graph.Unfolds graph.Denotes node value)
    (found : graph.value? id = some node) : graph.Denotes id value := by
  cases shape with
  | map entries =>
      exact ⟨_, found, denotesEntries_iff_unfolds.mpr entries⟩
  | list items | set items | tuple items =>
      exact ⟨_, found, denotesItems_iff_forall₂.mpr items⟩
  | constr items fields =>
      exact ⟨_, _, found, denotesItems_iff_forall₂.mpr items, _, .refl _,
        denotesFields_iff_forall₂.mpr fields⟩
  | string | number | boolean | location => exact found

/-- A handle denotes the tree that it expands to. -/
theorem ExpandsWithin.denotes {depth : Nat} {id : ValueId} {value : Value}
    (expands : graph.ExpandsWithin depth id value) :
    graph.Denotes id value := by
  induction depth generalizing id value with
  | zero => cases expands
  | succ depth induction =>
      obtain ⟨node, found, shape⟩ := expandsWithin_succ_iff.mp expands
      exact (shape.mono (.refl graph) fun _ _ => induction).denotes found

end

end Graph

theorem Node.map_fst_parts (node : Node) :
    node.parts.map Prod.fst = node.targets := by
  cases node <;>
    simp only [parts, targets, List.map_append, map_fst_mapIdx, List.map_map,
      Function.comp_def, List.map_nil]

namespace Graph

/-- The target is a handle that expands to the occurrence. -/
inductive Expands (graph : Graph) : Target → Occurrence → Prop where
  | value {id : ValueId} {tree : Value} :
      graph.expand? id = some tree → Expands graph (.value id) (.value tree)
  | entry {id : EntryId} {stored : Entry} {key tree : Value} :
      graph.entry? id = some stored → graph.expand? stored.key = some key →
      graph.expand? stored.value = some tree →
      Expands graph (.entry id) (.entry key tree)

section

variable {graph : Graph} {target : Target} {occurrence : Occurrence}

/-- A handle that expands has a node that unfolds to the same tree. -/
theorem exists_unfolds_of_expand? {id : ValueId} {tree : Value}
    (expands : graph.expand? id = some tree) :
    ∃ node, graph.value? id = some node ∧
      graph.Unfolds (fun id tree => graph.expand? id = some tree) node tree := by
  have within : graph.ExpandsWithin graph.size id tree := expands
  have deeper := within.mono (.refl graph) (Nat.le_succ _)
  obtain ⟨node, found, shape⟩ := expandsWithin_succ_iff.mp deeper
  exact ⟨node, found, shape⟩

theorem Unfolds.targets {node : Node} {tree : Value}
    (shape : graph.Unfolds (fun id tree => graph.expand? id = some tree)
      node tree) :
    List.Forall₂ graph.Expands node.targets (Occurrence.value tree).parts := by
  cases shape with
  | map entries =>
      simp only [Node.targets, Occurrence.parts, List.forall₂_map_left_iff,
        List.forall₂_map_right_iff]
      refine entries.imp fun id entry unfolds => ?_
      obtain ⟨stored, found, key, tree⟩ := unfolds
      exact .entry found key tree
  | list items | set items | tuple items =>
      simp only [Node.targets, Occurrence.parts, List.forall₂_map_left_iff,
        List.forall₂_map_right_iff]
      exact items.imp fun _ _ => .value
  | constr items fields =>
      apply List.rel_append
      · simp only [List.forall₂_map_left_iff, List.forall₂_map_right_iff]
        exact items.imp fun _ _ => .value
      · simp only [List.forall₂_map_left_iff, List.forall₂_map_right_iff]
        exact fields.imp fun _ _ unfolds => .value unfolds.2
  | string | number | boolean | location => exact .nil

/-- The parts of a target expand to the parts of the occurrence. -/
theorem Expands.parts (expands : graph.Expands target occurrence) :
    List.Forall₂ graph.Expands ((graph.parts target).map Prod.fst)
      occurrence.parts := by
  cases expands with
  | value expanded =>
      obtain ⟨node, found, shape⟩ := exists_unfolds_of_expand? expanded
      simp only [Graph.parts, found, Node.map_fst_parts]
      exact shape.targets
  | entry found key tree =>
      simp only [Graph.parts, found]
      exact .cons (.value key) (.cons (.value tree) .nil)

theorem Expands.index_lt (expands : graph.Expands target occurrence) :
    target.index.toNat < graph.size := by
  cases expands with
  | value expanded =>
      obtain ⟨node, found, -⟩ := exists_unfolds_of_expand? expanded
      have resolves : graph.Resolves (.value _) := ⟨node, found⟩
      exact resolves.index_lt
  | entry found _ _ =>
      have resolves : graph.Resolves (.entry _) := ⟨_, found⟩
      exact resolves.index_lt

/-- In a layered graph, the parts of a target lie before it and lead to slots
of their kinds. -/
theorem Layered.parts_resolve (layered : graph.Layered) (target : Target) :
    ∀ part ∈ graph.parts target,
      part.1.index.toNat < target.index.toNat ∧ graph.Resolves part.1 := by
  intro part member
  have named : part.1 ∈ (graph.parts target).map Prod.fst :=
    List.mem_map_of_mem member
  cases target with
  | value id =>
      rw [Graph.parts] at named
      cases found : graph.value? id with
      | none => simp [found] at named
      | some node =>
          simp only [found, Node.map_fst_parts] at named
          exact layered.value found _ named
  | entry id =>
      rw [Graph.parts] at named
      cases found : graph.entry? id with
      | none => simp [found] at named
      | some stored =>
          simp only [found, List.map_cons, List.map_nil] at named
          exact layered.entry found _ named

theorem Layered.parts (layered : graph.Layered) (target : Target) :
    ∀ part ∈ graph.parts target, part.1.index.toNat < target.index.toNat :=
  fun part member => (layered.parts_resolve target part member).1

end

end Graph

end TreeQuery
