import TreeQuery.CommandLine.Run
import TreeQuery.Proofs.Matching.Replay

/-!
# Trees that are spelled alike

A handle expands to one tree, so in the tree of a handle two parts that are the
same are spelled alike.  Interning such a tree anew finds nothing to respell: the
new graph expands to the tree itself, and what was printed is printed again.
-/

namespace TreeQuery

private theorem forall₂_imp_mem {α β : Type} {related related' : α → β → Prop}
    {items : List α} {items' : List β} (all : List.Forall₂ related items items')
    (implied : ∀ item ∈ items, ∀ item' ∈ items',
      related item item' → related' item item') :
    List.Forall₂ related' items items' := by
  refine List.forall₂_iff_zip.mpr ⟨all.length_eq, ?_⟩
  intro item item' together
  obtain ⟨among, among'⟩ := List.of_mem_zip together
  exact implied item among item' among' (List.forall₂_zip all together)

namespace Graph

variable {graph : Graph} {target : Target} {occurrence : Occurrence}

/-- What lies directly in an expansion is an expansion too. -/
theorem Expands.exists_part (expands : graph.Expands target occurrence) :
    ∀ part ∈ occurrence.parts, ∃ target', graph.Expands target' part := by
  intro part inside
  obtain ⟨target', -, expands'⟩ :=
    exists_mem_of_forall₂ expands.parts part inside
  exact ⟨target', expands'⟩

/-- How a node unfolds may be said of the handles before its own and of the parts
of the tree alone. -/
theorem Layered.unfolds_of_parts (layered : graph.Layered) {id : ValueId}
    {node : Node} {tree : Value} {related related' : ValueId → Value → Prop}
    {held : Occurrence → Prop} (found : graph.value? id = some node)
    (shape : graph.Unfolds related node tree)
    (parts : ∀ part ∈ (Occurrence.value tree).parts, held part)
    (entries : ∀ key value, held (.entry key value) →
      held (.value key) ∧ held (.value value))
    (each : ∀ child part, child.index.toNat < id.index.toNat →
      held (.value part) → related child part → related' child part) :
    graph.Unfolds related' node tree := by
  have children := layered.value found
  cases shape with
  | map all =>
      refine .map (forall₂_imp_mem all ?_)
      intro entryId member entry member' unfolds
      obtain ⟨stored, found', key, value⟩ := unfolds
      obtain ⟨earlier, -⟩ := children _ (List.mem_map_of_mem member)
      have below := layered.entry found'
      simp only [List.forall_mem_cons] at below
      obtain ⟨⟨keyBelow, -⟩, ⟨valueBelow, -⟩, -⟩ := below
      obtain ⟨heldKey, heldValue⟩ :=
        entries _ _ (parts _ (List.mem_map_of_mem member'))
      exact ⟨stored, found', each _ _ (keyBelow.trans earlier) heldKey key,
        each _ _ (valueBelow.trans earlier) heldValue value⟩
  | list items | set items | tuple items =>
      constructor
      refine forall₂_imp_mem items ?_
      intro child member part member'
      exact each _ _ (children _ (List.mem_map_of_mem member)).1
        (parts _ (List.mem_map_of_mem member'))
  | constr items fields =>
      obtain ⟨ofItems, ofFields⟩ := List.forall_mem_append.mp children
      obtain ⟨heldItems, heldFields⟩ := List.forall_mem_append.mp parts
      refine .constr (forall₂_imp_mem items ?_) (forall₂_imp_mem fields ?_)
      · intro child member part member'
        exact each _ _ (ofItems _ (List.mem_map_of_mem member)).1
          (heldItems _ (List.mem_map_of_mem member'))
      · intro field member part member' unfolds
        exact ⟨unfolds.1, each _ _ (ofFields _ (List.mem_map_of_mem member)).1
          (heldFields _ (List.mem_map_of_mem member')) unfolds.2⟩
  | string text => exact .string text
  | number digits => exact .number digits
  | boolean truth => exact .boolean truth
  | location place => exact .location place

theorem denotes_of_expand? {id : ValueId} {tree : Value}
    (expands : graph.expand? id = some tree) : graph.Denotes id tree := by
  have within : graph.ExpandsWithin graph.size id tree := expands
  exact within.denotes

end Graph

namespace Interner

variable {interner again : Interner} (indexed : interner.Indexed)

include indexed

/-- Expansions that are the same are equal, since they have one handle. -/
theorem Indexed.expansion_eq {id id' : ValueId} {tree tree' : Value}
    (expands : interner.graph.expand? id = some tree)
    (expands' : interner.graph.expand? id' = some tree')
    (same : tree.Same tree') : tree = tree' := by
  have sameHandle := (indexed.denotes_eq_iff (Graph.denotes_of_expand? expands)
    (Graph.denotes_of_expand? expands')).mpr same
  rw [sameHandle, expands'] at expands
  exact (Option.some.inj expands).symm

/-- If every slot of a graph shows an expansion of another one, a handle that
denotes an expansion expands to it. -/
theorem Indexed.expandsWithin_again (layered : again.graph.Layered)
    (shown : ∀ slot ∈ again.graph.slots.toList, ∃ occurrence,
      slot.Shows again.graph occurrence ∧
        ∃ target, interner.graph.Expands target occurrence)
    {depth : Nat} {id : ValueId} (below : id.index.toNat < depth)
    {tree : Value} (expands : ∃ target,
      interner.graph.Expands target (.value tree))
    (denotes : again.graph.Denotes id tree) :
    again.graph.ExpandsWithin depth id tree := by
  induction depth generalizing id tree with
  | zero => exact absurd below (Nat.not_lt_zero _)
  | succ depth induction =>
      obtain ⟨node, found⟩ := denotes.resolves
      have stored := Array.mem_toList_iff.mpr
        (Array.mem_of_getElem? (Graph.value?_eq_some_iff.mp found))
      obtain ⟨occurrence, shows, target', expands'⟩ := shown _ stored
      obtain ⟨target, expands⟩ := expands
      cases shows with
      | @value _ tree' shape =>
        -- The slot shows the same tree, and there is one spelling of it.
        have same := denotes.same (shape.denotes found)
        have inside := expands.exists_part
        cases expands with
        | value expanded =>
        cases expands' with
        | value expanded' =>
        obtain rfl := indexed.expansion_eq expanded expanded' same
        refine Graph.expandsWithin_succ_iff.mpr ⟨node, found, ?_⟩
        refine layered.unfolds_of_parts found shape inside ?_ ?_
        · intro key value expandsEntry
          obtain ⟨target, expandsEntry⟩ := expandsEntry
          have parts := expandsEntry.exists_part
          simp only [Occurrence.parts, List.forall_mem_cons] at parts
          exact ⟨parts.1, parts.2.1⟩
        · intro child part earlier among denotes
          exact induction (by omega) among denotes

/-- Interning the tree of a handle anew gives a handle that expands to it. -/
theorem Indexed.expand?_intern (layered : interner.graph.Layered)
    {id : ValueId} {tree : Value}
    (expands : interner.graph.expand? id = some tree) :
    (empty.intern tree).2.graph.expand? (empty.intern tree).1 = some tree := by
  have fits :=
    (intern_size_le layered expands).trans id.index.toNat_lt_size
  have denotes := intern_denotes empty_valid tree fits
  have showing := intern_showing .refl tree
  have whole : interner.graph.Expands (.value id) (.value tree) :=
    .value expands
  have shown : ∀ slot ∈ (empty.intern tree).2.graph.slots.toList,
      ∃ occurrence, slot.Shows (empty.intern tree).2.graph occurrence ∧
        ∃ target, interner.graph.Expands target occurrence := by
    intro slot member
    obtain ⟨occurrence, listed, shows⟩ := showing.shows fits slot member
    obtain ⟨target, expands', -⟩ :=
      layered.exists_expands_of_mem_listing whole occurrence listed
    exact ⟨occurrence, shows, target, expands'⟩
  have resolves : (empty.intern tree).2.graph.Resolves
      (.value (empty.intern tree).1) := denotes.resolves
  exact indexed.expandsWithin_again showing.layered shown resolves.index_lt
    ⟨_, whole⟩ denotes

end Interner

namespace CommandLine

/-- What is printed for a file is the written form of its canonical value. -/
theorem perform_print {files : Files} {path source text : String}
    {value : Value} (settings : Settings) (content : files path = .ok source)
    (result : Value.read source = .ok value)
    (written : value.canonical.2.text? value.canonical.1 = some text) :
    perform files settings (.print path) = .ok (text ++ "\n") := by
  have canonical : readValue files path = .ok value.canonical := by
    simp only [readValue, content, result, Except.mapError, bind, Except.bind,
      pure, Except.pure]
  simp only [perform, canonical, bind, Except.bind, written, pure, Except.pure]

end CommandLine

/-- What is printed for a value that was read is read again, and what is printed
for it is the same.  Something is printed when all slots can be counted. -/
theorem print_idempotent {source : String} {value : Value}
    (result : Value.read source = .ok value) :
    (value.canonical.2.size ≤ UInt32.size →
      ∃ text, value.canonical.2.text? value.canonical.1 = some text) ∧
    ∀ text, value.canonical.2.text? value.canonical.1 = some text →
      (∃ again, Value.read text = .ok again) ∧
      ∀ (files : Files) (settings : Settings) (path : String),
        (files path = .ok source ∨ files path = .ok text) →
          CommandLine.perform files settings (.print path) =
            .ok (text ++ "\n") := by
  have wellFormed := Value.wellFormed_of_read result
  have reached : (Interner.empty.intern value).2.Reached := .intern value .empty
  have layered := reached.layered
  have legible :=
    Interner.intern_legible Interner.empty_legible value wellFormed
  constructor
  · intro room
    have denotes := Interner.intern_denotes Interner.empty_valid value room
    obtain ⟨node, found⟩ := denotes.resolves
    obtain ⟨tree, expands⟩ := layered.exists_expand found
    exact ⟨tree.text, congrArg (Option.map Value.text) expands⟩
  · intro text written
    obtain ⟨tree, expands, rfl⟩ := Option.map_eq_some_iff.mp written
    have expands' := reached.run.indexed.expand?_intern layered expands
    have written' : tree.canonical.2.text? tree.canonical.1 = some tree.text :=
      congrArg (Option.map Value.text) expands'
    have result' : Value.read tree.text = .ok tree :=
      Value.read_of_wellFormed (legible.wellFormed_of_expand? expands)
    refine ⟨⟨tree, result'⟩, ?_⟩
    intro files settings path content
    rcases content with content | content
    · exact CommandLine.perform_print settings content result written
    · exact CommandLine.perform_print settings content result' written'

/-- The second spelling of the constructor is printed like the first, and the
first stays so when the printed text is printed. -/
theorem print_idempotent_swapped :
    let source := "[f(b=1, a=2), f(a=2, b=1)]"
    let value := Value.list
      [.constr .identifier "f" [] [("b", .number "1"), ("a", .number "2")],
        .constr .identifier "f" [] [("a", .number "2"), ("b", .number "1")]]
    Value.read source = .ok value ∧ value.canonical.2.size = 4 ∧
      ∃ text again, Value.read text = .ok again ∧
        ∀ (files : Files) (settings : Settings) (path : String),
          (files path = .ok source ∨ files path = .ok text) →
            CommandLine.perform files settings (.print path) =
              .ok (text ++ "\n") := by
  intro source value
  have result : Value.read source = .ok value := by
    decide +kernel
  have count : value.canonical.2.size = 4 := by
    simp only [value]
    cbv
  have room : value.canonical.2.size ≤ UInt32.size := by
    rw [count]
    decide
  obtain ⟨printing, reprinting⟩ := print_idempotent result
  obtain ⟨text, written⟩ := printing room
  obtain ⟨⟨again, result'⟩, printed⟩ := reprinting text written
  exact ⟨result, count, text, again, result', printed⟩

end TreeQuery
