import Mathlib.Data.List.Forall2

/-!
# Lists that are related member by member
-/

namespace TreeQuery

section

variable {α β : Type} {related : α → β → Prop} {items : List α}

theorem forall_mem_of_forall₂ {property : α → Prop} {items' : List β}
    (all : List.Forall₂ related items items')
    (implied : ∀ item item', related item item' → property item) :
    ∀ item ∈ items, property item := by
  induction all with
  | nil => exact List.forall_mem_nil _
  | cons first _ induction =>
      exact List.forall_mem_cons.mpr ⟨implied _ _ first, induction⟩

theorem exists_mem_of_forall₂ {items' : List β}
    (all : List.Forall₂ related items items') :
    ∀ item' ∈ items', ∃ item ∈ items, related item item' := by
  induction all with
  | nil => exact List.forall_mem_nil _
  | cons first _ induction =>
      intro item' member
      rcases List.mem_cons.mp member with rfl | behind
      · exact ⟨_, List.mem_cons_self, first⟩
      · obtain ⟨item, among, matching⟩ := induction item' behind
        exact ⟨item, List.mem_cons_of_mem _ among, matching⟩

theorem exists_forall₂ (related : α → β → Prop)
    (each : ∀ item ∈ items, ∃ item', related item item') :
    ∃ items', List.Forall₂ related items items' := by
  induction items with
  | nil => exact ⟨[], .nil⟩
  | cons item items induction =>
      obtain ⟨⟨item', first⟩, others⟩ := List.forall_mem_cons.mp each
      obtain ⟨items', all⟩ := induction others
      exact ⟨item' :: items', .cons first all⟩

end

end TreeQuery
