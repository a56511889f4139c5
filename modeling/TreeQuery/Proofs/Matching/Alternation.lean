import Mathlib.Data.List.Permutation
import Mathlib.Logic.Relation
import TreeQuery.Graph.Interner
import TreeQuery.Proofs.Flat.Visit
import TreeQuery.Proofs.Matching.Acceptance

/-!
# Alternations as sets of options

An alternation matches what some option matches, alone, for an entry and as one
pattern of a sequence.  So the order of the options, how often one is written
and how they are grouped do not matter, wherever in a pattern the alternation
stands.
-/

namespace TreeQuery

namespace Pattern

/-- An alternation and the same options in another order, with one written once
more, with those of an inner alternation in its place, or one alone. -/
inductive Regrouped : Pattern → Pattern → Prop where
  | permuted {options options' : List Pattern} :
      options.Perm options' → Regrouped (.or options) (.or options')
  | duplicated {option : Pattern} {options : List Pattern} :
      option ∈ options → Regrouped (.or options) (.or (option :: options))
  | spliced (before inner behind : List Pattern) :
      Regrouped (.or (before ++ .or inner :: behind))
        (.or (before ++ inner ++ behind))
  | single (option : Pattern) : Regrouped (.or [option]) option

/-- What stands directly around one place of a pattern. -/
inductive Frame where
  | option (before behind : List Pattern)
  | repeated
  | key (before : List (Pattern × Pattern)) (other : Pattern)
      (behind : List (Pattern × Pattern))
  | value (before : List (Pattern × Pattern)) (other : Pattern)
      (behind : List (Pattern × Pattern))
  | list (before behind : List Pattern)
  | set (before behind : List Pattern)
  | tuple (before behind : List Pattern)
  | positional (name : NamePattern) (before behind : List Pattern)
      (fields : List (NamePattern × Pattern))
  | named (name : NamePattern) (items : List Pattern)
      (before : List (NamePattern × Pattern)) (field : NamePattern)
      (behind : List (NamePattern × Pattern))

/-- Put a pattern in the place. -/
def Frame.around (inner : Pattern) : Frame → Pattern
  | option before behind => .or (before ++ inner :: behind)
  | repeated => .repeated inner
  | key before other behind => .map (before ++ (inner, other) :: behind)
  | value before other behind => .map (before ++ (other, inner) :: behind)
  | list before behind => .list (before ++ inner :: behind)
  | set before behind => .set (before ++ inner :: behind)
  | tuple before behind => .tuple (before ++ inner :: behind)
  | positional name before behind fields =>
      .constr name (before ++ inner :: behind) fields
  | named name items before field behind =>
      .constr name items (before ++ (field, inner) :: behind)

/-- Put a pattern at a place that is given by what stands around it, from the
outside in. -/
def fill (frames : List Frame) (inner : Pattern) : Pattern :=
  frames.foldr (fun frame inner => frame.around inner) inner

/-- One alternation somewhere in the pattern is regrouped. -/
def Rewritten (first second : Pattern) : Prop :=
  ∃ frames inner inner', Regrouped inner inner' ∧
    first = fill frames inner ∧ second = fill frames inner'

/-- What holds of an alternation when it holds of some option is not changed by
regrouping. -/
theorem Regrouped.iff_of_distributes (holds : Pattern → Prop)
    (distributes : ∀ options,
      holds (.or options) ↔ ∃ option ∈ options, holds option)
    {first second : Pattern} (regrouped : Regrouped first second) :
    holds first ↔ holds second := by
  cases regrouped with
  | permuted order =>
      rw [distributes, distributes]
      simp only [order.mem_iff]
  | duplicated among =>
      rw [distributes, distributes, List.exists_mem_cons_iff]
      exact ⟨.inr, fun held => held.elim (fun held => ⟨_, among, held⟩) id⟩
  | spliced before inner behind =>
      simp only [distributes, List.mem_append, List.mem_cons, or_and_right,
        exists_or, exists_eq_left, or_assoc]
  | single option =>
      rw [distributes]
      simp only [List.mem_singleton, exists_eq_left]

/-! ## One place of a list -/

section

variable {α : Type} {property : α → Prop} {before behind : List α}
  {inner inner' : α}

theorem exists_mem_around_iff (same : property inner ↔ property inner') :
    (∃ item ∈ before ++ inner :: behind, property item) ↔
      ∃ item ∈ before ++ inner' :: behind, property item := by
  simp only [List.mem_append, List.mem_cons, or_and_right, exists_or,
    exists_eq_left, same]

theorem forall_mem_around_iff (same : property inner ↔ property inner') :
    (∀ item ∈ before ++ inner :: behind, property item) ↔
      ∀ item ∈ before ++ inner' :: behind, property item := by
  simp only [List.forall_mem_append, List.forall_mem_cons, same]

theorem cuts_around_iff {accepted : Pattern → α → Bool}
    {before behind : List Pattern} {inner inner' : Pattern} {values : List α}
    (same : ∀ values, Piece accepted inner values ↔
      Piece accepted inner' values) :
    Cuts accepted (before ++ inner :: behind) values ↔
      Cuts accepted (before ++ inner' :: behind) values := by
  induction before generalizing values with
  | nil => simp only [List.nil_append, cuts_cons_iff, same]
  | cons item before induction =>
      simp only [List.cons_append, cuts_cons_iff, induction]

end

/-! ## Patterns that match the same -/

/-- Two patterns match the same values, runs of a sequence and entries. -/
structure Interchangeable (graph : Graph) (first second : Pattern) : Prop where
  one : ∀ id, accepts graph first id = true ↔ accepts graph second id = true
  run : ∀ ids, Piece (accepts graph) first ids ↔
    Piece (accepts graph) second ids
  entry : ∀ id, acceptsEntry graph first id = true ↔
    acceptsEntry graph second id = true

namespace Interchangeable

variable {graph : Graph} {first second third inner inner' : Pattern}

theorem refl (graph : Graph) (pattern : Pattern) :
    Interchangeable graph pattern pattern :=
  ⟨fun _ => Iff.rfl, fun _ => Iff.rfl, fun _ => Iff.rfl⟩

theorem symm (same : Interchangeable graph first second) :
    Interchangeable graph second first :=
  ⟨fun id => (same.one id).symm, fun ids => (same.run ids).symm,
    fun id => (same.entry id).symm⟩

theorem trans (same : Interchangeable graph first second)
    (same' : Interchangeable graph second third) :
    Interchangeable graph first third :=
  ⟨fun id => (same.one id).trans (same'.one id),
    fun ids => (same.run ids).trans (same'.run ids),
    fun id => (same.entry id).trans (same'.entry id)⟩

theorem of_regrouped (regrouped : Regrouped first second) :
    Interchangeable graph first second where
  one id := regrouped.iff_of_distributes
    (fun pattern => accepts graph pattern id = true) fun _ => accepts_or_iff
  run ids := regrouped.iff_of_distributes
    (fun pattern => Piece (accepts graph) pattern ids) fun _ => piece_or_iff
  entry id := regrouped.iff_of_distributes
    (fun pattern => acceptsEntry graph pattern id = true)
    fun _ => acceptsEntry_or_iff

/-- Patterns that take one value each are interchangeable in a sequence when
they are alone. -/
theorem of_takesOne (takesOne : first.takesOne = true)
    (takesOne' : second.takesOne = true)
    (one : ∀ id, accepts graph first id = true ↔
      accepts graph second id = true)
    (entry : ∀ id, acceptsEntry graph first id = true ↔
      acceptsEntry graph second id = true) :
    Interchangeable graph first second := by
  refine ⟨one, fun ids => ?_, entry⟩
  simp only [piece_single_iff takesOne, piece_single_iff takesOne', one]

theorem option (same : Interchangeable graph inner inner')
    (before behind : List Pattern) :
    Interchangeable graph (.or (before ++ inner :: behind))
      (.or (before ++ inner' :: behind)) where
  one id := by
    rw [accepts_or_iff, accepts_or_iff]
    exact exists_mem_around_iff (same.one id)
  run ids := by
    rw [piece_or_iff, piece_or_iff]
    exact exists_mem_around_iff (same.run ids)
  entry id := by
    rw [acceptsEntry_or_iff, acceptsEntry_or_iff]
    exact exists_mem_around_iff (same.entry id)

theorem repeated (same : Interchangeable graph inner inner') :
    Interchangeable graph (.repeated inner) (.repeated inner') where
  one _ := Iff.rfl
  run ids := by
    rw [piece_repeated_iff, piece_repeated_iff]
    simp only [same.one]
  entry _ := Iff.rfl

/-- A pair stands for an entry only where it is the only pair. -/
theorem acceptsEntry_around_iff {before behind : List (Pattern × Pattern)}
    {pair : Pattern × Pattern} {entry : EntryId} :
    acceptsEntry graph (.map (before ++ pair :: behind)) entry = true ↔
      before = [] ∧ behind = [] ∧ ∃ stored,
        graph.entry? entry = some stored ∧
          accepts graph pair.1 stored.key = true ∧
          accepts graph pair.2 stored.value = true := by
  match before, behind with
  | [], [] => simp [acceptsEntry_pair_iff]
  | [], _ :: _ => simp [acceptsEntry]
  | [_], _ => simp [acceptsEntry]
  | _ :: _ :: _, _ => simp [acceptsEntry]

theorem pair {key key' value value' : Pattern}
    (keys : Interchangeable graph key key')
    (values : Interchangeable graph value value')
    (before behind : List (Pattern × Pattern)) :
    Interchangeable graph (.map (before ++ (key, value) :: behind))
      (.map (before ++ (key', value') :: behind)) := by
  refine .of_takesOne rfl rfl (fun id => ?_) fun id => ?_
  · simp only [accepts_map_iff]
    refine exists_congr fun entries => and_congr_right fun _ => ?_
    refine forall_mem_around_iff ?_
    simp only [keys.one, values.one]
  · simp only [acceptsEntry_around_iff, keys.one, values.one]

theorem list (same : Interchangeable graph inner inner')
    (before behind : List Pattern) :
    Interchangeable graph (.list (before ++ inner :: behind))
      (.list (before ++ inner' :: behind)) := by
  refine .of_takesOne rfl rfl (fun id => ?_) fun _ => Iff.rfl
  simp only [accepts_list_iff, cuts_around_iff same.run]

theorem tuple (same : Interchangeable graph inner inner')
    (before behind : List Pattern) :
    Interchangeable graph (.tuple (before ++ inner :: behind))
      (.tuple (before ++ inner' :: behind)) := by
  refine .of_takesOne rfl rfl (fun id => ?_) fun _ => Iff.rfl
  simp only [accepts_tuple_iff, cuts_around_iff same.run]

theorem set (same : Interchangeable graph inner inner')
    (before behind : List Pattern) :
    Interchangeable graph (.set (before ++ inner :: behind))
      (.set (before ++ inner' :: behind)) := by
  refine .of_takesOne rfl rfl (fun id => ?_) fun _ => Iff.rfl
  simp only [accepts_set_iff]
  refine exists_congr fun ids => and_congr_right fun _ => ?_
  refine forall_mem_around_iff ?_
  simp only [same.one]

theorem positional (same : Interchangeable graph inner inner')
    (name : NamePattern) (before behind : List Pattern)
    (fields : List (NamePattern × Pattern)) :
    Interchangeable graph (.constr name (before ++ inner :: behind) fields)
      (.constr name (before ++ inner' :: behind) fields) := by
  refine .of_takesOne rfl rfl (fun id => ?_) fun _ => Iff.rfl
  simp only [accepts_constr_iff, cuts_around_iff same.run]

theorem named (same : Interchangeable graph inner inner')
    (name : NamePattern) (items : List Pattern)
    (before : List (NamePattern × Pattern)) (field : NamePattern)
    (behind : List (NamePattern × Pattern)) :
    Interchangeable graph
      (.constr name items (before ++ (field, inner) :: behind))
      (.constr name items (before ++ (field, inner') :: behind)) := by
  refine .of_takesOne rfl rfl (fun id => ?_) fun _ => Iff.rfl
  simp only [accepts_constr_iff]
  refine exists_congr fun kind => exists_congr fun actual => ?_
  refine exists_congr fun ids => exists_congr fun fields => ?_
  refine and_congr_right fun _ => and_congr_right fun _ => ?_
  refine and_congr_right fun _ => forall_mem_around_iff ?_
  simp only [same.one]

/-- Patterns that match the same match the same behind any frame. -/
theorem around (same : Interchangeable graph inner inner') (frame : Frame) :
    Interchangeable graph (frame.around inner) (frame.around inner') := by
  cases frame with
  | option before behind => exact same.option before behind
  | repeated => exact same.repeated
  | key before other behind => exact .pair same (.refl graph other) before behind
  | value before other behind =>
      exact .pair (.refl graph other) same before behind
  | list before behind => exact same.list before behind
  | set before behind => exact same.set before behind
  | tuple before behind => exact same.tuple before behind
  | positional name before behind fields =>
      exact same.positional name before behind fields
  | named name items before field behind =>
      exact same.named name items before field behind

theorem fill (same : Interchangeable graph inner inner') (frames : List Frame) :
    Interchangeable graph (fill frames inner) (fill frames inner') := by
  induction frames with
  | nil => exact same
  | cons frame frames induction => exact induction.around frame

theorem of_rewritten (rewritten : Rewritten first second) :
    Interchangeable graph first second := by
  obtain ⟨frames, inner, inner', regrouped, rfl, rfl⟩ := rewritten
  exact (of_regrouped regrouped).fill frames

theorem of_eqvGen (steps : Relation.EqvGen Rewritten first second) :
    Interchangeable graph first second := by
  induction steps with
  | rel first second rewritten => exact of_rewritten rewritten
  | refl pattern => exact refl graph pattern
  | symm first second _ same => exact same.symm
  | trans first second third _ _ same same' => exact same.trans same'

theorem accepts_eq (same : Interchangeable graph first second) (id : ValueId) :
    accepts graph first id = accepts graph second id :=
  Bool.eq_iff_iff.mpr (same.one id)

theorem acceptsTarget_eq (same : Interchangeable graph first second)
    (target : Target) :
    acceptsTarget graph first target = acceptsTarget graph second target := by
  cases target with
  | value id => exact same.accepts_eq id
  | entry id => exact Bool.eq_iff_iff.mpr (same.entry id)

theorem acceptsRecord_eq (same : Interchangeable graph first second)
    (flat : Flat) (id : Nat) :
    acceptsRecord graph flat first id = acceptsRecord graph flat second id := by
  simp only [acceptsRecord, same.acceptsTarget_eq]

end Interchangeable

/-- Regrouping alternations anywhere in a pattern, any number of times and in
either direction, changes no answer: for values, for records and in searches. -/
theorem answers_of_regrouped {first second : Pattern}
    (steps : Relation.EqvGen Rewritten first second) (graph : Graph) :
    (∀ id, accepts graph first id = accepts graph second id) ∧
    ∀ flat : Flat,
      (∀ id, acceptsRecord graph flat first id =
        acceptsRecord graph flat second id) ∧
      ∀ limit, flat.search graph first limit =
        flat.search graph second limit := by
  have same : Interchangeable graph first second := .of_eqvGen steps
  refine ⟨same.accepts_eq, fun flat => ⟨same.acceptsRecord_eq flat, ?_⟩⟩
  intro limit
  simp only [Flat.search, same.acceptsRecord_eq]

/-- The repetition stands before or behind the number, and in an alternation of
its own. -/
theorem answers_of_regrouped_repetition :
    let first := Pattern.list
      [.or [.or [.repeated (.number "1")], .number "2"], .number "1"]
    let second := Pattern.list
      [.or [.number "2", .repeated (.number "1")], .number "1"]
    let interned := Interner.empty.intern
      (.list [.number "1", .number "1", .number "1"])
    let graph := interned.2.graph
    Relation.EqvGen Rewritten first second ∧
      accepts graph first interned.1 = true ∧
      accepts graph second interned.1 = true ∧
      (graph.flatten 40 [interned.1]).search graph second 1 = [0] := by
  intro first second interned graph
  have splice : Rewritten first (.list
      [.or [.repeated (.number "1"), .number "2"], .number "1"]) :=
    ⟨[.list [] [.number "1"]], _, _,
      .spliced [] [.repeated (.number "1")] [.number "2"], rfl, rfl⟩
  have swap : Rewritten (.list
      [.or [.repeated (.number "1"), .number "2"], .number "1"]) second :=
    ⟨[.list [] [.number "1"]], _, _, .permuted (.swap _ _ _), rfl, rfl⟩
  have steps : Relation.EqvGen Rewritten first second :=
    .trans _ _ _ (.rel _ _ splice) (.rel _ _ swap)
  have accepted : accepts graph first interned.1 = true := by
    simp only [first, graph, interned]
    cbv
  have found : (graph.flatten 40 [interned.1]).search graph first 1 = [0] := by
    simp only [first, graph, interned]
    rw [Graph.flatten_eq_ofOutlines]
    cbv
  obtain ⟨values, arrays⟩ := answers_of_regrouped steps graph
  obtain ⟨-, searches⟩ := arrays (graph.flatten 40 [interned.1])
  exact ⟨steps, accepted, (values interned.1).symm.trans accepted,
    (searches 1).symm.trans found⟩

end Pattern

end TreeQuery
