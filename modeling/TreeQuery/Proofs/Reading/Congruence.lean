import TreeQuery.Proofs.Reading.Shape

/-!
# What the grammar respects

A relation between languages that is kept by products, choices and repetitions
holds between the items of two grammars when it holds between their arguments.
-/

namespace TreeQuery.Reading

/-- The kinds of token that a branch names itself. -/
def Branch.kinds : Branch → List Token.Kind
  | call names => names
  | leaf kinds => kinds
  | items opening closing => [opening, closing]
  | entries | location => []

theorem Dialect.plain_kinds {dialect : Dialect} :
    ∀ branch ∈ dialect.branches, ∀ kind ∈ branch.kinds,
      kind ≠ .equals ∧ kind ≠ .invalid := by
  cases dialect <;> decide

/-- The relation holds between languages that are put together alike from
related ones. -/
structure Congruence (relates : Language Token → Language Token → Prop) :
    Prop where
  zero : relates 0 0
  one : relates 1 1
  kinds : ∀ {kinds : List Token.Kind},
    (∀ kind ∈ kinds, kind ≠ .equals ∧ kind ≠ .invalid) →
    relates (ofKinds kinds) (ofKinds kinds)
  integer : relates integer integer
  add : ∀ {first first' second second' : Language Token},
    relates first first' → relates second second' →
    relates (first + second) (first' + second')
  mul : ∀ {first first' second second' : Language Token},
    relates first first' → relates second second' →
    relates (first * second) (first' * second')
  listed : ∀ {item item' : Language Token},
    relates item item' → relates (listed item) (listed item')
  chained : ∀ {item item' : Language Token},
    relates item item' → relates (chained item) (chained item')

namespace Congruence

variable {relates : Language Token → Language Token → Prop}
  (congruence : Congruence relates) {inner inner' : Language Token}
  {arguments arguments' : Language Token → Language Token} {dialect : Dialect}

include congruence

theorem kind {kind : Token.Kind} (plain : kind ≠ .equals ∧ kind ≠ .invalid) :
    relates (ofKinds [kind]) (ofKinds [kind]) :=
  congruence.kinds (List.forall_mem_singleton.mpr plain)

theorem enclosed {opening closing : Token.Kind}
    (plain : ∀ kind ∈ [opening, closing], kind ≠ .equals ∧ kind ≠ .invalid)
    (related : relates inner inner') :
    relates (Reading.enclosed opening closing inner)
      (Reading.enclosed opening closing inner') := by
  obtain ⟨plain, plain', -⟩ := List.forall_mem_cons.mp plain |>.imp_right
    List.forall_mem_cons.mp
  exact congruence.mul (congruence.mul (congruence.kind plain)
    (congruence.listed related)) (congruence.kind plain')

theorem lineColumn : relates Reading.lineColumn Reading.lineColumn :=
  congruence.mul (congruence.mul (congruence.kind (by decide))
    (congruence.mul (congruence.mul congruence.integer
      (congruence.kind (by decide))) congruence.integer))
    (congruence.kind (by decide))

theorem sourceSpan : relates Reading.sourceSpan Reading.sourceSpan := by
  have comma : relates (ofKinds [.comma]) (ofKinds [.comma]) :=
    congruence.kind (by decide)
  have place := congruence.lineColumn
  have number := congruence.integer
  have offsets := congruence.mul (congruence.mul (congruence.mul number comma)
    number) comma
  exact congruence.mul (congruence.mul (congruence.kind (by decide))
    (congruence.mul (congruence.mul (congruence.mul offsets place) comma)
      place)) (congruence.kind (by decide))

theorem entry (related : relates inner inner') :
    relates (Reading.entry inner) (Reading.entry inner') :=
  congruence.mul (congruence.mul related (congruence.kind (by decide))) related

theorem branch (related : relates inner inner')
    (relatedArguments : relates (arguments inner) (arguments' inner'))
    {branch : Branch} (member : branch ∈ dialect.branches) :
    relates (branch.language arguments inner)
      (branch.language arguments' inner') := by
  have plain := dialect.plain_kinds branch member
  cases branch with
  | call names => exact congruence.mul (congruence.kinds plain) relatedArguments
  | leaf kinds => exact congruence.kinds plain
  | entries => exact congruence.enclosed (by decide) (congruence.entry related)
  | items opening closing => exact congruence.enclosed plain related
  | location =>
      exact congruence.mul (congruence.kind (by decide))
        (congruence.add congruence.one congruence.sourceSpan)

theorem sum {branches : List Branch} {languages : Branch → Language Token}
    {languages' : Branch → Language Token}
    (each : ∀ branch ∈ branches,
      relates (languages branch) (languages' branch)) :
    relates (branches.map languages).sum (branches.map languages').sum := by
  induction branches with
  | nil => exact congruence.zero
  | cons branch branches induction =>
      obtain ⟨first, others⟩ := List.forall_mem_cons.mp each
      exact congruence.add first (induction others)

theorem item (related : relates inner inner')
    (relatedArguments : relates (arguments inner) (arguments' inner')) :
    relates (Reading.item arguments dialect inner)
      (Reading.item arguments' dialect inner') := by
  have atoms : ∀ dialect, relates (atom arguments dialect inner)
      (atom arguments' dialect inner') := fun dialect =>
    congruence.sum fun _ => congruence.branch related relatedArguments
  cases dialect with
  | value => exact atoms .value
  | pattern =>
      have star : relates (ofKinds [.star]) (ofKinds [.star]) :=
        congruence.kind (by decide)
      exact congruence.chained (congruence.add
        (congruence.mul star (atoms .pattern))
        (congruence.mul (atoms .pattern) (congruence.add congruence.one star)))

/-- Grammars with related arguments are related. -/
theorem nested (relatedArguments : ∀ {inner inner' : Language Token},
      relates inner inner' → relates (arguments inner) (arguments' inner'))
    (depth : Nat) :
    relates (Reading.nested arguments dialect depth)
      (Reading.nested arguments' dialect depth) := by
  induction depth with
  | zero => exact congruence.kind (by decide)
  | succ depth induction =>
      exact congruence.item induction (relatedArguments induction)

end Congruence

/-! ## Inclusion -/

theorem congruence_le : Congruence (· ≤ ·) where
  zero := le_rfl
  one := le_rfl
  kinds _ := le_rfl
  integer := le_rfl
  add := add_le_add
  mul := mul_le_mul'
  listed := listed_mono
  chained := chained_mono

section

variable {dialect : Dialect} {arguments : Language Token → Language Token}
  {inner : Language Token}

theorem le_mul_one_add (first second : Language Token) :
    first ≤ first * (1 + second) := by
  rw [mul_add, mul_one]
  exact le_add_right le_rfl

theorem atom_le_item (dialect : Dialect) :
    atom arguments dialect inner ≤ item arguments dialect inner := by
  cases dialect with
  | value => exact le_rfl
  | pattern =>
      refine le_trans ?_ fun _ => mem_chained
      exact (le_mul_one_add _ _).trans (le_add_left le_rfl)

theorem leaf_le_item {kinds : List Token.Kind}
    (member : .leaf kinds ∈ dialect.branches) :
    ofKinds kinds ≤ item arguments dialect inner := by
  have leaf : ofKinds kinds ≤ atom arguments dialect inner := fun word known =>
    mem_sum_iff.mpr ⟨_, List.mem_map_of_mem member, known⟩
  exact leaf.trans (atom_le_item dialect)

theorem number_le_item : ofKinds [.number] ≤ item arguments dialect inner := by
  apply leaf_le_item
  cases dialect <;> decide

theorem nested_mono (monotone : Monotone arguments) :
    Monotone (nested arguments dialect) := by
  apply monotone_nat_of_le_succ
  intro depth
  induction depth with
  | zero => exact number_le_item
  | succ depth induction =>
      exact congruence_le.item induction (monotone induction)

theorem monotone_loose : Monotone loose := by
  intro inner inner' less
  exact enclosed_mono (add_le_add (mul_le_mul' le_rfl less)
    (mul_le_mul' less (add_le_add le_rfl (mul_le_mul' le_rfl less))))

theorem shapedWithin_mono : Monotone (shapedWithin dialect) :=
  nested_mono monotone_loose

end

end TreeQuery.Reading
