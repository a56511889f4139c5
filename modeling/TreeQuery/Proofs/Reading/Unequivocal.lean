import Mathlib.Data.List.Pairwise
import TreeQuery.Proofs.Reading.Judgement

/-!
# A word offends in one way

Where the parts of a word end is certain, and so are the branch by which it is
written and the arguments in it.  So the tokens at which it offends are certain,
too, however deep the grammar is unfolded.
-/

namespace TreeQuery.Reading

section

variable {α β : Type} {item : Language Token} {separator : Token.Kind}
  {tokens : List Token} {pieces pieces' : List (List Token)}

private theorem eq_of_map_eq {change : α → β} {items items' : List α}
    (same : items.map change = items'.map change)
    (injective : ∀ value ∈ items, ∀ value' ∈ items',
      change value = change value' → value = value') : items = items' := by
  induction items generalizing items' with
  | nil => exact (List.map_eq_nil_iff.mp same.symm).symm
  | cons value items induction =>
      cases items' with
      | nil => cases same
      | cons value' items' =>
          obtain ⟨first, others⟩ := List.cons.inj same
          obtain rfl := injective value List.mem_cons_self value'
            List.mem_cons_self first
          congr 1
          apply induction others
          intro value among value' among'
          exact injective value (List.mem_cons_of_mem _ among) value'
            (List.mem_cons_of_mem _ among')

/-- Pieces make up words: none of them make the empty word, and behind the first
one the word ends or a separator and the others follow. -/
structure Pieced (separator : Token.Kind)
    (parts : List (List Token) → List Token → Prop) : Prop where
  empty : ∀ {tokens}, parts [] tokens → tokens = []
  split : ∀ {piece pieces tokens}, parts (piece :: pieces) tokens →
    ∃ rest, tokens = piece ++ rest ∧ (pieces = [] ∧ rest = [] ∨
      ∃ found inner, rest = found :: inner ∧ found.kind = separator ∧
        parts pieces inner)

section

variable {parts : List (List Token) → List Token → Prop}
  (pieced : Pieced separator parts)

include pieced

theorem Pieced.nonempty {piece : List Token} (proper : [] ∉ item)
    (made : parts (piece :: pieces) tokens)
    (each : ∀ other ∈ piece :: pieces, other ∈ item) : tokens ≠ [] := by
  intro empty
  obtain ⟨rest, same, -⟩ := pieced.split made
  obtain ⟨rfl, -⟩ := List.append_eq_nil_iff.mp (same.symm.trans empty)
  exact proper (each _ List.mem_cons_self)

theorem Pieced.mem_behind {piece : List Token}
    (made : parts (piece :: pieces) tokens)
    (each : ∀ other ∈ pieces, other ∈ item) :
    ∃ rest, tokens = piece ++ rest ∧ rest ∈ behind separator
        {tokens | ∃ pieces, parts pieces tokens ∧ ∀ piece ∈ pieces, piece ∈ item} ∧
      (pieces = [] ∧ rest = [] ∨ ∃ found inner, rest = found :: inner ∧
        found.kind = separator ∧ parts pieces inner) := by
  obtain ⟨rest, split, tail⟩ := pieced.split made
  refine ⟨rest, split, mem_behind_iff.mpr (tail.imp And.right ?_), tail⟩
  intro later
  obtain ⟨found, inner, rfl, kind, later⟩ := later
  exact ⟨found, inner, rfl, kind, pieces, later, each⟩

/-- The pieces of which a word is made, when nothing that continues a piece is a
separator. -/
theorem Pieced.unique
    (separated : Separated item (behind separator
      {tokens | ∃ pieces, parts pieces tokens ∧ ∀ piece ∈ pieces, piece ∈ item}))
    (proper : [] ∉ item) (made : parts pieces tokens)
    (made' : parts pieces' tokens) (each : ∀ piece ∈ pieces, piece ∈ item)
    (each' : ∀ piece ∈ pieces', piece ∈ item) : pieces = pieces' := by
  induction pieces generalizing pieces' tokens with
  | nil =>
      cases pieces' with
      | nil => rfl
      | cons => exact absurd (pieced.empty made) (pieced.nonempty proper made' each')
  | cons piece pieces induction =>
      cases pieces' with
      | nil => exact absurd (pieced.empty made') (pieced.nonempty proper made each)
      | cons piece' pieces' =>
          obtain ⟨member, others⟩ := List.forall_mem_cons.mp each
          obtain ⟨member', others'⟩ := List.forall_mem_cons.mp each'
          obtain ⟨rest, rfl, goes, tail⟩ := pieced.mem_behind made others
          obtain ⟨rest', same, goes', tail'⟩ := pieced.mem_behind made' others'
          obtain ⟨rfl, rfl⟩ := separated.eq_of_append member member' goes goes' same
          rcases tail with ⟨rfl, rfl⟩ | ⟨found, inner, rfl, -, later⟩
          · rcases tail' with ⟨rfl, -⟩ | ⟨_, _, more, -⟩
            · rfl
            · cases more
          · rcases tail' with ⟨-, more⟩ | ⟨_, _, equal, -, later'⟩
            · cases more
            · obtain ⟨-, rfl⟩ := List.cons.inj equal
              rw [induction later later' others others']

end

theorem listed_pieced : Pieced .comma Listed where
  empty nothing := by
    cases nothing
    rfl
  split := Listed.exists_rest

theorem chained_pieced : Pieced separator (Chained separator) where
  empty := nofun
  split := Chained.exists_rest

theorem Enclosed.unique {opening closing : Token.Kind}
    (separated : Separated item (behind .comma (listed item)))
    (proper : [] ∉ item) (made : Enclosed opening closing pieces tokens)
    (made' : Enclosed opening closing pieces' tokens)
    (each : ∀ piece ∈ pieces, piece ∈ item)
    (each' : ∀ piece ∈ pieces', piece ∈ item) : pieces = pieces' := by
  obtain ⟨_, inner, _, rfl, -, -, listed⟩ := made
  obtain ⟨_, inner', _, same, -, -, listed'⟩ := made'
  obtain ⟨-, same⟩ := List.cons.inj same
  obtain ⟨rfl, -⟩ := List.append_inj' same rfl
  exact listed_pieced.unique separated proper listed listed' each each'

theorem Enclosed.mem {opening closing : Token.Kind}
    (made : Enclosed opening closing pieces tokens)
    (each : ∀ piece ∈ pieces, piece ∈ item) :
    tokens ∈ enclosed opening closing item := by
  obtain ⟨start, inner, stop, rfl, opens, closes, listed⟩ := made
  have first : [start] ∈ ofKinds [opening] :=
    ⟨start, rfl, List.mem_singleton.mpr opens⟩
  have inside : inner ∈ Reading.listed item := ⟨pieces, listed, each⟩
  have last : [stop] ∈ ofKinds [closing] :=
    ⟨stop, rfl, List.mem_singleton.mpr closes⟩
  exact Language.append_mem_mul (Language.append_mem_mul first inside) last

end

namespace Judgement

/-- The words are of the language, and each offends in one way. -/
structure Settles (judgement : Judgement) (language : Language Token) : Prop where
  member : ∀ {word offences}, judgement word offences → word ∈ language
  unique : ∀ {word offences offences'}, judgement word offences →
    judgement word offences' → offences = offences'

section

variable {compiles : String → Prop} {dialect : Dialect}
  {first second judged : Judgement} {language language' : Language Token}
  {word offences : List Token} {isNamed : Bool}

theorem settles_clear (language : Language Token) :
    (clear language).Settles language :=
  ⟨And.left, fun judged judged' => judged.2.trans judged'.2.symm⟩

theorem settles_single (kinds : List Token.Kind) :
    Settles (single compiles kinds) (ofKinds kinds) := by
  constructor
  · intro word offences judged
    cases judged with
    | fair known => exact ⟨_, rfl, known⟩
    | broken known => exact ⟨_, rfl, known⟩
  · intro word offences offences' judged judged'
    cases judged with
    | fair _ compiled =>
        cases judged' with
        | fair => rfl
        | broken _ kind refused => exact absurd (compiled kind) refused
    | broken _ kind refused =>
        cases judged' with
        | fair _ compiled => exact absurd (compiled kind) refused
        | broken => rfl

theorem Settles.andThen (settles : first.Settles language)
    (settles' : second.Settles language')
    (separated : Separated language language') :
    (andThen first second).Settles (language * language') := by
  constructor
  · intro word offences judged
    obtain ⟨left, right, _, _, rfl, -, begun, ended⟩ := judged
    exact Language.append_mem_mul (settles.member begun) (settles'.member ended)
  · intro word offences offences' judged judged'
    obtain ⟨left, right, _, _, rfl, rfl, begun, ended⟩ := judged
    obtain ⟨left', right', _, _, same, rfl, begun', ended'⟩ := judged'
    obtain ⟨rfl, rfl⟩ := separated.eq_of_append (settles.member begun)
      (settles.member begun') (settles'.member ended) (settles'.member ended')
      same
    rw [settles.unique begun begun', settles'.unique ended ended']

theorem Settles.either (settles : first.Settles language)
    (settles' : second.Settles language')
    (apart : ∀ word ∈ language, word ∉ language') :
    (either first second).Settles (language + language') := by
  constructor
  · exact fun judged => judged.imp settles.member settles'.member
  · intro word offences offences' judged judged'
    rcases judged with left | right
    · rcases judged' with left' | right'
      · exact settles.unique left left'
      · exact absurd (settles'.member right') (apart _ (settles.member left))
    · rcases judged' with left' | right'
      · exact absurd (settles'.member right) (apart _ (settles.member left'))
      · exact settles'.unique right right'

theorem Settles.items_unique (settles : judged.Settles language)
    {items items' : List (List Token × List Token)}
    (each : ∀ piece ∈ items, judged piece.1 piece.2)
    (each' : ∀ piece ∈ items', judged piece.1 piece.2)
    (same : items.map Prod.fst = items'.map Prod.fst) : items = items' := by
  apply eq_of_map_eq same
  intro piece among piece' among' equal
  have known := each piece among
  rw [equal] at known
  exact Prod.ext equal (settles.unique known (each' piece' among'))

theorem Settles.pieces_member (settles : judged.Settles language)
    {items : List (List Token × List Token)}
    (each : ∀ piece ∈ items, judged piece.1 piece.2) :
    ∀ piece ∈ items.map Prod.fst, piece ∈ language :=
  List.forall_mem_map.mpr fun piece among => settles.member (each piece among)

theorem Settles.enclosed (settles : judged.Settles language)
    (separated : Separated language (behind .comma (listed language)))
    (proper : [] ∉ language) (opening closing : Token.Kind) :
    (enclosed opening closing judged).Settles
      (Reading.enclosed opening closing language) := by
  constructor
  · intro word offences found
    obtain ⟨items, made, each, -⟩ := found
    exact made.mem (settles.pieces_member each)
  · intro word offences offences' found found'
    obtain ⟨items, made, each, rfl⟩ := found
    obtain ⟨items', made', each', rfl⟩ := found'
    rw [settles.items_unique each each' (made.unique separated proper made'
      (settles.pieces_member each) (settles.pieces_member each'))]

theorem Settles.chained (settles : judged.Settles language)
    (separated : Separated language
      (behind .alternation (Reading.chained language)))
    (proper : [] ∉ language) :
    (chained judged).Settles (Reading.chained language) := by
  constructor
  · intro word offences found
    obtain ⟨items, made, each, -⟩ := found
    exact ⟨_, made, settles.pieces_member each⟩
  · intro word offences offences' found found'
    obtain ⟨items, made, each, rfl⟩ := found
    obtain ⟨items', made', each', rfl⟩ := found'
    rw [settles.items_unique each each' (chained_pieced.unique separated proper
      made made' (settles.pieces_member each) (settles.pieces_member each'))]

/-! ## Arguments -/

section

variable (shapely : Shapely dialect language) (settles : judged.Settles language)
  {left right : List Token} {equals : Token}

theorem mem_equated (kind : equals.kind = .equals) (member : right ∈ language) :
    equals :: right ∈ 1 + ofKinds [.equals] * language := by
  have mark : [equals] ∈ ofKinds [.equals] :=
    ⟨equals, rfl, List.mem_singleton.mpr kind⟩
  exact .inr (Language.append_mem_mul mark member)

theorem mem_field {name : Token} (called : name.kind = .identifier)
    (kind : equals.kind = .equals) (member : right ∈ language) :
    name :: equals :: right ∈
      ofKinds [.identifier] * ofKinds [.equals] * language := by
  have identifier : [name] ∈ ofKinds [.identifier] :=
    ⟨name, rfl, List.mem_singleton.mpr called⟩
  have mark : [equals] ∈ ofKinds [.equals] :=
    ⟨equals, rfl, List.mem_singleton.mpr kind⟩
  exact Language.append_mem_mul (Language.append_mem_mul identifier mark) member

include settles

theorem Settles.argument_member
    (found : argument dialect judged word isNamed offences) :
    word ∈ Reading.argument language := by
  cases found with
  | field called kind inner =>
      exact .inl (mem_field called kind (settles.member inner))
  | positional inner =>
      exact .inr (le_mul_one_add _ _ (settles.member inner))
  | named begun kind ended | misnamed begun kind ended =>
      exact .inr (Language.append_mem_mul (settles.member begun)
        (mem_equated kind (settles.member ended)))

include shapely

/-- What an identifier and an equals sign begin is no item. -/
theorem Settles.of_field {name : Token} (called : name.kind = .identifier)
    (kind : equals.kind = .equals) (member : right ∈ language)
    (found : argument dialect judged (name :: equals :: right) isNamed offences) :
    isNamed = true ∧ judged right offences := by
  have other : name :: equals :: right ∉ equation language := fun equation =>
    shapely.fork.clear _ equation (viable_of_mem (mem_field called kind member))
  generalize same : name :: equals :: right = whole at found other
  cases found with
  | field _ _ inner =>
      cases same
      exact ⟨rfl, inner⟩
  | positional inner =>
      exact absurd (le_mul_one_add _ _ (settles.member inner)) other
  | named begun kind' ended | misnamed begun kind' ended =>
      exact absurd (Language.append_mem_mul (settles.member begun)
        (mem_equated kind' (settles.member ended))) other

/-- An item and what stands behind it, as an argument that starts with an item. -/
theorem Settles.of_equation {rest : List Token} (member : left ∈ language)
    (inside : rest ∈ 1 + ofKinds [.equals] * language)
    (found : argument dialect judged (left ++ rest) isNamed offences) :
    rest = [] ∧ isNamed = false ∧ judged left offences ∨
      ∃ equals right before after, rest = equals :: right ∧
        judged left before ∧ judged right after ∧
        (left ∈ ofKinds dialect.names ∧ isNamed = true ∧
            offences = before ++ after ∨
          left ∉ ofKinds dialect.names ∧ isNamed = false ∧
            offences = before ++ after ++ left.take 1) := by
  have equation : left ++ rest ∈ equation language :=
    Language.append_mem_mul member inside
  generalize same : left ++ rest = whole at found equation
  cases found with
  | field called kind inner =>
      exact (shapely.fork.clear _ equation
        (viable_of_mem (mem_field called kind (settles.member inner)))).elim
  | positional inner =>
      rw [← List.append_nil whole] at same
      obtain ⟨rfl, rfl⟩ := shapely.separated_equated.eq_of_append member
        (settles.member inner) inside (.inl rfl) same
      exact .inl ⟨rfl, rfl, inner⟩
  | named begun kind ended names =>
      obtain ⟨rfl, rfl⟩ := shapely.separated_equated.eq_of_append member
        (settles.member begun) inside (mem_equated kind (settles.member ended))
        same
      exact .inr ⟨_, _, _, _, rfl, begun, ended, .inl ⟨names, rfl, rfl⟩⟩
  | misnamed begun kind ended names =>
      obtain ⟨rfl, rfl⟩ := shapely.separated_equated.eq_of_append member
        (settles.member begun) inside (mem_equated kind (settles.member ended))
        same
      exact .inr ⟨_, _, _, _, rfl, begun, ended, .inr ⟨names, rfl, rfl⟩⟩

theorem Settles.of_equated {before after : List Token} (begun : judged left before)
    (kind : equals.kind = .equals) (ended : judged right after)
    (found : argument dialect judged (left ++ equals :: right) isNamed offences) :
    left ∈ ofKinds dialect.names ∧ isNamed = true ∧ offences = before ++ after ∨
      left ∉ ofKinds dialect.names ∧ isNamed = false ∧
        offences = before ++ after ++ left.take 1 := by
  rcases settles.of_equation shapely (settles.member begun)
    (mem_equated kind (settles.member ended)) found with
    ⟨none, -⟩ | ⟨_, _, _, _, same, begun', ended', either⟩
  · cases none
  · cases same
    rwa [settles.unique begun begun', settles.unique ended ended']

theorem Settles.argument_unique {isNamed' : Bool} {offences' : List Token}
    (found : argument dialect judged word isNamed offences)
    (found' : argument dialect judged word isNamed' offences') :
    isNamed = isNamed' ∧ offences = offences' := by
  cases found with
  | field called kind inner =>
      obtain ⟨rfl, inner'⟩ :=
        settles.of_field shapely called kind (settles.member inner) found'
      exact ⟨rfl, settles.unique inner inner'⟩
  | positional inner =>
      rw [← List.append_nil word] at found'
      rcases settles.of_equation shapely (settles.member inner) (.inl rfl)
        found' with ⟨-, rfl, inner'⟩ | ⟨_, _, _, _, more, -⟩
      · exact ⟨rfl, settles.unique inner inner'⟩
      · cases more
  | named begun kind ended names =>
      rcases settles.of_equated shapely begun kind ended found' with
        ⟨-, rfl, rfl⟩ | ⟨other, -⟩
      · exact ⟨rfl, rfl⟩
      · exact absurd names other
  | misnamed begun kind ended names =>
      rcases settles.of_equated shapely begun kind ended found' with
        ⟨other, -⟩ | ⟨-, rfl, rfl⟩
      · exact absurd other names
      · exact ⟨rfl, rfl⟩

theorem Settles.arguments :
    (arguments dialect judged).Settles (loose language) := by
  have separated : Separated (Reading.argument language)
      (behind .comma (listed (Reading.argument language))) :=
    shapely.argument_profile.separated_behind (by cases dialect <;> decide)
  have member {parts : List ArgumentParts} (each : ∀ part ∈ parts,
      argument dialect judged part.tokens part.named part.offences) :
      ∀ piece ∈ parts.map ArgumentParts.tokens,
        piece ∈ Reading.argument language :=
    List.forall_mem_map.mpr fun part among =>
      settles.argument_member (each part among)
  constructor
  · intro word offences found
    obtain ⟨parts, made, each, -⟩ := found
    exact made.mem (member each)
  · intro word offences offences' found found'
    obtain ⟨parts, made, each, rfl⟩ := found
    obtain ⟨parts', made', each', rfl⟩ := found'
    have pieces := made.unique separated shapely.nil_not_mem_argument made'
      (member each) (member each')
    have same : parts = parts' := by
      apply eq_of_map_eq pieces
      intro part among part' among' equal
      have known := each part among
      rw [equal] at known
      obtain ⟨named, offends⟩ :=
        settles.argument_unique shapely known (each' part' among')
      cases part
      cases part'
      cases equal
      cases named
      cases offends
      rfl
    rw [same]

/-! ## Branches and items -/

theorem Settles.branch {way : Branch} (among : way ∈ dialect.branches) :
    (branch compiles dialect judged way).Settles (way.language loose language) := by
  cases way with
  | call names =>
      exact (settles_single names).andThen (settles.arguments shapely)
        single_separated
  | leaf kinds => exact settles_single kinds
  | entries =>
      have colon := solid_kind .colon
      have separated : Separated language (ofKinds [.colon]) :=
        shapely.profile.separated colon.profile (by cases dialect <;> decide)
      have key := shapely.profile.mul colon.profile shapely.proper colon.proper
        separated
      have entry := ((settles.andThen (settles_clear _) separated).andThen settles
        key.closed_separated)
      exact entry.enclosed (shapely.entry_profile.separated_behind
        (not_mem_follows (by decide))) shapely.nil_not_mem_entry _ _
  | items opening closing =>
      exact settles.enclosed (shapely.profile.separated_behind
        (not_mem_follows (by decide))) shapely.proper _ _
  | location => exact settles_clear _

theorem Settles.atom :
    (atom compiles dialect judged).Settles (Reading.atom loose dialect language) := by
  have known {way : Branch} (among : way ∈ dialect.branches) :
      (Judgement.branch compiles dialect judged way).Settles
        (way.language loose language) := settles.branch shapely among
  constructor
  · intro word offences found
    obtain ⟨way, among, found⟩ := found
    exact mem_sum_iff.mpr
      ⟨_, List.mem_map_of_mem among, (known among).member found⟩
  · intro word offences offences' found found'
    obtain ⟨way, among, found⟩ := found
    obtain ⟨way', among', found'⟩ := found'
    -- Different branches have no word in common.
    have apart : dialect.branches.Pairwise fun way way' =>
        word ∈ way.language loose language →
          word ∈ way'.language loose language → way = way' := by
      refine (List.pairwise_map.mp shapely.branches_apart).imp ?_
      intro way way' apart member member'
      exact absurd (viable_of_mem member') (apart.left word member)
    have symmetric : Std.Symm fun way way' : Branch =>
        word ∈ way.language loose language →
          word ∈ way'.language loose language → way = way' :=
      ⟨fun _ _ implied member member' => (implied member' member).symm⟩
    obtain rfl := apart.forall_of_forall (fun _ _ _ _ => rfl) among among'
      ((known among).member found) ((known among').member found')
    exact (known among).unique found found'

end

theorem Settles.term {starts : List Token.Kind} (settles : judged.Settles language)
    (profile : Profile language starts [.openParen]) (proper : [] ∉ language)
    (unstarred : Token.Kind.star ∉ starts) :
    (term judged).Settles (Reading.term language) := by
  have before := (settles_clear (ofKinds [.star])).andThen settles
    single_separated
  have behind := settles.andThen (settles_clear (1 + ofKinds [.star]))
    (separated_star profile)
  have fork := fork_star profile proper unstarred
  exact before.either behind fun word member member' =>
    fork.left word member (viable_of_mem member')

theorem Settles.item (settles : judged.Settles language)
    (shapely : Shapely dialect language) :
    (item compiles dialect judged).Settles (Reading.item loose dialect language) := by
  have profile := shapely.atom_profile
  have proper := shapely.nil_not_mem_atom
  cases dialect with
  | value => exact settles.atom shapely
  | pattern =>
      have atoms : (Judgement.atom compiles .pattern judged).Settles
          (Reading.atom loose .pattern language) := settles.atom shapely
      have terms := atoms.term profile proper (by decide)
      exact terms.chained ((term_profile profile proper (by decide)).separated_behind
        (by decide)) (nil_not_mem_term proper)

theorem not_name_of_starts {starts follows : List Token.Kind}
    (profile : Profile language starts follows)
    (other : ∀ kind ∈ starts, kind ∉ dialect.names) (member : word ∈ language) :
    word ∉ ofKinds dialect.names := by
  intro name
  obtain ⟨token, rfl, known⟩ := name
  exact other _ (profile.starts token (viable_of_mem member)) known

theorem not_name_of_append {left right : List Token} (nonempty : left ≠ [])
    (nonempty' : right ≠ []) : left ++ right ∉ ofKinds dialect.names := by
  intro name
  obtain ⟨token, single, -⟩ := name
  rcases List.append_eq_singleton_iff.mp single with ⟨empty, -⟩ | ⟨-, empty⟩
  · exact nonempty empty
  · exact nonempty' empty

theorem settles_within (compiles : String → Prop) (dialect : Dialect)
    (depth : Nat) :
    (within compiles dialect depth).Settles (shapedWithin dialect depth) := by
  induction depth with
  | zero => exact ⟨nofun, nofun⟩
  | succ depth induction =>
      exact induction.item (shapely_shapedWithin dialect depth)

/-! ## Depth -/

section

variable {first' second' judged' : Judgement}

theorem andThen_mono (less : first ≤ first') (less' : second ≤ second') :
    andThen first second ≤ andThen first' second' := by
  intro word offences found
  obtain ⟨left, right, before, after, split, split', begun, ended⟩ := found
  exact ⟨left, right, before, after, split, split', less _ _ begun,
    less' _ _ ended⟩

theorem either_mono (less : first ≤ first') (less' : second ≤ second') :
    either first second ≤ either first' second' :=
  fun _ _ found => found.imp (less _ _) (less' _ _)

variable (less : judged ≤ judged')

include less

theorem enclosed_mono (opening closing : Token.Kind) :
    enclosed opening closing judged ≤ enclosed opening closing judged' := by
  intro word offences found
  obtain ⟨items, made, each, same⟩ := found
  exact ⟨items, made, fun piece among => less _ _ (each piece among), same⟩

theorem chained_mono : chained judged ≤ chained judged' := by
  intro word offences found
  obtain ⟨items, made, each, same⟩ := found
  exact ⟨items, made, fun piece among => less _ _ (each piece among), same⟩

theorem argument_mono (found : argument dialect judged word isNamed offences) :
    argument dialect judged' word isNamed offences := by
  cases found with
  | field called kind inner => exact .field called kind (less _ _ inner)
  | positional inner => exact .positional (less _ _ inner)
  | named begun kind ended names =>
      exact .named (less _ _ begun) kind (less _ _ ended) names
  | misnamed begun kind ended names =>
      exact .misnamed (less _ _ begun) kind (less _ _ ended) names

theorem arguments_mono :
    arguments dialect judged ≤ arguments dialect judged' := by
  intro word offences found
  obtain ⟨parts, made, each, same⟩ := found
  exact ⟨parts, made, fun part among => argument_mono less (each part among),
    same⟩

theorem branch_mono (way : Branch) :
    branch compiles dialect judged way ≤ branch compiles dialect judged' way := by
  cases way with
  | call names => exact andThen_mono le_rfl (arguments_mono less)
  | leaf | location => exact le_rfl
  | entries =>
      exact enclosed_mono (andThen_mono (andThen_mono less le_rfl) less) _ _
  | items opening closing => exact enclosed_mono less opening closing

theorem atom_mono :
    atom compiles dialect judged ≤ atom compiles dialect judged' := by
  intro word offences found
  obtain ⟨way, among, found⟩ := found
  exact ⟨way, among, branch_mono less way _ _ found⟩

theorem item_mono : item compiles dialect judged ≤ item compiles dialect judged' := by
  cases dialect with
  | value => exact atom_mono less
  | pattern =>
      have atoms : atom compiles .pattern judged ≤ atom compiles .pattern judged' :=
        atom_mono less
      exact chained_mono (either_mono (andThen_mono le_rfl atoms)
        (andThen_mono atoms le_rfl))

end

theorem within_mono : Monotone (within compiles dialect) := by
  apply monotone_nat_of_le_succ
  intro depth
  induction depth with
  | zero => exact fun _ _ => False.elim
  | succ depth induction => exact item_mono induction

end

end Judgement

section

variable {compiles : String → Prop} {dialect : Dialect}
  {tokens offences offences' : List Token}

theorem Offends.mem_shaped (offends : Offends compiles dialect tokens offences) :
    tokens ∈ shaped dialect := by
  obtain ⟨depth, judged⟩ := offends
  exact ⟨depth, (Judgement.settles_within compiles dialect depth).member judged⟩

/-- However deep the grammar is unfolded, the same tokens offend. -/
theorem Offends.unique (offends : Offends compiles dialect tokens offences)
    (offends' : Offends compiles dialect tokens offences') :
    offences = offences' := by
  obtain ⟨depth, judged⟩ := offends
  obtain ⟨depth', judged'⟩ := offends'
  exact (Judgement.settles_within compiles dialect (max depth depth')).unique
    (Judgement.within_mono (le_max_left _ _) _ _ judged)
    (Judgement.within_mono (le_max_right _ _) _ _ judged')

end

end TreeQuery.Reading
