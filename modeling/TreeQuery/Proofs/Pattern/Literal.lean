import TreeQuery.Proofs.Pattern.Completeness
import TreeQuery.Proofs.Value.Unambiguous

/-!
# Values as patterns

A value is also written as a pattern, the one that has the same parts.  On
tokens without those of patterns only, the two grammars derive the same trees,
so the two readers accept the same texts.
-/

namespace TreeQuery

open Reading

namespace Value

/-- The name that a pattern has for constructors of this name and kind. -/
def literalName : ConstructorKind → String → NamePattern
  | .identifier, name => .identifier name
  | .node, name => .quoted name

mutual

/-- The pattern with the same parts. -/
def literal : Value → Pattern
  | map entries => .map (literalEntries entries)
  | list items => .list (literalItems items)
  | set items => .set (literalItems items)
  | tuple items => .tuple (literalItems items)
  | constr kind name positional named =>
      .constr (literalName kind name) (literalItems positional)
        (literalFields named)
  | string text => .string text
  | number digits => .number digits
  | boolean truth => .boolean truth
  | location place => .location place

def literalItems : List Value → List Pattern
  | [] => []
  | value :: values => literal value :: literalItems values

def literalEntries : List (Value × Value) → List (Pattern × Pattern)
  | [] => []
  | (key, value) :: entries =>
      (literal key, literal value) :: literalEntries entries

def literalFields : List (String × Value) → List (NamePattern × Pattern)
  | [] => []
  | (name, value) :: fields =>
      (.identifier name, literal value) :: literalFields fields

end

theorem literalItems_eq_map (items : List Value) :
    literalItems items = items.map literal := by
  induction items with
  | nil => rfl
  | cons value values induction => rw [literalItems, induction, List.map_cons]

theorem literalEntries_eq_map (entries : List (Value × Value)) :
    literalEntries entries = entries.map (Prod.map literal literal) := by
  induction entries with
  | nil => rfl
  | cons entry entries induction =>
      rw [literalEntries, induction, List.map_cons, Prod.map]

theorem literalFields_eq_map (fields : List (String × Value)) :
    literalFields fields =
      fields.map (Prod.map NamePattern.identifier literal) := by
  induction fields with
  | nil => rfl
  | cons field fields induction =>
      rw [literalFields, induction, List.map_cons, Prod.map]

end Value

namespace Pattern

/-- No token is of a kind that occurs in patterns only. -/
def ArePlain (tokens : List Token) : Prop :=
  ∀ token ∈ tokens, token.kind.isPatternOnly = false

theorem ArePlain.subset {tokens piece : List Token} (plain : ArePlain tokens)
    (subset : piece ⊆ tokens) : ArePlain piece :=
  fun token member => plain token (subset member)

/-- The tokens derive the images of what they derive and nothing else. -/
def DerivesImages {α β : Type} (image : α → β)
    (derives : List Token → α → Prop) (derivesImage : List Token → β → Prop)
    (tokens : List Token) : Prop :=
  ∀ found, derivesImage tokens found ↔
    ∃ value, image value = found ∧ derives tokens value

section

variable {α β γ δ : Type} {image : α → β} {image' : γ → δ}
  {derives : List Token → α → Prop} {derivesImage : List Token → β → Prop}
  {derives' : List Token → γ → Prop} {derivesImage' : List Token → δ → Prop}

theorem forall₂_image_iff {pieces : List (List Token)}
    (each : ∀ piece ∈ pieces, DerivesImages image derives derivesImage piece)
    {founds : List β} :
    List.Forall₂ derivesImage pieces founds ↔
      ∃ values, values.map image = founds ∧
        List.Forall₂ derives pieces values := by
  induction pieces generalizing founds with
  | nil =>
      constructor
      · intro all
        cases all
        exact ⟨[], rfl, .nil⟩
      · intro all
        obtain ⟨values, rfl, all⟩ := all
        cases all
        exact .nil
  | cons piece pieces induction =>
      obtain ⟨eachFirst, eachOther⟩ := List.forall_mem_cons.mp each
      constructor
      · intro all
        cases all with
        | cons first others =>
            obtain ⟨value, rfl, derived⟩ := (eachFirst _).mp first
            obtain ⟨values, rfl, rest⟩ := (induction eachOther).mp others
            exact ⟨value :: values, rfl, .cons derived rest⟩
      · intro all
        obtain ⟨values, rfl, all⟩ := all
        cases all with
        | cons derived rest =>
            exact .cons ((eachFirst _).mpr ⟨_, rfl, derived⟩)
              ((induction eachOther).mpr ⟨_, rfl, rest⟩)

/-- Two parts derive images, so both with a separator between them do. -/
theorem derivesImages_separated {separator : Token.Kind} {piece : List Token}
    (eachLeft : ∀ left, left ⊆ piece → left.length ≤ piece.length →
      DerivesImages image derives derivesImage left)
    (eachRight : ∀ right, right ⊆ piece → right.length ≤ piece.length →
      DerivesImages image' derives' derivesImage' right) :
    DerivesImages (Prod.map image image')
      (fun tokens pair => ∃ left found right, tokens = left ++ found :: right ∧
        found.kind = separator ∧ derives left pair.1 ∧ derives' right pair.2)
      (fun tokens pair => ∃ left found right, tokens = left ++ found :: right ∧
        found.kind = separator ∧ derivesImage left pair.1 ∧
        derivesImage' right pair.2)
      piece := by
  have parts {left right : List Token} {found : Token}
      (same : piece = left ++ found :: right) :
      DerivesImages image derives derivesImage left ∧
        DerivesImages image' derives' derivesImage' right := by
    subst same
    constructor
    · apply eachLeft
      · exact List.subset_append_left _ _
      · simp
    · apply eachRight
      · exact List.subset_append_of_subset_right _ (List.subset_cons_self _ _)
      · rw [List.length_append, List.length_cons]
        omega
  intro pair
  constructor
  · intro derived
    obtain ⟨left, found, right, same, kind, first, second⟩ := derived
    obtain ⟨imagesLeft, imagesRight⟩ := parts same
    obtain ⟨value, sameValue, derivedFirst⟩ := (imagesLeft _).mp first
    obtain ⟨value', sameValue', derivedSecond⟩ := (imagesRight _).mp second
    exact ⟨(value, value'), Prod.ext sameValue sameValue', left, found, right,
      same, kind, derivedFirst, derivedSecond⟩
  · intro derived
    obtain ⟨values, rfl, left, found, right, same, kind, first, second⟩ :=
      derived
    obtain ⟨imagesLeft, imagesRight⟩ := parts same
    exact ⟨left, found, right, same, kind, (imagesLeft _).mpr ⟨_, rfl, first⟩,
      (imagesRight _).mpr ⟨_, rfl, second⟩⟩

end

variable {readRegex : RegexReader} {tokens : List Token} {pattern : Pattern}

/-! ## Names -/

theorem DerivesRegex.not_plain {expression : RegexPattern}
    (derived : DerivesRegex readRegex tokens expression) :
    ¬ArePlain tokens := by
  intro plain
  obtain ⟨token, _, rfl, kind, _⟩ := derived
  have only := plain token List.mem_cons_self
  simp [kind, Token.Kind.isPatternOnly] at only

theorem not_plain_of_text {part : Text}
    (derived : DerivesToken .text (fun token => Text.decode token.body) tokens
      part) : ¬ArePlain tokens := by
  intro plain
  obtain ⟨token, rfl, kind, _⟩ := derived
  have only := plain token List.mem_cons_self
  simp [kind, Token.Kind.isPatternOnly] at only

theorem derivesName_iff_literal (plain : ArePlain tokens) {name : NamePattern} :
    DerivesName readRegex tokens name ↔
      ∃ kind given, Value.literalName kind given = name ∧
        Value.DerivesName kind tokens given := by
  constructor
  · intro derived
    cases derived with
    | identifier found => exact ⟨.identifier, _, rfl, found⟩
    | quoted found => exact ⟨.node, _, rfl, found⟩
    | regex found => exact absurd plain found.not_plain
    | text found => exact absurd plain (not_plain_of_text found)
  · intro derived
    obtain ⟨kind, given, rfl, found⟩ := derived
    cases kind with
    | identifier => exact .identifier found
    | node => exact .quoted found

theorem derivesImages_fieldName (plain : ArePlain tokens) :
    DerivesImages NamePattern.identifier Value.DerivesIdentifier
      (DerivesFieldName readRegex) tokens := by
  intro name
  constructor
  · intro derived
    cases derived with
    | identifier found => exact ⟨_, rfl, found⟩
    | regex found => exact absurd plain found.not_plain
    | text found => exact absurd plain (not_plain_of_text found)
  · intro derived
    obtain ⟨given, rfl, found⟩ := derived
    exact .identifier found

/-! ## Terms -/

theorem derivesTerm_iff_atom (plain : ArePlain tokens) :
    DerivesTerm readRegex tokens pattern ↔
      DerivesAtom readRegex tokens pattern := by
  constructor
  · intro derived
    cases derived with
    | atom found => exact found
    | starBefore kind =>
        have only := plain _ List.mem_cons_self
        simp [kind, Token.Kind.isPatternOnly] at only
    | starBehind kind =>
        have only := plain _ List.mem_concat_self
        simp [kind, Token.Kind.isPatternOnly] at only
  · exact .atom

theorem derives_iff_atom (plain : ArePlain tokens) :
    Derives readRegex tokens pattern ↔
      DerivesAtom readRegex tokens pattern := by
  constructor
  · intro derived
    cases derived with
    | term found => exact (derivesTerm_iff_atom plain).mp found
    | or chained =>
        cases chained with
        | more piece kind =>
            have only := plain _ (List.mem_append_right _ List.mem_cons_self)
            simp [kind, Token.Kind.isPatternOnly] at only
  · intro found
    exact .term (.atom found)

/-! ## Trees -/

/-- On so many plain tokens the two grammars derive the same trees. -/
def AgreeWithin (readRegex : RegexReader) (bound : Nat) : Prop :=
  ∀ ⦃tokens⦄, tokens.length ≤ bound → ArePlain tokens →
    DerivesImages Value.literal Value.Derives (Derives readRegex) tokens

/-- The pieces of a list have fewer tokens, all of them plain. -/
theorem pieces_fit {opening closing : Token.Kind} {bound : Nat}
    {pieces : List (List Token)}
    (enclosed : Enclosed opening closing pieces tokens)
    (short : tokens.length ≤ bound + 1) (plain : ArePlain tokens) :
    ∀ piece ∈ pieces, piece.length ≤ bound ∧ ArePlain piece := by
  intro piece member
  exact ⟨enclosed.forall_length_le short piece member,
    plain.subset (enclosed.subset piece member)⟩

section

variable {bound : Nat} {pieces : List (List Token)}
  (agree : AgreeWithin readRegex bound)
  (fit : ∀ piece ∈ pieces, piece.length ≤ bound ∧ ArePlain piece)

include agree fit

theorem items_iff_literal {items : List Pattern} :
    List.Forall₂ (Derives readRegex) pieces items ↔
      ∃ values, Value.literalItems values = items ∧
        Value.DerivesItems pieces values := by
  simp only [Value.literalItems_eq_map, Value.derivesItems_iff_forall₂]
  apply forall₂_image_iff
  intro piece member
  exact agree (fit piece member).1 (fit piece member).2

theorem pairs_iff_literal {pairs : List (Pattern × Pattern)} :
    DerivesPairs readRegex pieces pairs ↔
      ∃ entries, Value.literalEntries entries = pairs ∧
        Value.DerivesEntries pieces entries := by
  simp only [Value.literalEntries_eq_map, Value.derivesEntries_iff_forall₂,
    derivesPairs_iff_forall₂]
  apply forall₂_image_iff
  intro piece member
  obtain ⟨short, plain⟩ := fit piece member
  have part (part : List Token) (subset : part ⊆ piece)
      (shorter : part.length ≤ piece.length) :
      DerivesImages Value.literal Value.Derives (Derives readRegex) part :=
    agree (Nat.le_trans shorter short) (plain.subset subset)
  exact derivesImages_separated part part

theorem fields_iff_literal {fields : List (NamePattern × Pattern)} :
    DerivesFields readRegex pieces fields ↔
      ∃ named, Value.literalFields named = fields ∧
        Value.DerivesFields pieces named := by
  simp only [Value.literalFields_eq_map, Value.derivesFields_iff_forall₂,
    derivesFields_iff_forall₂]
  apply forall₂_image_iff
  intro piece member
  obtain ⟨short, plain⟩ := fit piece member
  apply derivesImages_separated
  · intro left subset _
    exact derivesImages_fieldName (plain.subset subset)
  · intro right subset shorter
    exact agree (Nat.le_trans shorter short) (plain.subset subset)

end

section

variable {bound : Nat} (agree : AgreeWithin readRegex bound)

include agree

theorem constr_iff_literal {head arguments : List Token}
    {pieces fieldPieces : List (List Token)}
    (enclosed : Enclosed .openParen .closeParen (pieces ++ fieldPieces)
      arguments)
    (short : (head ++ arguments).length ≤ bound + 1)
    (plain : ArePlain (head ++ arguments)) {name : NamePattern}
    {positional : List Pattern} {named : List (NamePattern × Pattern)} :
    DerivesName readRegex head name ∧
        List.Forall₂ (Derives readRegex) pieces positional ∧
        DerivesFields readRegex fieldPieces named ↔
      ∃ kind given values fields,
        Value.literal (.constr kind given values fields) =
          .constr name positional named ∧
        Value.DerivesName kind head given ∧
        Value.DerivesItems pieces values ∧
        Value.DerivesFields fieldPieces fields := by
  obtain ⟨plainHead, plainArguments⟩ := List.forall_mem_append.mp plain
  have shortArguments : arguments.length ≤ bound + 1 := by
    rw [List.length_append] at short
    omega
  have fit := pieces_fit enclosed shortArguments plainArguments
  obtain ⟨fitItems, fitFields⟩ := List.forall_mem_append.mp fit
  rw [derivesName_iff_literal plainHead, items_iff_literal agree fitItems,
    fields_iff_literal agree fitFields]
  constructor
  · intro derived
    obtain ⟨⟨kind, given, rfl, derivedName⟩, ⟨values, rfl, items⟩, fields, rfl,
      derivedFields⟩ := derived
    exact ⟨kind, given, values, fields, rfl, derivedName, items, derivedFields⟩
  · intro derived
    obtain ⟨kind, given, values, fields, same, derivedName, items,
      derivedFields⟩ := derived
    cases same
    exact ⟨⟨kind, given, rfl, derivedName⟩, ⟨values, rfl, items⟩, fields, rfl,
      derivedFields⟩

/-- One step of the agreement: the parts agree, so whole atoms do. -/
theorem derivesImages_atom (short : tokens.length ≤ bound + 1)
    (plain : ArePlain tokens) :
    DerivesImages Value.literal Value.Derives (DerivesAtom readRegex)
      tokens := by
  have fit {opening closing : Token.Kind} {pieces : List (List Token)}
      (enclosed : Enclosed opening closing pieces tokens) :
      ∀ piece ∈ pieces, piece.length ≤ bound ∧ ArePlain piece :=
    pieces_fit enclosed short plain
  intro pattern
  constructor
  · intro derived
    cases derived with
    | any kinds =>
        have only := plain _ List.mem_cons_self
        rcases kinds with kind | kind
        · simp [kind, Token.Kind.isPatternOnly] at only
        · simp [kind, Token.Kind.isPatternOnly] at only
    | constr names enclosed items fields =>
        obtain ⟨kind, given, values, named, same, derived⟩ :=
          (constr_iff_literal agree enclosed short plain).mp
            ⟨names, items, fields⟩
        exact ⟨.constr kind given values named, same, _, _, _, _, rfl,
          derived.1, enclosed, derived.2⟩
    | string found => exact ⟨.string _, rfl, found⟩
    | regex found => exact absurd plain found.not_plain
    | text found => exact absurd plain (not_plain_of_text found)
    | map enclosed pairs =>
        obtain ⟨entries, rfl, derived⟩ :=
          (pairs_iff_literal agree (fit enclosed)).mp pairs
        exact ⟨.map entries, rfl, _, enclosed, derived⟩
    | set enclosed items =>
        obtain ⟨values, rfl, derived⟩ :=
          (items_iff_literal agree (fit enclosed)).mp items
        exact ⟨.set values, rfl, _, enclosed, derived⟩
    | list enclosed items =>
        obtain ⟨values, rfl, derived⟩ :=
          (items_iff_literal agree (fit enclosed)).mp items
        exact ⟨.list values, rfl, _, enclosed, derived⟩
    | tuple enclosed items =>
        obtain ⟨values, rfl, derived⟩ :=
          (items_iff_literal agree (fit enclosed)).mp items
        exact ⟨.tuple values, rfl, _, enclosed, derived⟩
    | number found => exact ⟨.number _, rfl, found⟩
    | boolean found => exact ⟨.boolean _, rfl, found⟩
    | location found => exact ⟨.location _, rfl, found⟩
  · intro derived
    obtain ⟨value, rfl, derived⟩ := derived
    cases value with
    | map entries =>
        obtain ⟨pieces, enclosed, derived⟩ := derived
        exact .map enclosed
          ((pairs_iff_literal agree (fit enclosed)).mpr ⟨entries, rfl, derived⟩)
    | list items =>
        obtain ⟨pieces, enclosed, derived⟩ := derived
        exact .list enclosed
          ((items_iff_literal agree (fit enclosed)).mpr ⟨items, rfl, derived⟩)
    | set items =>
        obtain ⟨pieces, enclosed, derived⟩ := derived
        exact .set enclosed
          ((items_iff_literal agree (fit enclosed)).mpr ⟨items, rfl, derived⟩)
    | tuple items =>
        obtain ⟨pieces, enclosed, derived⟩ := derived
        exact .tuple enclosed
          ((items_iff_literal agree (fit enclosed)).mpr ⟨items, rfl, derived⟩)
    | constr kind given values named =>
        obtain ⟨head, arguments, pieces, fieldPieces, rfl, names, enclosed,
          items, fields⟩ := derived
        obtain ⟨derivedName, derivedItems, derivedFields⟩ :=
          (constr_iff_literal agree enclosed short plain).mpr
            ⟨kind, given, values, named, rfl, names, items, fields⟩
        exact .constr derivedName enclosed derivedItems derivedFields
    | string text => exact .string derived
    | number digits => exact .number derived
    | boolean truth => exact .boolean derived
    | location place => exact .location derived

end

theorem agreeWithin (bound : Nat) : AgreeWithin readRegex bound := by
  induction bound with
  | zero =>
      intro tokens short plain pattern
      obtain rfl := List.length_eq_zero_iff.mp (Nat.le_zero.mp short)
      constructor
      · intro derived
        exact absurd rfl derived.nonempty
      · intro derived
        obtain ⟨value, _, derived⟩ := derived
        exact absurd rfl derived.nonempty
  | succ bound agree =>
      intro tokens short plain pattern
      -- Stars and bars are no plain tokens, so the pattern is one atom.
      rw [derives_iff_atom plain]
      exact derivesImages_atom agree short plain pattern

/-- On plain tokens the grammar of patterns derives the images of values. -/
theorem derives_iff_literal (plain : ArePlain tokens) :
    Derives readRegex tokens pattern ↔
      ∃ value, Value.literal value = pattern ∧ Value.Derives tokens value :=
  agreeWithin tokens.length (Nat.le_refl _) plain pattern

/-- A plain text is read as a pattern exactly when it is read as a value, and
then the pattern is the image of the value. -/
theorem readWith_eq_ok_iff_literal {source : String}
    (plain : ArePlain (tokenize source)) :
    readWith readRegex source = .ok pattern ↔
      ∃ value, Value.literal value = pattern ∧
        Value.read source = .ok value := by
  simp only [Value.read_eq_ok_iff]
  rw [← derives_iff_literal plain]
  exact ⟨derives_of_readWith, readWith_of_derives⟩

theorem arePlain_of_read {source : String} {value : Value}
    (result : Value.read source = .ok value) : ArePlain (tokenize source) :=
  fun token member =>
    ((Value.read_eq_ok_iff.mp result).areOfValues token member).1

/-- On texts without the tokens of patterns only, the two readers accept the
same texts, and what is read as a pattern is the image of what is read as a
value.  Every text that is read as a value is such a text. -/
theorem readers_agree :
    (∀ (readRegex : RegexReader) (source : String),
      ArePlain (tokenize source) →
        ((∃ value, Value.read source = .ok value) ↔
          ∃ pattern, readWith readRegex source = .ok pattern) ∧
        ∀ value pattern, Value.read source = .ok value →
          readWith readRegex source = .ok pattern → pattern = value.literal) ∧
    ∀ source value, Value.read source = .ok value →
      ArePlain (tokenize source) ∧
        ∀ readRegex, readWith readRegex source = .ok value.literal := by
  constructor
  · intro readRegex source plain
    constructor
    · constructor
      · intro readable
        obtain ⟨value, result⟩ := readable
        exact ⟨value.literal,
          (readWith_eq_ok_iff_literal plain).mpr ⟨value, rfl, result⟩⟩
      · intro readable
        obtain ⟨pattern, result⟩ := readable
        obtain ⟨value, _, found⟩ :=
          (readWith_eq_ok_iff_literal plain).mp result
        exact ⟨value, found⟩
    · intro value pattern result resultPattern
      obtain ⟨value', rfl, found⟩ :=
        (readWith_eq_ok_iff_literal plain).mp resultPattern
      obtain rfl : value = value' := Except.ok.inj (result.symm.trans found)
      rfl
  · intro source value result
    have plain := arePlain_of_read result
    refine ⟨plain, ?_⟩
    intro readRegex
    exact (readWith_eq_ok_iff_literal plain).mpr ⟨value, rfl, result⟩

theorem readers_agree_node :
    let source := "f({1}, k=\"n\"(),)"
    let value := Value.constr .identifier "f" [.set [.number "1"]]
      [("k", .constr .node "n" [] [])]
    Value.read source = .ok value ∧ ArePlain (tokenize source) ∧
      read source = .ok value.literal ∧
      ∀ pattern, read source = .ok pattern → pattern = value.literal := by
  intro source value
  have result : Value.read source = .ok value := by
    decide +kernel
  have image := readers_agree.2 source value result
  have same := (readers_agree.1 regexReader source image.1).2
  exact ⟨result, image.1, image.2 _, fun pattern => same value pattern result⟩

end Pattern

end TreeQuery
