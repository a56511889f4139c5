import TreeQuery.Proofs.Pattern.Admission
import TreeQuery.Proofs.Pattern.Tracking
import TreeQuery.Proofs.Reading.Report
import TreeQuery.Proofs.Reading.Respelling
import TreeQuery.Proofs.Reading.Verdict
import TreeQuery.Proofs.Token.Places
import TreeQuery.Proofs.Value.Admission
import TreeQuery.Proofs.Value.Tracking

/-!
# Texts that go on

Tokens that begin a text of the right shape either begin an accepted text, or all
texts of the right shape that go on from them are refused for one of them.
-/

namespace TreeQuery.Reading

/-- Reading a text as a value or as a pattern succeeds, or fails. -/
def Dialect.read (dialect : Dialect) (source : String) :
    Except SyntaxFailure Unit :=
  match dialect with
  | value => (Value.read source).map fun _ => ()
  | pattern => (Pattern.read source).map fun _ => ()

/-- The rule by which a text is read, whatever it gives. -/
def Dialect.rule : Dialect → (depth : Nat) → Rule Unit
  | value, depth => (Value.rule depth).map fun _ => ()
  | pattern, depth => (Pattern.rule Pattern.regexReader depth).map fun _ => ()

/-- The rule for a text of so many tokens. -/
def Dialect.whole (dialect : Dialect) (tokens : List Token) : Rule Unit :=
  dialect.rule (tokens.length + 1)

/-- Are the tokens of patterns named where they are met? -/
def Dialect.forValues : Dialect → Bool
  | value => true
  | pattern => false

/-- Texts in which nothing offends and all expressions can be read. -/
def accepted (dialect : Dialect) : Language Token :=
  {tokens | (∃ depth, tokens ∈ toleratedWithin Nothing dialect depth) ∧
    Pattern.Readable Pattern.regexReader tokens}

section

variable {dialect : Dialect} {depth depth' : Nat} {source text : String}
  {tokens tokens' before front : List Token} {failure : SyntaxFailure}

theorem Dialect.read_eq : dialect.read source =
    readAll dialect.forValues dialect.whole source := by
  cases dialect with
  | value => exact (readAll_map _).symm
  | pattern =>
      rw [read, Pattern.read, Pattern.readWith, ← readAll_map]
      rfl

theorem Dialect.rule_tracks (less : depth ≤ depth') :
    (dialect.rule depth).Tracks 2 depth (shapedWithin dialect depth') := by
  cases dialect with
  | value => exact (Value.rule_tracks less).map _
  | pattern => exact (Pattern.rule_tracks Pattern.regexReader less).map _

theorem Dialect.rule_admits (marked : Nat → Prop) (depth : Nat) :
    (dialect.rule depth).Admits marked fun tokens _ =>
      tokens ∈ having (Pattern.Legible Pattern.regexReader marked)
        (toleratedWithin (StartsMarked marked) dialect depth) := by
  cases dialect with
  | value =>
      exact (Value.rule_admits Pattern.legible_of_kind depth).map
        fun _ _ => And.left
  | pattern => exact (Pattern.rule_admits depth).map fun _ _ => And.left

/-! ## Accepted texts -/

theorem Dialect.read_of_accepted (member : tokenize source ∈ accepted dialect) :
    dialect.read source = .ok () := by
  obtain ⟨⟨depth, member⟩, readable⟩ := member
  cases dialect with
  | value =>
      obtain ⟨value, derived⟩ := Value.exists_derives depth _ member
      rw [read, Value.read_eq_ok_iff.mpr derived]
      rfl
  | pattern =>
      obtain ⟨pattern, derived⟩ := Pattern.exists_derives depth _ member readable
      rw [read, Pattern.read, Pattern.readWith_of_derives derived]
      rfl

/-- What is read without an objection is accepted. -/
theorem mem_accepted_of_reading {cursor : Cursor} {progress : Progress Unit}
    (result : (dialect.rule depth cursor).result = .ok progress)
    (emitted : (dialect.rule depth cursor).emitted = [])
    (split : cursor.ahead = tokens ++ progress.next.ahead) :
    tokens ∈ accepted dialect := by
  obtain ⟨word, passes, member, legible⟩ :=
    Dialect.rule_admits (fun _ => False) depth result
      (by simp [emitted])
  obtain rfl : word = tokens :=
    List.append_cancel_right (passes.ahead.symm.trans split)
  refine ⟨⟨depth, member⟩, ?_⟩
  intro token among kind
  exact (legible token among kind).resolve_right id

theorem Dialect.read_eq_ok_iff :
    dialect.read source = .ok () ↔ tokenize source ∈ accepted dialect := by
  refine ⟨?_, read_of_accepted⟩
  intro read
  rw [read_eq, readAll_eq_ok_iff] at read
  obtain ⟨next, ⟨passed, outcome⟩, ends⟩ := read
  have result : (dialect.rule ((tokenize source).length + 1)
      (startOf source (tokenize source))).result = .ok ⟨(), next, passed⟩ :=
    congrArg Outcome.result outcome
  refine mem_accepted_of_reading result (congrArg Outcome.emitted outcome) ?_
  simp [ends, startOf]

theorem shapedWithin_le_shaped : shapedWithin dialect depth ≤ shaped dialect :=
  fun _ member => ⟨depth, member⟩

theorem exists_mem_shapedWithin (bound : Nat) (member : tokens ∈ shaped dialect) :
    ∃ depth, bound ≤ depth ∧ tokens ∈ shapedWithin dialect depth := by
  obtain ⟨depth, member⟩ := member
  exact ⟨max bound depth, le_max_left _ _,
    shapedWithin_mono (le_max_right _ _) member⟩

theorem mem_shaped_of_read (read : dialect.read source = .ok ()) :
    tokenize source ∈ shaped dialect := by
  rw [Dialect.read_eq, readAll_eq_ok_iff] at read
  obtain ⟨next, ⟨passed, outcome⟩, ends⟩ := read
  have result := congrArg Outcome.result outcome
  have sees : Sees 2 (shapedWithin dialect ((tokenize source).length + 1))
      (startOf source (tokenize source))
      (dialect.whole (tokenize source) (startOf source (tokenize source))) :=
    Dialect.rule_tracks le_rfl _ (Nat.lt_succ_self _)
  cases sees with
  | gave failed => cases result.symm.trans failed
  | @took word _ _ took next _ sight =>
      cases result.symm.trans took
      obtain ⟨member, start, -⟩ := sight.longest
      have whole := start.eq_of_length_le
        (List.drop_eq_nil_iff.mp ((congrArg Cursor.ahead next).symm.trans ends))
      exact ⟨_, whole ▸ member⟩

/-! ## Completion -/

/-- The text begins with tokens that are spelled like these. -/
def Begins (tokens : List Token) (text : String) : Prop :=
  ∃ front, front <+: tokenize text ∧ Alike tokens front

/-- Some accepted text begins with the tokens. -/
def Completable (dialect : Dialect) (tokens : List Token) : Prop :=
  ∃ text, Begins tokens text ∧ dialect.read text = .ok ()

/-- Texts of the right shape that begin with the tokens are all refused for one
of these tokens. -/
def Offending (dialect : Dialect) (tokens : List Token) : Prop :=
  ∀ text front, front <+: tokenize text → Alike tokens front →
    tokenize text ∈ shaped dialect →
    ∃ failure objection, dialect.read text = .error failure ∧
      failure.reason = some (Objection.message objection) ∧
      ∃ token ∈ front, failure.index = charOffset text token.start

/-- The tokens begin an accepted text, or texts of the right shape that are all
refused for one of these tokens. -/
def Continuable (dialect : Dialect) (tokens : List Token) : Prop :=
  Completable dialect tokens ∨ Offending dialect tokens ∧
    ∃ text, Begins tokens text ∧ tokenize text ∈ shaped dialect

theorem viable_of_begins (begins : Begins tokens text)
    (shape : tokenize text ∈ shaped dialect) : Viable (shaped dialect) tokens := by
  obtain ⟨front, start, alike⟩ := begins
  obtain ⟨depth, member⟩ := shape
  exact (viable_shapedWithin_of_alike alike.symm
    (viable_of_isPrefix member start)).mono shapedWithin_le_shaped

/-- Tokens that can be continued are those that begin a text of the right
shape. -/
theorem Continuable.viable (continuable : Continuable dialect tokens) :
    Viable (shaped dialect) tokens := by
  rcases continuable with ⟨text, begins, read⟩ | ⟨-, text, begins, shape⟩
  · exact viable_of_begins begins (mem_shaped_of_read read)
  · exact viable_of_begins begins shape

end

end TreeQuery.Reading
