import TreeQuery.Proofs.Reading.Tolerance
import TreeQuery.Proofs.Reading.TrackingItems

/-!
# What is read in spite of objections

A rule that objects to some of its tokens may still read them.  What it admits
when it objects to marked places only is known from what its parts admit.
Arguments that are admitted offend at marked tokens only.
-/

namespace TreeQuery.Reading

/-- Pieces with a separator before each. -/
inductive Followed (separator : Token.Kind) :
    List (List Token) → List Token → Prop where
  | done : Followed separator [] []
  | more {found : Token} {pieces : List (List Token)} {tokens : List Token}
      (piece : List Token) :
      found.kind = separator → Followed separator pieces tokens →
      Followed separator (piece :: pieces) (found :: (piece ++ tokens))

section

variable {separator : Token.Kind} {pieces : List (List Token)}
  {tokens : List Token}

theorem Followed.chained (followed : Followed separator pieces tokens)
    (piece : List Token) : Chained separator (piece :: pieces) (piece ++ tokens) := by
  induction followed generalizing piece with
  | done =>
      rw [List.append_nil]
      exact .last piece
  | more next kind _ induction => exact .more piece kind (induction next)

theorem Followed.listed (followed : Followed .comma pieces tokens)
    (piece : List Token) : Listed (piece :: pieces) (piece ++ tokens) := by
  induction followed generalizing piece with
  | done =>
      rw [List.append_nil]
      exact .last piece
  | more next kind _ induction => exact .more piece kind (induction next)

/-- A comma may stand behind the last piece. -/
theorem Followed.listed_trailing (followed : Followed .comma pieces tokens)
    {comma : Token} (kind : comma.kind = .comma) (piece : List Token) :
    Listed (piece :: pieces) (piece ++ (tokens ++ [comma])) := by
  induction followed generalizing piece with
  | done => exact .trailing piece kind
  | more next kind' _ induction =>
      rw [List.cons_append, List.append_assoc]
      exact .more piece kind' (induction next)

theorem Listed.forall_mem {property : Token → Prop}
    (listed : Listed pieces tokens)
    (each : ∀ piece ∈ pieces, ∀ token ∈ piece, property token)
    (comma : ∀ token : Token, token.kind = .comma → property token) :
    ∀ token ∈ tokens, property token := by
  induction listed with
  | empty => exact List.forall_mem_nil _
  | last piece => exact each piece List.mem_cons_self
  | trailing piece kind =>
      exact List.forall_mem_append.mpr ⟨each piece List.mem_cons_self,
        List.forall_mem_singleton.mpr (comma _ kind)⟩
  | more piece kind _ induction =>
      obtain ⟨first, others⟩ := List.forall_mem_cons.mp each
      exact List.forall_mem_append.mpr ⟨first,
        List.forall_mem_cons.mpr ⟨comma _ kind, induction others⟩⟩

theorem Chained.forall_mem {property : Token → Prop}
    (chained : Chained separator pieces tokens)
    (each : ∀ piece ∈ pieces, ∀ token ∈ piece, property token)
    (between : ∀ token : Token, token.kind = separator → property token) :
    ∀ token ∈ tokens, property token := by
  induction chained with
  | last piece => exact each piece List.mem_cons_self
  | more piece kind _ induction =>
      obtain ⟨first, others⟩ := List.forall_mem_cons.mp each
      exact List.forall_mem_append.mpr ⟨first,
        List.forall_mem_cons.mpr ⟨between _ kind, induction others⟩⟩

end

namespace Rule

variable {α β : Type}

/-- Whatever the rule reads while it objects to marked places only, its tokens
derive. -/
def Admits (rule : Rule α) (marked : Nat → Prop)
    (derives : List Token → α → Prop) : Prop :=
  ∀ ⦃cursor : Cursor⦄ ⦃progress : Progress α⦄,
    (rule cursor).result = .ok progress →
    (∀ met ∈ (rule cursor).emitted, marked met.start) →
    ∃ tokens, cursor.Passes tokens progress.next ∧ derives tokens progress.value

section

variable {marked : Nat → Prop} {rule : Rule α} {second : Rule β}
  {derives : List Token → α → Prop} {derives' : List Token → β → Prop}
  {cursor : Cursor}

theorem passes_skip {word : List Token} (start : word <+: cursor.ahead) :
    cursor.Passes word (cursor.skip word.length) := by
  obtain ⟨rest, split⟩ := start
  refine ⟨?_, rfl, rfl⟩
  rw [Cursor.skip, ← split, List.drop_left]

/-- Whatever a rule reads is a word of the language that it tracks. -/
theorem Admits.of_tracks {language : Language Token} {depth : Nat}
    (tracks : ∀ bound, rule.Tracks depth bound language) :
    rule.Admits marked fun tokens _ => tokens ∈ language := by
  intro cursor progress result _
  cases tracks (cursor.ahead.length + 1) cursor (Nat.lt_succ_self _) with
  | gave failed => cases result.symm.trans failed
  | @took word _ _ took next _ sight =>
      cases result.symm.trans took
      obtain ⟨member, start, -⟩ := sight.longest
      rw [next]
      exact ⟨word, passes_skip start, member⟩

theorem passes_of_token {kind : Token.Kind} {progress : Progress Token}
    (result : (token kind cursor).result = .ok progress) :
    cursor.Passes [progress.value] progress.next ∧ progress.value.kind = kind := by
  rcases head_cases cursor kind with ⟨found, rest, split, fits⟩ | other
  · rw [token_eq_accept split fits] at result
    cases result
    exact ⟨passes_skip ⟨rest, by simp [split]⟩, fits⟩
  · rw [token_eq_refuse other] at result
    cases result

theorem token_admits (kind : Token.Kind) :
    (token kind).Admits marked fun tokens found =>
      tokens = [found] ∧ found.kind = kind := by
  intro cursor progress result _
  obtain ⟨passes, fits⟩ := passes_of_token result
  exact ⟨_, passes, rfl, fits⟩

theorem Admits.mono {derives' : List Token → α → Prop}
    (admits : rule.Admits marked derives)
    (implied : ∀ tokens value, derives tokens value → derives' tokens value) :
    rule.Admits marked derives' := by
  intro cursor progress result emitted
  obtain ⟨tokens, passes, derived⟩ := admits result emitted
  exact ⟨tokens, passes, implied _ _ derived⟩

theorem Admits.map {change : α → β} (admits : rule.Admits marked derives)
    (implied : ∀ ⦃tokens value⦄, derives tokens value →
      derives' tokens (change value)) :
    (rule.map change).Admits marked derives' := by
  intro cursor progress result emitted
  obtain ⟨before, given, rfl⟩ := map_ok result
  obtain ⟨tokens, passes, derived⟩ := admits given emitted
  exact ⟨tokens, passes, implied derived⟩

theorem Admits.andThen (admits : rule.Admits marked derives)
    (admits' : second.Admits marked derives') :
    (rule.andThen second).Admits marked fun tokens values =>
      ∃ left right, tokens = left ++ right ∧ derives left values.1 ∧
        derives' right values.2 := by
  intro cursor progress result emitted
  obtain ⟨before, after, given, given', rfl⟩ := andThen_ok result
  rw [andThen_of_ok_ok given given'] at emitted
  obtain ⟨emitted, emitted'⟩ := List.forall_mem_append.mp emitted
  obtain ⟨left, passes, derived⟩ := admits given emitted
  obtain ⟨right, passes', derived'⟩ := admits' given' emitted'
  exact ⟨left ++ right, passes.append passes', left, right, rfl, derived,
    derived'⟩

theorem Admits.skipThen (admits : rule.Admits marked derives)
    (admits' : second.Admits marked derives') :
    (rule.skipThen second).Admits marked fun tokens value =>
      ∃ left right skipped, tokens = left ++ right ∧ derives left skipped ∧
        derives' right value := by
  apply (admits.andThen admits').map
  intro tokens values derived
  obtain ⟨left, right, same, first, last⟩ := derived
  exact ⟨left, right, values.1, same, first, last⟩

theorem Admits.thenSkip (admits : rule.Admits marked derives)
    (admits' : second.Admits marked derives') :
    (rule.thenSkip second).Admits marked fun tokens value =>
      ∃ left right skipped, tokens = left ++ right ∧ derives left value ∧
        derives' right skipped := by
  apply (admits.andThen admits').map
  intro tokens values derived
  obtain ⟨left, right, same, first, last⟩ := derived
  exact ⟨left, right, values.2, same, first, last⟩

theorem Admits.between (admits : rule.Admits marked derives)
    (opening closing : Token.Kind) :
    (rule.between opening closing).Admits marked fun tokens value =>
      ∃ first inner last, tokens = first :: (inner ++ [last]) ∧
        first.kind = opening ∧ last.kind = closing ∧ derives inner value := by
  intro cursor progress result emitted
  obtain ⟨tokens, passes, derived⟩ := ((token_admits opening).skipThen
    admits).thenSkip (token_admits closing) result emitted
  obtain ⟨_, _, last, rfl, ⟨_, inner, first, rfl, ⟨rfl, opens⟩, inside⟩, rfl,
    closes⟩ := derived
  exact ⟨_, passes, first, inner, last, rfl, opens, closes, inside⟩

/-- Two parts with a separator between them. -/
theorem Admits.separated (admits : rule.Admits marked derives)
    (admits' : second.Admits marked derives') (separator : Token.Kind) :
    ((rule.thenSkip (token separator)).andThen second).Admits marked
      fun tokens values => ∃ left found right, tokens = left ++ found :: right ∧
        found.kind = separator ∧ derives left values.1 ∧
        derives' right values.2 := by
  intro cursor progress result emitted
  obtain ⟨tokens, passes, derived⟩ := (admits.thenSkip
    (token_admits separator)).andThen admits' result emitted
  obtain ⟨_, right, rfl, ⟨left, _, found, rfl, first, rfl, kind⟩, last⟩ := derived
  exact ⟨_, passes, left, found, right, by simp, kind, first, last⟩

theorem Admits.optional (admits : rule.Admits marked derives) :
    rule.optional.Admits marked fun tokens value =>
      value = none ∧ tokens = [] ∨
        ∃ given, value = some given ∧ derives tokens given := by
  intro cursor progress result emitted
  unfold Rule.optional at result emitted
  cases outcome : (rule cursor).result with
  | error fault =>
      simp only [outcome] at result
      cases result
      exact ⟨[], Cursor.passes_nil_iff.mpr rfl, .inl ⟨rfl, rfl⟩⟩
  | ok before =>
      simp only [outcome, Outcome.map] at result emitted
      cases result
      obtain ⟨tokens, passes, derived⟩ := admits outcome emitted
      exact ⟨tokens, passes, .inr ⟨before.value, rfl, derived⟩⟩

/-! ## Objections -/

/-- The tokens come with the start of the first of them. -/
def Starts (tokens : List Token) (start : Nat) : Prop :=
  ∀ token ∈ tokens.head?, start = token.start

theorem starts_of_passes {tokens : List Token} {next : Cursor}
    (passes : cursor.Passes tokens next) : Starts tokens cursor.start := by
  intro token first
  obtain ⟨rest, rfl⟩ := List.head?_eq_some_iff.mp first
  rw [Cursor.start, passes.ahead]
  rfl

theorem Admits.located (admits : rule.Admits marked derives) :
    rule.located.Admits marked fun tokens value =>
      derives tokens value.1 ∧ Starts tokens value.2 := by
  intro cursor progress result emitted
  obtain ⟨before, given, rfl⟩ := map_ok result
  obtain ⟨tokens, passes, derived⟩ := admits given emitted
  exact ⟨tokens, passes, derived, starts_of_passes passes⟩

theorem Admits.inspect {check : α → β × List (Nat × Objection)}
    (admits : rule.Admits marked derives) :
    (rule.inspect check).Admits marked fun tokens value =>
      ∃ before, derives tokens before ∧ value = (check before).1 ∧
        ∀ objection ∈ (check before).2, marked objection.1 := by
  intro cursor progress result emitted
  cases outcome : (rule cursor).result with
  | error fault =>
      simp only [Rule.inspect, outcome] at result
      cases result
  | ok before =>
      simp only [Rule.inspect, outcome] at result emitted
      cases result
      obtain ⟨emitted, objected⟩ := List.forall_mem_append.mp emitted
      obtain ⟨tokens, passes, derived⟩ := admits outcome emitted
      refine ⟨tokens, passes, before.value, derived, rfl, ?_⟩
      intro objection given
      exact objected _ (List.mem_map_of_mem given)

/-! ## Choices -/

/-- A choice ends like one of its rules. -/
theorem firstAfter_cases {failed : Fault} {rules : List (Rule α)}
    {progress : Progress α}
    (result : (firstAfter failed rules cursor).result = .ok progress) :
    ∃ branch ∈ rules, firstAfter failed rules cursor = branch cursor := by
  induction rules generalizing failed with
  | nil => cases result
  | cons first rules induction =>
      unfold firstAfter at result ⊢
      cases outcome : (first cursor).result with
      | ok before => exact ⟨first, List.mem_cons_self, by simp only [outcome]⟩
      | error fault =>
          simp only [outcome] at result ⊢
          obtain ⟨branch, member, same⟩ := induction result
          exact ⟨branch, List.mem_cons_of_mem first member, same⟩

theorem firstOf_cases {first : Rule α} {rules : List (Rule α)}
    {progress : Progress α}
    (result : (firstOf first rules cursor).result = .ok progress) :
    ∃ branch ∈ first :: rules, firstOf first rules cursor = branch cursor := by
  unfold firstOf at result ⊢
  cases outcome : (first cursor).result with
  | ok before => exact ⟨first, List.mem_cons_self, by simp only [outcome]⟩
  | error fault =>
      simp only [outcome] at result ⊢
      obtain ⟨branch, member, same⟩ := firstAfter_cases result
      exact ⟨branch, List.mem_cons_of_mem first member, same⟩

theorem Admits.firstOf {first : Rule α} {rules : List (Rule α)}
    (each : ∀ branch ∈ first :: rules, branch.Admits marked derives) :
    (firstOf first rules).Admits marked derives := by
  intro cursor progress result emitted
  obtain ⟨branch, member, same⟩ := firstOf_cases result
  rw [same] at result emitted
  exact each branch member result emitted

/-- What an outcome is, up to the fault that was passed over. -/
def SameAs (outcome outcome' : Outcome α) : Prop :=
  outcome.emitted = outcome'.emitted ∧
    ∀ progress, outcome.result = .ok progress → ∃ progress',
      outcome'.result = .ok progress' ∧ progress.value = progress'.value ∧
        progress.next = progress'.next

theorem sameAs_refl (outcome : Outcome α) : SameAs outcome outcome :=
  ⟨rfl, fun progress result => ⟨progress, result, rfl, rfl⟩⟩

theorem insteadOf_sameAs (outcome other : Outcome α) :
    SameAs (outcome.insteadOf other) outcome := by
  refine ⟨rfl, ?_⟩
  intro progress result
  cases given : outcome.result with
  | error fault =>
      rw [Outcome.insteadOf, given] at result
      cases result
  | ok before =>
      rw [Outcome.insteadOf, given] at result
      cases result
      exact ⟨before, rfl, rfl, rfl⟩

theorem better_sameAs {first second : Outcome α} {progress : Progress α}
    (result : (better first second).result = .ok progress) :
    SameAs (better first second) first ∨ SameAs (better first second) second := by
  cases given : first.result with
  | ok before =>
      cases given' : second.result with
      | ok before' =>
          simp only [better, given, given']
          split_ifs
          · exact .inl (insteadOf_sameAs _ _)
          · exact .inr (insteadOf_sameAs _ _)
      | error fault =>
          simp only [better, given, given']
          exact .inl (insteadOf_sameAs _ _)
  | error fault =>
      cases given' : second.result with
      | ok before' =>
          simp only [better, given, given']
          exact .inr (insteadOf_sameAs _ _)
      | error fault' =>
          simp only [better, given, given'] at result
          split at result <;> simp_all

theorem orElse_sameAs {first second : Rule α} {progress : Progress α}
    (result : ((first.orElse second) cursor).result = .ok progress) :
    SameAs ((first.orElse second) cursor) (first cursor) ∨
      SameAs ((first.orElse second) cursor) (second cursor) := by
  rw [orElse_eq] at result ⊢
  split_ifs at result ⊢
  · exact .inl (sameAs_refl _)
  · exact .inr (sameAs_refl _)
  · exact better_sameAs result

/-- What a choice reads, one of its rules reads, and emits the same. -/
theorem orElse_ok {first second : Rule α} {progress : Progress α}
    (result : ((first.orElse second) cursor).result = .ok progress) :
    ∃ rule ∈ [first, second], ∃ before, (rule cursor).result = .ok before ∧
      progress.value = before.value ∧ progress.next = before.next ∧
      ((first.orElse second) cursor).emitted = (rule cursor).emitted := by
  rcases orElse_sameAs result with ⟨faults, results⟩ | ⟨faults, results⟩
  · obtain ⟨before, given, value, next⟩ := results progress result
    exact ⟨first, by simp, before, given, value, next, faults⟩
  · obtain ⟨before, given, value, next⟩ := results progress result
    exact ⟨second, by simp, before, given, value, next, faults⟩

theorem Admits.orElse {first second : Rule α}
    (admits : first.Admits marked derives)
    (admits' : second.Admits marked derives) :
    (first.orElse second).Admits marked derives := by
  have each : ∀ rule ∈ [first, second], rule.Admits marked derives :=
    List.forall_mem_cons.mpr ⟨admits, List.forall_mem_singleton.mpr admits'⟩
  intro cursor progress result emitted
  obtain ⟨rule, among, before, given, value, next, faults⟩ := orElse_ok result
  rw [value, next]
  exact each rule among given (faults ▸ emitted)

/-! ## Lists -/

section

variable {item : Rule α} {separator : Token.Kind} {passed : Option Fault}

/-- Behind an item a list goes on with a separator and an item each time. -/
theorem Admits.moreItems (admits : item.Admits marked derives) {bound : Nat}
    (emitted : ∀ met ∈
      (moreItems item (token separator) bound passed cursor).emitted,
      marked met.start) :
    ∃ pieces tokens, Followed separator pieces tokens ∧
      cursor.Passes tokens
        (moreItems item (token separator) bound passed cursor).next ∧
      List.Forall₂ derives pieces
        (moreItems item (token separator) bound passed cursor).items := by
  have stopped (last : Cursor) : ∃ pieces tokens,
      Followed separator pieces tokens ∧ last.Passes tokens last ∧
        List.Forall₂ derives pieces [] :=
    ⟨[], [], .done, Cursor.passes_nil_iff.mpr rfl, .nil⟩
  induction bound generalizing passed cursor with
  | zero => exact stopped cursor
  | succ bound induction =>
      unfold Rule.moreItems at emitted ⊢
      cases separation : (token separator cursor).result with
      | error fault =>
          simp only [separation]
          exact stopped cursor
      | ok separated =>
          cases outcome : (item separated.next).result with
          | error fault =>
              simp only [separation, outcome]
              exact stopped cursor
          | ok progress =>
              simp only [separation, outcome, token_emitted,
                List.nil_append] at emitted ⊢
              obtain ⟨first, later⟩ := List.forall_mem_append.mp emitted
              obtain ⟨passesFound, kind⟩ := passes_of_token separation
              obtain ⟨piece, passes, derived⟩ := admits outcome first
              obtain ⟨pieces, tokens, followed, passes', all⟩ := induction later
              exact ⟨piece :: pieces, _, .more piece kind followed,
                passesFound.append (passes.append passes'), .cons derived all⟩

theorem Admits.separatedList (admits : item.Admits marked derives) :
    (item.separatedList (token .comma)).Admits marked fun tokens values =>
      ∃ pieces, Listed pieces tokens ∧ List.Forall₂ derives pieces values := by
  intro cursor progress result emitted
  cases outcome : (item cursor).result with
  | error fault =>
      rw [separatedList_of_error outcome] at result
      cases result
      exact ⟨[], Cursor.passes_nil_iff.mpr rfl, [], .empty, .nil⟩
  | ok before =>
      rw [separatedList_of_ok outcome rfl] at result emitted
      cases result
      obtain ⟨first, later⟩ := List.forall_mem_append.mp emitted
      obtain ⟨piece, passes, derived⟩ := admits outcome first
      obtain ⟨pieces, tokens, followed, passes', all⟩ := admits.moreItems later
      unfold listEnds
      split
      · next closing trailing =>
        obtain ⟨passesComma, kind⟩ := passes_of_token trailing
        exact ⟨_, passes.append (passes'.append passesComma), piece :: pieces,
          followed.listed_trailing kind piece, .cons derived all⟩
      · exact ⟨_, passes.append passes', piece :: pieces,
          followed.listed piece, .cons derived all⟩

theorem Admits.delimitedList (admits : item.Admits marked derives)
    (opening closing : Token.Kind) :
    (delimitedList opening closing item).Admits marked fun tokens values =>
      ∃ pieces, Enclosed opening closing pieces tokens ∧
        List.Forall₂ derives pieces values := by
  intro cursor progress result emitted
  obtain ⟨tokens, passes, first, inner, last, rfl, opens, closes, pieces, listed,
    all⟩ := admits.separatedList.between opening closing result emitted
  exact ⟨_, passes, pieces, ⟨first, inner, last, rfl, opens, closes, listed⟩, all⟩

theorem Admits.separatedChain (admits : item.Admits marked derives) :
    (item.separatedChain (token separator)).Admits marked fun tokens values =>
      ∃ pieces, Chained separator pieces tokens ∧
        List.Forall₂ derives pieces values := by
  intro cursor progress result emitted
  cases outcome : (item cursor).result with
  | error fault =>
      rw [separatedChain_of_error outcome] at result
      cases result
  | ok before =>
      rw [separatedChain_of_ok outcome rfl] at result emitted
      cases result
      obtain ⟨first, later⟩ := List.forall_mem_append.mp emitted
      obtain ⟨piece, passes, derived⟩ := admits outcome first
      obtain ⟨pieces, tokens, followed, passes', all⟩ := admits.moreItems later
      exact ⟨_, passes.append passes', piece :: pieces, followed.chained piece,
        .cons derived all⟩

end

end

end Rule

end TreeQuery.Reading
