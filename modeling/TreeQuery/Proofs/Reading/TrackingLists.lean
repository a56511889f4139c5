import TreeQuery.Proofs.Reading.Repetition
import TreeQuery.Proofs.Reading.Tracking

/-!
# Lists that look as far as the frontier

Lists and chains read the same rounds of a separator and an item; they differ in
what they make of a separator without an item behind it.  By induction on the
rounds they track the language of what follows an item.
-/

namespace TreeQuery.Reading.Rule

variable {α : Type} {item : Rule α} {separator : Token.Kind}
  {language : Language Token} {ends : Run α → Option Fault × Cursor}
  {cursor : Cursor} {passed fault : Option Fault} {found : Token}
  {tokens word before : List Token} {emitted : List Fault} {bound : Nat}

/-- What stands behind a separator is seen from the separator on. -/
theorem sight_behind {read : Option (List Token)}
    (split : cursor.ahead = found :: tokens) (kind : found.kind = separator)
    (sight : Sight language (cursor.skip 1) read fault emitted before) :
    Sight (ofKinds [separator] * language) cursor (read.map (found :: ·)) fault
      emitted (found :: before) := by
  have member : found.kind ∈ [separator] := List.mem_singleton.mpr kind
  exact (Sight.single_read split member).mul_near sight single_separated
    (Joins.none_right fault).symm

/-- Where a list ends behind its last item, and what it passed over. -/
def listEnds (separator : Token.Kind) (run : Run α) : Option Fault × Cursor :=
  match (token separator run.next).result with
  | .ok progress =>
      (Fault.note (Fault.note run.passed progress.passed) (some run.stopped),
        progress.next)
  | .error fault =>
      (Fault.note (Fault.note run.passed (some fault)) (some run.stopped),
        run.next)

/-- Where a chain ends behind its last item, and what it passed over. -/
def chainEnds (run : Run α) : Option Fault × Cursor :=
  (Fault.note run.passed (some run.stopped), run.next)

/-- The run behind an item sees the language; what it passed over comes on top
of what was passed over before. -/
def Rounds (ends : Run α → Option Fault × Cursor) (language : Language Token)
    (cursor : Cursor) (passed : Option Fault) (run : Run α) : Prop :=
  ∃ word fault before, ends run = (Fault.note passed fault, cursor.skip word.length) ∧
    Firm 2 cursor fault ∧
    Sight language cursor (some word) fault run.emitted before

/-- What becomes of a run that stops, and what a separator goes on with. -/
structure Closing (item language : Language Token) (separator : Token.Kind)
    (ends : Run α → Option Fault × Cursor) : Prop where
  depends : ∀ run items emitted,
    ends { run with items, emitted } = ends run
  refused : ∀ cursor passed,
    (∀ token ∈ cursor.ahead.head?, token.kind ≠ separator) →
    Rounds ends language cursor passed
      ⟨[], [], cursor, passed, cursor.unexpected [.token separator]⟩
  left : ∀ cursor found tokens passed fault emitted before,
    cursor.ahead = found :: tokens → found.kind = separator →
    Firm 2 (cursor.skip 1) (some fault) →
    Sight item (cursor.skip 1) none (some fault) emitted before →
    Rounds ends language cursor passed ⟨[], emitted, cursor, passed, fault⟩
  more : ∀ cursor found tokens word fault emitted before,
    cursor.ahead = found :: tokens → found.kind = separator →
    Sight (item * language) (cursor.skip 1) (some word) fault emitted before →
    Sight language cursor (some (found :: word)) fault emitted (found :: before)

theorem Closing.moreItems {piece : Language Token}
    (closing : Closing piece language separator ends)
    (tracks : item.Tracks 2 bound piece)
    (separated : Separated piece language) {rounds : Nat}
    (short : cursor.ahead.length < bound)
    (enough : cursor.ahead.length < rounds) :
    Rounds ends language cursor passed
      (Rule.moreItems item (token separator) rounds passed cursor) := by
  induction rounds generalizing cursor passed with
  | zero => cases enough
  | succ rounds induction =>
      rcases head_cases cursor separator with ⟨found, tokens, split, kind⟩ | other
      · simp only [Rule.moreItems, token_eq_accept split kind, Outcome.accept,
          Fault.note_none]
        have fewer : (cursor.skip 1).ahead.length + 1 = cursor.ahead.length := by
          simp [Cursor.skip, split]
        cases tracks (cursor.skip 1) (by omega) with
        | gave result firm sight =>
            simp only [result, List.nil_append]
            exact closing.left _ _ _ _ _ _ _ split kind firm sight
        | @took word before progress result next firm sight =>
            have within := (cursor.skip 1).length_skip_le word.length
            rw [← next] at within
            have later := @induction progress.next
              (Fault.note passed progress.passed) (by omega) (by omega)
            obtain ⟨word', fault, _, stop, firm', sight'⟩ := later
            have joins := Joins.note progress.passed fault
            rw [next] at stop firm' sight'
            obtain ⟨_, both⟩ := sight.mul sight'
              (.inr (firm'.mono (by omega))) separated joins
            have whole := closing.more _ found tokens _ _ _ _ split kind both
            simp only [result, List.nil_append, next]
            refine ⟨_, _, _, ?_, ?_, whole⟩
            · rw [closing.depends, stop, Fault.note_assoc,
                Cursor.skip_skip, Cursor.skip_skip, List.length_cons,
                List.length_append, Nat.add_comm _ 1]
            · have firmer := joins.firm firm (firm'.of_skip.mono (by omega))
              exact firmer.of_skip.mono (Nat.le_add_left 2 1)
      · simp only [Rule.moreItems, token_eq_refuse other, Outcome.refuse]
        exact closing.refused cursor passed other

/-! ## Lists -/

theorem sight_refused {expected : List Expectation}
    (other : ∀ token ∈ cursor.ahead.head?, token.kind ≠ separator)
    (inhabited : ∃ word, word ∈ language)
    (expects : ∀ expectation, expectation ∈ expected ↔
      expectation = .token separator) :
    Sight (behind separator language) cursor (some [])
      (some (cursor.unexpected expected)) [] [] := by
  have refused : Sight (ofKinds [separator]) cursor none
      (some (cursor.unexpected expected)) [] [] :=
    .single_refused (fun token ahead same =>
        other token ahead (List.mem_singleton.mp same))
      (List.mem_singleton_self separator) (fun _ => List.mem_singleton.mp) expects
  exact (refused.mul_none single_separated inhabited).optional_none
    firm_unexpected

theorem nil_mem_behind : [] ∈ behind separator language := .inl rfl

/-- Where an item is given up, a list ends. -/
theorem sight_listed_none {item : Language Token}
    (separated : Separated item (behind .comma (listed item)))
    (firm : Firm 2 cursor fault)
    (sight : Sight item cursor none fault emitted before) :
    Sight (listed item) cursor (some []) fault emitted before := by
  rw [listed_eq]
  exact (sight.mul_none separated ⟨[], nil_mem_behind⟩).optional_none
    (firm.mono (by omega))

theorem sight_listed_some {item : Language Token}
    (sight : Sight (item * behind .comma (listed item)) cursor (some word) fault
      emitted before) :
    Sight (listed item) cursor (some word) fault emitted before := by
  rw [listed_eq]
  exact sight.optional_some

theorem closing_listed {piece : Language Token}
    (separated : Separated piece (behind .comma (listed piece))) :
    Closing piece (behind .comma (listed piece)) .comma
      (listEnds (α := α) .comma) := by
  refine ⟨fun _ _ _ => rfl, ?_, ?_, ?_⟩
  · intro cursor passed other
    have twice : Fault.note (some (cursor.unexpected [.token .comma]))
        (some (cursor.unexpected [.token .comma])) =
        some (cursor.unexpected [.token .comma, .token .comma]) := by
      simp [Fault.note, Fault.further, Cursor.unexpected]
    refine ⟨[], some (cursor.unexpected [.token .comma, .token .comma]), [], ?_,
      firm_unexpected, ?_⟩
    · simp only [listEnds, token_eq_refuse other, Outcome.refuse]
      rw [Fault.note_assoc, twice, List.length_nil, Cursor.skip_zero]
    · exact sight_refused other ⟨[], [], .empty, List.forall_mem_nil _⟩ (by simp)
  · intro cursor found tokens passed fault emitted before split kind firm sight
    refine ⟨[found], some fault, found :: before, ?_,
      firm.of_skip.mono (by omega), ?_⟩
    · simp only [listEnds, token_eq_accept split kind, Outcome.accept,
        Fault.note_none, List.length_singleton]
    · exact (sight_behind split kind
        (sight_listed_none separated firm sight)).optional_some
  · intro cursor found tokens word fault emitted before split kind sight
    exact (sight_behind split kind (sight_listed_some sight)).optional_some

theorem separatedList_of_error {failed : Fault}
    (result : (item cursor).result = .error failed) :
    (item.separatedList (token separator)) cursor =
      ⟨(item cursor).emitted, .ok ⟨[], cursor, some failed⟩⟩ := by
  simp only [separatedList, items, result, List.isEmpty_nil, if_true, Fault.note]

theorem separatedList_of_ok {progress : Progress α} {run : Run α}
    (result : (item cursor).result = .ok progress)
    (same : moreItems item (token separator) cursor.ahead.length
      progress.passed progress.next = run) :
    (item.separatedList (token separator)) cursor =
      ⟨(item cursor).emitted ++ run.emitted,
        .ok ⟨progress.value :: run.items, (listEnds separator run).2,
          (listEnds separator run).1⟩⟩ := by
  subst same
  simp only [separatedList, items, result, List.isEmpty_cons, Bool.false_eq_true,
    if_false, listEnds]
  cases (token separator (moreItems item (token separator) cursor.ahead.length
    progress.passed progress.next).next).result <;> rfl

/-- An item and the run behind it see the product. -/
theorem Closing.run {piece : Language Token}
    (closing : Closing piece language separator ends)
    (tracks : item.Tracks 2 bound piece) (proper : [] ∉ piece)
    (separated : Separated piece language)
    (short : cursor.ahead.length < bound) {progress : Progress α} {run : Run α}
    (next : progress.next = cursor.skip word.length)
    (firm : Firm 2 cursor progress.passed)
    (sight : Sight piece cursor (some word) progress.passed emitted before)
    (same : Rule.moreItems item (token separator) cursor.ahead.length
      progress.passed progress.next = run) :
    ∃ word before, (ends run).2 = cursor.skip word.length ∧
      Firm 2 cursor (ends run).1 ∧
      Sight (piece * language) cursor (some word) (ends run).1
        (emitted ++ run.emitted) before := by
  have nonempty : word ≠ [] := fun empty => proper (empty ▸ sight.longest.1)
  have fewer : progress.next.ahead.length < cursor.ahead.length := by
    have within := sight.longest.2.1.length_le
    have positive := List.length_pos_iff.mpr nonempty
    rw [next, Cursor.skip, List.length_drop]
    omega
  have later : Rounds ends language progress.next progress.passed run := by
    rw [← same]
    exact closing.moreItems tracks separated (fewer.trans short) fewer
  rw [next] at later
  obtain ⟨word', fault, _, stop, firm', sight'⟩ := later
  have joins := Joins.note progress.passed fault
  obtain ⟨before', both⟩ := sight.mul sight' (.inr (firm'.mono (by omega)))
    separated joins
  rw [stop]
  refine ⟨word ++ word', before', ?_, ?_, both⟩
  · rw [Cursor.skip_skip, List.length_append]
  · exact joins.firm firm (firm'.of_skip.mono (by omega))

theorem Tracks.separatedList {piece : Language Token}
    (tracks : item.Tracks 2 bound piece) (proper : [] ∉ piece)
    (separated : Separated piece (behind .comma (listed piece))) :
    (item.separatedList (token .comma)).Tracks 2 bound (listed piece) := by
  intro cursor short
  cases tracks cursor short with
  | gave result firm sight =>
      have here : cursor = cursor.skip ([] : List Token).length :=
        (Cursor.skip_zero cursor).symm
      rw [separatedList_of_error result]
      exact .took rfl here firm (sight_listed_none separated firm sight)
  | took result next firm sight =>
      obtain ⟨_, _, stop, firm', both⟩ := (closing_listed separated).run tracks
        proper separated short next firm sight rfl
      rw [separatedList_of_ok result rfl]
      exact .took rfl stop firm' (sight_listed_some both)

theorem Tracks.delimitedList {piece : Language Token}
    {starts follows : List Token.Kind} {opening closing : Token.Kind}
    (tracks : item.Tracks 2 bound piece) (profile : Profile piece starts follows)
    (proper : [] ∉ piece) (comma : Token.Kind.comma ∉ follows)
    (closes : closing ∉ .comma :: (follows ++ starts)) :
    (delimitedList opening closing item).Tracks 2 (bound + 1)
      (enclosed opening closing piece) := by
  have inhabited := (profile.listed proper comma).inhabited
  have tracksList :=
    tracks.separatedList proper (profile.separated_behind comma)
  have tracksBegun := ((token_tracks opening 3 (bound + 1)).token_andThen
    (token_plain opening) tracksList inhabited).map Prod.snd
  exact ((tracksBegun.mono (by omega) le_rfl).andThen
    (token_tracks closing 2 (bound + 1))
    (ofKinds_profile (List.mem_singleton_self closing)).inhabited
    (profile.separated_closing proper comma closes) (by omega)).map Prod.fst

/-! ## Chains -/

theorem sight_chained_some {item : Language Token}
    (sight : Sight (item * behind .alternation (chained item)) cursor (some word)
      fault emitted before) :
    Sight (chained item) cursor (some word) fault emitted before := by
  rw [chained_eq]
  exact sight

theorem sight_chained_none {item : Language Token}
    (separated : Separated item (behind .alternation (chained item)))
    (sight : Sight item cursor none fault emitted before) :
    Sight (chained item) cursor none fault emitted before := by
  rw [chained_eq]
  exact sight.mul_none separated ⟨[], nil_mem_behind⟩

theorem closing_chained {piece : Language Token}
    (inhabited : ∃ word, word ∈ chained piece)
    (separated : Separated piece (behind .alternation (chained piece))) :
    Closing piece (behind .alternation (chained piece)) .alternation
      (chainEnds (α := α)) := by
  refine ⟨fun _ _ _ => rfl, ?_, ?_, ?_⟩
  · intro cursor passed other
    refine ⟨[], some (cursor.unexpected [.token .alternation]), [], ?_,
      firm_unexpected, ?_⟩
    · rw [chainEnds, List.length_nil, Cursor.skip_zero]
    · exact sight_refused other inhabited (by simp)
  · intro cursor found tokens passed fault emitted before split kind firm sight
    have firm' := firm.of_skip
    refine ⟨[], some fault, found :: before, ?_, firm'.mono (by omega), ?_⟩
    · rw [chainEnds, List.length_nil, Cursor.skip_zero]
    · exact (sight_behind split kind
        (sight_chained_none separated sight)).optional_none
          (firm'.mono (by omega))
  · intro cursor found tokens word fault emitted before split kind sight
    exact (sight_behind split kind (sight_chained_some sight)).optional_some

theorem separatedChain_of_error {failed : Fault}
    (result : (item cursor).result = .error failed) :
    (item.separatedChain (token separator)) cursor =
      ⟨(item cursor).emitted, .error failed⟩ := by
  simp only [separatedChain, items, result, List.isEmpty_nil, if_true]

theorem separatedChain_of_ok {progress : Progress α} {run : Run α}
    (result : (item cursor).result = .ok progress)
    (same : moreItems item (token separator) cursor.ahead.length
      progress.passed progress.next = run) :
    (item.separatedChain (token separator)) cursor =
      ⟨(item cursor).emitted ++ run.emitted,
        .ok ⟨progress.value :: run.items, (chainEnds run).2,
          (chainEnds run).1⟩⟩ := by
  subst same
  simp only [separatedChain, items, result, List.isEmpty_cons,
    Bool.false_eq_true, if_false, chainEnds]

theorem Tracks.separatedChain {piece : Language Token}
    (tracks : item.Tracks 2 bound piece) (proper : [] ∉ piece)
    (inhabited : ∃ word, word ∈ chained piece)
    (separated : Separated piece (behind .alternation (chained piece))) :
    (item.separatedChain (token .alternation)).Tracks 2 bound
      (chained piece) := by
  intro cursor short
  cases tracks cursor short with
  | gave result firm sight =>
      rw [separatedChain_of_error result]
      exact .gave rfl firm (sight_chained_none separated sight)
  | took result next firm sight =>
      obtain ⟨_, _, stop, firm', both⟩ :=
        (closing_chained inhabited separated).run tracks proper separated short
          next firm sight rfl
      rw [separatedChain_of_ok result rfl]
      exact .took rfl stop firm' (sight_chained_some both)

theorem Quiet.separatedChain (quiet : item.Quiet) :
    (item.separatedChain (token separator)).Quiet := by
  intro cursor failed result
  cases given : (item cursor).result with
  | error failed' =>
      rw [separatedChain_of_error given]
      exact quiet cursor failed' given
  | ok progress =>
      rw [separatedChain_of_ok given rfl] at result
      cases result

end TreeQuery.Reading.Rule
