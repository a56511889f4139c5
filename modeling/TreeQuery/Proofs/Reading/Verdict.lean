import TreeQuery.Proofs.Reading.Tracking

/-!
# What the fault of a whole reading says

When a rule that tracks a language does not take the whole input, and nothing is
objected to, the fault stands at the frontier and expects what is viable there,
and the end of the input where a word ends.
-/

namespace TreeQuery.Reading

section

variable {language : Language Token} {cursor : Cursor}
  {read : Option (List Token)} {fault : Fault} {emitted : List Fault}
  {before word : List Token}

end

namespace Rule

variable {α : Type} {rule : Rule α} {language : Language Token} {bound : Nat}
  {cursor : Cursor}

theorem finish_emitted : (finish cursor).emitted = [] := by
  unfold finish
  split <;> rfl

theorem thenSkip_finish_emitted :
    ((rule.thenSkip finish) cursor).emitted = (rule cursor).emitted := by
  change ((rule.andThen finish) cursor).emitted = _
  cases given : (rule cursor).result with
  | error fault => rw [andThen_of_error given]
  | ok progress =>
      simp only [andThen, given, finish_emitted, List.append_nil]

/-- A whole reading succeeds when the rule reads all input. -/
theorem thenSkip_finish_ok {progress : Progress α}
    (result : (rule cursor).result = .ok progress)
    (ends : progress.next.ahead = []) : ∃ last,
      ((rule.thenSkip finish) cursor).result = .ok last ∧
        last.value = progress.value := by
  have accepts : finish progress.next = .accept () progress.next := by
    simp only [finish, ends]
  rw [thenSkip, Rule.map, Outcome.map,
    andThen_of_ok_ok result (congrArg Outcome.result accepts)]
  exact ⟨_, rfl, rfl⟩

/-- A word is read to its end, and what is emitted objects to its tokens. -/
theorem Tracks.exists_whole (tracks : rule.Tracks 2 bound language)
    (short : cursor.ahead.length < bound) (member : cursor.ahead ∈ language) :
    ∃ progress, (rule cursor).result = .ok progress ∧ progress.next.ahead = [] ∧
      ∀ met ∈ (rule cursor).emitted, met.objection ≠ none ∧
        ∃ token ∈ cursor.ahead, met.start = token.start := by
  cases tracks cursor short with
  | gave _ _ sight =>
      exact absurd (List.prefix_refl _) (sight.longest _ member)
  | took result next _ sight =>
      have longer := sight.longest.2.2 _ member (List.prefix_refl _)
      refine ⟨_, result, ?_, ?_⟩
      · rw [next, Cursor.skip]
        exact List.drop_eq_nil_of_le longer
      · intro met among
        obtain ⟨objects, token, inside, same⟩ := sight.emitted met among
        exact ⟨objects, token, sight.start.subset inside, same⟩

end Rule

end TreeQuery.Reading
