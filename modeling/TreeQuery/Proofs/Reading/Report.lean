import TreeQuery.Proofs.Reading.Reads

/-!
# How a whole reading ends

Of the faults that spoil a reading the one that starts first is reported; the
fault that stopped it only if it starts before all others.
-/

namespace TreeQuery.Reading

section

variable {fault last : Fault} {faults : List Fault}

theorem earliest_mem : earliest fault faults ∈ fault :: faults := by
  induction faults generalizing fault with
  | nil => exact List.mem_cons_self
  | cons other faults induction =>
      rw [earliest]
      rcases List.mem_cons.mp induction with same | among
      · rw [same]
        split
        · exact List.mem_cons_of_mem _ List.mem_cons_self
        · exact List.mem_cons_self
      · exact List.mem_cons_of_mem _ (List.mem_cons_of_mem _ among)

theorem earliest_le :
    ∀ met ∈ fault :: faults, (earliest fault faults).start ≤ met.start := by
  induction faults generalizing fault with
  | nil => simp [earliest]
  | cons other faults induction =>
      rw [earliest]
      have below : ∀ met ∈
          (if other.start < fault.start then other else fault) :: faults,
          (earliest (if other.start < fault.start then other else fault)
            faults).start ≤ met.start := induction
      obtain ⟨first, others⟩ := List.forall_mem_cons.mp below
      refine List.forall_mem_cons.mpr ⟨?_, List.forall_mem_cons.mpr ⟨?_, others⟩⟩
      · refine Nat.le_trans first ?_
        split <;> omega
      · refine Nat.le_trans first ?_
        split <;> omega

theorem earliest_append : earliest fault (faults ++ [last]) =
    if last.start < (earliest fault faults).start then last
    else earliest fault faults := by
  induction faults generalizing fault with
  | nil => rfl
  | cons other faults induction => exact induction

end

section

variable {α β : Type} {forValues : Bool} {rule : List Token → Rule α}
  {source : String} {failure : SyntaxFailure}

/-- What comes of reading the whole source. -/
def wholeReading (rule : List Token → Rule α) (source : String) : Outcome α :=
  (rule (tokenize source)).thenSkip .finish (startOf source (tokenize source))

/-- A reading that reaches the end succeeds, or reports an objection. -/
theorem readAll_of_ok {progress : Progress α}
    (result : (wholeReading rule source).result = .ok progress) :
    (wholeReading rule source).emitted = [] ∧
        readAll forValues rule source = .ok progress.value ∨
      ∃ fault ∈ (wholeReading rule source).emitted,
        readAll forValues rule source =
          .error (failureOf source forValues fault) ∧
        ∀ met ∈ (wholeReading rule source).emitted, fault.start ≤ met.start := by
  unfold readAll
  rw [wholeReading] at result ⊢
  rcases outcome : (rule (tokenize source)).thenSkip .finish
    (startOf source (tokenize source)) with ⟨_ | ⟨fault, faults⟩, ended⟩
  · simp only [outcome] at result
    exact .inl ⟨rfl, by simp only [outcome, result]⟩
  · simp only [outcome] at result
    exact .inr ⟨_, earliest_mem, by simp only [outcome, result], earliest_le⟩

theorem readAll_error_cases
    (failed : readAll forValues rule source = .error failure) :
    (∃ fault ∈ (wholeReading rule source).emitted,
        failure = failureOf source forValues fault) ∨
      ∃ last, (wholeReading rule source).result = .error last ∧
        failure = failureOf source forValues last ∧
        ∀ met ∈ (wholeReading rule source).emitted, last.start < met.start := by
  unfold readAll at failed
  rw [wholeReading]
  rcases outcome : (rule (tokenize source)).thenSkip .finish
    (startOf source (tokenize source)) with
    ⟨_ | ⟨fault, faults⟩, last | progress⟩
  · simp only [outcome] at failed
    cases failed
    exact .inr ⟨last, rfl, rfl, List.forall_mem_nil _⟩
  · simp only [outcome] at failed
    cases failed
  · simp only [outcome, earliest_append] at failed
    cases failed
    split
    · next before =>
      exact .inr ⟨last, rfl, rfl, fun met among =>
        Nat.lt_of_lt_of_le before (earliest_le met among)⟩
    · exact .inl ⟨_, earliest_mem, rfl⟩
  · simp only [outcome] at failed
    cases failed
    exact .inl ⟨_, earliest_mem, rfl⟩

theorem readAll_map (change : α → β) :
    readAll forValues (fun tokens => (rule tokens).map change) source =
      (readAll forValues rule source).map change := by
  have same (cursor : Cursor) (given : Rule α) :
      ((given.map change).thenSkip Rule.finish) cursor =
        ((given.thenSkip .finish) cursor).map change := by
    simp only [Rule.thenSkip, Rule.andThen, Rule.map, Outcome.map]
    cases (given cursor).result with
    | error fault => rfl
    | ok progress =>
        simp only [Except.map]
        cases (Rule.finish progress.next).result <;> rfl
  unfold readAll
  simp only [same, Outcome.map]
  cases ((rule (tokenize source)).thenSkip .finish
      (startOf source (tokenize source))).result <;>
    cases ((rule (tokenize source)).thenSkip .finish
      (startOf source (tokenize source))).emitted <;> rfl

end

end TreeQuery.Reading
