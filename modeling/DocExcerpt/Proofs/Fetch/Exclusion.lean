import DocExcerpt.Fetch.Coordinator

/-!
# Fetches exclude one another

A worker that runs is a guard of the slot: it came to be when its fetch took the slot, and it sets
the slot free when it ends.  `Coherent` says what the slot, the guards and the published token have
to do with each other.  Every action keeps it, so it holds after every history, whoever starts,
ends, cancels or goes away in between (`coherent_run`).

`at_most_one_guard` is what callers may rely on: one guard at a time, a slot that is taken exactly
while a guard is alive, and a fetch that keeps the slot until its own worker ends.
-/

namespace DocExcerpt.Fetch

theorem Slot.race_succ (takers : Nat) (slot : Slot) :
    race (takers + 1) slot = (if slot.isFree then 1 else 0, ⟨true⟩) := by
  induction takers generalizing slot with
  | zero => cases free : slot.isFree <;> simp [race, take, free]
  | succ takers inductionHypothesis =>
    rw [race]
    simp only [take, inductionHypothesis]
    simp [isFree]

namespace Coordinator

variable {c : Coordinator} {token : TokenId}

/-! ## What each action leaves alone -/

theorem start_of_busy (busy : c.slot.busy = true) : c.start = (none, c) := by
  obtain ⟨⟨flag⟩, _, _, _, _, _, _⟩ := c
  cases busy
  rfl

theorem start_of_free (free : c.slot.busy = false) :
    c.start = (some c.tokens.fresh.1, { c with
      slot := ⟨true⟩
      tokens := c.tokens.fresh.2
      current := c.tokens.fresh.1
      running := c.tokens.fresh.1 :: c.running
      waiting := c.tokens.fresh.1 :: c.waiting }) := by
  obtain ⟨⟨flag⟩, _, _, _, _, _, _⟩ := c
  cases free
  rfl

theorem finish_of_not_running (outcome : Outcome) (ended : token ∉ c.running) :
    c.finish token outcome = c := if_neg ended

@[simp] theorem finish_tokens (outcome : Outcome) :
    (c.finish token outcome).tokens = c.tokens := by
  unfold finish
  split <;> rfl

@[simp] theorem finish_current (outcome : Outcome) :
    (c.finish token outcome).current = c.current := by
  unfold finish
  split <;> rfl

@[simp] theorem report_slot : (c.report token).slot = c.slot := by
  unfold report
  split <;> rfl

@[simp] theorem report_running : (c.report token).running = c.running := by
  unfold report
  split <;> rfl

@[simp] theorem report_tokens : (c.report token).tokens = c.tokens := by
  unfold report
  split <;> rfl

@[simp] theorem report_current : (c.report token).current = c.current := by
  unfold report
  split <;> rfl

@[simp] theorem deliver_slot : (c.deliver token).2.slot = c.slot := by
  unfold deliver
  split <;> rfl

@[simp] theorem deliver_running : (c.deliver token).2.running = c.running := by
  unfold deliver
  split <;> rfl

@[simp] theorem deliver_tokens : (c.deliver token).2.tokens = c.tokens := by
  unfold deliver
  split <;> rfl

@[simp] theorem deliver_current : (c.deliver token).2.current = c.current := by
  unfold deliver
  split <;> rfl

@[simp] theorem abandon_slot : (c.abandon token).slot = c.slot := by
  unfold abandon
  split <;> rfl

@[simp] theorem abandon_running : (c.abandon token).running = c.running := by
  unfold abandon
  split <;> rfl

@[simp] theorem abandon_current : (c.abandon token).current = c.current := by
  unfold abandon
  split <;> rfl

/-! ## The invariant -/

/-- The slot, the guards and the published token agree: the slot is free and no guard is alive, or
it is taken and the one guard belongs to the fetch whose token is published. -/
structure Coherent (c : Coordinator) : Prop where
  holder : (c.slot.busy = false ∧ c.running = []) ∨ (c.slot.busy = true ∧ c.running = [c.current])
  current_issued : c.tokens.Issued c.current

theorem coherent_idle : idle.Coherent where
  holder := .inl ⟨rfl, rfl⟩
  current_issued := (Tokens.issued_fresh_iff _ _).2 (.inr rfl)

namespace Coherent

theorem busy_of_running (coherent : c.Coherent) (runs : token ∈ c.running) :
    c.slot.busy = true ∧ c.running = [token] := by
  rcases coherent.holder with ⟨_, none⟩ | ⟨busy, one⟩
  · rw [none] at runs
    cases runs
  · rw [one, List.mem_singleton] at runs
    exact ⟨busy, by rw [one, runs]⟩

theorem current_of_running (coherent : c.Coherent) (runs : token ∈ c.running) :
    c.current = token := by
  rcases coherent.holder with ⟨_, none⟩ | ⟨_, one⟩
  · rw [none] at runs
    cases runs
  · rw [one, List.mem_singleton] at runs
    exact runs.symm

theorem start (coherent : c.Coherent) : c.start.2.Coherent := by
  rcases coherent.holder with ⟨free, none⟩ | ⟨busy, _⟩
  · rw [start_of_free free]
    exact ⟨.inr ⟨rfl, by rw [none]⟩, (Tokens.issued_fresh_iff _ _).2 (.inr rfl)⟩
  · rw [start_of_busy busy]
    exact coherent

theorem finish (coherent : c.Coherent) (token : TokenId) (outcome : Outcome) :
    (c.finish token outcome).Coherent := by
  refine ⟨?_, by simpa using coherent.current_issued⟩
  by_cases runs : token ∈ c.running
  · have only := (coherent.busy_of_running runs).2
    left
    simp [Coordinator.finish, only, Slot.release, Slot.free]
  · rw [finish_of_not_running outcome runs]
    exact coherent.holder

theorem step (coherent : c.Coherent) (action : Action) : (c.step action).Coherent := by
  cases action with
  | start => exact coherent.start
  | finish token outcome => exact coherent.finish token outcome
  | report token | deliver token =>
    exact ⟨by simpa [Coordinator.step] using coherent.holder,
      by simpa [Coordinator.step] using coherent.current_issued⟩
  | cancel => exact ⟨coherent.holder, (Tokens.issued_abort_iff _ _ _).2 coherent.current_issued⟩
  | abandon token =>
    refine ⟨by simpa [Coordinator.step] using coherent.holder, ?_⟩
    simp only [Coordinator.step, abandon_current]
    unfold abandon
    split
    · exact (Tokens.issued_abort_iff _ _ _).2 coherent.current_issued
    · exact coherent.current_issued

theorem run (coherent : c.Coherent) (history : List Action) : (c.run history).Coherent := by
  induction history generalizing c with
  | nil => exact coherent
  | cons action history inductionHypothesis => exact inductionHypothesis (coherent.step action)

end Coherent

theorem coherent_run (history : List Action) : (idle.run history).Coherent :=
  coherent_idle.run history

/-! ## How long a guard lives -/

theorem running_step (coherent : c.Coherent) (runs : token ∈ c.running) (action : Action)
    (goesOn : ∀ outcome, action ≠ .finish token outcome) : token ∈ (c.step action).running := by
  cases action with
  | start =>
    simp only [step, start_of_busy (coherent.busy_of_running runs).1]
    exact runs
  | finish other outcome =>
    have different : other ≠ token := fun same => goesOn outcome (by rw [same])
    have notRunning : other ∉ c.running := by
      rw [(coherent.busy_of_running runs).2, List.mem_singleton]
      exact different
    rw [step, finish_of_not_running outcome notRunning]
    exact runs
  | report other | deliver other => simpa [step] using runs
  | cancel => exact runs
  | abandon other => simpa [step] using runs

theorem running_run (coherent : c.Coherent) (runs : token ∈ c.running) (history : List Action)
    (goesOn : ∀ outcome, .finish token outcome ∉ history) : token ∈ (c.run history).running := by
  induction history generalizing c with
  | nil => exact runs
  | cons action history inductionHypothesis =>
    have now : ∀ outcome, action ≠ .finish token outcome := by
      intro outcome same
      exact goesOn outcome (by rw [same]; exact List.mem_cons_self)
    have later : ∀ outcome, .finish token outcome ∉ history := by
      intro outcome member
      exact goesOn outcome (List.mem_cons_of_mem action member)
    exact inductionHypothesis (coherent.step action) (running_step coherent runs action now) later

/-! ## Mutual exclusion -/

/-- After every history: at most one guard is alive, and the slot is taken exactly while one is; a
start succeeds exactly when none is, and a start that is declined changes nothing at all.  As long
as a worker has not ended, in whatever way and whether or not its caller still waits, it holds the
slot. -/
theorem at_most_one_guard (history : List Action) :
    let c := idle.run history
    c.running.length ≤ 1 ∧
    (c.slot.busy = true ↔ ∃ token, c.running = [token]) ∧
    (c.start.1.isSome = true ↔ c.running = []) ∧
    (c.start.1 = none → c.start.2 = c) ∧
    (∀ token ∈ c.running, ∀ later, (∀ outcome, .finish token outcome ∉ later) →
      token ∈ (c.run later).running ∧ (c.run later).slot.busy = true) := by
  intro c
  have coherent : c.Coherent := coherent_run history
  have lives : ∀ token ∈ c.running, ∀ later, (∀ outcome, .finish token outcome ∉ later) →
      token ∈ (c.run later).running ∧ (c.run later).slot.busy = true := by
    intro token runs later goesOn
    have still := running_run coherent runs later goesOn
    exact ⟨still, ((coherent.run later).busy_of_running still).1⟩
  rcases coherent.holder with ⟨free, none⟩ | ⟨busy, one⟩
  · refine ⟨by simp [none], by simp [none, free], by simp [start_of_free free, none], ?_, lives⟩
    intro declined
    rw [start_of_free free] at declined
    cases declined
  · refine ⟨by simp [one], by simp [one, busy], by simp [start_of_busy busy, one], ?_, lives⟩
    intro _
    rw [start_of_busy busy]

/-- A caller that goes away does not give its slot away: the next start is declined until the worker
ends. -/
theorem at_most_one_guard_of_departed_caller :
    let c := idle.run [.start, .abandon 1]
    1 ∈ c.running ∧ c.start.2 = c ∧ 1 ∈ (c.run [.cancel, .start, .deliver 1]).running := by
  intro c
  obtain ⟨_, _, _, declined, lives⟩ := at_most_one_guard [.start, .abandon 1]
  have runs : 1 ∈ c.running := by decide
  exact ⟨runs, declined rfl, (lives 1 runs _ (by simp)).1⟩

end Coordinator

end DocExcerpt.Fetch
