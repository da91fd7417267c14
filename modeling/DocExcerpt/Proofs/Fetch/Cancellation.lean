import DocExcerpt.Proofs.Fetch.Exclusion

/-!
# A cancellation reaches the fetch it is meant for

`Sets` names the two ways in which an action can set the token of a fetch.  One step sets a token
that exists already exactly when its action is one of these (`isAborted_step_iff`), so after a
history the token is set exactly when one of its actions was (`isAborted_run_iff`).  What remains is
when a token is the published one: from the start of its fetch to the next start that succeeds
(`current_run_eq_iff`).
-/

namespace DocExcerpt.Fetch.Coordinator

variable {c : Coordinator} {token : TokenId}

theorem run_append (before after : List Action) :
    c.run (before ++ after) = (c.run before).run after := List.foldl_append

/-! ## What sets a token -/

/-- The actions that set the token of a fetch: a cancellation while the token is published, and the
departure of the caller that waits for this very fetch. -/
def Sets (c : Coordinator) (token : TokenId) : Action → Prop
  | .cancel => c.current = token
  | .abandon other => other = token ∧ token ∈ c.waiting
  | _ => False

theorem issued_step (made : c.tokens.Issued token) (action : Action) :
    (c.step action).tokens.Issued token := by
  cases action with
  | start =>
    cases busy : c.slot.busy with
    | false =>
      rw [step, start_of_free busy]
      exact (Tokens.issued_fresh_iff _ _).2 (.inl made)
    | true =>
      rw [step, start_of_busy busy]
      exact made
  | finish other outcome => simpa [step] using made
  | report other | deliver other => simpa [step] using made
  | cancel => exact (Tokens.issued_abort_iff _ _ _).2 made
  | abandon other =>
    rw [step, abandon]
    split
    · exact (Tokens.issued_abort_iff _ _ _).2 made
    · exact made

theorem issued_run (made : c.tokens.Issued token) (history : List Action) :
    (c.run history).tokens.Issued token := by
  induction history generalizing c with
  | nil => exact made
  | cons action history inductionHypothesis => exact inductionHypothesis (issued_step made action)

theorem isAborted_abandon_iff (made : c.tokens.Issued token) (other : TokenId) :
    (c.abandon other).tokens.isAborted token = true ↔
      c.tokens.isAborted token = true ∨ (other = token ∧ token ∈ c.waiting) := by
  unfold abandon
  split
  next waits =>
    rw [Tokens.isAborted_abort_iff other made]
    constructor
    · rintro (set | same)
      · exact .inl set
      · exact .inr ⟨same, same ▸ waits⟩
    · rintro (set | ⟨same, _⟩)
      · exact .inl set
      · exact .inr same
  next gone =>
    have never : ¬ (other = token ∧ token ∈ c.waiting) := fun ⟨same, waits⟩ => gone (same ▸ waits)
    simp [never]

theorem isAborted_step_iff (made : c.tokens.Issued token) (action : Action) :
    (c.step action).tokens.isAborted token = true ↔
      c.tokens.isAborted token = true ∨ c.Sets token action := by
  cases action with
  | start =>
    cases busy : c.slot.busy with
    | false => simp [step, start_of_free busy, Sets]
    | true => simp [step, start_of_busy busy, Sets]
  | finish other outcome => simp [step, Sets]
  | report other | deliver other => simp [step, Sets]
  | cancel => exact Tokens.isAborted_abort_iff c.current made
  | abandon other => exact isAborted_abandon_iff made other

/-- A token that exists is set after a history exactly when it was set before, or some action of
the history set it. -/
theorem isAborted_run_iff (made : c.tokens.Issued token) (history : List Action) :
    (c.run history).tokens.isAborted token = true ↔
      c.tokens.isAborted token = true ∨
      ∃ before action after, history = before ++ action :: after ∧
        (c.run before).Sets token action := by
  induction history generalizing c with
  | nil => simp [run]
  | cons first history inductionHypothesis =>
    have tail := inductionHypothesis (issued_step made first)
    change ((c.step first).run history).tokens.isAborted token = true ↔ _
    rw [tail, isAborted_step_iff made]
    constructor
    · rintro ((set | sets) | ⟨before, action, after, cut, sets⟩)
      · exact .inl set
      · exact .inr ⟨[], first, history, rfl, sets⟩
      · exact .inr ⟨first :: before, action, after, by rw [cut]; rfl, sets⟩
    · rintro (set | ⟨before, action, after, cut, sets⟩)
      · exact .inl (.inl set)
      · cases before with
        | nil =>
          obtain ⟨rfl, rfl⟩ := List.cons.inj cut
          exact .inl (.inr sets)
        | cons head before =>
          obtain ⟨rfl, tailCut⟩ := List.cons.inj cut
          exact .inr ⟨before, action, after, tailCut, sets⟩

/-! ## When a token is published -/

/-- The fetch that an action starts, if it is a start and succeeds. -/
def begun (c : Coordinator) : Action → Option TokenId
  | .start => c.start.1
  | _ => none

def started (c : Coordinator) : List Action → List TokenId
  | [] => []
  | action :: history => (c.begun action).toList ++ started (c.step action) history

theorem current_step_of_begun_eq_none {action : Action} (noStart : c.begun action = none) :
    (c.step action).current = c.current := by
  cases action with
  | start =>
    cases busy : c.slot.busy with
    | false =>
      rw [begun, start_of_free busy] at noStart
      cases noStart
    | true => rw [step, start_of_busy busy]
  | finish other outcome => simp [step]
  | report other | deliver other => simp [step]
  | cancel => rfl
  | abandon other => simp [step]

theorem start_eq_some (starts : c.start.1 = some token) :
    token = c.tokens.fresh.1 ∧ c.start.2.current = token ∧
      c.start.2.tokens = c.tokens.fresh.2 := by
  cases busy : c.slot.busy with
  | false =>
    rw [start_of_free busy] at starts ⊢
    cases starts
    exact ⟨rfl, rfl, rfl⟩
  | true =>
    rw [start_of_busy busy] at starts
    cases starts

/-- A fetch begins with a token that exists and is not set. -/
theorem unset_of_start (starts : c.start.1 = some token) :
    c.start.2.tokens.Issued token ∧ c.start.2.tokens.isAborted token = false := by
  obtain ⟨fresh, _, store⟩ := start_eq_some starts
  rw [store, fresh]
  constructor
  · exact (Tokens.issued_fresh_iff _ _).2 (.inr rfl)
  · exact c.tokens.isAborted_fresh_self

theorem begun_eq_some {action : Action} (starts : c.begun action = some token) :
    action = .start ∧ c.start.1 = some token := by
  cases action with
  | start => exact ⟨rfl, starts⟩
  | finish _ _ | report _ | deliver _ | cancel | abandon _ => cases starts

theorem not_issued_of_mem_started {history : List Action} (begins : token ∈ started c history) :
    ¬ c.tokens.Issued token := by
  induction history generalizing c with
  | nil => cases begins
  | cons action history inductionHypothesis =>
    intro made
    rcases List.mem_append.1 begins with now | later
    · obtain ⟨rfl, starts⟩ := begun_eq_some (Option.mem_toList.1 now)
      rw [(start_eq_some starts).1] at made
      exact Tokens.not_issued_fresh _ made
    · exact inductionHypothesis later (issued_step made action)

theorem current_run_of_started_eq_nil {history : List Action} (noStart : started c history = []) :
    (c.run history).current = c.current := by
  induction history generalizing c with
  | nil => rfl
  | cons action history inductionHypothesis =>
    obtain ⟨notNow, notLater⟩ := List.append_eq_nil_iff.1 noStart
    rw [← current_step_of_begun_eq_none (Option.toList_eq_nil_iff.1 notNow)]
    exact inductionHypothesis notLater

theorem current_run_mem_started {history : List Action} (starts : started c history ≠ []) :
    (c.run history).current ∈ started c history := by
  induction history generalizing c with
  | nil => exact absurd rfl starts
  | cons action history inductionHypothesis =>
    change ((c.step action).run history).current ∈ _
    by_cases later : started (c.step action) history = []
    · cases now : c.begun action with
      | none =>
        rw [started, now, later] at starts
        exact absurd rfl starts
      | some token =>
        obtain ⟨rfl, begins⟩ := begun_eq_some now
        rw [current_run_of_started_eq_nil later, started, now]
        exact List.mem_append_left _ (List.mem_singleton.2 (start_eq_some begins).2.1)
    · exact List.mem_append_right _ (inductionHypothesis later)

/-- The token of a fetch that has just begun stays published until the next start that succeeds. -/
theorem current_run_eq_iff (made : c.tokens.Issued token) (published : c.current = token)
    (history : List Action) : (c.run history).current = token ↔ started c history = [] := by
  constructor
  · intro still
    by_cases others : started c history = []
    · exact others
    · have member := current_run_mem_started others
      rw [still] at member
      exact absurd made (not_issued_of_mem_started member)
  · intro noOther
    rw [current_run_of_started_eq_nil noOther, published]

/-! ## The theorem -/

/-- A cancellation while a worker holds the slot sets the token of its fetch, for good.  And the
token of a fetch is set exactly if, since the fetch began, there was a cancellation before the next
fetch began, or the caller that waited for this very fetch went away.  So nothing that happened
before it began, no start that was declined, and no caller of another fetch has a say. -/
theorem isAborted_iff_own_cancellation :
    (∀ before token after, token ∈ (idle.run before).running →
      (idle.run (before ++ .cancel :: after)).tokens.isAborted token = true) ∧
    (∀ before token after, (idle.run before).start.1 = some token →
      ((idle.run (before ++ .start :: after)).tokens.isAborted token = true ↔
        (∃ early late, after = early ++ .cancel :: late ∧
          started (idle.run (before ++ [.start])) early = []) ∨
        (∃ early late, after = early ++ .abandon token :: late ∧
          token ∈ (idle.run (before ++ .start :: early)).waiting))) := by
  constructor
  · intro before token after runs
    have coherent := coherent_run before
    have published := coherent.current_of_running runs
    have made : (idle.run before).tokens.Issued token := published ▸ coherent.current_issued
    rw [run_append, isAborted_run_iff made]
    exact .inr ⟨[], .cancel, after, rfl, published⟩
  · intro before token after starts
    obtain ⟨_, published, _⟩ := start_eq_some starts
    obtain ⟨made, unset⟩ := unset_of_start starts
    have begins : ∀ history, idle.run (before ++ .start :: history) =
        (idle.run before).start.2.run history := fun history => run_append before _
    simp only [begins, isAborted_run_iff made, unset, Bool.false_eq_true, false_or]
    constructor
    · rintro ⟨early, action, late, cut, sets⟩
      cases action with
      | cancel => exact .inl ⟨early, late, cut, (current_run_eq_iff made published early).1 sets⟩
      | abandon other =>
        obtain ⟨rfl, waits⟩ := sets
        exact .inr ⟨early, late, cut, waits⟩
      | start | finish _ _ | report _ | deliver _ => cases sets
    · rintro (⟨early, late, cut, noOther⟩ | ⟨early, late, cut, waits⟩)
      · exact ⟨early, .cancel, late, cut, (current_run_eq_iff made published early).2 noOther⟩
      · exact ⟨early, .abandon token, late, cut, rfl, waits⟩

/-- The second fetch of a history that cancels nothing in time, drops the first caller late and
declines a third fetch goes on; a cancellation then reaches it. -/
theorem isAborted_second_fetch :
    let before := [.start, .finish 1 .lost, .cancel]
    (idle.run before).start.1 = some 2 ∧
    (idle.run (before ++ .start :: [.abandon 1, .start])).tokens.isAborted 2 ≠ true ∧
    (idle.run (before ++ .start :: [.abandon 1, .start, .cancel])).tokens.isAborted 2 = true := by
  intro before
  have begins : (idle.run before).start.1 = some 2 := rfl
  refine ⟨begins, ?_, ?_⟩
  · rw [ne_eq, isAborted_iff_own_cancellation.2 before 2 _ begins]
    rintro (⟨early, late, cut, _⟩ | ⟨early, late, cut, _⟩)
    · have member : Action.cancel ∈ [.abandon 1, .start] := by simp [cut]
      simp at member
    · have member : Action.abandon 2 ∈ [.abandon 1, .start] := by simp [cut]
      simp at member
  · exact (isAborted_iff_own_cancellation.2 before 2 _ begins).2
      (.inl ⟨[.abandon 1, .start], [], rfl, rfl⟩)

end DocExcerpt.Fetch.Coordinator
