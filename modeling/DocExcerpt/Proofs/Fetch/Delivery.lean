import DocExcerpt.Proofs.Fetch.Cancellation
import DocExcerpt.Provider
import Mathlib

/-!
# What a caller is told, and when

A worker sets the slot free before its outcome is reported, so a caller never meets its own worker in
the slot (`Settled`, `settled_run`).  Every outcome that is there was reported after the end of a
worker (`mem_leaving_run`, `mem_ended_run`), and it stays there as long as the caller waits
(`lookup_run`): a caller is told of the end of its own fetch and of nothing else.

`Outcome.Tells` says what it is told.  A cancellation is no error to a caller, neither of the
coordinator nor of a provider.
-/

namespace DocExcerpt.Fetch

/-! ## What an outcome tells -/

/-- That an answer says of an outcome what it should: a page that is not empty is handed over as it
is, an error as well, unless it is a cancellation, and everything else is no page. -/
structure Outcome.Tells (outcome : Outcome) (answer : Except FetchError (Option Text)) : Prop where
  page : ∀ page, answer = .ok (some page) ↔ outcome = .done (.ok (some page)) ∧ page ≠ []
  nothing : answer = .ok none ↔ outcome = .lost ∨ outcome = .done (.ok none) ∨
    outcome = .done (.ok (some [])) ∨ outcome = .done (.error .cancelled)
  failure : ∀ error, answer = .error error ↔
    outcome = .done (.error error) ∧ error ≠ .cancelled

theorem Outcome.tells_answer (outcome : Outcome) : outcome.Tells outcome.answer := by
  cases outcome with
  | lost => constructor <;> simp [answer]
  | done result =>
    cases result with
    | error error => constructor <;> cases error <;> simp [answer]
    | ok page =>
      cases page with
      | none => constructor <;> simp [answer]
      | some text => constructor <;> cases text <;> simp [answer]

theorem Outcome.Tells.ne_cancelled {outcome : Outcome} {answer : Except FetchError (Option Text)}
    (tells : outcome.Tells answer) : answer ≠ .error .cancelled := by
  intro cancelled
  exact ((tells.failure .cancelled).mp cancelled).2 rfl

namespace Coordinator

variable {c : Coordinator} {token : TokenId} {outcome : Outcome}

/-! ## Outcomes on their way -/

theorem finish_of_running (outcome : Outcome) (runs : token ∈ c.running) :
    c.finish token outcome = { c with
      slot := .free
      running := c.running.erase token
      leaving := (token, outcome) :: c.leaving } := if_pos runs

theorem report_of_leaving (left : c.leaving.lookup token = some outcome) :
    c.report token = { c with
      leaving := c.leaving.filter (·.1 ≠ token)
      ended := if token ∈ c.waiting then (token, outcome) :: c.ended else c.ended } := by
  rw [report, left]

theorem report_of_not_leaving (nothing : c.leaving.lookup token = none) : c.report token = c := by
  rw [report, nothing]

theorem mem_of_lookup {outcomes : List (TokenId × Outcome)}
    (there : outcomes.lookup token = some outcome) : (token, outcome) ∈ outcomes := by
  obtain ⟨before, after, cut, -⟩ := List.lookup_eq_some_iff.mp there
  rw [cut]
  exact List.mem_append_right before List.mem_cons_self

theorem lookup_filter_ne {other : TokenId} (different : token ≠ other)
    (outcomes : List (TokenId × Outcome)) :
    (outcomes.filter (·.1 ≠ other)).lookup token = outcomes.lookup token := by
  induction outcomes with
  | nil => rfl
  | cons entry outcomes inductionHypothesis =>
    rw [List.filter_cons]
    split
    next => rw [List.lookup_cons, List.lookup_cons, inductionHypothesis]
    next dropped =>
      have passed : (token == entry.1) = false :=
        beq_eq_false_iff_ne.mpr fun same => dropped (decide_eq_true (same ▸ different))
      rw [List.lookup_cons, passed, inductionHypothesis]

/-- Fetches that callers wait for, and those whose worker has left the slot, have begun.  An outcome
that is there has been reported, of a worker that has left the slot, to a caller that waits. -/
structure Settled (c : Coordinator) : Prop where
  coherent : c.Coherent
  waiting_issued : ∀ token ∈ c.waiting, c.tokens.Issued token
  waiting_once : c.waiting.Nodup
  leaving_issued : ∀ entry ∈ c.leaving, c.tokens.Issued entry.1
  leaving_gone : ∀ entry ∈ c.leaving, entry.1 ∉ c.running
  ended_waits : ∀ entry ∈ c.ended, entry.1 ∈ c.waiting
  ended_gone : ∀ entry ∈ c.ended, entry.1 ∉ c.running
  ended_reported : ∀ entry ∈ c.ended, ∀ left ∈ c.leaving, left.1 ≠ entry.1

theorem settled_idle : idle.Settled where
  coherent := coherent_idle
  waiting_issued := nofun
  waiting_once := List.nodup_nil
  leaving_issued := nofun
  leaving_gone := nofun
  ended_waits := nofun
  ended_gone := nofun
  ended_reported := nofun

theorem Coherent.issued_of_running (coherent : c.Coherent) (runs : token ∈ c.running) :
    c.tokens.Issued token :=
  coherent.current_of_running runs ▸ coherent.current_issued

namespace Settled

theorem start (settled : c.Settled) : c.start.2.Settled := by
  have coherent := settled.coherent.start
  cases busy : c.slot.busy with
  | true =>
    rw [start_of_busy busy]
    exact settled
  | false =>
    rw [start_of_free busy] at coherent ⊢
    have stays : ∀ {token}, c.tokens.Issued token → c.tokens.fresh.2.Issued token := fun made =>
      (Tokens.issued_fresh_iff _ _).mpr (.inl made)
    have gone : ∀ {token}, c.tokens.Issued token → token ∉ c.running →
        token ∉ c.tokens.fresh.1 :: c.running := by
      rintro token made gone (_ | ⟨_, runs⟩)
      · exact Tokens.not_issued_fresh _ made
      · exact gone runs
    refine ⟨coherent, fun token waits => ?_, ?_,
      fun entry left => stays (settled.leaving_issued _ left),
      fun entry left => gone (settled.leaving_issued _ left) (settled.leaving_gone _ left),
      fun entry ended => List.mem_cons_of_mem _ (settled.ended_waits _ ended),
      fun entry ended => gone (settled.waiting_issued _ (settled.ended_waits _ ended))
        (settled.ended_gone _ ended), settled.ended_reported⟩
    · rcases List.mem_cons.mp waits with new | old
      · exact (Tokens.issued_fresh_iff _ _).mpr (.inr new)
      · exact stays (settled.waiting_issued token old)
    · exact List.nodup_cons.mpr ⟨fun waits =>
        Tokens.not_issued_fresh _ (settled.waiting_issued _ waits), settled.waiting_once⟩

theorem finish (settled : c.Settled) (token : TokenId) (outcome : Outcome) :
    (c.finish token outcome).Settled := by
  by_cases runs : token ∈ c.running
  · have coherent := settled.coherent.finish token outcome
    have only := (settled.coherent.busy_of_running runs).2
    rw [finish_of_running outcome runs] at coherent ⊢
    refine ⟨coherent, settled.waiting_issued, settled.waiting_once, ?_, by simp [only],
      settled.ended_waits, by simp [only], ?_⟩
    · rintro entry (_ | ⟨_, left⟩)
      · exact settled.coherent.issued_of_running runs
      · exact settled.leaving_issued entry left
    · rintro entry ended left (_ | ⟨_, old⟩)
      · exact fun same => settled.ended_gone entry ended (same ▸ runs)
      · exact settled.ended_reported entry ended left old
  · rw [finish_of_not_running outcome runs]
    exact settled

theorem report (settled : c.Settled) (token : TokenId) : (c.report token).Settled := by
  cases left : c.leaving.lookup token with
  | none =>
    rw [report_of_not_leaving left]
    exact settled
  | some outcome =>
    have gone := settled.leaving_gone _ (mem_of_lookup left)
    have kept : ∀ entry ∈ c.leaving.filter (·.1 ≠ token), entry ∈ c.leaving ∧ entry.1 ≠ token := by
      intro entry member
      exact ⟨(List.mem_filter.mp member).1, of_decide_eq_true (List.mem_filter.mp member).2⟩
    have reported : ∀ entry ∈ if token ∈ c.waiting then (token, outcome) :: c.ended else c.ended,
        (entry = (token, outcome) ∧ token ∈ c.waiting) ∨ entry ∈ c.ended := by
      intro entry ended
      split at ended
      next waits => exact (List.mem_cons.mp ended).imp (⟨·, waits⟩) id
      next => exact .inr ended
    rw [report_of_leaving left]
    refine ⟨⟨settled.coherent.holder, settled.coherent.current_issued⟩, settled.waiting_issued,
      settled.waiting_once, fun entry member => settled.leaving_issued _ (kept entry member).1,
      fun entry member => settled.leaving_gone _ (kept entry member).1, ?_, ?_, ?_⟩
    · intro entry ended
      obtain ⟨rfl, waits⟩ | old := reported entry ended
      · exact waits
      · exact settled.ended_waits entry old
    · intro entry ended
      obtain ⟨rfl, -⟩ | old := reported entry ended
      · exact gone
      · exact settled.ended_gone entry old
    · intro entry ended other member
      obtain ⟨rfl, -⟩ | old := reported entry ended
      · exact (kept other member).2
      · exact settled.ended_reported entry old other (kept other member).1

theorem abort (settled : c.Settled) (token : TokenId) :
    { c with tokens := c.tokens.abort token }.Settled where
  coherent := ⟨settled.coherent.holder,
    (Tokens.issued_abort_iff _ _ _).mpr settled.coherent.current_issued⟩
  waiting_issued other waits :=
    (Tokens.issued_abort_iff _ _ _).mpr (settled.waiting_issued other waits)
  waiting_once := settled.waiting_once
  leaving_issued entry left := (Tokens.issued_abort_iff _ _ _).mpr (settled.leaving_issued entry left)
  leaving_gone := settled.leaving_gone
  ended_waits := settled.ended_waits
  ended_gone := settled.ended_gone
  ended_reported := settled.ended_reported

theorem leave (settled : c.Settled) (token : TokenId) :
    { c with
      waiting := c.waiting.erase token
      ended := c.ended.filter (·.1 ≠ token) }.Settled where
  coherent := ⟨settled.coherent.holder, settled.coherent.current_issued⟩
  waiting_issued other waits := settled.waiting_issued other (List.mem_of_mem_erase waits)
  waiting_once := settled.waiting_once.erase token
  leaving_issued := settled.leaving_issued
  leaving_gone := settled.leaving_gone
  ended_waits entry ended := by
    obtain ⟨ended, other⟩ := List.mem_filter.mp ended
    exact (List.mem_erase_of_ne (of_decide_eq_true other)).mpr (settled.ended_waits entry ended)
  ended_gone entry ended := settled.ended_gone entry (List.mem_filter.mp ended).1
  ended_reported entry ended := settled.ended_reported entry (List.mem_filter.mp ended).1

theorem step (settled : c.Settled) (action : Action) : (c.step action).Settled := by
  cases action with
  | start => exact settled.start
  | finish token outcome => exact settled.finish token outcome
  | report token => exact settled.report token
  | deliver token =>
    simp only [Coordinator.step, deliver]
    split
    next => exact settled.leave token
    next => exact settled
  | cancel => exact settled.abort c.current
  | abandon token =>
    simp only [Coordinator.step, abandon]
    split
    next => exact (settled.abort token).leave token
    next => exact settled

end Settled

theorem Settled.run (settled : c.Settled) (history : List Action) : (c.run history).Settled := by
  induction history generalizing c with
  | nil => exact settled
  | cons action history inductionHypothesis => exact inductionHypothesis (settled.step action)

theorem settled_run (history : List Action) : (idle.run history).Settled :=
  settled_idle.run history

/-! ## Where outcomes come from -/

/-- What an action does to those who wait and to the outcomes. -/
inductive Moves (c c' : Coordinator) : Action → Prop
  | begins {action : Action} (waiting : c'.waiting = c.tokens.fresh.1 :: c.waiting)
      (leaving : c'.leaving = c.leaving) (ended : c'.ended = c.ended) : Moves c c' action
  | leaves {token : TokenId} {outcome : Outcome} (runs : token ∈ c.running)
      (waiting : c'.waiting = c.waiting) (leaving : c'.leaving = (token, outcome) :: c.leaving)
      (ended : c'.ended = c.ended) : Moves c c' (.finish token outcome)
  | reports {token : TokenId} {outcome : Outcome} (left : c.leaving.lookup token = some outcome)
      (waiting : c'.waiting = c.waiting) (leaving : c'.leaving = c.leaving.filter (·.1 ≠ token))
      (ended : c'.ended = if token ∈ c.waiting then (token, outcome) :: c.ended else c.ended) :
      Moves c c' (.report token)
  | departs {action : Action} (token : TokenId) (waiting : c'.waiting = c.waiting.erase token)
      (leaving : c'.leaving = c.leaving) (ended : c'.ended = c.ended.filter (·.1 ≠ token)) :
      Moves c c' action
  | nothing {action : Action} (waiting : c'.waiting = c.waiting) (leaving : c'.leaving = c.leaving)
      (ended : c'.ended = c.ended) : Moves c c' action

theorem moves_step (c : Coordinator) (action : Action) : Moves c (c.step action) action := by
  cases action with
  | start =>
    cases busy : c.slot.busy with
    | false =>
      rw [step, start_of_free busy]
      exact .begins rfl rfl rfl
    | true =>
      rw [step, start_of_busy busy]
      exact .nothing rfl rfl rfl
  | finish token outcome =>
    by_cases runs : token ∈ c.running
    · rw [step, finish_of_running outcome runs]
      exact .leaves runs rfl rfl rfl
    · rw [step, finish_of_not_running outcome runs]
      exact .nothing rfl rfl rfl
  | report token =>
    cases left : c.leaving.lookup token with
    | none =>
      rw [step, report_of_not_leaving left]
      exact .nothing rfl rfl rfl
    | some outcome =>
      rw [step, report_of_leaving left]
      exact .reports left rfl rfl rfl
  | deliver token =>
    rw [step, deliver]
    split
    next => exact .departs token rfl rfl rfl
    next => exact .nothing rfl rfl rfl
  | cancel => exact .nothing rfl rfl rfl
  | abandon token =>
    rw [step, abandon]
    split
    next => exact .departs token rfl rfl rfl
    next => exact .nothing rfl rfl rfl

theorem mem_leaving_step {action : Action} (left : (token, outcome) ∈ (c.step action).leaving) :
    (token, outcome) ∈ c.leaving ∨ (action = .finish token outcome ∧ token ∈ c.running) := by
  cases moves_step c action with
  | leaves runs _ leaving _ =>
    rw [leaving] at left
    rcases List.mem_cons.mp left with new | old
    · cases new
      exact .inr ⟨rfl, runs⟩
    · exact .inl old
  | reports _ _ leaving _ =>
    rw [leaving] at left
    exact .inl (List.mem_filter.mp left).1
  | begins _ leaving _ | departs _ _ leaving _ | nothing _ leaving _ => exact .inl (leaving ▸ left)

/-- What holds after a history held before, or an action of the history has brought it about. -/
theorem exists_action_of_run (holds : Coordinator → Prop) (brings : Coordinator → Action → Prop)
    (traced : ∀ c action, holds (step c action) → holds c ∨ brings c action) {history : List Action}
    (now : holds (c.run history)) :
    holds c ∨ ∃ before action after, history = before ++ action :: after ∧
      brings (c.run before) action := by
  induction history generalizing c with
  | nil => exact .inl now
  | cons first history inductionHypothesis =>
    rcases inductionHypothesis now with early | ⟨before, action, after, cut, brought⟩
    · rcases traced c first early with earlier | brought
      · exact .inl earlier
      · exact .inr ⟨[], first, history, rfl, brought⟩
    · exact .inr ⟨first :: before, action, after, by rw [cut]; rfl, brought⟩

theorem mem_leaving_run {history : List Action}
    (left : (token, outcome) ∈ (c.run history).leaving) :
    (token, outcome) ∈ c.leaving ∨
      ∃ before after, history = before ++ .finish token outcome :: after ∧
        token ∈ (c.run before).running := by
  have traced := exists_action_of_run (fun c => (token, outcome) ∈ c.leaving)
    (fun c action => action = .finish token outcome ∧ token ∈ c.running)
    (fun _ _ => mem_leaving_step) left
  refine traced.imp_right ?_
  rintro ⟨before, _, after, cut, rfl, runs⟩
  exact ⟨before, after, cut, runs⟩

theorem mem_ended_step {action : Action} (there : (token, outcome) ∈ (c.step action).ended) :
    (token, outcome) ∈ c.ended ∨ (action = .report token ∧ (token, outcome) ∈ c.leaving) := by
  cases moves_step c action with
  | reports left _ _ ended =>
    rw [ended] at there
    split at there
    next =>
      rcases List.mem_cons.mp there with new | old
      · cases new
        exact .inr ⟨rfl, mem_of_lookup left⟩
      · exact .inl old
    next => exact .inl there
  | departs _ _ _ ended =>
    rw [ended] at there
    exact .inl (List.mem_filter.mp there).1
  | begins _ _ ended | leaves _ _ _ ended | nothing _ _ ended => exact .inl (ended ▸ there)

theorem mem_ended_run {history : List Action} (there : (token, outcome) ∈ (c.run history).ended) :
    (token, outcome) ∈ c.ended ∨
      ∃ before after, history = before ++ .report token :: after ∧
        (token, outcome) ∈ (c.run before).leaving := by
  have traced := exists_action_of_run (fun c => (token, outcome) ∈ c.ended)
    (fun c action => action = .report token ∧ (token, outcome) ∈ c.leaving)
    (fun _ _ => mem_ended_step) there
  refine traced.imp_right ?_
  rintro ⟨before, _, after, cut, rfl, left⟩
  exact ⟨before, after, cut, left⟩

/-- Every outcome that has been reported is that of a worker that had left the slot before. -/
theorem exists_finish_of_ended {history : List Action}
    (ended : (token, outcome) ∈ (idle.run history).ended) :
    ∃ before after, history = before ++ .finish token outcome :: after ∧
      token ∈ (idle.run before).running ∧ .report token ∈ after := by
  obtain earlier | ⟨reported, later, cut, left⟩ := mem_ended_run ended
  · cases earlier
  · obtain earlier | ⟨before, after, cutLeft, runs⟩ := mem_leaving_run left
    · cases earlier
    · refine ⟨before, after ++ .report token :: later, ?_, runs, by simp⟩
      rw [cut, cutLeft, List.append_assoc, List.cons_append]

/-! ## Outcomes stay for those who wait -/

theorem mem_waiting_of_step (made : c.tokens.Issued token) {action : Action}
    (waits : token ∈ (c.step action).waiting) : token ∈ c.waiting := by
  cases moves_step c action with
  | begins waiting _ _ =>
    rw [waiting] at waits
    rcases List.mem_cons.mp waits with rfl | old
    · exact absurd made (Tokens.not_issued_fresh _)
    · exact old
  | departs _ waiting _ _ =>
    rw [waiting] at waits
    exact List.mem_of_mem_erase waits
  | leaves _ waiting _ _ | reports _ waiting _ _ | nothing waiting _ _ => exact waiting ▸ waits

theorem mem_waiting_of_run (made : c.tokens.Issued token) {history : List Action}
    (waits : token ∈ (c.run history).waiting) : token ∈ c.waiting := by
  induction history generalizing c with
  | nil => exact waits
  | cons action history inductionHypothesis =>
    exact mem_waiting_of_step made (inductionHypothesis (issued_step made action) waits)

theorem lookup_leaving_step (settled : c.Settled) (left : c.leaving.lookup token = some outcome)
    {action : Action} (unreported : action ≠ .report token) :
    (c.step action).leaving.lookup token = some outcome := by
  cases moves_step c action with
  | @leaves other _ runs _ leaving _ =>
    have different : token ≠ other := by
      rintro rfl
      exact settled.leaving_gone _ (mem_of_lookup left) runs
    rw [leaving, List.lookup_cons, beq_eq_false_iff_ne.mpr different]
    exact left
  | @reports other _ _ _ leaving _ =>
    have different : token ≠ other := by
      rintro rfl
      exact unreported rfl
    rw [leaving, lookup_filter_ne different, left]
  | begins _ leaving _ | departs _ _ leaving _ | nothing _ leaving _ => rw [leaving, left]

theorem lookup_leaving_run (settled : c.Settled) (left : c.leaving.lookup token = some outcome)
    {history : List Action} (unreported : .report token ∉ history) :
    (c.run history).leaving.lookup token = some outcome := by
  induction history generalizing c with
  | nil => exact left
  | cons action history inductionHypothesis =>
    obtain ⟨notNow, notLater⟩ := not_or.mp (mt List.mem_cons.mpr unreported)
    exact inductionHypothesis (settled.step action)
      (lookup_leaving_step settled left fun same => notNow same.symm) notLater

theorem lookup_step_report (left : c.leaving.lookup token = some outcome)
    (waits : token ∈ c.waiting) :
    (c.step (.report token)).ended.lookup token = some outcome := by
  rw [step, report_of_leaving left]
  simp only [if_pos waits, List.lookup_cons_self]

theorem lookup_step (settled : c.Settled) (there : c.ended.lookup token = some outcome)
    {action : Action} (waits : token ∈ (c.step action).waiting) :
    (c.step action).ended.lookup token = some outcome := by
  cases moves_step c action with
  | @reports other otherOutcome left _ _ ended =>
    have different : token ≠ other :=
      (settled.ended_reported _ (mem_of_lookup there) _ (mem_of_lookup left)).symm
    have passed : ((other, otherOutcome) :: c.ended).lookup token = some outcome := by
      rw [List.lookup_cons, beq_eq_false_iff_ne.mpr different]
      exact there
    rw [ended]
    split
    · exact passed
    · exact there
  | departs other waiting _ ended =>
    rw [waiting] at waits
    have different := (settled.waiting_once.mem_erase_iff.mp waits).1
    rw [ended, lookup_filter_ne different, there]
  | begins _ _ ended | leaves _ _ _ ended | nothing _ _ ended => rw [ended, there]

/-- An outcome stays where it is as long as the caller waits for it. -/
theorem lookup_run (settled : c.Settled) (there : c.ended.lookup token = some outcome)
    {history : List Action} (waits : token ∈ (c.run history).waiting) :
    (c.run history).ended.lookup token = some outcome := by
  induction history generalizing c with
  | nil => exact there
  | cons action history inductionHypothesis =>
    have made : c.tokens.Issued token :=
      settled.waiting_issued token (settled.ended_waits _ (mem_of_lookup there))
    have stillWaits := mem_waiting_of_run (issued_step made action) waits
    exact inductionHypothesis (settled.step action) (lookup_step settled there stillWaits) waits

/-! ## A slot that is free -/

theorem free_step (free : c.slot.busy = false) {action : Action}
    (noStart : c.begun action = none) : (c.step action).slot.busy = false := by
  cases action with
  | start =>
    rw [begun, start_of_free free] at noStart
    cases noStart
  | finish token outcome =>
    by_cases runs : token ∈ c.running
    · rw [step, finish_of_running outcome runs]
      rfl
    · rw [step, finish_of_not_running outcome runs]
      exact free
  | report token =>
    rw [step, report]
    split <;> exact free
  | deliver token => simpa [step] using free
  | cancel => exact free
  | abandon token => simpa [step] using free

theorem free_run (free : c.slot.busy = false) {history : List Action}
    (noStart : started c history = []) : (c.run history).slot.busy = false := by
  induction history generalizing c with
  | nil => exact free
  | cons action history inductionHypothesis =>
    obtain ⟨notNow, notLater⟩ := List.append_eq_nil_iff.mp noStart
    exact inductionHypothesis (free_step free (Option.toList_eq_nil_iff.mp notNow)) notLater

/-! ## What callers are told -/

theorem deliver_eq_some_iff {answer : Except FetchError (Option Text)} :
    (c.deliver token).1 = some answer ↔
      ∃ outcome, c.ended.lookup token = some outcome ∧ outcome.answer = answer := by
  unfold deliver
  cases c.ended.lookup token <;> simp

theorem step_finish (runs : token ∈ c.running) (outcome : Outcome) :
    (c.step (.finish token outcome)).slot.busy = false ∧
      (c.step (.finish token outcome)).leaving.lookup token = some outcome := by
  rw [step, finish_of_running outcome runs]
  exact ⟨rfl, List.lookup_cons_self⟩

/-- A fetch that nothing comes between is told its own outcome, and leaves the slot free. -/
theorem fetch_of_free (free : c.slot.busy = false) (work : Bool → Except FetchError (Option Text)) :
    (c.fetch work).1 = (Outcome.done (work false)).answer ∧ (c.fetch work).2.slot.busy = false := by
  simp only [fetch, start_of_free free, Tokens.isAborted_fresh_self, finish, report, deliver,
    List.mem_cons_self, if_true, List.lookup_cons_self]
  exact ⟨trivial, rfl⟩

theorem fetch_ne_cancelled (c : Coordinator) (work : Bool → Except FetchError (Option Text)) :
    (c.fetch work).1 ≠ .error .cancelled := by
  cases busy : c.slot.busy with
  | false =>
    rw [(fetch_of_free busy work).1]
    exact (Outcome.tells_answer _).ne_cancelled
  | true =>
    rw [fetch, start_of_busy busy]
    nofun

theorem external_ne_cancelled (provider : Provider) (c : Coordinator) (address : Text) :
    (provider.external c address).1 ≠ .error .cancelled := by
  let work cancelled := provider.sources.fetchExcerpt cancelled address
  have mapped : (provider.external c address).1 =
      (c.fetch work).1.map (·.map (provider.present address)) := rfl
  rw [mapped]
  cases told : (c.fetch work).1 with
  | error error =>
    rintro ⟨⟩
    exact fetch_ne_cancelled c work told
  | ok page => nofun

/-- What becomes of the end of a worker whose caller still waits: it is there for the caller once it
has been reported, and not before. -/
theorem deliver_after_finish (settled : c.Settled) (runs : token ∈ c.running) (outcome : Outcome)
    {after : List Action} (waits : token ∈ ((c.step (.finish token outcome)).run after).waiting) :
    (.report token ∈ after →
      (((c.step (.finish token outcome)).run after).deliver token).1 = some outcome.answer) ∧
    (.report token ∉ after →
      (((c.step (.finish token outcome)).run after).deliver token).1 = none) := by
  have settledAfter := settled.step (.finish token outcome)
  have made : c.tokens.Issued token := settled.coherent.issued_of_running runs
  constructor
  · intro reported
    obtain ⟨unreported, rest, cut, notYet⟩ := List.eq_append_cons_of_mem reported
    rw [cut, run_append] at waits ⊢
    have left := lookup_leaving_run settledAfter (step_finish runs outcome).2 notYet
    have madeLater := issued_run (issued_step made (.finish token outcome)) unreported
    have waited := mem_waiting_of_run madeLater waits
    have there := lookup_step_report left waited
    have stays := lookup_run ((settledAfter.run unreported).step (.report token)) there waits
    exact deliver_eq_some_iff.mpr ⟨outcome, stays, rfl⟩
  · intro unreported
    rw [Option.eq_none_iff_forall_ne_some]
    intro answer handed
    obtain ⟨other, there, -⟩ := deliver_eq_some_iff.mp handed
    obtain earlier | ⟨before, rest, cut, -⟩ := mem_ended_run (mem_of_lookup there)
    · rw [step, finish_of_running outcome runs] at earlier
      exact settled.ended_gone _ earlier runs
    · exact unreported (cut ▸ List.mem_append_right before List.mem_cons_self)

/-- After every history: an outcome that is handed over is that of the end of the worker of this
very fetch. That worker had set the slot free before the outcome was reported, so the slot is free
unless another fetch has begun since; and the end of a worker comes to its caller, if that still
waits, once it has been reported and not before. What is told of an outcome is what `Outcome.Tells`
says, also for a fetch that nothing comes between. Neither the coordinator nor a provider ever
answers that a fetch was cancelled. -/
theorem deliver_own_outcome (history : List Action) :
    let c := idle.run history
    (∀ token answer, (c.deliver token).1 = some answer →
      token ∉ c.running ∧
      ∃ before outcome after, history = before ++ .finish token outcome :: after ∧
        token ∈ (idle.run before).running ∧ .report token ∈ after ∧ outcome.Tells answer ∧
        (idle.run (before ++ [.finish token outcome])).isFree = true ∧
        (c.isFree = true ∨ started (idle.run (before ++ [.finish token outcome])) after ≠ [])) ∧
    (∀ before token outcome after, history = before ++ .finish token outcome :: after →
      token ∈ (idle.run before).running → token ∈ c.waiting →
      ∃ answer, outcome.Tells answer ∧
        (.report token ∈ after → (c.deliver token).1 = some answer) ∧
        (.report token ∉ after → (c.deliver token).1 = none)) ∧
    (∀ work, c.isFree = true →
      (Outcome.done (work false)).Tells (c.fetch work).1 ∧ (c.fetch work).2.isFree = true) ∧
    (∀ work, (c.fetch work).1 ≠ .error .cancelled) ∧
    (∀ (provider : Provider) (address : Text),
      (provider.external c address).1 ≠ .error .cancelled) := by
  intro c
  have settled : c.Settled := settled_run history
  refine ⟨?_, ?_, ?_, fetch_ne_cancelled c, fun provider => external_ne_cancelled provider c⟩
  · intro token answer handed
    obtain ⟨outcome, there, rfl⟩ := deliver_eq_some_iff.mp handed
    have ended := mem_of_lookup there
    obtain ⟨before, after, cut, runs, reported⟩ := exists_finish_of_ended ended
    have released : (idle.run (before ++ [.finish token outcome])).slot.busy = false := by
      rw [run_append]
      exact (step_finish runs outcome).1
    refine ⟨settled.ended_gone _ ended, before, outcome, after, cut, runs, reported,
      outcome.tells_answer, by rw [isFree, Slot.isFree, released]; rfl, ?_⟩
    by_cases others : started (idle.run (before ++ [.finish token outcome])) after = []
    · have free : c.slot.busy = false := by
        have stays := free_run released others
        rwa [← run_append, List.append_assoc, List.singleton_append, ← cut] at stays
      exact .inl (by rw [isFree, Slot.isFree, free]; rfl)
    · exact .inr others
  · intro before token outcome after cut runs waits
    have resumed : c = ((idle.run before).step (.finish token outcome)).run after := by
      show idle.run history = _
      rw [cut, run_append]
      rfl
    rw [resumed] at waits ⊢
    exact ⟨outcome.answer, outcome.tells_answer,
      deliver_after_finish (settled_run before) runs outcome waits⟩
  · intro work isFree
    have free : c.slot.busy = false := by simpa [Coordinator.isFree, Slot.isFree] using isFree
    obtain ⟨told, stillFree⟩ := fetch_of_free free work
    refine ⟨?_, by simp [Coordinator.isFree, Slot.isFree, stillFree]⟩
    rw [told]
    exact Outcome.tells_answer _

/-- A fetch that is cancelled, and then another one that begins, fails and is reported before the
first caller is served. -/
theorem deliver_own_outcome_of_cancelled :
    let history := [.start, .cancel, .finish 1 (.done (.error .cancelled)), .report 1, .start,
      .finish 2 (.done (.error (.read .notFound))), .report 2]
    let c := idle.run history
    (c.deliver 1).1 = some (.ok none) ∧ 1 ∉ c.running ∧
      ((c.deliver 2).1 = some (.error (.read .notFound)) ∧ c.isFree = true) := by
  intro history c
  obtain ⟨handed, ends, -⟩ := deliver_own_outcome history
  have first : (c.deliver 1).1 = some (.ok none) := rfl
  refine ⟨first, (handed 1 _ first).1, ?_, rfl⟩
  obtain ⟨answer, tells, told, -⟩ := ends
    [.start, .cancel, .finish 1 (.done (.error .cancelled)), .report 1, .start] 2
    (.done (.error (.read .notFound))) [.report 2] rfl (by decide) (by decide)
  rw [told (by simp), (tells.failure (.read .notFound)).mpr ⟨rfl, nofun⟩]

end Coordinator

end DocExcerpt.Fetch
