import DocExcerpt.Proofs.Fetch.Delivery
import DocExcerpt.Session

/-!
# A session remembers nothing but the slot

Whatever has happened in a session, a request is answered as by a new one, as long as it does not
need a slot that is taken (`no_memory_beyond_slot`).  A fetch that takes the slot has a token that
is new and not set, so that its worker does what the first worker would do, and it is told of its
own worker (`Works.deliver_eq`).  The token of a detection is nobody else's: it is not published,
and nobody waits for it as for a fetch (`Apart`), so that no cancellation reaches a detection, nor a
detection that is given up a fetch.
-/

namespace DocExcerpt

open Fetch

/-! ## Steps of the coordinator -/

namespace Fetch.Coordinator

variable {c : Coordinator} {token : TokenId}

theorem current_of_step (made : c.tokens.Issued token) {action : Action}
    (published : (c.step action).current = token) : c.current = token := by
  cases starts : c.begun action with
  | none => rwa [current_step_of_begun_eq_none starts] at published
  | some other =>
    obtain ⟨rfl, starts⟩ := begun_eq_some starts
    obtain ⟨isNew, current, -⟩ := start_eq_some starts
    have same : other = token := current.symm.trans published
    rw [← same, isNew] at made
    exact absurd made (Tokens.not_issued_fresh _)

theorem exists_run_fetch (c : Coordinator) (work : Bool → Except FetchError (Option Text)) :
    ∃ actions, (c.fetch work).2 = c.run actions := by
  cases busy : c.slot.busy with
  | true =>
    rw [fetch, start_of_busy busy]
    exact ⟨[], rfl⟩
  | false =>
    refine ⟨[.start, .finish c.tokens.fresh.1 (.done (work false)), .report c.tokens.fresh.1,
      .deliver c.tokens.fresh.1], ?_⟩
    simp only [fetch, run, List.foldl_cons, List.foldl_nil, step, start_of_free busy,
      Tokens.isAborted_fresh_self]
    split <;> simp_all only

theorem Settled.fresh (settled : c.Settled) : { c with tokens := c.tokens.fresh.2 }.Settled where
  coherent := ⟨settled.coherent.holder,
    (Tokens.issued_fresh_iff _ _).mpr (.inl settled.coherent.current_issued)⟩
  waiting_issued token waits :=
    (Tokens.issued_fresh_iff _ _).mpr (.inl (settled.waiting_issued token waits))
  waiting_once := settled.waiting_once
  leaving_issued entry left :=
    (Tokens.issued_fresh_iff _ _).mpr (.inl (settled.leaving_issued entry left))
  leaving_gone := settled.leaving_gone
  ended_waits := settled.ended_waits
  ended_gone := settled.ended_gone
  ended_reported := settled.ended_reported

end Fetch.Coordinator

/-! ## What a provider makes of a fetch -/

def Provider.shown (provider : Provider) (address : Text) (target : Target)
    (answer : Except FetchError (Option Text)) : Except FetchError (Option Text) :=
  let answer := answer.map (·.map (provider.present address))
  match target with
  | .other => answer
  | .method containingClass => answer.map (·.map (replaceHeading containingClass))

theorem Provider.externalFor_eq (provider : Provider) (c : Coordinator) (address : Text)
    (target : Target) :
    (provider.externalFor c address target).1 = provider.shown address target
      (c.fetch fun cancelled => provider.sources.fetchExcerpt cancelled address).1 := by
  cases target <;> rfl

namespace Session

variable {s : Session} {token : TokenId}

/-! ## Tokens that have been made -/

theorem issued_step (made : s.coordinator.tokens.Issued token) (event : Event) :
    (s.step event).coordinator.tokens.Issued token := by
  cases event with
  | fetch action => exact Coordinator.issued_step made action
  | beginSearch => exact (Tokens.issued_fresh_iff _ _).mpr (.inl made)
  | endSearch other => exact made
  | giveUp other =>
    rw [step, giveUp]
    split
    · exact (Tokens.issued_abort_iff _ _ _).mpr made
    · exact made
  | internal => exact made

theorem run_append (before after : List Event) :
    s.run (before ++ after) = (s.run before).run after :=
  List.foldl_append

theorem issued_run (made : s.coordinator.tokens.Issued token) (history : List Event) :
    (s.run history).coordinator.tokens.Issued token := by
  induction history generalizing s with
  | nil => exact made
  | cons event history inductionHypothesis => exact inductionHypothesis (issued_step made event)

theorem current_of_step (made : s.coordinator.tokens.Issued token) {event : Event}
    (published : (s.step event).coordinator.current = token) : s.coordinator.current = token := by
  cases event with
  | fetch action => exact Coordinator.current_of_step made published
  | giveUp other =>
    rw [step, giveUp] at published
    split at published <;> exact published
  | beginSearch | endSearch _ | internal _ _ => exact published

theorem mem_waiting_of_step (made : s.coordinator.tokens.Issued token) {event : Event}
    (waits : token ∈ (s.step event).coordinator.waiting) : token ∈ s.coordinator.waiting := by
  cases event with
  | fetch action => exact Coordinator.mem_waiting_of_step made waits
  | giveUp other =>
    rw [step, giveUp] at waits
    split at waits <;> exact waits
  | beginSearch | endSearch _ | internal _ _ => exact waits

theorem mem_waiting_of_run (made : s.coordinator.tokens.Issued token) {history : List Event}
    (waits : token ∈ (s.run history).coordinator.waiting) : token ∈ s.coordinator.waiting := by
  induction history generalizing s with
  | nil => exact waits
  | cons event history inductionHypothesis =>
    exact mem_waiting_of_step made (inductionHypothesis (issued_step made event) waits)

/-! ## Tokens of detections -/

/-- A token that no cancellation and no caller of a fetch can set. -/
structure Apart (s : Session) (token : TokenId) : Prop where
  issued : s.coordinator.tokens.Issued token
  unpublished : token ≠ s.coordinator.current
  unawaited : token ∉ s.coordinator.waiting

/-- The coordinator is as it should be, and the tokens of detections are apart from those of
fetches. -/
structure Sound (s : Session) : Prop where
  settled : s.coordinator.Settled
  searching_apart : ∀ token ∈ s.searching, s.Apart token

theorem sound_new : new.Sound := ⟨Coordinator.settled_idle, nofun⟩

theorem Sound.apart_beginSearch (sound : s.Sound) : s.beginSearch.2.Apart s.beginSearch.1 where
  issued := (Tokens.issued_fresh_iff _ _).mpr (.inr rfl)
  unpublished published :=
    Tokens.not_issued_fresh _ (published ▸ sound.settled.coherent.current_issued)
  unawaited waits := Tokens.not_issued_fresh _ (sound.settled.waiting_issued _ waits)

theorem Apart.step (apart : s.Apart token) (event : Event) : (s.step event).Apart token where
  issued := issued_step apart.issued event
  unpublished published := apart.unpublished (current_of_step apart.issued published.symm).symm
  unawaited waits := apart.unawaited (mem_waiting_of_step apart.issued waits)

theorem Sound.step (sound : s.Sound) (event : Event) : (s.step event).Sound := by
  have stays : ∀ token ∈ s.searching, (s.step event).Apart token := fun token searches =>
    (sound.searching_apart token searches).step event
  cases event with
  | fetch action => exact ⟨sound.settled.step action, stays⟩
  | beginSearch =>
    refine ⟨sound.settled.fresh, fun token searches => ?_⟩
    rcases List.mem_cons.mp searches with rfl | old
    · exact sound.apart_beginSearch
    · exact stays token old
  | endSearch other =>
    exact ⟨sound.settled, fun token searches => stays token (List.mem_of_mem_erase searches)⟩
  | giveUp other =>
    rw [Session.step, giveUp] at stays ⊢
    split
    next searches =>
      rw [if_pos searches] at stays
      exact ⟨sound.settled.abort other,
        fun token still => stays token (List.mem_of_mem_erase still)⟩
    next => exact sound
  | internal => exact sound

theorem Sound.run (sound : s.Sound) (history : List Event) : (s.run history).Sound := by
  induction history generalizing s with
  | nil => exact sound
  | cons event history inductionHypothesis => exact inductionHypothesis (sound.step event)

theorem sound_run (history : List Event) : (new.run history).Sound := sound_new.run history

/-- Only who waits for a detection sets its token. -/
theorem Apart.isAborted_step (apart : s.Apart token) {event : Event}
    (waits : event ≠ .giveUp token) :
    (s.step event).coordinator.tokens.isAborted token = s.coordinator.tokens.isAborted token := by
  rw [Bool.eq_iff_iff]
  cases event with
  | fetch action =>
    have sets : ¬ s.coordinator.Sets token action := by
      cases action with
      | cancel => exact fun published => apart.unpublished published.symm
      | abandon other => exact fun ⟨_, waits⟩ => apart.unawaited waits
      | start | finish _ _ | report _ | deliver _ => exact id
    exact (Coordinator.isAborted_step_iff apart.issued action).trans (or_iff_left sets)
  | beginSearch => simp [Session.step, beginSearch]
  | endSearch other => rfl
  | giveUp other =>
    have different : other ≠ token := fun same => waits (same ▸ rfl)
    rw [Session.step, giveUp]
    split
    · exact (Tokens.isAborted_abort_iff other apart.issued).trans (or_iff_left different)
    · rfl
  | internal => rfl

theorem Apart.isAborted_run (apart : s.Apart token) {history : List Event}
    (waits : .giveUp token ∉ history) :
    (s.run history).coordinator.tokens.isAborted token =
      s.coordinator.tokens.isAborted token := by
  induction history generalizing s with
  | nil => rfl
  | cons event history inductionHypothesis =>
    obtain ⟨notNow, notLater⟩ := not_or.mp (mt List.mem_cons.mpr waits)
    have later := inductionHypothesis (apart.step event) notLater
    exact later.trans (apart.isAborted_step fun same => notNow same.symm)

theorem isAborted_beginSearch (s : Session) :
    s.beginSearch.2.coordinator.tokens.isAborted s.beginSearch.1 = false :=
  s.coordinator.tokens.isAborted_fresh_self

/-- A detection finds what the first one would find, unless nobody waits for it any longer. -/
theorem Sound.verdict_run (sound : s.Sound) (provider : Provider) (address : Text)
    {during : List Event} (waits : .giveUp s.beginSearch.1 ∉ during) :
    (s.beginSearch.2.run during).verdict provider s.beginSearch.1 address =
      provider.isJavadoc address := by
  rw [verdict, sound.apart_beginSearch.isAborted_run waits, isAborted_beginSearch,
    Detection.search_false, Provider.isJavadoc]

/-! ## Fetches besides detections -/

/-- That fetches are the same in two states, but for what is set of tokens other than the published
one. -/
structure SameFetches (s s' : Session) : Prop where
  slot : s'.coordinator.slot = s.coordinator.slot
  current : s'.coordinator.current = s.coordinator.current
  flag : s'.coordinator.tokens.isAborted s.coordinator.current =
    s.coordinator.tokens.isAborted s.coordinator.current
  running : s'.coordinator.running = s.coordinator.running
  waiting : s'.coordinator.waiting = s.coordinator.waiting
  leaving : s'.coordinator.leaving = s.coordinator.leaving
  ended : s'.coordinator.ended = s.coordinator.ended

theorem SameFetches.trans {s₁ s₂ s₃ : Session} (first : SameFetches s₁ s₂)
    (second : SameFetches s₂ s₃) : SameFetches s₁ s₃ where
  slot := second.slot.trans first.slot
  current := second.current.trans first.current
  flag := first.current ▸ second.flag.trans (first.current ▸ first.flag)
  running := second.running.trans first.running
  waiting := second.waiting.trans first.waiting
  leaving := second.leaving.trans first.leaving
  ended := second.ended.trans first.ended

theorem Sound.sameFetches_step (sound : s.Sound) {event : Event} (aside : event.isFetch = false) :
    SameFetches s (s.step event) := by
  cases event with
  | fetch action => cases aside
  | beginSearch => exact ⟨rfl, rfl, Tokens.isAborted_fresh _ _, rfl, rfl, rfl, rfl⟩
  | endSearch other => exact ⟨rfl, rfl, rfl, rfl, rfl, rfl, rfl⟩
  | giveUp other =>
    rw [Session.step, giveUp]
    split
    next searches =>
      have different := (sound.searching_apart other searches).unpublished
      refine ⟨rfl, rfl, ?_, rfl, rfl, rfl, rfl⟩
      rw [Bool.eq_iff_iff]
      have flags := Tokens.isAborted_abort_iff other sound.settled.coherent.current_issued
      exact flags.trans (or_iff_left different)
    next => exact ⟨rfl, rfl, rfl, rfl, rfl, rfl, rfl⟩
  | internal => exact ⟨rfl, rfl, rfl, rfl, rfl, rfl, rfl⟩

theorem run_fetches (s : Session) (actions : List Coordinator.Action) :
    s.run (actions.map .fetch) = { s with coordinator := s.coordinator.run actions } := by
  induction actions generalizing s with
  | nil => rfl
  | cons action actions inductionHypothesis => exact inductionHypothesis (s.step (.fetch action))

theorem exists_run_serve (provider : Provider) (s : Session) (request : Request) :
    ∃ events, (s.serve provider request).2 = s.run events := by
  cases request with
  | external address target =>
    obtain ⟨actions, eq⟩ := s.coordinator.exists_run_fetch
      fun cancelled => provider.sources.fetchExcerpt cancelled address
    refine ⟨actions.map .fetch, ?_⟩
    rw [run_fetches, ← eq]
    cases target <;> rfl
  | detection address => exact ⟨[.beginSearch, .endSearch s.beginSearch.1], rfl⟩
  | internal text address => exact ⟨[], rfl⟩

/-! ## A fetch and its worker -/

/-- The events that hinder a fetch: a cancellation, the departure of its caller, and the end of its
worker. -/
def Hinders (token : TokenId) : Event → Prop
  | .fetch .cancel => True
  | .fetch (.abandon other) => other = token
  | .fetch (.finish other _) => other = token
  | _ => False

/-- A fetch whose worker goes on, and whose token is not set. -/
structure Works (s : Session) (token : TokenId) : Prop where
  sound : s.Sound
  running : token ∈ s.coordinator.running
  unset : s.coordinator.tokens.isAborted token = false

theorem Sound.works_of_start (sound : s.Sound) (starts : s.coordinator.start.1 = some token) :
    (s.step (.fetch .start)).Works token := by
  refine ⟨sound.step _, ?_, (Coordinator.unset_of_start starts).2⟩
  cases busy : s.coordinator.slot.busy with
  | false =>
    rw [Coordinator.start_of_free busy] at starts
    rw [Session.step, Coordinator.step, Coordinator.start_of_free busy]
    cases starts
    exact List.mem_cons_self
  | true =>
    rw [Coordinator.start_of_busy busy] at starts
    cases starts

theorem Works.step (works : s.Works token) {event : Event} (unhindered : ¬ Hinders token event) :
    (s.step event).Works token := by
  obtain ⟨sound, running, unset⟩ := works
  have coherent := sound.settled.coherent
  cases aside : event.isFetch with
  | false =>
    have same := sound.sameFetches_step aside
    have published := coherent.current_of_running running
    refine ⟨sound.step event, same.running ▸ running, ?_⟩
    have flag := same.flag
    rwa [published, unset] at flag
  | true =>
    cases event with
    | fetch action =>
      have made := coherent.issued_of_running running
      refine ⟨sound.step _, ?_, ?_⟩
      · apply Coordinator.running_step coherent running
        rintro outcome rfl
        exact unhindered rfl
      · have sets : ¬ s.coordinator.Sets token action := by
          cases action with
          | cancel => exact fun _ => unhindered trivial
          | abandon other => exact fun ⟨own, _⟩ => unhindered own
          | start | finish _ _ | report _ | deliver _ => exact id
        rw [Bool.eq_false_iff] at unset ⊢
        exact mt (Coordinator.isAborted_step_iff made action).mp (not_or.mpr ⟨unset, sets⟩)
    | beginSearch | endSearch _ | giveUp _ | internal _ _ => cases aside

theorem Works.run (works : s.Works token) {history : List Event}
    (unhindered : ∀ event ∈ history, ¬ Hinders token event) : (s.run history).Works token := by
  induction history generalizing s with
  | nil => exact works
  | cons event history inductionHypothesis =>
    obtain ⟨now, later⟩ := List.forall_mem_cons.mp unhindered
    exact inductionHypothesis (works.step now) later

theorem Sound.lookup_leaving_step (sound : s.Sound) {outcome : Outcome}
    (left : s.coordinator.leaving.lookup token = some outcome) {event : Event}
    (unreported : event ≠ .fetch (.report token)) :
    (s.step event).coordinator.leaving.lookup token = some outcome := by
  cases aside : event.isFetch with
  | false => rw [(sound.sameFetches_step aside).leaving, left]
  | true =>
    cases event with
    | fetch action =>
      exact Coordinator.lookup_leaving_step sound.settled left fun same => unreported (same ▸ rfl)
    | beginSearch | endSearch _ | giveUp _ | internal _ _ => cases aside

theorem Sound.lookup_leaving_run (sound : s.Sound) {outcome : Outcome}
    (left : s.coordinator.leaving.lookup token = some outcome) {history : List Event}
    (unreported : .fetch (.report token) ∉ history) :
    (s.run history).coordinator.leaving.lookup token = some outcome := by
  induction history generalizing s with
  | nil => exact left
  | cons event history inductionHypothesis =>
    obtain ⟨notNow, notLater⟩ := not_or.mp (mt List.mem_cons.mpr unreported)
    exact inductionHypothesis (sound.step event)
      (sound.lookup_leaving_step left fun same => notNow same.symm) notLater

theorem Sound.lookup_step (sound : s.Sound) {outcome : Outcome}
    (there : s.coordinator.ended.lookup token = some outcome) {event : Event}
    (waits : token ∈ (s.step event).coordinator.waiting) :
    (s.step event).coordinator.ended.lookup token = some outcome := by
  cases aside : event.isFetch with
  | false => rw [(sound.sameFetches_step aside).ended, there]
  | true =>
    cases event with
    | fetch action => exact Coordinator.lookup_step sound.settled there waits
    | beginSearch | endSearch _ | giveUp _ | internal _ _ => cases aside

theorem Sound.lookup_run (sound : s.Sound) {outcome : Outcome}
    (there : s.coordinator.ended.lookup token = some outcome) {history : List Event}
    (waits : token ∈ (s.run history).coordinator.waiting) :
    (s.run history).coordinator.ended.lookup token = some outcome := by
  induction history generalizing s with
  | nil => exact there
  | cons event history inductionHypothesis =>
    have made : s.coordinator.tokens.Issued token := sound.settled.waiting_issued token
      (sound.settled.ended_waits _ (Coordinator.mem_of_lookup there))
    have stillWaits := mem_waiting_of_run (issued_step made event) waits
    exact inductionHypothesis (sound.step event) (sound.lookup_step there stillWaits) waits

/-- The end of a worker comes to its caller, if that still waits when it is reported. -/
theorem Works.deliver_eq (works : s.Works token) (outcome : Outcome) {later : List Event}
    (reported : .fetch (.report token) ∈ later)
    (waits : token ∈ ((s.step (.fetch (.finish token outcome))).run later).coordinator.waiting) :
    (((s.step (.fetch (.finish token outcome))).run later).coordinator.deliver token).1 =
      some outcome.answer := by
  obtain ⟨unreported, rest, cut, notYet⟩ := List.eq_append_cons_of_mem reported
  rw [cut, run_append] at waits ⊢
  have soundAfter := works.sound.step (.fetch (.finish token outcome))
  have left := soundAfter.lookup_leaving_run
    (Coordinator.step_finish works.running outcome).2 notYet
  have made := works.sound.settled.coherent.issued_of_running works.running
  have madeLater := issued_run (issued_step made (.fetch (.finish token outcome))) unreported
  have there := Coordinator.lookup_step_report left (mem_waiting_of_run madeLater waits)
  have stays := ((soundAfter.run unreported).step (.fetch (.report token))).lookup_run there waits
  exact Coordinator.deliver_eq_some_iff.mpr ⟨outcome, stays, rfl⟩

/-! ## Requests in any session -/

theorem serve_external_of_free (provider : Provider) (free : s.coordinator.slot.busy = false)
    (address : Text) (target : Target) :
    (s.serve provider (.external address target)).1 = .page (provider.shown address target
      (Outcome.done (provider.sources.fetchExcerpt false address)).answer) := by
  have told := (Coordinator.fetch_of_free free
    fun cancelled => provider.sources.fetchExcerpt cancelled address).1
  rw [← told, ← provider.externalFor_eq]
  rfl

theorem Sound.free_of_running_eq_nil (sound : s.Sound) (nobody : s.coordinator.running = []) :
    s.coordinator.slot.busy = false := by
  rcases sound.settled.coherent.holder with ⟨free, -⟩ | ⟨-, one⟩
  · exact free
  · rw [nobody] at one
    cases one

theorem Sound.serve_detection (sound : s.Sound) (provider : Provider) (address : Text) :
    (s.serve provider (.detection address)).1 = .verdict (provider.isJavadoc address) := by
  have alone : .giveUp s.beginSearch.1 ∉ ([] : List Event) := List.not_mem_nil
  have found := sound.verdict_run provider address alone
  exact congrArg Response.verdict found

/-- A request is answered as by a new session, unless it needs a slot that is taken. -/
theorem Sound.serve_eq (sound : s.Sound) (provider : Provider) (request : Request)
    (nobody : request.isFetch = true → s.coordinator.running = []) :
    (s.serve provider request).1 = (new.serve provider request).1 := by
  cases request with
  | external address target =>
    rw [serve_external_of_free provider (sound.free_of_running_eq_nil (nobody rfl)),
      serve_external_of_free provider rfl]
  | detection address => rw [sound.serve_detection, sound_new.serve_detection]
  | internal text address => rfl

theorem Sound.sameFetches_serve (sound : s.Sound) (provider : Provider) {request : Request}
    (aside : request.isFetch = false) : SameFetches s (s.serve provider request).2 := by
  cases request with
  | external address target => cases aside
  | detection address =>
    have begins : SameFetches s (s.step .beginSearch) := sound.sameFetches_step rfl
    have ends : SameFetches (s.step .beginSearch)
        ((s.step .beginSearch).step (.endSearch s.beginSearch.1)) :=
      (sound.step .beginSearch).sameFetches_step rfl
    exact begins.trans ends
  | internal text address => exact ⟨rfl, rfl, rfl, rfl, rfl, rfl, rfl⟩

/-- After every history: a request is answered as in a new session, if no worker holds the slot or
the request does not need it.  This also holds of a fetch and of a detection that other events come
between, once the end of the fetch has been reported, as long as none of them cancels the fetch,
takes its caller away or gives the detection up.  Neither the events of detections nor texts in
memory change the slot, the published token, or anything else that a fetch depends on; and all that
requests do is in the histories. -/
theorem no_memory_beyond_slot (provider : Provider) (history : List Event) :
    let s := new.run history
    (∀ request, (request.isFetch = true → s.coordinator.running = []) →
      (s.serve provider request).1 = (new.serve provider request).1) ∧
    (s.coordinator.running = [] → ∃ token, s.coordinator.start.1 = some token ∧
      ∀ during, (∀ event ∈ during, ¬ Hinders token event) →
        let working := (s.step (.fetch .start)).run during
        token ∈ working.coordinator.running ∧
        ∀ address target later,
          let fetched := provider.sources.fetchExcerpt
            (working.coordinator.tokens.isAborted token) address
          let ended := (working.step (.fetch (.finish token (.done fetched)))).run later
          .fetch (.report token) ∈ later → token ∈ ended.coordinator.waiting →
            (ended.coordinator.deliver token).1.map
                (fun answer => .page (provider.shown address target answer)) =
              some (new.serve provider (.external address target)).1) ∧
    (∀ during address, .giveUp s.beginSearch.1 ∉ during →
      .verdict ((s.beginSearch.2.run during).verdict provider s.beginSearch.1 address) =
        (new.serve provider (.detection address)).1) ∧
    (∀ event, event.isFetch = false → SameFetches s (s.step event)) ∧
    (∀ request, request.isFetch = false → SameFetches s (s.serve provider request).2) ∧
    (∀ request, ∃ later, (s.serve provider request).2 = new.run (history ++ later)) := by
  intro s
  have sound : s.Sound := sound_run history
  refine ⟨fun request nobody => sound.serve_eq provider request nobody, fun nobody => ?_,
    fun during address waits => ?_, fun event aside => sound.sameFetches_step aside,
    fun request aside => sound.sameFetches_serve provider aside, fun request => ?_⟩
  · have starts : s.coordinator.start.1 = some s.coordinator.tokens.fresh.1 := by
      rw [Coordinator.start_of_free (sound.free_of_running_eq_nil nobody)]
    refine ⟨_, starts, fun during unhindered => ?_⟩
    have works := (sound.works_of_start starts).run unhindered
    refine ⟨works.running, fun address target later reported waits => ?_⟩
    rw [works.deliver_eq _ reported waits, works.unset, serve_external_of_free provider rfl]
    rfl
  · rw [sound.verdict_run provider address waits, sound_new.serve_detection]
  · obtain ⟨later, same⟩ := exists_run_serve provider s request
    exact ⟨later, same.trans (run_append _ _).symm⟩

/-- A provider with one local page, which the tool has written. -/
def onePage : Provider where
  resolver := noSymbols
  adjust := id
  sources :=
    ⟨⟨[([[0x70]], .file (Utf8.encode "<A NAME=\"f\">Generated by javadoc\n".toList))]⟩,
      .unreachable, ⟨15, 30, none, none⟩⟩
  lookahead := 6

/-- A detection besides a fetch that has just been cancelled, and a fetch once the worker of that
one has broken down, the caller of another has gone away, and a detection has been given up. -/
theorem no_memory_of_cancelled_fetch :
    let s := new.run [.fetch .start, .fetch .cancel]
    let later := s.run [.beginSearch, .giveUp 2, .fetch (.finish 1 .lost), .fetch .start,
      .fetch (.abandon 3), .fetch (.finish 3 (.done (.error .cancelled))), .fetch .cancel]
    s.coordinator.running = [1] ∧
      (s.serve onePage (.detection "file:///p".toList)).1 = .verdict true ∧
      (later.serve onePage (.external "file:///p#f".toList .other)).1 =
        .page (.ok (some "<HTML><A NAME=\"f\">Generated by javadoc</HTML>".toList)) := by
  intro s later
  obtain ⟨same, -⟩ := no_memory_beyond_slot onePage [.fetch .start, .fetch .cancel]
  obtain ⟨sameLater, -⟩ := no_memory_beyond_slot onePage
    ([.fetch .start, .fetch .cancel] ++ [.beginSearch, .giveUp 2, .fetch (.finish 1 .lost),
      .fetch .start, .fetch (.abandon 3), .fetch (.finish 3 (.done (.error .cancelled))),
      .fetch .cancel])
  refine ⟨rfl, ?_, ?_⟩
  · have found : onePage.isJavadoc "file:///p".toList = true := by decide +kernel
    rw [same (.detection _) nofun, sound_new.serve_detection, found]
  · have fetched : onePage.sources.fetchExcerpt false "file:///p#f".toList =
        .ok (some "<HTML><A NAME=\"f\">Generated by javadoc</HTML>".toList) := by decide +kernel
    have presented : onePage.present "file:///p#f".toList
        "<HTML><A NAME=\"f\">Generated by javadoc</HTML>".toList =
          "<HTML><A NAME=\"f\">Generated by javadoc</HTML>".toList := by decide +kernel
    refine (sameLater (.external _ _) fun _ => rfl).trans ?_
    rw [serve_external_of_free onePage rfl, fetched]
    exact congrArg (fun text => Response.page (.ok (some text))) presented

end Session

end DocExcerpt
