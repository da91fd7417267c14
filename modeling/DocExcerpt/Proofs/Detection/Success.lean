import DocExcerpt.Proofs.Detection.FirstLines
import DocExcerpt.Proofs.Source.Opening

/-!
# Detection and the status of an answer

A page whose transfer has no status of success cannot be opened.  Detection agrees with that where
the search goes on to the end of the transfer, where its status is looked at.  It disagrees where the
search stops before: a transfer without a status of success that hands over the marker in one of the
first lines is taken for a page of the tool (`Deceives`).

Which transfers do that is up to the library.  It is asked to hand no body over for a status from
400 on, so that lower ones remain (`Deceives.lt_of_refuses`).
-/

namespace DocExcerpt.Detection

open Http Pieces

variable {sources : Sources} {lookahead : Nat} {address : Text} {transfer first : Transfer}

/-- Whether an address on the network is taken for a page of the tool only if its transfer has a
status of success. -/
def OnlyOfSuccess (sources : Sources) (lookahead : Nat) (address : Text) : Prop :=
  isJavadoc sources lookahead address = true →
    ∃ transfer, sources.visiting address = .ok transfer ∧ transfer.IsSuccess

/-- Whether an address that cannot be opened because of a status is not taken for a page of the
tool. -/
def NeverOfRejected (sources : Sources) (lookahead : Nat) (address : Text) : Prop :=
  ∀ code, sources.openPage false address = .error (.status address code) →
    isJavadoc sources lookahead address = false

/-- Whether a transfer without a status of success hands over the marker in one of the first lines
that line feeds end. -/
structure Deceives (lookahead : Nat) (transfer : Transfer) : Prop where
  failed : ¬ transfer.IsSuccess
  marked : ∃ line ∈ transfer.lines.take lookahead, marker <:+: line

/-- Whether the library hands over nothing of a body with a status from 400 on, as it is asked to. -/
def RefusesErrors (transfer : Transfer) : Prop :=
  ∀ code, transfer.status = .ok code → 400 ≤ code → transfer.body = []

/-! ## Transfers without success -/

theorem handedOver_lines_of_failed (failed : ¬ transfer.IsSuccess) :
    (transfer.handedOver address).lines = transfer.lines := by
  unfold Transfer.handedOver
  split
  next => rfl
  next => rfl
  next _ passed => exact absurd (Transfer.isSuccess_of_checkStatus passed) failed

theorem isJavadoc_iff_deceives (streamed : Sources.isStreamed address = true)
    (visited : sources.visiting address = .ok transfer) (failed : ¬ transfer.IsSuccess) :
    isJavadoc sources lookahead address = true ↔ Deceives lookahead transfer := by
  rw [isJavadoc_iff, Sources.handedOver_of_visiting streamed visited,
    handedOver_lines_of_failed failed]
  exact ⟨fun marked => ⟨failed, marked⟩, fun deceives => deceives.marked⟩

theorem isJavadoc_of_no_transfer (streamed : Sources.isStreamed address = true)
    {fault : TransferFault} (failed : sources.visiting address = .error fault) :
    isJavadoc sources lookahead address = false := by
  rw [← Bool.not_eq_true, isJavadoc_iff, Sources.handedOver, if_pos streamed, failed]
  simp

theorem lines_of_body_eq_nil (nothing : transfer.body = []) : transfer.lines = [] := by
  suffices ∀ (events : List Event) (stream : Stream), 0x0A ∉ stream.pending →
      Transfer.body { transfer with events } = [] → stream.linesOf events = [] from
    this transfer.events .start List.not_mem_nil nothing
  intro events
  induction events with
  | nil => exact fun _ _ _ => rfl
  | cons event events inductionHypothesis =>
    intro stream clean nothing
    rw [Transfer.body, List.flatMap_cons, List.append_eq_nil_iff] at nothing
    obtain ⟨now, later⟩ := nothing
    cases event with
    | header line => exact inductionHypothesis _ clean later
    | chunk bytes =>
      obtain rfl : bytes = [] := now
      have received : stream.receive (.chunk []) = ([], stream) := by
        rw [Stream.receive, cutLines_eq, List.append_nil, ended_of_not_mem clean,
          unended_of_not_mem clean]
        rfl
      rw [Stream.linesOf, received]
      exact inductionHypothesis stream clean later

theorem Deceives.lt_of_refuses (deceives : Deceives lookahead transfer)
    (refuses : RefusesErrors transfer) {code : Nat} (found : transfer.status = .ok code) :
    code < 400 := by
  by_contra refused
  obtain ⟨line, member, -⟩ := deceives.marked
  rw [lines_of_body_eq_nil (refuses code found (Nat.le_of_not_lt refused)), List.take_nil] at member
  cases member

/-! ## Opening the page -/

theorem openPage_eq_status_iff (streamed : Sources.isStreamed address = true)
    (opened : sources.opening address = .ok first) {code : Nat} :
    sources.openPage false address = .error (.status address code) ↔
      first.ending = .ok () ∧ first.status = .ok code ∧ ¬ (200 ≤ code ∧ code < 300) := by
  rw [Sources.openPage_of_opening streamed opened, ← Transfer.checkStatus_eq_status_iff]
  cases first.ending with
  | error fault =>
    simp only [reduceCtorEq, false_and, iff_false]
    split <;> simp
  | ok =>
    cases first.checkStatus address with
    | error error => simp
    | ok => cases first.contentType <;> simp

/-! ## Where detection agrees with opening -/

/-- An address on the network is taken for a page of the tool only with a status of success, unless
its transfer deceives; and only if it can be opened as far as the status goes, unless the transfer
deceives and the one that opens the page is complete.  If the library hands no body over for a status
from 400 on, a transfer that deceives has a lower one. -/
theorem onlyOfSuccess_iff (streamed : Sources.isStreamed address = true) :
    (OnlyOfSuccess sources lookahead address ↔
      ∀ transfer, sources.visiting address = .ok transfer → ¬ Deceives lookahead transfer) ∧
    ((∀ first second, sources.opening address = .ok first → sources.visiting address = .ok second →
        second.status = first.status) →
      (NeverOfRejected sources lookahead address ↔
        ∀ first second code, sources.opening address = .ok first →
          sources.visiting address = .ok second → first.ending = .ok () →
          first.status = .ok code → ¬ Deceives lookahead second)) ∧
    (∀ transfer code, RefusesErrors transfer → Deceives lookahead transfer →
      transfer.status = .ok code → code < 400) := by
  refine ⟨⟨fun only transfer visited deceives => ?_, fun honest found => ?_⟩, fun sameStatus =>
    ⟨fun never first second code opened visited complete status deceives => ?_,
      fun honest code rejected => ?_⟩,
    fun transfer code refuses deceives status => deceives.lt_of_refuses refuses status⟩
  · obtain ⟨other, same, success⟩ :=
      only ((isJavadoc_iff_deceives streamed visited deceives.failed).mpr deceives)
    obtain rfl := Except.ok.inj (visited.symm.trans same)
    exact deceives.failed success
  · cases visited : sources.visiting address with
    | error fault =>
      rw [isJavadoc_of_no_transfer streamed visited] at found
      cases found
    | ok transfer =>
      refine ⟨transfer, rfl, ?_⟩
      by_contra failed
      exact honest transfer visited ((isJavadoc_iff_deceives streamed visited failed).mp found)
  · have outside : ¬ (200 ≤ code ∧ code < 300) := fun within =>
      deceives.failed ⟨code, (sameStatus first second opened visited).trans status, within⟩
    have rejected := (openPage_eq_status_iff streamed opened).mpr ⟨complete, status, outside⟩
    have found := (isJavadoc_iff_deceives streamed visited deceives.failed).mpr deceives
    rw [never code rejected] at found
    cases found
  · cases opened : sources.opening address with
    | error fault =>
      rw [Sources.openPage_of_no_opening streamed opened] at rejected
      cases rejected
    | ok first =>
      obtain ⟨complete, status, outside⟩ := (openPage_eq_status_iff streamed opened).mp rejected
      cases visited : sources.visiting address with
      | error fault => exact isJavadoc_of_no_transfer streamed visited
      | ok second =>
        have failed : ¬ second.IsSuccess := by
          rintro ⟨other, found, within⟩
          rw [sameStatus first second opened visited, status] at found
          obtain rfl := Except.ok.inj found
          exact outside within
        rw [← Bool.not_eq_true, isJavadoc_iff_deceives streamed visited failed]
        exact honest first second code opened visited complete status

/-- A transfer of an answer that there is no page, whose body is not handed over. -/
def notFound : Transfer where
  events := inOrder (headerLines ["HTTP/1.1 404 Not Found", "Content-Type: text/html"]) [] []
  ending := .error ⟨22, "HTTP response code said error"⟩
  status := .ok 404
  contentType := .ok (some "text/html".toList)

theorem onlyOfSuccess_notFound :
    Sources.isStreamed "http://[::1]/p".toList = true ∧ RefusesErrors notFound ∧
      OnlyOfSuccess (sending notFound) 6 "http://[::1]/p".toList ∧
      NeverOfRejected (sending notFound) 6 "http://[::1]/p".toList := by
  have refuses : RefusesErrors notFound := fun _ _ _ => rfl
  obtain ⟨only, never, refused⟩ :=
    @onlyOfSuccess_iff (sending notFound) 6 "http://[::1]/p".toList rfl
  have honest : ∀ transfer, (sending notFound).visiting "http://[::1]/p".toList = .ok transfer →
      ¬ Deceives 6 transfer := by
    intro transfer visited deceives
    obtain rfl : notFound = transfer := Except.ok.inj visited
    exact absurd (refused notFound 404 refuses deceives rfl) (by decide)
  have sameStatus : ∀ first second, (sending notFound).opening "http://[::1]/p".toList = .ok first →
      (sending notFound).visiting "http://[::1]/p".toList = .ok second →
      second.status = first.status := by
    rintro first second ⟨⟩ ⟨⟩
    rfl
  exact ⟨rfl, refuses, only.mpr honest,
    (never sameStatus).mpr fun _ second _ _ visited _ _ => honest second visited⟩

/-- A transfer of an answer that offers several pages and points to none, with a page of the tool as
its body. -/
def severalPages : Transfer where
  events := inOrder (headerLines ["HTTP/1.1 300 Multiple Choices", "Content-Type: text/html"])
    [markedLine] []
  ending := .ok ()
  status := .ok 300
  contentType := .ok (some "text/html".toList)

/-- The status is not one of success, and the page cannot be opened because of it, and yet the
address is taken for a page of the tool. -/
theorem not_onlyOfSuccess_severalPages :
    Sources.isStreamed "http://[::1]/p".toList = true ∧
      (sending severalPages).openPage false "http://[::1]/p".toList =
        .error (.status "http://[::1]/p".toList 300) ∧
      isJavadoc (sending severalPages) 6 "http://[::1]/p".toList = true ∧
      ¬ OnlyOfSuccess (sending severalPages) 6 "http://[::1]/p".toList ∧
      ¬ NeverOfRejected (sending severalPages) 6 "http://[::1]/p".toList := by
  have failed : ¬ severalPages.IsSuccess := by
    rintro ⟨code, found, within⟩
    obtain rfl := Except.ok.inj found
    exact absurd within (by decide)
  have deceives : Deceives 6 severalPages := ⟨failed, by decide +kernel⟩
  have found : isJavadoc (sending severalPages) 6 "http://[::1]/p".toList = true :=
    (isJavadoc_iff_deceives rfl rfl failed).mpr deceives
  have rejected : (sending severalPages).openPage false "http://[::1]/p".toList =
      .error (.status "http://[::1]/p".toList 300) :=
    (openPage_eq_status_iff rfl rfl).mpr ⟨rfl, rfl, by decide⟩
  refine ⟨rfl, rejected, found, fun only => ?_, fun never => ?_⟩
  · obtain ⟨transfer, same, success⟩ := only found
    obtain rfl : severalPages = transfer := Except.ok.inj same
    exact failed success
  · rw [never 300 rejected] at found
    cases found

end DocExcerpt.Detection
