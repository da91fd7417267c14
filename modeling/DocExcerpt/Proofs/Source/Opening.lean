import DocExcerpt.Proofs.Http.Visiting
import DocExcerpt.Proofs.Page.Lines
import DocExcerpt.Source

/-!
# Pages that are opened

A page on the network is the body of a transfer, which is complete and has a status of success,
decoded by the content type that the library reports (`openPage_of_opening`).

The bytes of a page that is open can be had exactly if its lines can be read to the end
(`OpenPage.content_eq`).
-/

namespace DocExcerpt

open Http

/-- All bytes of a page can be had if a reader that nobody cancels comes to its end; if not, both
meet the same error. -/
theorem OpenPage.content_eq (page : OpenPage) :
    page.content = match (page.reading false).error with
      | some error => .error error
      | none => .ok page.bytes := by
  obtain ⟨bytes, failsAfter⟩ := page
  cases failsAfter with
  | none =>
    have read : (OpenPage.mk bytes none).reading false = Page.Reading.ofBytes .none bytes := rfl
    rw [read, Page.Reading.ofBytes_none]
    rfl
  | some failure =>
    have read : ((OpenPage.mk bytes (some failure)).reading false).error =
        if failure.1 ≤ bytes.length then some (.read failure.2) else none := by
      rw [← Page.RawLine.sum_size bytes]
      exact Page.Reading.error_of_failsAfter failure.1 failure.2 _
    rw [read, content]
    by_cases met : failure.1 ≤ bytes.length
    · simp only [if_pos met]
    · simp only [if_neg met]

namespace Http.Transfer

variable {transfer : Transfer} {address : Text}

/-- Whether a transfer has a status of success. -/
def IsSuccess (transfer : Transfer) : Prop :=
  ∃ code, transfer.status = .ok code ∧ 200 ≤ code ∧ code < 300

theorem checkStatus_of_success (success : transfer.IsSuccess) :
    transfer.checkStatus address = .ok () := by
  obtain ⟨code, found, within⟩ := success
  rw [checkStatus, found]
  exact if_pos within

theorem isSuccess_of_checkStatus (passed : transfer.checkStatus address = .ok ()) :
    transfer.IsSuccess := by
  unfold checkStatus at passed
  split at passed
  next => cases passed
  next code found =>
    split at passed
    next within => exact ⟨code, found, within⟩
    next => cases passed

theorem checkStatus_eq_status_iff {code : Nat} :
    transfer.checkStatus address = .error (.status address code) ↔
      transfer.status = .ok code ∧ ¬ (200 ≤ code ∧ code < 300) := by
  unfold checkStatus
  cases transfer.status with
  | error fault => simp
  | ok status =>
    simp only [Except.ok.injEq]
    split
    next within =>
      constructor
      · nofun
      · rintro ⟨rfl, outside⟩
        exact absurd within outside
    next outside =>
      constructor
      · rintro ⟨⟩
        exact ⟨rfl, outside⟩
      · rintro ⟨rfl, -⟩
        rfl

def body (transfer : Transfer) : Bytes :=
  transfer.events.flatMap fun
    | .header _ => []
    | .chunk bytes => bytes

theorem body_of_inOrder (transfer : Transfer) {head chunks trailers : List Bytes}
    (comes : transfer.events = inOrder head chunks trailers) : transfer.body = chunks.flatten := by
  have silent : ∀ lines : List Bytes, lines.flatMap (fun _ => ([] : Bytes)) = [] :=
    fun lines => List.flatMap_eq_nil_iff.mpr fun _ _ => rfl
  simp [body, comes, inOrder, List.flatMap_map, silent]

theorem perform_gather (transfer : Transfer) :
    transfer.perform gather [] = ⟨transfer.body, false, transfer.ending⟩ := by
  suffices ∀ (events : List Event) (front : Bytes), deliver gather transfer.ending events front =
      ⟨front ++ Transfer.body { transfer with events }, false, transfer.ending⟩ from
    this transfer.events []
  intro events
  induction events with
  | nil => exact fun front => by rw [body, List.flatMap_nil, List.append_nil]; rfl
  | cons event events inductionHypothesis =>
    intro front
    cases event with
    | header line => exact inductionHypothesis front
    | chunk bytes =>
      rw [body, List.flatMap_cons, ← List.append_assoc]
      exact inductionHypothesis (front ++ bytes)

end Http.Transfer

namespace Sources

def opening (sources : Sources) (address : Text) : Except TransferFault Transfer :=
  sources.transport.transfer ⟨address, sources.options, false, false⟩

variable {sources : Sources} {address : Text} {transfer : Transfer}

theorem openPage_of_streamed (streamed : isStreamed address = true) :
    sources.openPage false address =
      (fetch sources.transport sources.options false address).map (some ∘ .whole) := by
  simp only [isStreamed, Bool.and_eq_true, Option.isNone_iff_eq_none] at streamed
  obtain ⟨unarchived, ofHttp⟩ := streamed
  cases parsed : Url.parse address with
  | error reason =>
    rw [parsed] at ofHttp
    cases ofHttp
  | ok url =>
    rw [parsed] at ofHttp
    simp only [openPage, unarchived, parsed, ofHttp, if_true]

theorem openPage_of_no_opening (streamed : isStreamed address = true) {fault : TransferFault}
    (failed : sources.opening address = .error fault) :
    sources.openPage false address = .error (.transfer fault) := by
  rw [opening] at failed
  rw [openPage_of_streamed streamed, fetch, failed]
  rfl

theorem openPage_of_opening (streamed : isStreamed address = true)
    (made : sources.opening address = .ok transfer) :
    sources.openPage false address =
      match transfer.ending, transfer.checkStatus address, transfer.contentType with
      | .error fault, _, _ => .error (if fault.isGivenUp then .cancelled else .transfer fault)
      | .ok (), .error error, _ => .error error
      | .ok (), .ok (), .error fault => .error (.transfer fault)
      | .ok (), .ok (), .ok contentType => .ok (some (.whole
          (Utf8.encode (Charset.decodeLabelled (contentType.bind charsetLabel?) transfer.body)))) := by
  rw [opening] at made
  simp only [openPage_of_streamed streamed, fetch, made, transfer.perform_gather]
  cases transfer.ending with
  | error fault => rfl
  | ok =>
    cases transfer.checkStatus address with
    | error error => rfl
    | ok => cases transfer.contentType <;> rfl

end Sources

end DocExcerpt
