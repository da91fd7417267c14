import DocExcerpt.Proofs.Http.Visiting
import DocExcerpt.Source

/-!
# What visitors of any source see

Whatever a page comes from, its source hands over lines, and then either all of them have been
handed over or an error is met (`handedOver`).  A visitor sees these lines in order until it has
seen enough, whether the page is opened and read or its lines come over the network
(`visitLines_eq`).
-/

namespace DocExcerpt

open Http

variable {σ : Type} (visit : Visitor σ) (state : σ)

/-! ## Lines that are read -/

namespace Sources

theorem visitReading_of_wants {lines : List Text} (wants : visit.Wants state lines)
    (error : Option FetchError) (more : List Text) :
    visitReading visit error (lines ++ more) state =
      visitReading visit error more (visit.seen state lines) := by
  induction lines generalizing state with
  | nil => rfl
  | cons line lines inductionHypothesis =>
    obtain ⟨wanted, wants⟩ := wants
    rw [List.cons_append, visitReading]
    simp only [wanted, if_true]
    exact inductionHypothesis _ wants

theorem visitReading_of_wants_error {lines : List Text} (wants : visit.Wants state lines)
    (error : FetchError) :
    visitReading visit (some error) lines state = (visit.seen state lines, .error error) := by
  have read := visitReading_of_wants visit state wants (some error) []
  rwa [List.append_nil] at read

theorem visitReading_of_declines {lines before : List Text} {line : Text}
    (declines : visit.Declines state lines before line) (error : Option FetchError) :
    visitReading visit error lines state = (visit.seen state (before ++ [line]), .ok ()) := by
  obtain ⟨wants, declined, more, rfl⟩ := declines
  rw [List.append_assoc, visitReading_of_wants visit state wants, List.singleton_append,
    visitReading, visit.seen_append]
  simp only [declined]
  rfl

theorem visitReading_lastLine (transfer : Transfer) :
    visitReading visit none transfer.lastLine state =
      (visit.seen state transfer.lastLine, .ok ()) := by
  unfold Transfer.lastLine
  simp only
  split
  next => rfl
  next =>
    simp only [visitReading]
    split <;> rfl

/-! ## Visitors that decline nothing -/

end Sources

def Http.Visitor.collect : Visitor (List Text) := fun lines line => (lines ++ [line], true)

theorem Sources.visitReading_collect (error : Option FetchError) (lines before : List Text) :
    visitReading .collect error lines before =
      (before ++ lines, match error with | some error => .error error | none => .ok ()) := by
  induction lines generalizing before with
  | nil => cases error <;> simp [visitReading]
  | cons line lines inductionHypothesis =>
    have step : visitReading .collect error (line :: lines) before =
        visitReading .collect error lines (before ++ [line]) := rfl
    rw [step, inductionHypothesis, List.append_assoc, List.singleton_append]

/-! ## Lines that come over the network -/

/-- What a transfer hands over to a visitor of lines.  What is behind the last line feed is a line
only of a complete transfer with a status of success. -/
def Http.Transfer.handedOver (transfer : Transfer) (address : Text) : Page.Reading :=
  match transfer.ending, transfer.checkStatus address with
  | .error fault, _ => ⟨transfer.lines, some (transfer.failure address fault)⟩
  | .ok (), .error error => ⟨transfer.lines, some error⟩
  | .ok (), .ok () => ⟨transfer.lines ++ transfer.lastLine, none⟩

theorem Http.Transfer.lines_prefix_handedOver (transfer : Transfer) (address : Text) :
    transfer.lines <+: (transfer.handedOver address).lines := by
  unfold handedOver
  split
  · exact List.prefix_rfl
  · exact List.prefix_rfl
  · exact List.prefix_append _ _

theorem Http.Transfer.visitLines_eq (transfer : Transfer) (address : Text) :
    transfer.visitLines visit state address =
      Sources.visitReading visit (transfer.handedOver address).error
        (transfer.handedOver address).lines state := by
  rcases visit.wants_or_declines state transfer.lines with wants | ⟨before, line, declines⟩
  · have failed := Sources.visitReading_of_wants_error visit state wants
    rw [transfer.visitLines_of_wants visit state address wants, handedOver]
    cases transfer.ending with
    | error fault => exact (failed _).symm
    | ok =>
      cases transfer.checkStatus address with
      | error error => exact (failed error).symm
      | ok =>
        simp only
        rw [Sources.visitReading_of_wants visit state wants, Sources.visitReading_lastLine,
          visit.seen_append]
  · have declinesMore : visit.Declines state (transfer.handedOver address).lines before line :=
      { declines with occurs := declines.occurs.trans (transfer.lines_prefix_handedOver address) }
    rw [transfer.visitLines_of_declines visit state address declines,
      Sources.visitReading_of_declines visit state declinesMore]

/-! ## Lines of any source -/

namespace Sources

def visiting (sources : Sources) (address : Text) : Except TransferFault Transfer :=
  sources.transport.transfer ⟨address, sources.options, true, false⟩

/-- What the source of an address hands over to a visitor of lines. -/
def handedOver (sources : Sources) (address : Text) : Page.Reading :=
  if isStreamed address then
    match sources.visiting address with
    | .error fault => ⟨[], some (.transfer fault)⟩
    | .ok transfer => transfer.handedOver address
  else
    match sources.openPage false address with
    | .error error => ⟨[], some error⟩
    | .ok none => ⟨[], none⟩
    | .ok (some page) => page.reading false

theorem handedOver_of_visiting {sources : Sources} {address : Text} {transfer : Transfer}
    (streamed : isStreamed address = true) (made : sources.visiting address = .ok transfer) :
    sources.handedOver address = transfer.handedOver address := by
  rw [handedOver, if_pos streamed, made]

theorem visitLines_eq (sources : Sources) (address : Text) :
    sources.visitLines false address visit state =
      visitReading visit (sources.handedOver address).error (sources.handedOver address).lines
        state := by
  unfold visitLines handedOver
  split
  next =>
    rw [Http.visitLines, visiting]
    cases sources.transport.transfer ⟨address, sources.options, true, false⟩ with
    | error fault => rfl
    | ok transfer => exact transfer.visitLines_eq visit state address
  next =>
    rcases sources.openPage false address with error | page
    · rfl
    · cases page <;> rfl

theorem visitLines_collect (sources : Sources) (address : Text) :
    sources.visitLines false address .collect [] =
      ((sources.handedOver address).lines,
        match (sources.handedOver address).error with
        | some error => .error error
        | none => .ok ()) := by
  rw [visitLines_eq, visitReading_collect, List.nil_append]

end Sources

end DocExcerpt
