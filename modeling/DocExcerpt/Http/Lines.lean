import DocExcerpt.Charset.Label
import DocExcerpt.Http.ContentType
import DocExcerpt.Http.Transfer

/-!
# Pages visited line by line

The lines of a body are handed to a visitor while the body comes.  Each line is decoded by itself,
by the last content type that has come before it.  The bytes behind the last line feed are kept
until the next chunk; when the transfer is complete and its status one of success, they are a last
line.  A visitor that has seen enough stops the transfer, and nothing is asked about what did not
come.
-/

namespace DocExcerpt.Http

/-! ## Lines of a transfer -/

/-- The lines that line feeds end, and what is behind the last of them. -/
def cutLines : Bytes → List Bytes × Bytes
  | [] => ([], [])
  | b :: bytes =>
    let (lines, rest) := cutLines bytes
    if b = 0x0A then ([] :: lines, rest)
    else
      match lines with
      | [] => ([], b :: rest)
      | line :: lines => ((b :: line) :: lines, rest)

/-- A line without one carriage return at its end. -/
def trimReturn (line : Bytes) : Bytes :=
  if line.getLast? = some 0x0D then line.dropLast else line

/-- How far a transfer has come: the last content type, and the bytes behind the last line feed. -/
structure Stream where
  contentType : Option Text
  pending : Bytes

namespace Stream

def start : Stream := ⟨none, []⟩

def textOf (stream : Stream) (line : Bytes) : Text :=
  Charset.decodeLabelled (stream.contentType.bind charsetLabel?) (trimReturn line)

def receive (stream : Stream) : Event → List Text × Stream
  | .header line => ([], { stream with contentType := (contentTypeOf? line).or stream.contentType })
  | .chunk bytes =>
    let (lines, pending) := cutLines (stream.pending ++ bytes)
    (lines.map stream.textOf, { stream with pending })

end Stream

/-! ## Visitors -/

/-- A visitor of lines: from what it has made of the lines before and the next line, what it makes
of both, and whether it wants more. -/
abbrev Visitor (σ : Type) := σ → Text → σ × Bool

variable {σ : Type} (visit : Visitor σ)

def Visitor.visitAll : List Text → σ → σ × Bool
  | [], state => (state, true)
  | line :: lines, state =>
    match visit state line with
    | (state, true) => Visitor.visitAll lines state
    | (state, false) => (state, false)

def Visitor.take (progress : Stream × σ) (event : Event) : (Stream × σ) × Bool :=
  let (lines, stream) := progress.1.receive event
  let (state, wantsMore) := visit.visitAll lines progress.2
  ((stream, state), wantsMore)

namespace Transfer

/-- What the fault of a transfer means to a visitor.  A status that the library refuses is an error
of its own. -/
def failure (transfer : Transfer) (address : Text) (fault : TransferFault) : FetchError :=
  if fault.isGivenUp then .cancelled
  else if fault.isRefused then
    match transfer.checkStatus address with
    | .error error => error
    | .ok () => .transfer fault
  else .transfer fault

def visitLines (transfer : Transfer) (state : σ) (address : Text) : σ × Except FetchError Unit :=
  let delivery := transfer.perform visit.take (.start, state)
  let (stream, state) := delivery.state
  match delivery.ending with
  | .error fault =>
    if delivery.stopped && fault.isNotTaken then (state, .ok ())
    else (state, .error (transfer.failure address fault))
  | .ok () =>
    match transfer.checkStatus address with
    | .error error => (state, .error error)
    | .ok () =>
      if stream.pending.isEmpty then (state, .ok ())
      else ((visit state (stream.textOf stream.pending)).1, .ok ())

end Transfer

def visitLines (transport : Transport) (options : TransferOptions) (cancelled : Bool)
    (address : Text) (state : σ) : σ × Except FetchError Unit :=
  match transport.transfer ⟨address, options, true, cancelled⟩ with
  | .error fault => (state, .error (.transfer fault))
  | .ok transfer => transfer.visitLines visit state address

end DocExcerpt.Http
