import DocExcerpt.Http.Lines
import DocExcerpt.Proofs.Http.Headers
import DocExcerpt.Proofs.Text.Pieces

/-!
# Visiting lines while they come

The network cuts a body into chunks as it likes, inside a line, between a carriage return and its
line feed, or inside a character.  What a visitor sees does not depend on the cuts, because a chunk
goes on with the bytes that are pending (`Stream.linesOf_chunks`).

A visitor sees the lines of a transfer in order up to the first one that it declines, and nothing
after (`Visitor.deliver_take`).  Of a body these lines are the pieces that line feeds end, each
decoded by itself; what is behind the last line feed is a line only of a transfer that is complete
and has a status of success (`visitLines_by_body`).
-/

namespace DocExcerpt.Http

open Pieces

variable {σ : Type} (visit : Visitor σ)

/-! ## Visitors -/

/-- What a visitor has made of lines once it has seen them all. -/
def Visitor.seen (visit : Visitor σ) (state : σ) (lines : List Text) : σ :=
  lines.foldl (fun state line => (visit state line).1) state

def Visitor.Wants (visit : Visitor σ) : σ → List Text → Prop
  | _, [] => True
  | state, line :: lines => (visit state line).2 = true ∧ Wants visit (visit state line).1 lines

/-- Whether the visitor declines `line` as the first of the lines, behind those in `before`. -/
structure Visitor.Declines (visit : Visitor σ) (state : σ) (lines before : List Text)
    (line : Text) : Prop where
  wanted : visit.Wants state before
  declined : (visit (visit.seen state before) line).2 = false
  occurs : before ++ [line] <+: lines

theorem Visitor.wants_or_declines (state : σ) (lines : List Text) :
    visit.Wants state lines ∨ ∃ before line, visit.Declines state lines before line := by
  induction lines generalizing state with
  | nil => exact .inl trivial
  | cons first lines inductionHypothesis =>
    by_cases wanted : (visit state first).2 = true
    · rcases inductionHypothesis (visit state first).1 with all | ⟨before, line, declines⟩
      · exact .inl ⟨wanted, all⟩
      · refine .inr ⟨first :: before, line, ⟨wanted, declines.wanted⟩, declines.declined, ?_⟩
        exact (List.prefix_cons_inj first).mpr declines.occurs
    · refine .inr ⟨[], first, trivial, ?_, ⟨lines, rfl⟩⟩
      exact Bool.eq_false_of_not_eq_true wanted

/-! ## Handing lines over -/

theorem Visitor.seen_append (state : σ) (before lines : List Text) :
    visit.seen state (before ++ lines) = visit.seen (visit.seen state before) lines :=
  List.foldl_append

theorem Visitor.visitAll_append (lines more : List Text) (state : σ) :
    visit.visitAll (lines ++ more) state =
      if (visit.visitAll lines state).2 then visit.visitAll more (visit.visitAll lines state).1
      else visit.visitAll lines state := by
  induction lines generalizing state with
  | nil => rfl
  | cons line lines inductionHypothesis =>
    rw [List.cons_append, visitAll, visitAll]
    rcases visit state line with ⟨next, _ | _⟩
    · rfl
    · exact inductionHypothesis next

theorem Visitor.visitAll_of_wants {lines : List Text} {state : σ}
    (wants : visit.Wants state lines) :
    visit.visitAll lines state = (visit.seen state lines, true) := by
  induction lines generalizing state with
  | nil => rfl
  | cons line lines inductionHypothesis =>
    obtain ⟨wanted, wants⟩ := wants
    have step : visit state line = ((visit state line).1, true) := Prod.ext rfl wanted
    rw [visitAll, step]
    exact inductionHypothesis wants

theorem Visitor.visitAll_of_declines {lines before : List Text} {line : Text} {state : σ}
    (declines : visit.Declines state lines before line) :
    visit.visitAll lines state = (visit.seen state (before ++ [line]), false) := by
  obtain ⟨wants, declined, more, rfl⟩ := declines
  have step : visit (visit.seen state before) line =
      ((visit (visit.seen state before) line).1, false) := Prod.ext rfl declined
  rw [List.append_assoc, visit.visitAll_append, visit.visitAll_of_wants wants, if_pos rfl,
    List.singleton_append, visitAll, step, visit.seen_append]
  rfl

/-! ## The lines of a transfer -/

namespace Stream

def linesOf : Stream → List Event → List Text
  | _, [] => []
  | stream, event :: events => (stream.receive event).1 ++ linesOf (stream.receive event).2 events

def after (stream : Stream) (events : List Event) : Stream :=
  events.foldl (fun stream event => (stream.receive event).2) stream

variable (stream : Stream)

theorem linesOf_append (events more : List Event) :
    stream.linesOf (events ++ more) =
      stream.linesOf events ++ (stream.after events).linesOf more := by
  induction events generalizing stream with
  | nil => rfl
  | cons event events inductionHypothesis =>
    rw [List.cons_append, linesOf, linesOf, inductionHypothesis, List.append_assoc]
    rfl

theorem after_append (events more : List Event) :
    stream.after (events ++ more) = (stream.after events).after more := List.foldl_append

theorem linesOf_headers (lines : List Bytes) : stream.linesOf (lines.map .header) = [] := by
  induction lines generalizing stream with
  | nil => rfl
  | cons line lines inductionHypothesis => exact inductionHypothesis _

theorem after_headers (lines : List Bytes) :
    stream.after (lines.map .header) =
      { stream with
        contentType := (lines.reverse.findSome? contentTypeOf?).or stream.contentType } := by
  induction lines using List.reverseRecOn with
  | nil => rfl
  | append_singleton lines line inductionHypothesis =>
    rw [List.map_append, after_append, inductionHypothesis, List.reverse_append,
      List.findSome?_append, Option.or_assoc]
    cases contentTypeOf? line <;> simp [after, receive]

end Stream

theorem cutLines_eq (bytes : Bytes) : cutLines bytes = (ended 0x0A bytes, unended 0x0A bytes) := by
  induction bytes with
  | nil => rfl
  | cons b bytes inductionHypothesis =>
    obtain ⟨piece, pieces, cut⟩ := List.exists_cons_of_ne_nil (List.splitOn_ne_nil 0x0A bytes)
    rw [cutLines, inductionHypothesis]
    unfold ended unended
    rw [List.splitOn_cons_eq_if_modifyHead, cut]
    by_cases feed : b = 0x0A
    · simp [feed]
    · cases pieces <;> simp [feed]

/-! ## Lines of bytes -/

/-- What the text of a line is by a content type: one carriage return at its end is dropped, and what
is left is decoded by itself. -/
inductive Reads (contentType : Option Text) : Bytes → Text → Prop
  | returned (content : Bytes) :
    Reads contentType (content ++ [0x0D])
      (Charset.decodeLabelled (contentType.bind charsetLabel?) content)
  | whole {content : Bytes} (noReturn : content.getLast? ≠ some 0x0D) :
    Reads contentType content
      (Charset.decodeLabelled (contentType.bind charsetLabel?) content)

theorem Stream.reads_textOf (stream : Stream) (line : Bytes) :
    Reads stream.contentType line (stream.textOf line) := by
  rw [textOf, trimReturn]
  split
  next ends =>
    obtain ⟨content, rfl⟩ := List.getLast?_eq_some_iff.mp ends
    rw [List.dropLast_concat]
    exact .returned content
  next noReturn => exact .whole noReturn

theorem Reads.eq_textOf {contentType : Option Text} {line : Bytes} {text : Text}
    (reads : Reads contentType line text) : text = Stream.textOf ⟨contentType, []⟩ line := by
  rw [Stream.textOf, trimReturn]
  cases reads with
  | returned content => rw [if_pos List.getLast?_concat, List.dropLast_concat]
  | whole noReturn => rw [if_neg noReturn]

theorem forall₂_reads_iff {contentType : Option Text} {pieces : List Bytes} {lines : List Text} :
    List.Forall₂ (Reads contentType) pieces lines ↔
      lines = pieces.map (Stream.textOf ⟨contentType, []⟩) := by
  constructor
  · intro read
    induction read with
    | nil => rfl
    | cons first _ inductionHypothesis =>
      rw [List.map_cons, first.eq_textOf, inductionHypothesis]
  · rintro rfl
    rw [List.forall₂_map_right_iff, List.forall₂_same]
    exact fun line _ => Stream.reads_textOf ⟨contentType, []⟩ line

theorem Stream.linesOf_chunks (stream : Stream) (clean : 0x0A ∉ stream.pending)
    (chunks : List Bytes) :
    stream.linesOf (chunks.map .chunk) =
        (ended 0x0A (stream.pending ++ chunks.flatten)).map stream.textOf ∧
      stream.after (chunks.map .chunk) =
        { stream with pending := unended 0x0A (stream.pending ++ chunks.flatten) } := by
  induction chunks generalizing stream with
  | nil =>
    rw [List.flatten_nil, List.append_nil, ended_of_not_mem clean, unended_of_not_mem clean]
    exact ⟨rfl, rfl⟩
  | cons chunk chunks inductionHypothesis =>
    have received : stream.receive (.chunk chunk) =
        ((ended 0x0A (stream.pending ++ chunk)).map stream.textOf,
          { stream with pending := unended 0x0A (stream.pending ++ chunk) }) := by
      rw [receive, cutLines_eq]
    obtain ⟨lines, rest⟩ := inductionHypothesis
      { stream with pending := unended 0x0A (stream.pending ++ chunk) } (not_mem_unended _)
    rw [List.flatten_cons, ← List.append_assoc]
    constructor
    · rw [List.map_cons, linesOf, received, ended_append (stream.pending ++ chunk),
        List.map_append]
      exact congrArg _ lines
    · change (stream.receive (.chunk chunk)).2.after (chunks.map .chunk) = _
      rw [received, unended_append (stream.pending ++ chunk)]
      exact rest

/-! ## Visiting a transfer -/

theorem Visitor.deliver_take (ending : Except TransferFault Unit) (events : List Event)
    (stream : Stream) (state : σ) :
    ∃ left, deliver visit.take ending events (stream, state) =
        (let visited := visit.visitAll (stream.linesOf events) state
        ⟨(left, visited.1), !visited.2, if visited.2 then ending else .error .notTaken⟩) ∧
      ((visit.visitAll (stream.linesOf events) state).2 = true → left = stream.after events) := by
  induction events generalizing stream state with
  | nil => exact ⟨stream, rfl, fun _ => rfl⟩
  | cons event events inductionHypothesis =>
    rw [Stream.linesOf, visit.visitAll_append, deliver, take]
    rcases visited : visit.visitAll (stream.receive event).1 state with ⟨next, _ | _⟩
    · refine ⟨(stream.receive event).2, ?_, nofun⟩
      simp only [visited]
      rfl
    · simp only [visited, if_true]
      exact inductionHypothesis (stream.receive event).2 next

namespace Transfer

variable (transfer : Transfer) (state : σ) (address : Text)

def lines (transfer : Transfer) : List Text := Stream.start.linesOf transfer.events

/-- The line behind the last line feed of a transfer, if anything is there. -/
def lastLine (transfer : Transfer) : List Text :=
  let stream := Stream.start.after transfer.events
  if stream.pending = [] then [] else [stream.textOf stream.pending]

theorem visitLines_of_declines {before : List Text} {line : Text}
    (declines : visit.Declines state transfer.lines before line) :
    transfer.visitLines visit state address = (visit.seen state (before ++ [line]), .ok ()) := by
  obtain ⟨left, delivered, -⟩ :=
    visit.deliver_take transfer.ending transfer.events .start state
  have visited := visit.visitAll_of_declines declines
  rw [lines] at visited
  rw [visited] at delivered
  simp only [visitLines, perform, delivered]
  rfl

theorem visitLines_of_wants (wants : visit.Wants state transfer.lines) :
    transfer.visitLines visit state address =
      match transfer.ending, transfer.checkStatus address with
      | .error fault, _ =>
        (visit.seen state transfer.lines, .error (transfer.failure address fault))
      | .ok (), .error error => (visit.seen state transfer.lines, .error error)
      | .ok (), .ok () => (visit.seen state (transfer.lines ++ transfer.lastLine), .ok ()) := by
  obtain ⟨left, delivered, complete⟩ :=
    visit.deliver_take transfer.ending transfer.events .start state
  have visited := visit.visitAll_of_wants wants
  rw [lines] at visited
  rw [visited] at delivered complete
  obtain rfl := complete rfl
  simp only [visitLines, perform, delivered, if_true]
  cases transfer.ending with
  | error fault => rfl
  | ok =>
    cases transfer.checkStatus address with
    | error error => rfl
    | ok =>
      by_cases nothing : (Stream.start.after transfer.events).pending = []
      · simp [lastLine, lines, nothing]
      · simp [lastLine, lines, nothing, Visitor.seen]

theorem visitLines_congr {one other : Transfer} (lines : one.lines = other.lines)
    (lastLine : one.lastLine = other.lastLine) (ending : one.ending = other.ending)
    (status : one.status = other.status) :
    one.visitLines visit state address = other.visitLines visit state address := by
  have check : one.checkStatus address = other.checkStatus address := by
    rw [checkStatus, checkStatus, status]
  rcases visit.wants_or_declines state other.lines with wants | ⟨before, line, declines⟩
  · rw [one.visitLines_of_wants visit state address (lines ▸ wants),
      other.visitLines_of_wants visit state address wants, lines, lastLine, ending, check]
    simp only [failure, check]
  · rw [one.visitLines_of_declines visit state address (lines ▸ declines),
      other.visitLines_of_declines visit state address declines]

end Transfer

/-! ## Transfers of a body -/

/-- What comes in of a body: the header lines before it, its chunks, and the trailers. -/
def inOrder (head chunks trailers : List Bytes) : List Event :=
  head.map .header ++ (chunks.map .chunk ++ trailers.map .header)

theorem linesOf_inOrder (head chunks trailers : List Bytes) :
    Stream.start.linesOf (inOrder head chunks trailers) =
        (ended 0x0A chunks.flatten).map
          (Stream.textOf ⟨head.reverse.findSome? contentTypeOf?, []⟩) ∧
      Stream.start.after (inOrder head chunks trailers) =
        ⟨(head ++ trailers).reverse.findSome? contentTypeOf?, unended 0x0A chunks.flatten⟩ := by
  have begins : Stream.start.after (head.map .header) =
      ⟨head.reverse.findSome? contentTypeOf?, []⟩ := by
    rw [Stream.after_headers]
    simp [Stream.start]
  obtain ⟨lines, rest⟩ := Stream.linesOf_chunks
    ⟨head.reverse.findSome? contentTypeOf?, []⟩ List.not_mem_nil chunks
  constructor
  · rw [inOrder, Stream.linesOf_append, Stream.linesOf_append, Stream.linesOf_headers,
      Stream.linesOf_headers, begins, lines, List.append_nil]
    rfl
  · rw [inOrder, Stream.after_append, Stream.after_append, begins, rest, Stream.after_headers,
      List.reverse_append, List.findSome?_append]
    rfl

/-- The lines of a body are read by the content type that its header gives, the one behind the last
line feed by that of the trailers if they give one. -/
theorem exists_lines_inOrder (head chunks trailers : List Bytes) :
    ∃ contentType lastType lines last,
      LastOf GivesContentType head contentType ∧
      LastOf GivesContentType (head ++ trailers) lastType ∧
      List.Forall₂ (Reads contentType) (ended 0x0A chunks.flatten) lines ∧
      Reads lastType (unended 0x0A chunks.flatten) last ∧
      ∀ transfer : Transfer, transfer.events = inOrder head chunks trailers →
        transfer.lines = lines ∧
        transfer.lastLine = if unended 0x0A chunks.flatten = [] then [] else [last] := by
  let streaming : Stream := ⟨head.reverse.findSome? contentTypeOf?, []⟩
  let ending : Stream := ⟨(head ++ trailers).reverse.findSome? contentTypeOf?, []⟩
  obtain ⟨lines, rest⟩ := linesOf_inOrder head chunks trailers
  refine ⟨_, _, (ended 0x0A chunks.flatten).map streaming.textOf, _,
    lastOf_givesContentType_iff.mpr rfl, lastOf_givesContentType_iff.mpr rfl, ?_,
    ending.reads_textOf _, fun transfer comes => ⟨?_, ?_⟩⟩
  · exact forall₂_reads_iff.mpr rfl
  · rw [Transfer.lines, comes, lines]
  · rw [Transfer.lastLine, comes, rest]
    rfl

/-- The chunks of a body only matter for the bytes that they make up.  Its lines are seen up to the
first one that the visitor declines, and then the visit is over; if there is none, all lines are
seen that line feeds end, and of a complete transfer with a status of success the last line, too. -/
theorem visitLines_by_body (visit : Visitor σ) (state : σ) (address : Text)
    (head chunks trailers : List Bytes) (ending : Except TransferFault Unit)
    (status : Except TransferFault Nat) (reported : Except TransferFault (Option Text)) :
    let transfer : Transfer := ⟨inOrder head chunks trailers, ending, status, reported⟩
    let body := chunks.flatten
    (∀ others, others.flatten = body →
      Transfer.visitLines visit ⟨inOrder head others trailers, ending, status, reported⟩ state
          address = transfer.visitLines visit state address) ∧
    ((ended 0x0A body).flatMap (· ++ [0x0A]) ++ unended 0x0A body = body ∧
      (∀ piece ∈ ended 0x0A body, 0x0A ∉ piece) ∧ 0x0A ∉ unended 0x0A body) ∧
    ∃ contentType lastType lines last,
      LastOf GivesContentType head contentType ∧
      LastOf GivesContentType (head ++ trailers) lastType ∧
      List.Forall₂ (Reads contentType) (ended 0x0A body) lines ∧
      Reads lastType (unended 0x0A body) last ∧
      (visit.Wants state lines ∨ ∃ before line, visit.Declines state lines before line) ∧
      (∀ before line, visit.Declines state lines before line →
        transfer.visitLines visit state address = (visit.seen state (before ++ [line]), .ok ())) ∧
      (visit.Wants state lines →
        (∀ fault, ending = .error fault →
          transfer.visitLines visit state address =
            (visit.seen state lines, .error (transfer.failure address fault))) ∧
        (∀ error, ending = .ok () → transfer.checkStatus address = .error error →
          transfer.visitLines visit state address = (visit.seen state lines, .error error)) ∧
        (∀ code, ending = .ok () → status = .ok code → 200 ≤ code ∧ code < 300 →
          transfer.visitLines visit state address =
            (visit.seen state (lines ++ if unended 0x0A body = [] then [] else [last]),
              .ok ()))) := by
  intro transfer body
  obtain ⟨contentType, lastType, lines, last, inForce, lastInForce, read, readLast, handed⟩ :=
    exists_lines_inOrder head chunks trailers
  obtain ⟨sameLines, sameLast⟩ := handed transfer rfl
  refine ⟨fun others same => ?_, ⟨flatMap_ended_append_unended body,
    fun piece member => not_mem_of_mem_ended member, not_mem_unended body⟩,
    contentType, lastType, lines, last, inForce, lastInForce, read, readLast,
    visit.wants_or_declines state lines, fun before line declines => ?_, fun wants => ?_⟩
  · have sameParts := linesOf_inOrder head others trailers
    rw [same] at sameParts
    obtain ⟨ends, rest⟩ := linesOf_inOrder head chunks trailers
    apply Transfer.visitLines_congr
    · exact sameParts.1.trans ends.symm
    · rw [Transfer.lastLine, Transfer.lastLine, sameParts.2, rest]
    · rfl
    · rfl
  · exact transfer.visitLines_of_declines visit state address (sameLines ▸ declines)
  · have result := transfer.visitLines_of_wants visit state address (sameLines ▸ wants)
    rw [sameLines, sameLast] at result
    refine ⟨fun fault broken => ?_, fun error complete failed => ?_,
      fun code complete found success => ?_⟩
    · rw [result, show transfer.ending = ending from rfl, broken]
    · rw [result, show transfer.ending = ending from rfl, complete, failed]
    · have passed : transfer.checkStatus address = .ok () := by
        rw [Transfer.checkStatus, show transfer.status = status from rfl, found]
        exact if_pos success
      rw [result, show transfer.ending = ending from rfl, complete, passed]

/-- The header of an answer in a character set of its own. -/
def japaneseHead : List Bytes :=
  headerLines ["HTTP/1.1 200 OK", "Content-Type: text/html; charset=Shift_JIS"]

/-- A letter that ends at two carriage returns and a line feed, and a character of two bytes.  The
chunks are cut before the line feed and in the character. -/
def japaneseChunks : List Bytes := [[0xB1, 0x0D, 0x0D], [0x0A, 0xF0], [0x40]]

theorem visitLines_by_body_japanese :
    let transfer : Transfer := ⟨inOrder japaneseHead japaneseChunks [], .ok (), .ok 200, .ok none⟩
    transfer.visitLines (fun lines line => (lines ++ [line], true)) [] [] =
        (["ｱ\r".toList, "\uE000".toList], .ok ()) ∧
      transfer.visitLines (fun lines line => (lines ++ [line], false)) [] [] =
        (["ｱ\r".toList], .ok ()) := by
  intro transfer
  have pieces : ended 0x0A japaneseChunks.flatten = [[0xB1, 0x0D, 0x0D]] := by decide +kernel
  have rest : unended 0x0A japaneseChunks.flatten = [0xF0, 0x40] := by decide +kernel
  have named : japaneseHead.reverse.findSome? contentTypeOf? =
      some "text/html; charset=Shift_JIS".toList := by decide +kernel
  have first : Stream.textOf ⟨some "text/html; charset=Shift_JIS".toList, []⟩
      [0xB1, 0x0D, 0x0D] = "ｱ\r".toList := by decide +kernel
  have second : Stream.textOf ⟨some "text/html; charset=Shift_JIS".toList, []⟩
      [0xF0, 0x40] = "\uE000".toList := by decide +kernel
  constructor
  · obtain ⟨-, -, contentType, lastType, lines, last, inForce, lastInForce, read, readLast, -, -,
      wants⟩ := visitLines_by_body (fun lines line => (lines ++ [line], true)) [] []
        japaneseHead japaneseChunks [] (.ok ()) (.ok 200) (.ok none)
    rw [lastOf_givesContentType_iff, named] at inForce
    subst inForce
    rw [List.append_nil, lastOf_givesContentType_iff, named] at lastInForce
    subst lastInForce
    obtain rfl := forall₂_reads_iff.mp read
    obtain rfl := readLast.eq_textOf
    rw [pieces, rest, List.map_singleton, first, second] at wants
    exact (wants ⟨rfl, trivial⟩).2.2 200 rfl rfl (by decide)
  · obtain ⟨-, -, contentType, lastType, lines, last, inForce, -, read, -, -, declines, -⟩ :=
      visitLines_by_body (fun lines line => (lines ++ [line], false)) [] []
        japaneseHead japaneseChunks [] (.ok ()) (.ok 200) (.ok none)
    rw [lastOf_givesContentType_iff, named] at inForce
    subst inForce
    obtain rfl := forall₂_reads_iff.mp read
    rw [pieces, List.map_singleton, first] at declines
    exact declines [] "ｱ\r".toList ⟨trivial, rfl, [], rfl⟩

end DocExcerpt.Http
