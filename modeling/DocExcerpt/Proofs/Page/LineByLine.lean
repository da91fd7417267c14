import DocExcerpt.Proofs.Page.Disturbed

/-!
# A page asked for line by line

A reader is asked for one line after the other and decodes each line by itself.  What it answers is
fixed by the text of the whole page: the lines that this text falls into (`Text.FallsInto`), in
order, and then nothing, as often as it is asked (`nextLines_answer_lines_of_decoded`).

The bytes at the end of a line are of ASCII, so that no malformed stretch reaches from a line into
its end or into the next line (`outputFrom_lines`).  One carriage return before a line feed belongs
to the end.  It may therefore be added everywhere without any line being changed, unless there is
one already (`ofBytes_withReturns_iff`).
-/

/-! ## How a text falls into lines -/

namespace DocExcerpt.Text

open Pieces

/-- The lines of a text.  A line feed ends a line, and a carriage return right before it, but only
one, is part of that end.  What is left behind the last line feed is a line as it stands, and no
line if it is empty. -/
inductive FallsInto : Text → List Text → Prop
  | nothing : FallsInto [] []
  | unended {line : Text} (nonempty : line ≠ []) (noFeed : '\n' ∉ line) : FallsInto line [line]
  | feed {line rest : Text} {lines : List Text} (noFeed : '\n' ∉ line)
      (noReturn : line.getLast? ≠ some '\r') (behind : FallsInto rest lines) :
      FallsInto (line ++ '\n' :: rest) (line :: lines)
  | returnAndFeed {line rest : Text} {lines : List Text} (noFeed : '\n' ∉ line)
      (behind : FallsInto rest lines) : FallsInto (line ++ '\r' :: '\n' :: rest) (line :: lines)

theorem FallsInto.eq_lines {t : Text} {lines : List Text} (falls : FallsInto t lines) :
    lines = t.lines := by
  induction falls with
  | nothing => rfl
  | unended nonempty noFeed => rw [lines_of_not_mem noFeed, if_neg nonempty]
  | @feed line rest lines noFeed noReturn behind inductionHypothesis =>
    rw [lines_append_lineFeed noFeed, withoutReturn, if_neg noReturn, inductionHypothesis]
  | @returnAndFeed line rest lines noFeed behind inductionHypothesis =>
    have noFeedInEnd : '\n' ∉ line ++ ['\r'] := by simp [noFeed]
    rw [List.append_cons, lines_append_lineFeed noFeedInEnd, withoutReturn,
      if_pos List.getLast?_concat, List.dropLast_concat, inductionHypothesis]

theorem fallsInto_lines (t : Text) : FallsInto t t.lines := by
  induction t using piecewise '\n' with
  | unended line noFeed =>
    rw [lines_of_not_mem noFeed]
    by_cases nothing : line = []
    · rw [if_pos nothing, nothing]
      exact .nothing
    · rw [if_neg nothing]
      exact .unended nothing noFeed
  | ended line rest noFeed inductionHypothesis =>
    rw [lines_append_lineFeed noFeed, withoutReturn]
    by_cases ends : line.getLast? = some '\r'
    · obtain ⟨line, rfl⟩ := List.getLast?_eq_some_iff.mp ends
      rw [if_pos ends, List.dropLast_concat, List.append_assoc]
      exact .returnAndFeed (fun member => noFeed (List.mem_append_left _ member))
        inductionHypothesis
    · rw [if_neg ends]
      exact .feed noFeed ends inductionHypothesis

theorem fallsInto_iff {t : Text} {lines : List Text} : FallsInto t lines ↔ lines = t.lines :=
  ⟨FallsInto.eq_lines, fun same => same ▸ fallsInto_lines t⟩

end DocExcerpt.Text

namespace DocExcerpt.Page

open Pieces

/-! ## Asking for one line after the other -/

def nextLines : Nat → Reader (List (Option Text))
  | 0 => pure []
  | n + 1 => do
    let answer ← nextLine
    let answers ← nextLines n
    return answer :: answers

variable {reading left : Reading} {lines : List Text} {n : Nat}

theorem nextLines_succ {answer : Option Text} (answers : nextLine reading = .ok (answer, left))
    (n : Nat) : nextLines (n + 1) reading =
      (nextLines n left).map fun (more, rest) => (answer :: more, rest) := by
  rw [nextLines, bind_eq_of_eq_ok answers]
  change (nextLines n left >>= fun read => .ok (answer :: read.1, read.2)) = _
  cases nextLines n left <;> rfl

/-- A reader answers with the lines that it sees, and then with nothing, unless it meets an error. -/
theorem nextLines_eq (n : Nat) (reading : Reading) :
    nextLines n reading = (reading.after n).map fun left =>
      ((List.range n).map (reading.lines[·]?), left) := by
  induction n generalizing reading with
  | zero => rfl
  | succ n inductionHypothesis =>
    have answers : (List.range (n + 1)).map (reading.lines[·]?) =
        reading.lines[0]? :: (List.range n).map (reading.lines[· + 1]?) := by
      rw [List.range_succ_eq_map, List.map_cons, List.map_map]
      rfl
    rw [answers]
    obtain ⟨lines, error⟩ := reading
    cases lines with
    | cons line lines =>
      have first : nextLine ⟨line :: lines, error⟩ = .ok (some line, ⟨lines, error⟩) := rfl
      rw [nextLines_succ first, inductionHypothesis, Reading.after]
      cases Reading.after n ⟨lines, error⟩ <;> rfl
    | nil =>
      cases error with
      | some error => exact bind_eq_of_eq_error rfl
      | none =>
        have first : nextLine ⟨[], none⟩ = .ok (none, ⟨[], none⟩) := rfl
        rw [nextLines_succ first, inductionHypothesis, Reading.after_whole, Reading.after_whole,
          List.drop_nil, List.drop_nil]
        rfl

theorem Reading.le_length_of_after {error : FetchError} (cutOff : reading.error = some error)
    (read : reading.after n = .ok left) : n ≤ reading.lines.length := by
  induction n generalizing reading with
  | zero => exact Nat.zero_le _
  | succ n inductionHypothesis =>
    obtain ⟨lines, _⟩ := reading
    obtain rfl : _ = some error := cutOff
    cases lines with
    | nil => cases read
    | cons line lines => exact Nat.succ_le_succ (inductionHypothesis rfl read)

theorem Reading.getElem?_of_after (sees : reading.Sees lines) (read : reading.after n = .ok left)
    {k : Nat} (bound : k < n) : reading.lines[k]? = lines[k]? := by
  cases met : reading.error with
  | none => rw [sees.whole met]
  | some error =>
    have seen : k < reading.lines.length := bound.trans_le (Reading.le_length_of_after met read)
    obtain ⟨behind, rfl⟩ := sees.seen
    exact (List.getElem?_append_left seen).symm

theorem exists_after_iff_spares (d : Disturbance) (raw : List RawLine) (n : Nat) :
    (∃ left, (Reading.ofLines d raw).after n = .ok left) ↔ ∀ k < n, d.Spares raw k := by
  constructor
  · rintro ⟨left, read⟩
    rcases d.spares_or_strikes_first raw n with spares | ⟨k, bound, error, strikes, first⟩
    · exact spares
    · rw [Reading.after_ofLines_of_strikes bound strikes first] at read
      cases read
  · exact Reading.after_ofLines_of_spares

/-- The first `n` answers are what stands on the page exactly if nothing strikes the first `n`
reads. -/
theorem nextLines_ofBytes_iff (d : Disturbance) (page : Bytes) (n : Nat) :
    (nextLines n (Reading.ofBytes d page)).map (·.1) =
        .ok ((List.range n).map (((RawLine.ofBytes page).map RawLine.text)[·]?)) ↔
      ∀ k < n, d.Spares (RawLine.ofBytes page) k := by
  rw [← exists_after_iff_spares, nextLines_eq, ← Reading.ofBytes]
  cases read : (Reading.ofBytes d page).after n with
  | error error => simp [Except.map]
  | ok left =>
    have sees : (Reading.ofBytes d page).Sees ((RawLine.ofBytes page).map RawLine.text) :=
      Reading.sees_ofLines d _
    have same : (List.range n).map ((Reading.ofBytes d page).lines[·]?) =
        (List.range n).map (((RawLine.ofBytes page).map RawLine.text)[·]?) :=
      List.map_congr_left fun k bound =>
        Reading.getElem?_of_after sees read (List.mem_range.mp bound)
    rw [same]
    exact iff_of_true rfl ⟨left, rfl⟩

/-! ## Decoding in one piece -/

def RawLine.ending (line : RawLine) : Bytes :=
  if line.ended then if line.content.getLast? = some 0x0D then [0x0D, 0x0A] else [0x0A] else []

theorem trimmed_append_ending (line : RawLine) :
    line.trimmed ++ line.ending = line.content ++ if line.ended then [0x0A] else [] := by
  obtain ⟨content, ended⟩ := line
  cases ended with
  | false => rfl
  | true =>
    by_cases ends : content.getLast? = some 0x0D
    · obtain ⟨content, rfl⟩ := List.getLast?_eq_some_iff.mp ends
      simp [RawLine.trimmed, RawLine.ending]
    · simp [RawLine.trimmed, RawLine.ending, ends]

theorem outputFrom_trimmed_append_ending (line : RawLine) :
    Utf8.outputFrom .rest (line.trimmed ++ line.ending) =
      Utf8.outputFrom .rest line.trimmed ++ Utf8.outputFrom .rest line.ending := by
  unfold RawLine.ending
  split_ifs
  · exact Utf8.outputFrom_append_ascii .rest line.trimmed (b := 0x0D) (by decide) [0x0A]
  · exact Utf8.outputFrom_append_ascii .rest line.trimmed (b := 0x0A) (by decide) []
  · simp [Utf8.outputFrom, Utf8.finish]

/-- What may be done to a page behind each line feed anew is done to its lines one by one. -/
theorem flatMap_lines {β : Type} {f : Bytes → List β} (nothing : f [] = [])
    (cut : ∀ line rest, f (line ++ 0x0A :: rest) = f (line ++ [0x0A]) ++ f rest) (page : Bytes) :
    ((RawLine.ofBytes page).flatMap fun line => f (line.trimmed ++ line.ending)) = f page := by
  -- Whether a return belongs to the end does not matter here, so the ends are put back first.
  simp only [trimmed_append_ending]
  induction page using piecewise (0x0A : UInt8) with
  | unended line noFeed =>
    rw [RawLine.ofBytes_of_not_mem noFeed]
    by_cases empty : line = []
    · rw [if_pos empty, empty, nothing]
      rfl
    · simp [if_neg empty]
  | ended line rest noFeed inductionHypothesis =>
    rw [RawLine.ofBytes_append_lineFeed noFeed, List.flatMap_cons, inductionHypothesis, cut]
    rfl

theorem flatMap_trimmed_append_ending (page : Bytes) :
    ((RawLine.ofBytes page).flatMap fun line => line.trimmed ++ line.ending) = page :=
  flatMap_lines (f := id) rfl (fun line rest => List.append_cons line 0x0A rest) page

/-- The characters and the malformed stretches of a page are those of its lines and their ends. -/
theorem outputFrom_lines (page : Bytes) :
    Utf8.outputFrom .rest page = (RawLine.ofBytes page).flatMap fun line =>
      Utf8.outputFrom .rest line.trimmed ++ Utf8.outputFrom .rest line.ending := by
  simp only [← outputFrom_trimmed_append_ending]
  refine (flatMap_lines rfl (fun line rest => ?_) page).symm
  have feed : (0x0A : UInt8) < 0x80 := by decide
  rw [Utf8.outputFrom_append_ascii .rest line feed, Utf8.outputFrom_append_ascii .rest line feed,
    List.append_assoc]
  rfl

/-! ## Carriage returns added to line feeds -/

def withReturns (page : Bytes) : Bytes :=
  page.flatMap fun b => if b = 0x0A then [0x0D, 0x0A] else [b]

theorem withReturns_of_not_mem {line : Bytes} (noFeed : 0x0A ∉ line) : withReturns line = line := by
  induction line with
  | nil => rfl
  | cons b line inductionHypothesis =>
    obtain ⟨other, noFeed⟩ := not_or.1 (mt List.mem_cons.2 noFeed)
    rw [withReturns, List.flatMap_cons, if_neg (Ne.symm other), ← withReturns,
      inductionHypothesis noFeed, List.singleton_append]

theorem withReturns_append_lineFeed {line : Bytes} (noFeed : 0x0A ∉ line) (rest : Bytes) :
    withReturns (line ++ 0x0A :: rest) = (line ++ [0x0D]) ++ 0x0A :: withReturns rest := by
  rw [withReturns, List.flatMap_append, ← withReturns, withReturns_of_not_mem noFeed,
    List.append_assoc]
  rfl

/-- The return that is added is the one that is dropped, so that each line is kept as it was
stored. -/
theorem map_text_withReturns (page : Bytes) :
    (RawLine.ofBytes (withReturns page)).map RawLine.text =
      (RawLine.ofBytes page).map (Utf8.decode ·.content) := by
  induction page using piecewise (0x0A : UInt8) with
  | unended line noFeed =>
    rw [withReturns_of_not_mem noFeed, RawLine.ofBytes_of_not_mem noFeed]
    by_cases nothing : line = []
    · rw [if_pos nothing]
      rfl
    · rw [if_neg nothing]
      rfl
  | ended line rest noFeed inductionHypothesis =>
    have noFeedInEnd : 0x0A ∉ line ++ [0x0D] := by simp [noFeed]
    have kept : (RawLine.mk (line ++ [0x0D]) true).text = Utf8.decode line := by
      simp [RawLine.text, RawLine.trimmed]
    rw [withReturns_append_lineFeed noFeed, RawLine.ofBytes_append_lineFeed noFeedInEnd,
      RawLine.ofBytes_append_lineFeed noFeed, List.map_cons, List.map_cons, inductionHypothesis,
      kept]

theorem text_eq_decode_content_iff (line : RawLine) :
    line.text = Utf8.decode line.content ↔ ¬ (line.ended ∧ line.content.getLast? = some 0x0D) := by
  rw [RawLine.text, RawLine.trimmed]
  split_ifs with ends
  · obtain ⟨content, cut⟩ := List.getLast?_eq_some_iff.mp ends.2
    have shorter : Utf8.decode (content ++ [0x0D]) = Utf8.decode content ++ ['\r'] :=
      Utf8.decode_append_ascii content (by decide) []
    rw [cut, List.dropLast_concat, shorter]
    simp [ends]
  · exact iff_of_true rfl ends

/-- A line has a return in its end exactly where the page has one right before a line feed. -/
theorem exists_ended_by_return_iff (page : Bytes) :
    (∃ line ∈ RawLine.ofBytes page, line.ended ∧ line.content.getLast? = some 0x0D) ↔
      [0x0D, 0x0A] <:+: page := by
  constructor
  · rintro ⟨line, isLine, ended, ends⟩
    have ending : line.ending = [0x0D, 0x0A] := by
      rw [RawLine.ending, if_pos ended, if_pos ends]
    have stored : line.trimmed ++ line.ending <:+: page := by
      conv_rhs => rw [← flatMap_trimmed_append_ending page, List.flatMap_def]
      exact List.infix_of_mem_flatten (List.mem_map.mpr ⟨line, isLine, rfl⟩)
    rw [← ending]
    exact (List.suffix_append line.trimmed line.ending).isInfix.trans stored
  · rintro ⟨front, rest, rfl⟩
    have noFeedBefore : 0x0A ∉ unended 0x0A front := not_mem_unended front
    have noFeed : 0x0A ∉ unended 0x0A front ++ [0x0D] := by simp [noFeedBefore]
    refine ⟨⟨unended 0x0A front ++ [0x0D], true⟩, ?_, rfl, List.getLast?_concat⟩
    have isEnded : unended 0x0A front ++ [0x0D] ∈
        Pieces.ended 0x0A ((front ++ [0x0D]) ++ 0x0A :: rest) := by
      rw [ended_append_cons, unended_append, unended_of_not_mem noFeed]
      exact List.mem_append_right _ List.mem_cons_self
    rw [show front ++ [0x0D, 0x0A] ++ rest = (front ++ [0x0D]) ++ 0x0A :: rest by simp,
      RawLine.ofBytes_eq]
    exact List.mem_append_left _ (List.mem_map_of_mem isEnded)

theorem ofBytes_withReturns_iff (page : Bytes) :
    Reading.ofBytes .none (withReturns page) = Reading.ofBytes .none page ↔
      ¬ [0x0D, 0x0A] <:+: page := by
  have kept : Reading.ofBytes .none (withReturns page) = Reading.ofBytes .none page ↔
      ∀ line ∈ RawLine.ofBytes page, line.text = Utf8.decode line.content := by
    rw [Reading.ofBytes_none, Reading.ofBytes_none, map_text_withReturns, Reading.mk.injEq,
      and_iff_left rfl, List.map_inj_left]
    exact forall₂_congr fun _ _ => eq_comm
  rw [kept, ← exists_ended_by_return_iff]
  simp only [text_eq_decode_content_iff, not_exists, not_and]

/-! ## The lines of the decoded page -/

/-- The lines into which the text of a page falls are what a reader of the page answers with, and
behind them it answers with nothing, as often as it is asked.  It has these answers exactly if
neither a cancellation nor a failure strikes the reads that they take.

Each line is decoded by itself, and still every character and every malformed stretch is the one
that stands there when the page is decoded whole.  A carriage return in front of every line feed
changes no line, exactly if there is none in front of any line feed before. -/
theorem nextLines_answer_lines_of_decoded (page : Bytes) :
    ∃ lines : List Text,
      (∀ parts, Text.FallsInto (Utf8.decode page) parts ↔ parts = lines) ∧
      (∀ d n, (nextLines n (Reading.ofBytes d page)).map (·.1) =
          .ok ((List.range n).map (lines[·]?)) ↔
        ∀ k < n, d.Spares (RawLine.ofBytes page) k) ∧
      lines = (RawLine.ofBytes page).map (fun line => Utf8.decode line.trimmed) ∧
      ((RawLine.ofBytes page).flatMap fun line => line.trimmed ++ line.ending) = page ∧
      (Utf8.outputFrom .rest page = (RawLine.ofBytes page).flatMap fun line =>
        Utf8.outputFrom .rest line.trimmed ++ Utf8.outputFrom .rest line.ending) ∧
      (Reading.ofBytes .none (withReturns page) = Reading.ofBytes .none page ↔
        ¬ [0x0D, 0x0A] <:+: page) := by
  refine ⟨(RawLine.ofBytes page).map RawLine.text, ?_, ?_, rfl, ?_, ?_, ?_⟩
  · intro parts
    rw [map_text_ofBytes]
    exact Text.fallsInto_iff
  · exact fun d n => nextLines_ofBytes_iff d page n
  · exact flatMap_trimmed_append_ending page
  · exact outputFrom_lines page
  · exact ofBytes_withReturns_iff page

/-- A page that breaks off a character in front of a line feed, in front of two returns and a line
feed, and in front of a return at its end. -/
def brokenLines : Bytes :=
  [0xE2, 0x82, 0x0A, 0xF0, 0x9F, 0x92, 0x0D, 0x0D, 0x0A, 0xC3, 0x0D]

/-- A cancellation and a failure that come when the broken lines have been read. -/
def tooLate : Disturbance := ⟨some 3, some (12, .endsEarly)⟩

theorem nextLines_brokenLines :
    (nextLines 5 (Reading.ofBytes tooLate brokenLines)).map (·.1) =
        .ok [some "\uFFFD".toList, some "\uFFFD\r".toList, some "\uFFFD\r".toList, none, none] ∧
      Reading.ofBytes .none (withReturns (brokenLines.take 6)) =
        Reading.ofBytes .none (brokenLines.take 6) ∧
      Reading.ofBytes .none (withReturns brokenLines) ≠ Reading.ofBytes .none brokenLines := by
  obtain ⟨lines, -, answers, decoded, -, -, same⟩ := nextLines_answer_lines_of_decoded brokenLines
  obtain ⟨-, -, -, -, -, -, sameBefore⟩ :=
    nextLines_answer_lines_of_decoded (brokenLines.take 6)
  have spares : ∀ k < 5, tooLate.Spares (RawLine.ofBytes brokenLines) k := by
    intro k bound error strikes
    cases strikes with
    | cancels cancelled past =>
      obtain rfl := Option.some.inj cancelled
      revert k
      decide
    | fails failing met uncancelled =>
      obtain ⟨rfl, rfl⟩ := Prod.mk.inj (Option.some.inj failing)
      clear uncancelled
      revert k
      decide
  refine ⟨?_, sameBefore.mpr (by decide), mt same.mp (by decide)⟩
  rw [(answers tooLate 5).mpr spares, decoded]
  decide +kernel

end DocExcerpt.Page
