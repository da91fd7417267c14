import DocExcerpt.Page.Reading
import DocExcerpt.Proofs.Text.Pieces
import DocExcerpt.Proofs.Text.Utf8
import DocExcerpt.Text.Blank
import Mathlib

/-!
# Lines of bytes and lines of text

The lines of a page are the pieces of its bytes that a line feed ends, and what is left behind the
last line feed if that is not empty.  They are decoded one by one, and yet they are the lines of the
text of the whole page (`map_text_ofBytes`): a line feed and the carriage return before it are the
same in bytes and in text, whatever stands around them.

So a page that is decoded and encoded again has the lines that it had (`ofBytes_encode_decode`).
-/

/-! ## Lines of text -/

namespace DocExcerpt.Text

open Pieces

theorem splitOnChar_eq (mark : Char) (t : Text) : t.splitOnChar mark = t.splitOn mark := by
  induction t with
  | nil => rfl
  | cons c t inductionHypothesis =>
    obtain ⟨piece, pieces, eq⟩ := List.exists_cons_of_ne_nil (List.splitOn_ne_nil mark t)
    rw [splitOnChar, List.splitOn_cons_eq_if_modifyHead, inductionHypothesis, eq]
    simp [beq_iff_eq]

/-- The lines of a text are the pieces that line feeds end, each without its return, and what is
left behind the last line feed, if that is not empty. -/
theorem lines_eq (t : Text) :
    t.lines = (ended '\n' t).map withoutReturn ++
      if unended '\n' t = [] then [] else [unended '\n' t] := by
  rw [lines, splitOnChar_eq, ended, unended]
  have pieces := List.splitOn_ne_nil '\n' t
  rw [List.getLastD_eq_getLast?, List.getLast?_eq_some_getLast pieces]
  cases (List.splitOn '\n' t).getLast pieces <;> rfl

theorem lines_of_not_mem {t : Text} (noFeed : '\n' ∉ t) :
    t.lines = if t = [] then [] else [t] := by
  rw [lines_eq, ended_of_not_mem noFeed, unended_of_not_mem noFeed]
  rfl

theorem lines_append_lineFeed {line : Text} (noFeed : '\n' ∉ line) (rest : Text) :
    lines (line ++ '\n' :: rest) = withoutReturn line :: lines rest := by
  rw [lines_eq, ended_append_mark noFeed, unended_append_mark noFeed, lines_eq]
  rfl

end DocExcerpt.Text

/-! ## Lines of bytes -/

namespace DocExcerpt.Page

open Pieces

namespace RawLine

theorem ofBytes_of_not_mem {bytes : Bytes} (noFeed : 0x0A ∉ bytes) :
    ofBytes bytes = if bytes = [] then [] else [⟨bytes, false⟩] := by
  induction bytes with
  | nil => rfl
  | cons b bytes inductionHypothesis =>
    obtain ⟨other, noFeed⟩ := not_or.1 (mt List.mem_cons.2 noFeed)
    rw [ofBytes, if_neg (Ne.symm other), inductionHypothesis noFeed]
    cases bytes <;> rfl

theorem ofBytes_append_lineFeed {line : Bytes} (noFeed : 0x0A ∉ line) (rest : Bytes) :
    ofBytes (line ++ 0x0A :: rest) = ⟨line, true⟩ :: ofBytes rest := by
  induction line with
  | nil => exact if_pos rfl
  | cons b line inductionHypothesis =>
    obtain ⟨other, noFeed⟩ := not_or.1 (mt List.mem_cons.2 noFeed)
    rw [List.cons_append, ofBytes, if_neg (Ne.symm other), inductionHypothesis noFeed]

/-- The lines of a file are the pieces that line feeds end, and what is left behind the last one, if
that is not empty. -/
theorem ofBytes_eq (bytes : Bytes) :
    ofBytes bytes = (Pieces.ended 0x0A bytes).map (⟨·, true⟩) ++
      if unended 0x0A bytes = [] then [] else [⟨unended 0x0A bytes, false⟩] := by
  induction bytes using piecewise (0x0A : UInt8) with
  | unended piece noFeed =>
    rw [ofBytes_of_not_mem noFeed, ended_of_not_mem noFeed, unended_of_not_mem noFeed]
    rfl
  | ended piece rest noFeed inductionHypothesis =>
    rw [ofBytes_append_lineFeed noFeed, ended_append_mark noFeed, unended_append_mark noFeed,
      inductionHypothesis]
    rfl

theorem ofBytes_append_cons (front rest : Bytes) :
    ofBytes (front ++ 0x0A :: rest) = ofBytes (front ++ [0x0A]) ++ ofBytes rest := by
  simp only [ofBytes_eq, ended_append_cons, unended_append_cons, List.map_append, List.map_cons,
    List.append_assoc, List.cons_append]
  rfl

end RawLine

theorem Reading.ofLines_none (lines : List RawLine) :
    Reading.ofLines .none lines = ⟨lines.map RawLine.text, none⟩ := by
  induction lines with
  | nil => rfl
  | cons line lines inductionHypothesis =>
    change (⟨line.text :: (Reading.ofLines .none lines).lines,
      (Reading.ofLines .none lines).error⟩ : Reading) = _
    rw [inductionHypothesis]
    rfl

theorem Reading.ofBytes_none (page : Bytes) :
    Reading.ofBytes .none page = ⟨(RawLine.ofBytes page).map RawLine.text, none⟩ :=
  Reading.ofLines_none _

/-! ## A source that fails -/

theorem RawLine.sum_size (bytes : Bytes) : ((ofBytes bytes).map size).sum = bytes.length := by
  induction bytes with
  | nil => rfl
  | cons b bytes inductionHypothesis =>
    rw [ofBytes, List.length_cons, ← inductionHypothesis]
    split
    next => simp [size, Nat.add_comm]
    next =>
      cases ofBytes bytes with
      | nil => simp [size]
      | cons line lines =>
        simp only [List.map_cons, List.sum_cons, size, List.length_cons]
        omega

/-- A reader that nobody cancels meets the fault of its source if that comes before the end of the
page or at it. -/
theorem Reading.error_of_failsAfter (limit : Nat) (fault : FileFault) (lines : List RawLine) :
    (Reading.ofLines ⟨none, some (limit, fault)⟩ lines).error =
      if limit ≤ (lines.map RawLine.size).sum then some (.read fault) else none := by
  induction lines generalizing limit with
  | nil => simp [ofLines, Disturbance.error?]
  | cons line lines inductionHypothesis =>
    have size : line.size ≤ line.content.length + 1 := by
      rw [RawLine.size]
      split <;> omega
    have atLeast : line.content.length ≤ line.size := Nat.le_add_right _ _
    rw [ofLines, Disturbance.error?, List.map_cons, List.sum_cons]
    simp only [reduceCtorEq, if_false]
    by_cases met : limit < line.content.length + 1
    · simp only [if_pos met]
      rw [if_pos (by omega)]
    · simp only [if_neg met]
      rw [Disturbance.after, Option.map_none, Option.map_some, inductionHypothesis]
      exact if_congr (by omega) rfl rfl

/-! ## Decoding line by line -/

theorem lineFeed_not_mem_decode {bytes : Bytes} (noFeed : 0x0A ∉ bytes) :
    '\n' ∉ Utf8.decode bytes :=
  fun member => noFeed (Utf8.mem_of_mem_decode (by decide) member)

theorem decode_append_lineFeed (line rest : Bytes) :
    Utf8.decode (line ++ 0x0A :: rest) = Utf8.decode line ++ '\n' :: Utf8.decode rest :=
  Utf8.decode_append_ascii line (by decide) rest

theorem getLast?_decode_eq_return_iff (bytes : Bytes) :
    (Utf8.decode bytes).getLast? = some '\r' ↔ bytes.getLast? = some 0x0D := by
  induction bytes using piecewise (0x0D : UInt8) with
  | unended piece noReturn =>
    have noText : '\r' ∉ Utf8.decode piece :=
      fun member => noReturn (Utf8.mem_of_mem_decode (by decide) member)
    constructor
    · intro ends
      exact absurd (List.mem_of_getLast? ends) noText
    · intro ends
      exact absurd (List.mem_of_getLast? ends) noReturn
  | ended piece bytes noReturn inductionHypothesis =>
    rw [Utf8.decode_append_ascii piece (by decide) bytes]
    by_cases last : bytes = []
    · simp [last, Utf8.decode_eq_nil_iff.2]
    · have lastText : Utf8.decode bytes ≠ [] := mt Utf8.decode_eq_nil_iff.1 last
      rw [List.append_cons piece, List.append_cons (Utf8.decode piece),
        List.getLast?_append_of_ne_nil _ last, List.getLast?_append_of_ne_nil _ lastText]
      exact inductionHypothesis

theorem text_of_ended (line : Bytes) :
    (RawLine.mk line true).text = Text.withoutReturn (Utf8.decode line) := by
  by_cases ends : line.getLast? = some 0x0D
  · obtain ⟨content, rfl⟩ := List.getLast?_eq_some_iff.1 ends
    have cut : Utf8.decode (content ++ [0x0D]) = Utf8.decode content ++ ['\r'] :=
      Utf8.decode_append_ascii content (by decide) []
    simp [RawLine.text, RawLine.trimmed, Text.withoutReturn, cut]
  · have plain := mt (getLast?_decode_eq_return_iff line).1 ends
    simp [RawLine.text, RawLine.trimmed, Text.withoutReturn, ends, plain]

theorem map_text_ofBytes (bytes : Bytes) :
    (RawLine.ofBytes bytes).map RawLine.text = Text.lines (Utf8.decode bytes) := by
  induction bytes using piecewise (0x0A : UInt8) with
  | unended line noFeed =>
    rw [RawLine.ofBytes_of_not_mem noFeed, Text.lines_of_not_mem (lineFeed_not_mem_decode noFeed)]
    by_cases nothing : line = []
    · simp [nothing, Utf8.decode_eq_nil_iff.2]
    · have someText : Utf8.decode line ≠ [] := mt Utf8.decode_eq_nil_iff.1 nothing
      rw [if_neg nothing, if_neg someText]
      rfl
  | ended line rest noFeed inductionHypothesis =>
    rw [RawLine.ofBytes_append_lineFeed noFeed, decode_append_lineFeed,
      Text.lines_append_lineFeed (lineFeed_not_mem_decode noFeed), List.map_cons, text_of_ended,
      inductionHypothesis]

/-- What was malformed on a page is replaced when it is decoded; encoding the text again changes no
line of it. -/
theorem ofBytes_encode_decode (page : Bytes) :
    Reading.ofBytes .none (Utf8.encode (Utf8.decode page)) = Reading.ofBytes .none page := by
  simp only [Reading.ofBytes_none, map_text_ofBytes, Utf8.decode_encode]

end DocExcerpt.Page
