import DocExcerpt.FetchError

/-!
# Reading a page line by line

Reading a page to its end yields lines and then either the end of the page or an error. A line is
ended by a line feed; the line feed and one carriage return before it are dropped, the rest is
decoded as UTF-8. A last line without a line feed is a line, carriage return and all.

A reader may be disturbed: its fetch may be cancelled once a number of line feeds has been read,
and its source may fail at some byte. The cancellation is looked for before each line; a line that
meets the failing byte is lost.
-/

namespace DocExcerpt.Page

/-- A line as stored: its bytes, and whether a line feed ended it. -/
structure RawLine where
  content : Bytes
  ended : Bool
  deriving DecidableEq, Repr

namespace RawLine

def size (line : RawLine) : Nat := line.content.length + if line.ended then 1 else 0

/-- The bytes of a line without the carriage return that belongs to its end. -/
def trimmed (line : RawLine) : Bytes :=
  if line.ended ∧ line.content.getLast? = some 0x0D then line.content.dropLast else line.content

def text (line : RawLine) : Text := Utf8.decode line.trimmed

def ofBytes : Bytes → List RawLine
  | [] => []
  | b :: bytes =>
    if b = 0x0A then ⟨[], true⟩ :: ofBytes bytes
    else
      match ofBytes bytes with
      | [] => [⟨[b], false⟩]
      | line :: lines => ⟨b :: line.content, line.ended⟩ :: lines

end RawLine

structure Disturbance where
  /-- The number of line feeds after which the fetch is cancelled. -/
  cancelledAfter : Option Nat
  /-- The number of bytes that can be read, and what happens behind them. -/
  failsAfter : Option (Nat × FileFault)

namespace Disturbance

def none : Disturbance := ⟨.none, .none⟩

/-- The fetch is cancelled before the reader starts, or not at all. -/
def ofCancelled (cancelled : Bool) : Disturbance := ⟨if cancelled then some 0 else .none, .none⟩

/-- The error that the next look at the source meets before it reads `size` bytes, one of which
may be the end of the page. -/
def error? (d : Disturbance) (size : Nat) : Option FetchError :=
  if d.cancelledAfter = some 0 then some .cancelled
  else
    match d.failsAfter with
    | some (limit, fault) => if limit < size then some (.read fault) else .none
    | .none => .none

def after (d : Disturbance) (line : RawLine) : Disturbance where
  cancelledAfter := d.cancelledAfter.map fun n => if line.ended then n - 1 else n
  failsAfter := d.failsAfter.map fun (limit, fault) => (limit - line.size, fault)

end Disturbance

/-- What a reader sees of a page: its lines, and the error that cut them off, if any. -/
structure Reading where
  lines : List Text
  error : Option FetchError
  deriving DecidableEq, Repr

/-- Reads lines under a disturbance. A line without a line feed is only known to be complete once
the end of the page has been met behind it. -/
def Reading.ofLines (d : Disturbance) : List RawLine → Reading
  | [] => ⟨[], d.error? 1⟩
  | line :: lines =>
    match d.error? (line.content.length + 1) with
    | some error => ⟨[], some error⟩
    | none =>
      let rest := Reading.ofLines (d.after line) lines
      ⟨line.text :: rest.lines, rest.error⟩

def Reading.ofBytes (d : Disturbance) (page : Bytes) : Reading :=
  Reading.ofLines d (RawLine.ofBytes page)

end DocExcerpt.Page
