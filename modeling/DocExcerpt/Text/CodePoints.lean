import DocExcerpt.Text.Digit

/-!
# Tables of code points

The properties of characters are given by tables. A table is written as rows between commas, each
row as hexadecimal numbers between blanks or line ends; a row of one or two numbers is a range.
-/

namespace DocExcerpt.CodePoints

/-- What has been read of a table: the rows that are complete and the numbers of the last one, both
in reverse, and the digits of a number, if one is being read. -/
structure Reading where
  rows : List (List Nat)
  row : List Nat
  number : Option Nat

def Reading.endNumber (reading : Reading) : Reading :=
  match reading.number with
  | some n => ⟨reading.rows, n :: reading.row, none⟩
  | none => reading

def Reading.endRow (reading : Reading) : Reading :=
  let reading := reading.endNumber
  ⟨reading.row.reverse :: reading.rows, [], none⟩

def Reading.step (reading : Reading) (c : Char) : Reading :=
  if c = ',' then reading.endRow
  else
    match digitOfBase? 16 c with
    | some d => { reading with number := some (reading.number.getD 0 * 16 + d) }
    | none => reading.endNumber

def rows (table : String) : List (List Nat) :=
  (table.toList.foldl Reading.step ⟨[], [], none⟩).endRow.rows.reverse

/-- Ranges of code points, each with its first and its last one. -/
abbrev Ranges := List (Nat × Nat)

def rangeOf? : List Nat → Option (Nat × Nat)
  | [n] => some (n, n)
  | first :: last :: _ => some (first, last)
  | [] => none

def ranges (table : String) : Ranges := (rows table).filterMap rangeOf?

def Ranges.has (ranges : Ranges) (c : Char) : Bool :=
  ranges.any fun range => range.1 ≤ c.toNat && c.toNat ≤ range.2

end DocExcerpt.CodePoints
