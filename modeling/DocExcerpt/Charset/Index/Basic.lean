import DocExcerpt.Text.Utf8

/-!
# Indexes of characters

The characters of a large set lie in a table. A pair of bytes stands for a row of the table and a
column in it.
-/

namespace DocExcerpt.Charset

/-- A row of an index: its first column that has a character, and the characters from there on. A
replacement character stands where there is none. -/
structure Index.Row where
  first : Nat
  characters : String

/-- A table of characters. Columns are counted up to `width`. -/
structure Index where
  width : Nat
  rows : List Index.Row

namespace Index

def Row.character? (row : Row) (column : Nat) : Option Char :=
  if column < row.first then none
  else (row.characters.toList[column - row.first]?).filter (· ≠ Utf8.replacement)

def character? (index : Index) (row column : Nat) : Option Char :=
  (index.rows[row]?).bind (·.character? column)

/-- The character at a place, where the places are numbered through all rows. -/
def characterAt? (index : Index) (place : Nat) : Option Char :=
  index.character? (place / index.width) (place % index.width)

end Index

end DocExcerpt.Charset
