import DocExcerpt.Files
import DocExcerpt.Text.Blank

/-!
# Known symbols

The qualified class names that links may refer to, as a set without repetitions. A symbol file
holds one name a line; blanks around a name, blank lines, and lines that begin with `#` do not
count.
-/

namespace DocExcerpt

structure Symbols where
  names : List Text := []
  nodup : names.Nodup := by simp

namespace Symbols

def empty : Symbols := {}

def has (symbols : Symbols) (name : Text) : Bool := symbols.names.contains name

def size (symbols : Symbols) : Nat := symbols.names.length

def isEmpty (symbols : Symbols) : Bool := symbols.names.isEmpty

def insert (symbols : Symbols) (name : Text) : Symbols :=
  if h : name ∈ symbols.names then symbols
  else ⟨name :: symbols.names, List.nodup_cons.2 ⟨h, symbols.nodup⟩⟩

def ofNames (names : List Text) : Symbols := names.foldl insert empty

def isName (line : Text) : Bool := !line.isEmpty && line.head? ≠ some '#'

/-- The set of the names in the text of a symbol file. -/
def ofText (t : Text) : Symbols := ofNames ((t.lines.map Text.trimBlanks).filter isName)

def load (files : FileTree) (base : Location) (path : Path) : Except FileFault Symbols :=
  (files.readText base path).map ofText

theorem has_insert (symbols : Symbols) (added name : Text) :
    (symbols.insert added).has name = (decide (name = added) || symbols.has name) := by
  unfold insert has
  split
  · rename_i mem
    by_cases eq : name = added
    · subst eq; simp [mem]
    · simp [eq]
  · by_cases eq : name = added <;> simp [eq]

end Symbols

end DocExcerpt
