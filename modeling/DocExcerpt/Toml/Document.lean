import DocExcerpt.Toml.Scalar

/-!
# TOML documents

A document is a sequence of expressions: entries, headers, blank lines and comments. Entries go to
the table of the last header before them. Values nest to a fixed depth.
-/

namespace DocExcerpt.Toml

/-- The number of arrays and tables in braces that may stand inside one another. -/
def maxDepth : Nat := 79

def maxKeyParts : Nat := 79

/-! ## Keys -/

def isBareKeyChar (c : Char) : Bool := c.isAlphanum || c = '-' || c = '_'

def keyPart (t : Text) : Option (Text × Text) :=
  if t.head? = some '"' ∨ t.head? = some '\'' then lineString t
  else
    let part := t.takeWhile isBareKeyChar
    if part.isEmpty then none else some (part, t.dropWhile isBareKeyChar)

/-- The parts of a dotted key, with blanks around each. Every part takes up a character, so the
length of the text is enough fuel. -/
def keyParts : Nat → Parser (List Text)
  | 0, _ => none
  | fuel + 1, t => do
    let (part, rest) ← keyPart (skipBlanks t)
    match skipBlanks rest with
    | '.' :: rest => do
      let (parts, rest) ← keyParts fuel rest
      some (part :: parts, rest)
    | rest => some ([part], rest)

def key (t : Text) : Option ((List Text × Text) × Text) := do
  let (parts, rest) ← keyParts (t.length + 1) t
  if maxKeyParts < parts.length then none
  let last ← parts.getLast?
  some ((parts.dropLast, last), rest)

/-! ## Values -/

def arrayItems (item : Parser Value) : Nat → Parser (List Value)
  | 0, _ => none
  | fuel + 1, t =>
    match skipFiller false t with
    | ']' :: rest => some ([], rest)
    | t => do
      let (first, rest) ← item t
      match skipFiller false rest with
      | ',' :: rest => do
        let (others, rest) ← arrayItems item fuel rest
        some (first :: others, rest)
      | ']' :: rest => some ([first], rest)
      | _ => none

/-- The entries of a table in braces, added to those before them. -/
def braceEntries (item : Parser Value) : Nat → Entries → Parser Entries
  | 0, _, _ => none
  | fuel + 1, entries, t => do
    let ((path, last), rest) ← key t
    let (value, rest) ← item (skipBlanks (← afterChar? '=' rest))
    let entries ← entries.add path last value .braces
    match skipBlanks rest with
    | ',' :: rest => braceEntries item fuel entries rest
    | '}' :: rest => some (entries, rest)
    | _ => none

def scalar (t : Text) : Option (Value × Text) :=
  match t with
  | 't' :: 'r' :: 'u' :: 'e' :: rest => some (.boolean true, rest)
  | 'f' :: 'a' :: 'l' :: 's' :: 'e' :: rest => some (.boolean false, rest)
  | '"' :: _ | '\'' :: _ => (string t).map fun (content, rest) => (.string content, rest)
  | t =>
    match afterDateTime? t with
    | some rest => some (.dateTime, rest)
    | none =>
      match float t with
      | some (x, rest) => some (.float x, rest)
      | none => (integer t).map fun (n, rest) => (.integer n, rest)

/-- A value in which arrays and tables may nest to a given depth. -/
def value : Nat → Parser Value
  | 0, t => scalar t
  | depth + 1, t =>
    match t with
    | '[' :: t =>
      (arrayItems (value depth) (t.length + 1) t).map fun (items, rest) => (.array items, rest)
    | '{' :: t =>
      match skipBlanks t with
      | '}' :: rest => some (.table .braces [], rest)
      | t =>
        (braceEntries (value depth) (t.length + 1) [] t).map fun (entries, rest) =>
          (.table .braces entries, rest)
    | t => scalar t

/-! ## Expressions -/

/-- The entries read so far, and the path of the table that gets the next one. -/
structure Progress where
  entries : Entries
  table : List Text

def entry (progress : Progress) (t : Text) : Option (Progress × Text) := do
  let ((path, last), rest) ← key t
  let (value, rest) ← value maxDepth (skipBlanks (← afterChar? '=' rest))
  let rest ← afterExpression? rest
  let entries ← progress.entries.changeAt false (fun origin entries =>
    entries.add path last value origin) progress.table .header
  some (⟨entries, progress.table⟩, rest)

def header (progress : Progress) (t : Text) : Option (Progress × Text) :=
  match t with
  | '[' :: '[' :: t => do
    let ((path, last), rest) ← key t
    let rest ← afterExpression? (← afterChar? ']' (← afterChar? ']' rest))
    let entries ← progress.entries.openElement path last
    some (⟨entries, path ++ [last]⟩, rest)
  | '[' :: t => do
    let ((path, last), rest) ← key t
    let rest ← afterExpression? (← afterChar? ']' rest)
    let entries ← progress.entries.openTable path last
    some (⟨entries, path ++ [last]⟩, rest)
  | _ => none

/-- The expressions of a document. Each takes up a character, so the length of the text is enough
fuel. -/
def expressions : Nat → Progress → Text → Option Entries
  | 0, _, _ => none
  | fuel + 1, progress, t =>
    let t := skipBlanks t
    match t with
    | [] => some progress.entries
    | '#' :: _ => do expressions fuel progress (← afterExpression? t)
    | '[' :: _ => do
      let (progress, rest) ← header progress t
      expressions fuel progress rest
    | _ =>
      match afterNewline? t with
      | some rest => expressions fuel progress rest
      | none => do
        let (progress, rest) ← entry progress t
        expressions fuel progress rest

/-- Reads a document: the entries of its outermost table, or nothing if the text is no document. A
byte order mark at its head does not count. -/
def document? (t : Text) : Option Entries :=
  let t := if t.head? = some '\uFEFF' then t.drop 1 else t
  expressions (t.length + 1) ⟨[], []⟩ t

end DocExcerpt.Toml
