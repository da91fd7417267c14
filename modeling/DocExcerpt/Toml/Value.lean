import DocExcerpt.Text.Basic

/-!
# TOML values and tables

A table is a list of entries in the order in which its keys first appeared. It remembers how it
came to be, because that decides who may add to it later: a table that a header or braces have
defined is complete, one that was only implied by a longer header may still get a header of its
own, and one that dotted keys have made may get more dotted keys.
-/

namespace DocExcerpt.Toml

inductive Origin where
  /-- It has a header, or is the document. -/
  | header
  /-- The header of a table inside it implies it. -/
  | implied
  /-- Dotted keys have made it. -/
  | dotted
  /-- It is written in braces. -/
  | braces
  deriving DecidableEq, Repr

/-- A value. Dates and times are recognised but not kept. -/
inductive Value where
  | string (content : Text)
  | integer (n : Int)
  | float (x : Float)
  | boolean (b : Bool)
  | dateTime
  | array (items : List Value)
  | table (origin : Origin) (entries : List (Text × Value))
  /-- The tables that headers in double brackets have added. -/
  | tables (elements : List (List (Text × Value)))

abbrev Entries := List (Text × Value)

namespace Entries

def value? (entries : Entries) (key : Text) : Option Value := entries.lookup key

def erase (entries : Entries) (key : Text) : Entries := entries.filter fun entry => entry.1 != key

/-- The entries with the value of a key replaced, in its place. -/
def replace (entries : Entries) (key : Text) (value : Value) : Entries :=
  entries.map fun entry => if entry.1 == key then (key, value) else entry

/-- Changes the table at a path below a table. A key that is missing on the way gets an empty
table, made by dotted keys or implied by a header. On the way, a list of tables stands for its last
one. The change fails if a key on the way holds any other value, or, for dotted keys, a table that
has a header. -/
def changeAt (byDottedKeys : Bool) (change : Origin → Entries → Option Entries) :
    List Text → Origin → Entries → Option Entries
  | [], origin, entries => change origin entries
  | key :: path, _, entries =>
    match entries.value? key with
    | none =>
      let origin := if byDottedKeys then Origin.dotted else .implied
      (changeAt byDottedKeys change path origin []).map fun inner =>
        entries ++ [(key, .table origin inner)]
    | some (.table origin inner) =>
      if origin = .braces ∨ (byDottedKeys ∧ origin = .header) then none
      else
        (changeAt byDottedKeys change path origin inner).map fun inner =>
          entries.replace key (.table origin inner)
    | some (.tables elements) =>
      match elements.getLast? with
      | none => none
      | some last =>
        (changeAt byDottedKeys change path .header last).map fun last =>
          entries.replace key (.tables (elements.dropLast ++ [last]))
    | some _ => none

/-- Adds the value of a dotted key, whose last part is `key`, to a table. The key must be new, and
the table that gets it must be one made by dotted keys exactly if `path` is not empty. -/
def add (path : List Text) (key : Text) (value : Value) : Origin → Entries → Option Entries :=
  changeAt true (fun origin entries =>
    if decide (origin = .dotted) == path.isEmpty ∨ (entries.value? key).isSome then none
    else some (entries ++ [(key, value)])) path

/-- Opens the table of a header `[path.key]`. It must be new or only implied so far; it then moves
behind the tables before it. -/
def openTable (path : List Text) (key : Text) : Entries → Option Entries :=
  changeAt false (fun _ entries =>
    match entries.value? key with
    | none => some (entries ++ [(key, .table .header [])])
    | some (.table .implied inner) => some (entries.erase key ++ [(key, .table .header inner)])
    | some _ => none) path .header

def openElement (path : List Text) (key : Text) : Entries → Option Entries :=
  changeAt false (fun _ entries =>
    match entries.value? key with
    | none => some (entries ++ [(key, .tables [[]])])
    | some (.tables elements) => some (entries.replace key (.tables (elements ++ [[]])))
    | some _ => none) path .header

end Entries

end DocExcerpt.Toml
