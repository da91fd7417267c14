import DocExcerpt.Source

/-!
# Detection of javadoc pages

The javadoc tool writes a comment near the head of each page. A page is taken for one of its pages
if the comment is among the first lines. A page that cannot be read, or not in time, is not.
-/

namespace DocExcerpt.Detection

def marker : Text := "Generated by javadoc".toList

/-- A search: the number of lines that are still looked at, and whether the marker was found. -/
structure Search where
  remaining : Nat
  found : Bool
  deriving DecidableEq, Repr

def Search.look : Http.Visitor Search := fun search line =>
  match search.remaining with
  | 0 => (search, false)
  | remaining + 1 =>
    if Text.hasPhrase marker line then (⟨remaining, true⟩, false)
    else (⟨remaining, search.found⟩, remaining ≠ 0)

/-- Whether the page at an address is one of the tool's pages, by its first `lookahead` lines. -/
def isJavadoc (sources : Sources) (lookahead : Nat) (address : Text) : Bool :=
  if lookahead = 0 then false
  else
    match sources.visitLines false address Search.look ⟨lookahead, false⟩ with
    | (search, .ok ()) => search.found
    | (_, .error _) => false

end DocExcerpt.Detection
