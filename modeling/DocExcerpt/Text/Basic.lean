/-!
# Texts and bytes

A text is a list of characters and a file is a list of bytes, so that every operation on them is a
recursion over a list. This module holds the few operations that the rest of the library shares:
ASCII case, containment, cutting at a separator, and replacement of a fixed phrase.
-/

namespace DocExcerpt

abbrev Text := List Char

abbrev Bytes := List UInt8

namespace Text

/-- The text with every ASCII letter in upper case and every other character unchanged. -/
def upper (t : Text) : Text := t.map Char.toUpper

/-- The text with every ASCII letter in lower case and every other character unchanged. -/
def lower (t : Text) : Text := t.map Char.toLower

def hasPhrase (phrase : Text) : Text → Bool
  | [] => phrase.isEmpty
  | c :: t => phrase.isPrefixOf (c :: t) || hasPhrase phrase t

def afterPhrase? (phrase t : Text) : Option Text :=
  if phrase.isPrefixOf t then some (t.drop phrase.length) else none

/-- What stands before and after the first occurrence of `phrase`. -/
def splitAtPhrase? (phrase : Text) : Text → Option (Text × Text)
  | [] => if phrase.isEmpty then some ([], []) else none
  | c :: t =>
    if phrase.isPrefixOf (c :: t) then some ([], (c :: t).drop phrase.length)
    else (splitAtPhrase? phrase t).map fun cut => (c :: cut.1, cut.2)

def splitAtChar? (mark : Char) : Text → Option (Text × Text)
  | [] => none
  | c :: t =>
    if c = mark then some ([], t) else (splitAtChar? mark t).map fun cut => (c :: cut.1, cut.2)

/-- The pieces between the occurrences of `mark`; one more than there are marks. -/
def splitOnChar (mark : Char) : Text → List Text
  | [] => [[]]
  | c :: t =>
    match splitOnChar mark t with
    | [] => [[c]]
    | piece :: pieces => if c = mark then [] :: piece :: pieces else (c :: piece) :: pieces

/-- Replaces the occurrences of `phrase`, found from left to right and not overlapping, by
`substitute`. An empty phrase is never found. -/
def replaceAll (phrase substitute : Text) (t : Text) : Text :=
  match t with
  | [] => []
  | c :: t =>
    if _found : phrase.isPrefixOf (c :: t) ∧ 0 < phrase.length then
      substitute ++ replaceAll phrase substitute ((c :: t).drop phrase.length)
    else
      c :: replaceAll phrase substitute t
termination_by t.length
decreasing_by
  · simp only [List.length_drop, List.length_cons]; omega
  · simp

/-- The text without the characters at its two ends that satisfy `drop`. -/
def trimBoth (drop : Char → Bool) (t : Text) : Text :=
  ((t.dropWhile drop).reverse.dropWhile drop).reverse

def ofNat (n : Nat) : Text := (Nat.repr n).toList

end Text

end DocExcerpt
