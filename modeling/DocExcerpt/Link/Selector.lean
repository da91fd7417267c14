import DocExcerpt.Text.Basic

/-!
# Selecting link values in a page

A selector names a tag and the attribute that must follow it directly, such as `<A HREF="`. It
finds the attribute values of a page from left to right. Letter case does not matter for the tag
and the attribute; a value holds no `>` and ends at the next double quote. Anything else, such as
an attribute in between or a missing quote, is passed over.
-/

namespace DocExcerpt.Link

/-- A tag and its first attribute, both in capital letters. -/
structure Selector where
  tag : Text
  field : Text
  capitals : ∀ c ∈ tag ++ field, c.isUpper = true

/-- A selected value between the text up to its opening quote and the text after its closing
quote. -/
structure Selection where
  opening : Text
  value : Text
  rest : Text

namespace Selector

def anchors : Selector := ⟨"A".toList, "HREF".toList, List.all_eq_true.1 rfl⟩

def images : Selector := ⟨"IMG".toList, "SRC".toList, List.all_eq_true.1 rfl⟩

/-- A blank that may separate a tag from its attribute. -/
def isBlank (c : Char) : Bool :=
  c = ' ' || c = '\t' || c = '\n' || c = '\r' || c = '\x0C'

def isValueChar (c : Char) : Bool := c ≠ '"' && c ≠ '>'

/-- Cuts a text that begins with `phrase`, in any letter case, behind that phrase. -/
def cutPhrase? (phrase t : Text) : Option (Text × Text) :=
  if Text.upper (t.take phrase.length) = phrase then
    some (t.take phrase.length, t.drop phrase.length)
  else none

/-- Cuts a text behind the opening quote of a value, if it begins with the tag, blanks, and the
field. -/
def cutOpening? (s : Selector) (t : Text) : Option (Text × Text) :=
  match cutPhrase? ('<' :: s.tag) t with
  | none => none
  | some (tag, afterTag) =>
    match cutPhrase? (s.field ++ ['=', '"']) (afterTag.dropWhile isBlank) with
    | none => none
    | some (field, inside) =>
      if (afterTag.takeWhile isBlank).isEmpty then none
      else some (tag ++ afterTag.takeWhile isBlank ++ field, inside)

/-- The selection at the head of a text, if there is one. -/
def select? (s : Selector) (t : Text) : Option Selection :=
  match s.cutOpening? t with
  | none => none
  | some (opening, inside) =>
    match inside.dropWhile isValueChar with
    | '"' :: rest => some ⟨opening, inside.takeWhile isValueChar, rest⟩
    | _ => none

theorem append_of_cutPhrase? {phrase t head tail : Text}
    (found : cutPhrase? phrase t = some (head, tail)) : t = head ++ tail := by
  unfold cutPhrase? at found
  split at found
  · cases found; simp
  · cases found

theorem append_of_cutOpening? {s : Selector} {t opening inside : Text}
    (found : s.cutOpening? t = some (opening, inside)) : t = opening ++ inside := by
  unfold cutOpening? at found
  split at found
  · cases found
  · rename_i tag afterTag tagFound
    split at found
    · cases found
    · rename_i field rest fieldFound
      split at found
      · cases found
      · cases found
        have ht := append_of_cutPhrase? tagFound
        have hf := append_of_cutPhrase? fieldFound
        rw [ht, List.append_assoc, List.append_assoc, ← hf, List.takeWhile_append_dropWhile]

theorem append_of_select? {s : Selector} {t : Text} {found : Selection}
    (h : s.select? t = some found) :
    t = found.opening ++ found.value ++ '"' :: found.rest := by
  unfold select? at h
  split at h
  · cases h
  · rename_i opening inside cutFound
    split at h
    · rename_i rest eq
      cases h
      rw [append_of_cutOpening? cutFound, List.append_assoc, ← eq,
        List.takeWhile_append_dropWhile]
    · cases h

/-- Replaces the values on a page: what `convert` makes of a selected value takes its place, and all
the rest stays. The text behind a closing quote is searched afresh, so selections do not overlap. -/
def replaceValues (s : Selector) (convert : Text → Text) (t : Text) : Text :=
  match _found : s.select? t with
  | some found => found.opening ++ convert found.value ++ '"' :: replaceValues s convert found.rest
  | none =>
    match t with
    | [] => []
    | c :: t => c :: replaceValues s convert t
termination_by t.length
decreasing_by
  · have := congrArg List.length (append_of_select? _found)
    simp at this
    omega
  · simp

end Selector

end DocExcerpt.Link
