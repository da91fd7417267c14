import DocExcerpt.Link.Rule
import Mathlib

/-!
# Which values of a page are selected

A page is cut at its double quotes into segments.  A segment between two others is selected when
the one before it ends in an opening such as `<A HREF=`, it holds no `>`, and the one before it is
not selected itself: that one would be a value, and a value opens nothing.

`Rule.apply_eq_quoted` says that a pass over a page converts the selected segments and leaves every
other character where it is.  The proof compares the scan, which finds one opening after another,
with a pass over segments (`replaceValues_eq`), and that pass with the selection by position
(`convertInOrder_eq`).
-/

namespace DocExcerpt.Link

/-! ## Letter case -/

theorem isAlpha_of_isUpper_toUpper {c : Char} (capital : c.toUpper.isUpper = true) :
    c.isAlpha = true := by
  rwa [Char.isUpper_toUpper_eq_isAlpha] at capital

theorem toUpper_of_not_isAlpha {c : Char} (noLetter : c.isAlpha = false) : c.toUpper = c := by
  apply Char.toUpper_eq_of_not_isLower
  intro lower
  simp [Char.isAlpha, lower] at noLetter

theorem eq_of_toUpper_eq {c d : Char} (same : c.toUpper = d) (noLetter : d.isAlpha = false) :
    c = d := by
  have plain : c.isAlpha = false := by rw [← Char.isAlpha_toUpper_eq_isAlpha, same, noLetter]
  rw [← same, toUpper_of_not_isAlpha plain]

namespace Selector

variable {s : Selector}

/-! ## Openings -/

/-- A text that opens a value, up to the quote: the tag, one or more blanks, and the field with an
equals sign, in any letter case. -/
def IsOpening (s : Selector) (t : Text) : Prop :=
  ∃ tag blanks field : Text, t = tag ++ blanks ++ field ∧ tag.upper = '<' :: s.tag ∧
    blanks ≠ [] ∧ (∀ c ∈ blanks, isBlank c = true) ∧ field.upper = s.field ++ ['=']

def EndsInOpening (s : Selector) (t : Text) : Prop :=
  ∃ opening, opening <:+ t ∧ s.IsOpening opening

def isOpeningChar (c : Char) : Bool := c.isAlpha || isBlank c || c = '='

theorem isBlank_of_isUpper {c : Char} (capital : c.isUpper = true) : isBlank c = false := by
  by_contra blank
  simp only [isBlank, Bool.not_eq_false, Bool.or_eq_true, decide_eq_true_eq] at blank
  rcases blank with (((rfl | rfl) | rfl) | rfl) | rfl <;> exact absurd capital (by decide)

theorem isBlank_of_toUpper_eq {c d : Char} (same : c.toUpper = d) (solid : isBlank d = false) :
    isBlank c = false := by
  by_cases blank : isBlank c = true
  · have noLetter : c.isAlpha = false := by
      simp only [isBlank, Bool.or_eq_true, decide_eq_true_eq] at blank
      rcases blank with (((rfl | rfl) | rfl) | rfl) | rfl <;> decide
    rw [toUpper_of_not_isAlpha noLetter] at same
    rw [same]
    exact solid
  · simpa using blank

theorem IsOpening.eq_cons {t : Text} (opens : s.IsOpening t) :
    ∃ rest, t = '<' :: rest ∧ ∀ c ∈ rest, isOpeningChar c = true := by
  obtain ⟨tag, blanks, field, rfl, tagUpper, _, allBlank, fieldUpper⟩ := opens
  cases tag with
  | nil => cases tagUpper
  | cons first tag =>
    obtain ⟨firstUpper, restUpper⟩ := List.cons.inj tagUpper
    refine ⟨tag ++ blanks ++ field, ?_, ?_⟩
    · rw [eq_of_toUpper_eq firstUpper (by decide)]
      rfl
    · intro c member
      rcases List.mem_append.1 member with member | inField
      · rcases List.mem_append.1 member with inTag | inBlanks
        · have inName : c.toUpper ∈ s.tag := restUpper ▸ List.mem_map_of_mem inTag
          have capital := s.capitals _ (List.mem_append_left _ inName)
          simp [isOpeningChar, isAlpha_of_isUpper_toUpper capital]
        · simp [isOpeningChar, allBlank c inBlanks]
      · have inName : c.toUpper ∈ s.field ++ ['='] := fieldUpper ▸ List.mem_map_of_mem inField
        rcases List.mem_append.1 inName with inName | sign
        · have capital := s.capitals _ (List.mem_append_right _ inName)
          simp [isOpeningChar, isAlpha_of_isUpper_toUpper capital]
        · have isSign := eq_of_toUpper_eq (List.mem_singleton.1 sign) (by decide)
          simp [isOpeningChar, isSign]

theorem IsOpening.not_mem {t : Text} (opens : s.IsOpening t) {c : Char}
    (foreign : isOpeningChar c = false) (noTag : c ≠ '<') : c ∉ t := by
  obtain ⟨rest, rfl, allowed⟩ := opens.eq_cons
  intro member
  rcases List.mem_cons.1 member with same | member
  · exact noTag same
  · rw [allowed c member] at foreign
    cases foreign

theorem IsOpening.quote_not_mem {t : Text} (opens : s.IsOpening t) : '"' ∉ t :=
  opens.not_mem (by decide) (by decide)

theorem IsOpening.slash_not_mem {t : Text} (opens : s.IsOpening t) : '/' ∉ t :=
  opens.not_mem (by decide) (by decide)

theorem IsOpening.dot_not_mem {t : Text} (opens : s.IsOpening t) : '.' ∉ t :=
  opens.not_mem (by decide) (by decide)

/-! ## The scan finds openings -/

theorem cutPhrase?_eq_some_iff {phrase t head tail : Text} :
    cutPhrase? phrase t = some (head, tail) ↔ t = head ++ tail ∧ head.upper = phrase := by
  constructor
  · intro found
    refine ⟨append_of_cutPhrase? found, ?_⟩
    unfold cutPhrase? at found
    split at found
    next same =>
      cases found
      exact same
    next => cases found
  · rintro ⟨rfl, rfl⟩
    have length : head.upper.length = head.length := List.length_map _
    simp [cutPhrase?, length]

/-- Behind the blanks of an opening comes the field, so that taking all blanks is right. -/
theorem cut_blanks {blanks field : Text} (allBlank : ∀ c ∈ blanks, isBlank c = true)
    (fieldUpper : field.upper = s.field ++ ['=']) (rest : Text) :
    (blanks ++ (field ++ rest)).takeWhile isBlank = blanks ∧
      (blanks ++ (field ++ rest)).dropWhile isBlank = field ++ rest := by
  rw [List.takeWhile_append_of_pos allBlank, List.dropWhile_append_of_pos allBlank]
  cases field with
  | nil => simp [Text.upper] at fieldUpper
  | cons c field =>
    have member : c.toUpper ∈ s.field ++ ['='] := fieldUpper ▸ List.mem_cons_self
    have solidUpper : isBlank c.toUpper = false := by
      rcases List.mem_append.1 member with inName | sign
      · exact isBlank_of_isUpper (s.capitals _ (List.mem_append_right _ inName))
      · rw [List.mem_singleton.1 sign]
        decide
    have solid := isBlank_of_toUpper_eq rfl solidUpper
    simp [solid]

theorem cutOpening?_eq_some_iff {t opening inside : Text} :
    s.cutOpening? t = some (opening, inside) ↔
      ∃ o, s.IsOpening o ∧ opening = o ++ ['"'] ∧ t = opening ++ inside := by
  constructor
  · intro found
    have whole := append_of_cutOpening? found
    unfold cutOpening? at found
    split at found
    next => cases found
    next tag afterTag tagFound =>
      split at found
      next => cases found
      next field rest fieldFound =>
        split at found
        next => cases found
        next someBlank =>
          cases found
          obtain ⟨_, tagUpper⟩ := cutPhrase?_eq_some_iff.1 tagFound
          obtain ⟨_, fieldUpper⟩ := cutPhrase?_eq_some_iff.1 fieldFound
          have fieldSplit : field.map Char.toUpper = (s.field ++ ['=']) ++ ['"'] := by
            simpa [Text.upper] using fieldUpper
          obtain ⟨name, quote, rfl, nameUpper, quoteUpper⟩ := List.map_eq_append_iff.1 fieldSplit
          obtain ⟨q, rfl, isQuote⟩ := List.map_eq_singleton_iff.1 quoteUpper
          obtain rfl := eq_of_toUpper_eq isQuote (by decide)
          refine ⟨tag ++ afterTag.takeWhile isBlank ++ name, ?_, by simp, whole⟩
          refine ⟨tag, _, name, rfl, tagUpper, ?_, ?_, nameUpper⟩
          · simpa using someBlank
          · exact fun c member => List.mem_takeWhile_imp member
  · rintro ⟨_, ⟨tag, blanks, field, rfl, tagUpper, nonempty, allBlank, fieldUpper⟩, rfl, rfl⟩
    obtain ⟨taken, dropped⟩ := cut_blanks allBlank fieldUpper ('"' :: inside)
    have tagFound : cutPhrase? ('<' :: s.tag) (tag ++ (blanks ++ (field ++ '"' :: inside))) =
        some (tag, blanks ++ (field ++ '"' :: inside)) :=
      cutPhrase?_eq_some_iff.2 ⟨rfl, tagUpper⟩
    have fieldFound : cutPhrase? (s.field ++ ['=', '"']) (field ++ '"' :: inside) =
        some (field ++ ['"'], inside) := by
      refine cutPhrase?_eq_some_iff.2 ⟨by simp, ?_⟩
      have quoteUpper : Text.upper ['"'] = ['"'] := by decide
      rw [Text.upper, List.map_append, ← Text.upper, fieldUpper, ← Text.upper, quoteUpper]
      simp
    have cut : tag ++ blanks ++ field ++ ['"'] ++ inside =
        tag ++ (blanks ++ (field ++ '"' :: inside)) := by simp
    rw [cut, cutOpening?, tagFound]
    simp only [dropped, taken, fieldFound]
    simp [nonempty]

theorem select?_eq_some_iff {t : Text} {found : Selection} :
    s.select? t = some found ↔
      ∃ o, s.IsOpening o ∧ found.opening = o ++ ['"'] ∧
        t = o ++ '"' :: (found.value ++ '"' :: found.rest) ∧
        ∀ c ∈ found.value, isValueChar c = true := by
  constructor
  · intro select
    have whole := append_of_select? select
    unfold select? at select
    split at select
    next => cases select
    next opening inside cutFound =>
      split at select
      next rest eq =>
        cases select
        obtain ⟨o, opens, rfl, _⟩ := cutOpening?_eq_some_iff.1 cutFound
        refine ⟨o, opens, rfl, by simpa using whole, ?_⟩
        exact fun c member => List.mem_takeWhile_imp member
      next => cases select
  · obtain ⟨opening, value, rest⟩ := found
    rintro ⟨o, opens, rfl, rfl, allowed⟩
    have cutFound : s.cutOpening? (o ++ '"' :: (value ++ '"' :: rest)) =
        some (o ++ ['"'], value ++ '"' :: rest) :=
      cutOpening?_eq_some_iff.2 ⟨o, opens, rfl, by simp⟩
    have closing : isValueChar '"' = false := by decide
    simp only [select?, cutFound, List.dropWhile_append_of_pos allowed,
      List.takeWhile_append_of_pos allowed]
    simp [closing]

end Selector

/-! ## Segments -/

def segments (t : Text) : List Text := t.splitOn '"'

/-- A page again, from the pieces between its double quotes. -/
def quoted (pieces : List Text) : Text := ['"'].intercalate pieces

theorem segments_ne_nil (t : Text) : segments t ≠ [] := List.splitOn_ne_nil _ _

theorem quoted_segments (t : Text) : quoted (segments t) = t := List.intercalate_splitOn _

theorem segments_quoted {pieces : List Text} (some : pieces ≠ [])
    (noQuote : ∀ piece ∈ pieces, '"' ∉ piece) : segments (quoted pieces) = pieces :=
  List.splitOn_intercalate _ noQuote some

theorem segments_append_quote {t : Text} (noQuote : '"' ∉ t) (rest : Text) :
    segments (t ++ '"' :: rest) = t :: segments rest :=
  List.splitOn_append_cons_self_of_not_mem noQuote rest

theorem segments_cons {c : Char} (noQuote : c ≠ '"') (t : Text) :
    segments (c :: t) = (segments t).modifyHead (c :: ·) := by
  have different : (c == '"') = false := by simpa using noQuote
  simp [segments, List.splitOn_cons_eq_if_modifyHead, different]

theorem quoted_cons {pieces : List Text} (some : pieces ≠ []) (piece : Text) :
    quoted (piece :: pieces) = piece ++ '"' :: quoted pieces := by
  simp [quoted, List.intercalate_cons_of_ne_nil some]

theorem not_mem_of_mem_segments {t piece : Text} (member : piece ∈ segments t) : '"' ∉ piece := by
  induction t generalizing piece with
  | nil =>
    rw [segments, List.splitOn_nil, List.mem_singleton] at member
    simp [member]
  | cons c t inductionHypothesis =>
    by_cases isQuote : c = '"'
    · subst isQuote
      have cut : segments ('"' :: t) = [] :: segments t :=
        segments_append_quote List.not_mem_nil t
      rw [cut] at member
      rcases List.mem_cons.1 member with rfl | member
      · exact List.not_mem_nil
      · exact inductionHypothesis member
    · obtain ⟨first, pieces, eq⟩ := List.exists_cons_of_ne_nil (segments_ne_nil t)
      rw [segments_cons isQuote, eq, List.modifyHead_cons] at member
      rcases List.mem_cons.1 member with rfl | member
      · have inFirst := inductionHypothesis (eq ▸ List.mem_cons_self)
        simp [inFirst, Ne.symm isQuote]
      · exact inductionHypothesis (eq ▸ List.mem_cons_of_mem _ member)

namespace Selector

variable {s : Selector} {convert : Text → Text}

/-! ## Selection by position -/

instance (t : Text) : Decidable (s.IsOpening t) :=
  decidable_of_iff (s.cutOpening? (t ++ ['"']) = some (t ++ ['"'], [])) <| by
    simp [cutOpening?_eq_some_iff]

instance (t : Text) : Decidable (s.EndsInOpening t) :=
  decidable_of_iff (∃ opening ∈ t.tails, s.IsOpening opening) <| by
    simp [EndsInOpening, List.mem_tails]

def Selects (s : Selector) (pieces : List Text) : Nat → Prop
  | 0 => False
  | k + 1 =>
    s.EndsInOpening (pieces.getD k []) ∧ '>' ∉ pieces.getD (k + 1) [] ∧
      k + 2 < pieces.length ∧ ¬ s.Selects pieces k

instance decidableSelects (pieces : List Text) : (k : Nat) → Decidable (s.Selects pieces k)
  | 0 => .isFalse id
  | k + 1 =>
    have := decidableSelects pieces k
    inferInstanceAs (Decidable (_ ∧ _ ∧ _ ∧ ¬ s.Selects pieces k))

/-- The segments of a page, with the selected ones converted. -/
def convertSelected (s : Selector) (convert : Text → Text) (pieces : List Text) : List Text :=
  pieces.mapIdx fun k piece => if s.Selects pieces k then convert piece else piece

theorem selects_succ_iff {pieces : List Text} {k : Nat} :
    s.Selects pieces (k + 1) ↔
      s.EndsInOpening (pieces.getD k []) ∧ '>' ∉ pieces.getD (k + 1) [] ∧
        k + 2 < pieces.length ∧ ¬ s.Selects pieces k := Iff.rfl

theorem not_selects_zero (pieces : List Text) : ¬ s.Selects pieces 0 := id

/-- A selection does not depend on what stands before a segment that is not selected. -/
theorem selects_add_iff {pieces : List Text} {n : Nat} (start : ¬ s.Selects pieces n) (k : Nat) :
    s.Selects pieces (n + k) ↔ s.Selects (pieces.drop n) k := by
  induction k with
  | zero => simp [start, not_selects_zero]
  | succ k inductionHypothesis =>
    have bound : n + k + 2 < pieces.length ↔ k + 2 < (pieces.drop n).length := by
      rw [List.length_drop]
      omega
    rw [← Nat.add_assoc, selects_succ_iff, selects_succ_iff, inductionHypothesis, bound]
    simp only [List.getD_eq_getElem?_getD, List.getElem?_drop, Nat.add_assoc]

theorem drop_convertSelected (convert : Text → Text) {pieces : List Text} {n : Nat}
    (start : ¬ s.Selects pieces n) :
    (s.convertSelected convert pieces).drop n = s.convertSelected convert (pieces.drop n) := by
  apply List.ext_getElem?
  intro k
  simp [convertSelected, selects_add_iff start]

theorem lt_length_of_selects {pieces : List Text} {k : Nat} (selects : s.Selects pieces k) :
    k + 1 < pieces.length := by
  cases k with
  | zero => exact absurd selects (not_selects_zero pieces)
  | succ k => exact selects.2.2.1

@[simp] theorem length_convertSelected (convert : Text → Text) (pieces : List Text) :
    (s.convertSelected convert pieces).length = pieces.length := List.length_mapIdx

theorem getElem?_convertSelected_of_selects {pieces : List Text} {k : Nat}
    (selects : s.Selects pieces k) :
    (s.convertSelected convert pieces)[k]? = some (convert (pieces.getD k [])) := by
  have bound : k < pieces.length := Nat.lt_of_succ_lt (lt_length_of_selects selects)
  simp [convertSelected, selects, bound]

theorem getElem?_convertSelected_of_not_selects {pieces : List Text} {k : Nat}
    (unselected : ¬ s.Selects pieces k) :
    (s.convertSelected convert pieces)[k]? = pieces[k]? := by
  simp [convertSelected, unselected]

theorem getD_convertSelected_of_selects {pieces : List Text} {k : Nat}
    (selects : s.Selects pieces k) :
    (s.convertSelected convert pieces).getD k [] = convert (pieces.getD k []) := by
  rw [List.getD_eq_getElem?_getD, getElem?_convertSelected_of_selects selects, Option.getD_some]

theorem getD_convertSelected_of_not_selects {pieces : List Text} {k : Nat}
    (unselected : ¬ s.Selects pieces k) :
    (s.convertSelected convert pieces).getD k [] = pieces.getD k [] := by
  rw [List.getD_eq_getElem?_getD, getElem?_convertSelected_of_not_selects unselected,
    List.getD_eq_getElem?_getD]

/-! ## The pass over segments -/

/-- One pass over segments from left to right.  The segment behind a value starts afresh. -/
def convertInOrder (s : Selector) (convert : Text → Text) : List Text → List Text
  | before :: value :: after :: rest =>
    if s.EndsInOpening before ∧ '>' ∉ value then
      before :: convert value :: convertInOrder s convert (after :: rest)
    else before :: convertInOrder s convert (value :: after :: rest)
  | pieces => pieces

theorem convertSelected_of_selects {before value after : Text} {rest : List Text}
    (first : s.Selects (before :: value :: after :: rest) 1) :
    s.convertSelected convert (before :: value :: after :: rest) =
      before :: convert value :: s.convertSelected convert (after :: rest) := by
  have second : ¬ s.Selects (before :: value :: after :: rest) 2 := fun selects =>
    selects.2.2.2 first
  have tail := drop_convertSelected convert second
  simp only [List.drop_succ_cons, List.drop_zero] at tail
  rw [← tail]
  simp [convertSelected, List.mapIdx_cons, first, not_selects_zero]

theorem convertSelected_of_not_selects {before : Text} {rest : List Text}
    (first : ¬ s.Selects (before :: rest) 1) :
    s.convertSelected convert (before :: rest) = before :: s.convertSelected convert rest := by
  have tail := drop_convertSelected convert first
  simp only [List.drop_succ_cons, List.drop_zero] at tail
  rw [← tail]
  simp [convertSelected, List.mapIdx_cons, not_selects_zero]

theorem convertInOrder_eq (pieces : List Text) :
    s.convertInOrder convert pieces = s.convertSelected convert pieces := by
  fun_induction convertInOrder s convert pieces with
  | case1 before value after rest selected inductionHypothesis =>
    have first : s.Selects (before :: value :: after :: rest) 1 :=
      ⟨selected.1, selected.2, by simp, not_selects_zero _⟩
    rw [convertSelected_of_selects first, inductionHypothesis]
  | case2 before value after rest unselected inductionHypothesis =>
    have first : ¬ s.Selects (before :: value :: after :: rest) 1 := fun selects =>
      unselected ⟨selects.1, selects.2.1⟩
    rw [convertSelected_of_not_selects first, inductionHypothesis]
  | case3 pieces short =>
    have noValue : ∀ k, ¬ s.Selects pieces k := by
      intro k selects
      cases k with
      | zero => exact not_selects_zero _ selects
      | succ k =>
        have bound := selects.2.2.1
        match pieces, short with
        | [], _ => simp at bound
        | [_], _ => simp at bound
        | [_, _], _ => simp at bound
        | before :: value :: after :: rest, short => exact short _ _ _ _ rfl
    apply List.ext_getElem?
    intro k
    simp [convertSelected, noValue]

/-! ## The scan -/

theorem convertInOrder_ne_nil {pieces : List Text} (some : pieces ≠ []) :
    s.convertInOrder convert pieces ≠ [] := by
  rw [convertInOrder_eq]
  simpa [convertSelected] using some

theorem endsInOpening_cons_iff {c : Char} {t : Text} :
    s.EndsInOpening (c :: t) ↔ s.IsOpening (c :: t) ∨ s.EndsInOpening t := by
  simp only [EndsInOpening, List.suffix_cons_iff]
  constructor
  · rintro ⟨opening, rfl | inside, opens⟩
    · exact .inl opens
    · exact .inr ⟨opening, inside, opens⟩
  · rintro (opens | ⟨opening, inside, opens⟩)
    · exact ⟨_, .inl rfl, opens⟩
    · exact ⟨opening, .inr inside, opens⟩

theorem not_endsInOpening_nil : ¬ s.EndsInOpening [] := by
  rintro ⟨opening, inside, opens⟩
  obtain ⟨rest, rfl, _⟩ := opens.eq_cons
  simp at inside

/-- A character that begins no selection passes through the pass over segments. -/
theorem convertInOrder_cons {c : Char} {first : Text} {pieces : List Text}
    (passes : ∀ value after rest, pieces = value :: after :: rest → '>' ∉ value →
      ¬ s.IsOpening (c :: first)) :
    s.convertInOrder convert ((c :: first) :: pieces) =
      (s.convertInOrder convert (first :: pieces)).modifyHead (c :: ·) := by
  match pieces with
  | [] => rfl
  | [_] => rfl
  | value :: after :: rest =>
    simp only [convertInOrder]
    have same : (s.EndsInOpening (c :: first) ∧ '>' ∉ value) ↔
        (s.EndsInOpening first ∧ '>' ∉ value) := by
      rw [endsInOpening_cons_iff]
      constructor
      · rintro ⟨opens | ends, closed⟩
        · exact absurd opens (passes value after rest rfl closed)
        · exact ⟨ends, closed⟩
      · rintro ⟨ends, closed⟩
        exact ⟨.inr ends, closed⟩
    rw [if_congr same rfl rfl]
    split <;> rfl

theorem quoted_modifyHead (c : Char) {pieces : List Text} (some : pieces ≠ []) :
    quoted (pieces.modifyHead (c :: ·)) = c :: quoted pieces := by
  match pieces, some with
  | [piece], _ => simp [quoted]
  | piece :: next :: pieces, _ => simp [quoted]

theorem convertInOrder_of_not_endsInOpening {before : Text} {pieces : List Text}
    (some : pieces ≠ []) (opensNothing : ¬ s.EndsInOpening before) :
    s.convertInOrder convert (before :: pieces) = before :: s.convertInOrder convert pieces := by
  match pieces, some with
  | [_], _ => rfl
  | value :: after :: rest, _ => simp [convertInOrder, opensNothing]

theorem segments_of_select? {t : Text} {found : Selection} (select : s.select? t = some found) :
    ∃ o, s.IsOpening o ∧ found.opening = o ++ ['"'] ∧ '>' ∉ found.value ∧
      segments t = o :: found.value :: segments found.rest := by
  obtain ⟨o, opens, opening, rfl, allowed⟩ := select?_eq_some_iff.1 select
  have noValueQuote : '"' ∉ found.value := fun member =>
    absurd (allowed _ member) (by decide)
  refine ⟨o, opens, opening, fun member => absurd (allowed _ member) (by decide), ?_⟩
  rw [segments_append_quote opens.quote_not_mem, segments_append_quote noValueQuote]

theorem select?_of_segments {t opening value after : Text} {rest : List Text}
    (cut : segments t = opening :: value :: after :: rest) (opens : s.IsOpening opening)
    (closed : '>' ∉ value) : s.select? t ≠ none := by
  have noQuote : '"' ∉ value := not_mem_of_mem_segments (t := t) (by simp [cut])
  have whole : t = opening ++ '"' :: (value ++ '"' :: quoted (after :: rest)) := by
    rw [← quoted_segments t, cut, quoted_cons (by simp), quoted_cons (by simp)]
  have allowed : ∀ c ∈ value, isValueChar c = true := by
    intro c member
    have noQuote : c ≠ '"' := fun same => noQuote (same ▸ member)
    have noEnd : c ≠ '>' := fun same => closed (same ▸ member)
    simp [isValueChar, noQuote, noEnd]
  have found : s.select? t = some ⟨opening ++ ['"'], value, quoted (after :: rest)⟩ :=
    select?_eq_some_iff.2 ⟨opening, opens, rfl, whole, allowed⟩
  simp [found]

theorem replaceValues_eq (t : Text) :
    s.replaceValues convert t = quoted (s.convertInOrder convert (segments t)) := by
  fun_induction replaceValues s convert t with
  | case1 t found select inductionHypothesis =>
    obtain ⟨o, opens, opening, closed, cut⟩ := segments_of_select? select
    obtain ⟨after, pieces, eq⟩ := List.exists_cons_of_ne_nil (segments_ne_nil found.rest)
    have selected : s.EndsInOpening o ∧ '>' ∉ found.value := ⟨⟨o, List.suffix_rfl, opens⟩, closed⟩
    have more : s.convertInOrder convert (after :: pieces) ≠ [] := convertInOrder_ne_nil (by simp)
    rw [cut, inductionHypothesis, eq, convertInOrder, if_pos selected, quoted_cons (by simp),
      quoted_cons more, opening]
    simp
  | case2 select => rfl
  | case3 c t select inductionHypothesis =>
    rw [inductionHypothesis]
    by_cases isQuote : c = '"'
    · subst isQuote
      have cut : segments ('"' :: t) = [] :: segments t :=
        segments_append_quote List.not_mem_nil t
      rw [cut, convertInOrder_of_not_endsInOpening (segments_ne_nil t) not_endsInOpening_nil,
        quoted_cons (convertInOrder_ne_nil (segments_ne_nil t))]
      rfl
    · obtain ⟨first, pieces, eq⟩ := List.exists_cons_of_ne_nil (segments_ne_nil t)
      have cut : segments (c :: t) = (c :: first) :: pieces := by
        rw [segments_cons isQuote, eq]
        rfl
      have passes : ∀ value after rest, pieces = value :: after :: rest → '>' ∉ value →
          ¬ s.IsOpening (c :: first) := by
        rintro value after rest rfl closed opens
        exact select?_of_segments cut opens closed select
      rw [cut, convertInOrder_cons passes, eq,
        quoted_modifyHead c (convertInOrder_ne_nil (by simp))]

end Selector

/-! ## One pass over a page -/

/-- A pass over a page converts the segments that are selected, in their own letter case, and keeps
every other segment and every double quote. -/
theorem Rule.apply_eq_quoted (rule : Rule) (root text : Text) :
    rule.apply root text =
      quoted (rule.selector.convertSelected (rule.convert root) (segments text)) := by
  rw [Rule.apply, Selector.replaceValues_eq, Selector.convertInOrder_eq]

theorem Rule.segments_apply {rule : Rule} {root : Text}
    (noQuote : ∀ href, '"' ∉ href → '"' ∉ rule.convert root href) (text : Text) :
    segments (rule.apply root text) =
      rule.selector.convertSelected (rule.convert root) (segments text) := by
  rw [rule.apply_eq_quoted]
  apply segments_quoted
  · rw [← List.length_pos_iff, Selector.length_convertSelected, List.length_pos_iff]
    exact segments_ne_nil text
  · intro piece member
    obtain ⟨k, bound, rfl⟩ := List.mem_mapIdx.1 member
    have noQuoteBefore : '"' ∉ (segments text)[k] :=
      not_mem_of_mem_segments (List.getElem_mem bound)
    split
    · exact noQuote _ noQuoteBefore
    · exact noQuoteBefore

/-- Each of the two passes is the selection by position: what it selects becomes what its own
conversion makes of it, and every other segment and every double quote stays. -/
theorem passes_convert_exactly_the_selected (known : Resolver) (root text : Text) :
    (anchorRule known).apply root text =
      quoted (Selector.anchors.convertSelected (convertAnchor known root) (segments text)) ∧
    imageRule.apply root text =
      quoted (Selector.images.convertSelected (convertImage root) (segments text)) := by
  constructor
  · exact (anchorRule known).apply_eq_quoted root text
  · exact imageRule.apply_eq_quoted root text

end DocExcerpt.Link
