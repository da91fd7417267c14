import DocExcerpt.Proofs.Page.Description

/-!
# The block of a member on a page

The block of a member begins with the first line that has the anchor of the member and goes on to
the next line with an anchor, or to the end of the page.  Three rules of letter case meet here: the
name in the anchor may be written in any case, and so may a rule, which is left out; the anchor that
ends the block has to be in capitals.

`excerpt_member` says that the excerpt of a member is this block and nothing else.  What comes
behind its end is not looked at (`Block.of?_append`).
-/

namespace DocExcerpt.Page

variable {name line : Text} {lines before later : List Text}

/-! ## Letter case -/

/-- Whether a text has a phrase in it, in any letter case. -/
def HasIgnoringCase (phrase t : Text) : Prop :=
  ∃ part, part <:+: t ∧ Text.upper part = phrase.upper

theorem hasIgnoringCase_iff {phrase t : Text} :
    HasIgnoringCase phrase t ↔ phrase.upper <:+: t.upper := by
  rw [HasIgnoringCase, Text.upper, Text.upper, List.infix_map_iff]
  simp only [eq_comm, Text.upper]

instance (phrase : Text) : DecidablePred (HasIgnoringCase phrase) := fun _ =>
  decidable_of_iff _ hasIgnoringCase_iff.symm

/-! ## Blocks -/

def HasAnchor (name line : Text) : Prop :=
  HasIgnoringCase ("<A NAME=\"".toList ++ name ++ "\"".toList) line

instance (name : Text) : DecidablePred (HasAnchor name) := fun _ =>
  inferInstanceAs (Decidable (HasIgnoringCase _ _))

/-- Whether a line ends the block that it stands behind. -/
def EndsBlock (line : Text) : Prop := "<A NAME=".toList <:+: line

instance : DecidablePred EndsBlock := fun _ => inferInstanceAs (Decidable (_ <:+: _))

/-- The lines of a page that are about a member. -/
structure Block where
  /-- The line with the anchor. -/
  first : Text
  body : List Text

/-- The block of a member on a page, begun by the first line that has its anchor. -/
def Block.of? (name : Text) (lines : List Text) : Option Block :=
  match lines.dropWhile fun line => ¬ HasAnchor name line with
  | [] => none
  | first :: lines => some ⟨first, (cutAt EndsBlock lines).1⟩

/-- The text of a block, without the lines that have a rule. -/
def Block.text (block : Block) : Text :=
  "<HTML>".toList ++ block.first ++
    (block.body.filter fun line => ¬ HasIgnoringCase "<HR>".toList line).flatten ++
    "</HTML>".toList

/-- Whether a page has a line with the anchor of a member and, somewhere behind the first such line,
one that ends the block. -/
def HasEndedBlock (name : Text) (lines : List Text) : Prop :=
  ∃ before first later, lines = before ++ first :: later ∧
    (∀ line ∈ before, ¬ HasAnchor name line) ∧ HasAnchor name first ∧ ∃ line ∈ later, EndsBlock line

theorem Block.of?_eq_none_iff :
    Block.of? name lines = none ↔ ∀ line ∈ lines, ¬ HasAnchor name line := by
  unfold Block.of?
  split
  next nowhere => simpa using nowhere
  next first later found =>
    have begun : HasAnchor name first := by
      have head := List.head?_dropWhile_not (fun line => decide (¬ HasAnchor name line)) lines
      rw [found] at head
      simpa using head
    have member : first ∈ lines := (List.dropWhile_sublist _).subset (found ▸ List.mem_cons_self)
    simp only [reduceCtorEq, false_iff]
    exact fun nowhere => nowhere first member begun

-- What comes before the first anchor is passed over, whatever it is.
theorem Block.of?_of_first {first : Text} (unnamed : ∀ line ∈ before, ¬ HasAnchor name line)
    (begins : HasAnchor name first) (later : List Text) :
    Block.of? name (before ++ first :: later) = some ⟨first, (cutAt EndsBlock later).1⟩ := by
  have passed : ∀ line ∈ before, decide (¬ HasAnchor name line) = true := fun line member =>
    decide_eq_true (unnamed line member)
  rw [Block.of?, List.dropWhile_append_of_pos passed]
  simp [begins]

theorem cutAt_append_of_mem {isEnd : Text → Prop} [DecidablePred isEnd]
    (ends : ∃ line ∈ lines, isEnd line) (more : List Text) :
    (cutAt isEnd (lines ++ more)).1 = (cutAt isEnd lines).1 := by
  have shorter : (lines.takeWhile fun line => ¬ isEnd line).length ≠ lines.length := by
    intro whole
    obtain ⟨line, member, isLast⟩ := ends
    rw [← (List.takeWhile_prefix _).eq_of_length whole] at member
    simpa [isLast] using List.mem_takeWhile_imp member
  rw [cutAt, List.takeWhile_append, if_neg shorter, cutAt]

theorem Block.of?_append (ended : HasEndedBlock name lines) (more : List Text) :
    Block.of? name (lines ++ more) = Block.of? name lines := by
  obtain ⟨before, first, later, rfl, unnamed, begins, ends⟩ := ended
  rw [List.append_assoc, List.cons_append, Block.of?_of_first unnamed begins,
    Block.of?_of_first unnamed begins, cutAt_append_of_mem ends]

/-! ## The excerpt of a member -/

theorem hasTag_startMark (name line : Text) :
    hasTag (Section.startMark (.member name.upper)) line = decide (HasAnchor name line) := by
  have mark : Section.startMark (.member name.upper) =
      Text.upper ("<A NAME=\"".toList ++ name ++ "\"".toList) := by
    have opening : Text.upper "<A NAME=\"".toList = "<A NAME=".toList ++ ['"'] := by decide
    have closing : Text.upper "\"".toList = ['"'] := by decide
    have parts : Text.upper ("<A NAME=\"".toList ++ name ++ "\"".toList) =
        Text.upper "<A NAME=\"".toList ++ name.upper ++ Text.upper "\"".toList := by
      simp only [Text.upper, List.map_append]
    rw [parts, opening, closing]
    rfl
  rw [hasTag_eq, mark, Bool.eq_iff_iff, decide_eq_true_iff, decide_eq_true_iff, HasAnchor,
    hasIgnoringCase_iff]

theorem bodyText_eq_without_rules (lines : List Text) :
    bodyText lines =
      (lines.filter fun line => ¬ HasIgnoringCase "<HR>".toList line).flatten := by
  have capitals : Text.upper "<HR>".toList = "<HR>".toList := by decide
  rw [bodyText_eq]
  congr 1
  apply List.filter_congr
  intro line _
  rw [decide_eq_decide, hasIgnoringCase_iff, capitals]

theorem excerpt_block (name : Text) (page : Bytes) :
    (Reading.ofBytes .none page).excerpt (.member name.upper) =
      .ok (match Block.of? name (Reading.ofBytes .none page).lines with
        | some block => block.text
        | none => []) := by
  have ends : ∀ line, Text.hasPhrase (Section.endMark (.member name.upper)) line =
      decide (EndsBlock line) := by
    intro line
    rw [Bool.eq_iff_iff, Text.hasPhrase_iff, decide_eq_true_iff]
    rfl
  rw [Reading.ofBytes_none, Reading.excerpt, excerpt,
    bind_eq_of_eq_ok (linesUntil_eq_cutAt (hasTag_startMark name) _), Block.of?, cutAt]
  simp only
  generalize List.dropWhile _ _ = found
  cases found with
  | nil => rfl
  | cons first later =>
    simp only [List.head?_cons, List.tail_cons, reduceCtorEq, if_false]
    rw [bind_eq_of_eq_ok (pure_eq_ok [] _), bind_eq_of_eq_ok (linesUntil_eq_cutAt ends later),
      pure_eq_ok, bodyText_eq_without_rules, List.append_nil]
    rfl

theorem Block.text_ne_nil (block : Block) : block.text ≠ [] := by
  unfold Block.text
  exact List.append_ne_nil_of_right_ne_nil _ (by decide)

/-- What an address with a fragment asks for is the block of the member that the fragment names, and
nothing if the page has no anchor of it.  The letter case of the fragment does not matter, nor does
anything behind the line that ends the block. -/
theorem excerpt_member {address name : Text} (fragment : Link.fragment? address = some name)
    (page : Bytes) :
    (Reading.ofBytes .none page).excerpt (.of address) =
        .ok (match Block.of? name (Reading.ofBytes .none page).lines with
          | some block => block.text
          | none => []) ∧
      ((Reading.ofBytes .none page).excerpt (.of address) = .ok [] ↔
        ∀ line ∈ (Reading.ofBytes .none page).lines, ¬ HasAnchor name line) ∧
      (∀ other same, Link.fragment? other = some same → same.upper = name.upper →
        (Reading.ofBytes .none page).excerpt (.of other) =
          (Reading.ofBytes .none page).excerpt (.of address)) ∧
      ∀ front rest, page = front ++ [0x0A] →
        HasEndedBlock name (Reading.ofBytes .none page).lines →
        (Reading.ofBytes .none (page ++ rest)).excerpt (.of address) =
          (Reading.ofBytes .none page).excerpt (.of address) := by
  have asked : ∀ {address name}, Link.fragment? address = some name →
      Section.of address = .member name.upper := by
    intro address name fragment
    rw [Section.of, fragment]
  have block := excerpt_block name page
  rw [asked fragment]
  refine ⟨block, ?_, ?_, ?_⟩
  · rw [block, ← Block.of?_eq_none_iff, Except.ok.injEq]
    cases Block.of? name (Reading.ofBytes .none page).lines with
    | none => simp
    | some block => simp [block.text_ne_nil]
  · intro other same otherFragment sameUpper
    rw [asked otherFragment, sameUpper]
  · rintro front rest rfl ended
    have more : (Reading.ofBytes .none (front ++ [0x0A] ++ rest)).lines =
        (Reading.ofBytes .none (front ++ [0x0A])).lines ++ (Reading.ofBytes .none rest).lines := by
      simp only [Reading.ofBytes_none, List.append_assoc, List.singleton_append, ← List.map_append,
        ← RawLine.ofBytes_append_cons]
    rw [excerpt_block, more, Block.of?_append ended, block]

/-- A page with a member whose block is ended by the anchor of another one. -/
def twoMembers : Bytes :=
  Utf8.encode "<a name=\"Spin()\">\r\nSpins.\n<Hr>\n<a name=\"x\">\n<A NAME=\"stop()\">\n".toList

theorem excerpt_member_spin :
    let spin := "<HTML><a name=\"Spin()\">Spins.<a name=\"x\"></HTML>".toList
    (Reading.ofBytes .none twoMembers).excerpt (.of "Widget.html#spin()".toList) = .ok spin ∧
      (Reading.ofBytes .none twoMembers).excerpt (.of "#SPIN()".toList) = .ok spin ∧
      ∀ rest, (Reading.ofBytes .none (twoMembers ++ rest)).excerpt
        (.of "Widget.html#spin()".toList) = .ok spin := by
  intro spin
  have fragment : Link.fragment? "Widget.html#spin()".toList = some "spin()".toList := by decide
  obtain ⟨block, -, anyCase, noMore⟩ := excerpt_member fragment twoMembers
  have cutOut : (Reading.ofBytes .none twoMembers).excerpt (.of "Widget.html#spin()".toList) =
      .ok spin := by
    rw [block]
    decide +kernel
  have ended : HasEndedBlock "spin()".toList (Reading.ofBytes .none twoMembers).lines := by
    exact ⟨[], "<a name=\"Spin()\">".toList, ["Spins.".toList, "<Hr>".toList,
      "<a name=\"x\">".toList, "<A NAME=\"stop()\">".toList], by decide +kernel, nofun,
      by decide +kernel, by decide +kernel⟩
  refine ⟨cutOut, ?_, fun rest => ?_⟩
  · rw [anyCase "#SPIN()".toList "SPIN()".toList (by decide) (by decide), cutOut]
  · rw [noMore twoMembers.dropLast rest (by decide +kernel) ended, cutOut]

end DocExcerpt.Page
