import DocExcerpt.Proofs.Link.Conversion

/-!
# Both passes over a page

The pass over images reads what the pass over anchors wrote.  A converted anchor stands before a
quote, so it could open an image value that the page did not have.  It does so in one case only: the
anchor names a known symbol, and the removal of page suffixes joins the two halves of an opening, as
in `Gadget.html#<IM.htmG SRC=` (`SpawnsImage`).

`relink_frame` says that this case is the exact border: without it, both passes together change only
what one of the two selectors selects on the page as it was.
-/

namespace DocExcerpt.Link

open Selector

variable {known : Resolver} {root text : Text} {pieces : List Text} {k : Nat}

/-! ## Two selectors on one page -/

theorem Selector.EndsInOpening.field_suffix {s : Selector} {t : Text} (ends : s.EndsInOpening t) :
    s.field ++ ['='] <:+ t.upper := by
  obtain ⟨_, ⟨before, rfl⟩, tag, blanks, field, rfl, _, _, _, fieldUpper⟩ := ends
  rw [← fieldUpper]
  exact ⟨Text.upper (before ++ (tag ++ blanks)), by simp [Text.upper]⟩

theorem not_endsInOpening_images {t : Text} (ends : anchors.EndsInOpening t) :
    ¬ images.EndsInOpening t := by
  intro both
  have suffix : images.field ++ ['='] <:+ anchors.field ++ ['='] :=
    List.suffix_of_suffix_length_le both.field_suffix ends.field_suffix (by decide)
  exact absurd suffix (by decide)

namespace Selector

variable {s r : Selector} {convert : Text → Text}

/-- Whether no text opens values of both selectors. -/
def Apart (s r : Selector) : Prop := ∀ t, s.EndsInOpening t → ¬ r.EndsInOpening t

theorem Apart.symm (apart : s.Apart r) : r.Apart s := fun t opens both => apart t both opens

theorem Apart.not_selects (apart : s.Apart r) (selects : s.Selects pieces k) :
    ¬ r.Selects pieces k := by
  intro both
  cases k with
  | zero => exact not_selects_zero pieces selects
  | succ k => exact apart _ selects.1 both.1

theorem Apart.not_selects_convertSelected (apart : s.Apart r) (selects : s.Selects pieces k) :
    ¬ r.Selects (s.convertSelected convert pieces) k := by
  intro both
  cases k with
  | zero => exact not_selects_zero pieces selects
  | succ k =>
    have opens := both.1
    rw [getD_convertSelected_of_not_selects selects.2.2.2] at opens
    exact apart _ selects.1 opens

/-- Where each conversion keeps what a value opens behind it, the other selector finds what it would
have found on the page as it was. -/
theorem Apart.selects_convertSelected_iff (apart : s.Apart r)
    (keeps : ∀ k, s.Selects pieces k → '>' ∉ pieces.getD (k + 1) [] → k + 2 < pieces.length →
      (r.EndsInOpening (convert (pieces.getD k [])) ↔ r.EndsInOpening (pieces.getD k [])))
    (k : Nat) : r.Selects (s.convertSelected convert pieces) k ↔ r.Selects pieces k := by
  -- Whether a position is selected depends on the one before it, so the induction is on positions.
  induction k with
  | zero => exact iff_of_false (not_selects_zero _) (not_selects_zero _)
  | succ k inductionHypothesis =>
    by_cases here : s.Selects pieces (k + 1)
    · exact iff_of_false (apart.not_selects_convertSelected here) (apart.not_selects here)
    · rw [selects_succ_iff, selects_succ_iff, inductionHypothesis,
        getD_convertSelected_of_not_selects here, length_convertSelected]
      by_cases before : s.Selects pieces k
      · rw [getD_convertSelected_of_selects before]
        constructor
        · rintro ⟨opens, closed, bound, fresh⟩
          exact ⟨(keeps k before closed bound).1 opens, closed, bound, fresh⟩
        · rintro ⟨opens, closed, bound, fresh⟩
          exact ⟨(keeps k before closed bound).2 opens, closed, bound, fresh⟩
      · rw [getD_convertSelected_of_not_selects before]

end Selector

theorem anchors_apart_images : anchors.Apart images := fun _ => not_endsInOpening_images

/-! ## The page between the passes -/

def anchored (known : Resolver) (root : Text) (pieces : List Text) : List Text :=
  anchors.convertSelected (convertAnchor known root) pieces

theorem length_anchored : (anchored known root pieces).length = pieces.length :=
  length_convertSelected _ _

theorem getD_anchored_of_selects (selects : anchors.Selects pieces k) :
    (anchored known root pieces).getD k [] = convertAnchor known root (pieces.getD k []) :=
  getD_convertSelected_of_selects selects

theorem getD_anchored_of_not_selects (noAnchor : ¬ anchors.Selects pieces k) :
    (anchored known root pieces).getD k [] = pieces.getD k [] :=
  getD_convertSelected_of_not_selects noAnchor

theorem segments_anchored (noQuote : '"' ∉ root) :
    segments ((anchorRule known).apply root text) = anchored known root (segments text) :=
  Rule.segments_apply (fun _ => not_mem_convertAnchor known (by decide) noQuote) text

theorem segments_relink (noQuote : '"' ∉ root) :
    segments (relink known root text) =
      images.convertSelected (convertImage root) (anchored known root (segments text)) := by
  rw [← segments_anchored noQuote]
  exact Rule.segments_apply (fun _ => not_mem_convertImage (by decide) noQuote) _

theorem not_selects_images_anchored (selects : anchors.Selects pieces k) :
    ¬ images.Selects (anchored known root pieces) k :=
  anchors_apart_images.not_selects_convertSelected selects

/-! ## Images that come from anchors -/

/-- The anchor at a position becomes a reference to a symbol and opens an image value that it did
not open before. -/
structure SpawnsImage (known : Resolver) (pieces : List Text) (k : Nat) : Prop where
  anchor : anchors.Selects pieces k
  names : NamesSymbol known (pieces.getD k [])
  closed_before : ¬ images.EndsInOpening (pieces.getD k [])
  opens_after : images.EndsInOpening (withoutPageSuffixes (pieces.getD k []))
  value : '>' ∉ pieces.getD (k + 1) []
  quoted : k + 2 < pieces.length

theorem SpawnsImage.selects (spawns : SpawnsImage known pieces k) :
    images.Selects (anchored known root pieces) (k + 1) := by
  have next : ¬ anchors.Selects pieces (k + 1) := fun selects => selects.2.2.2 spawns.anchor
  refine ⟨?_, ?_, ?_, not_selects_images_anchored spawns.anchor⟩
  · rw [getD_anchored_of_selects spawns.anchor,
      endsInOpening_convertAnchor_of_namesSymbol spawns.names]
    exact spawns.opens_after
  · rw [getD_anchored_of_not_selects next]
    exact spawns.value
  · rw [length_anchored]
    exact spawns.quoted

/-- Nothing selects the image value that an anchor spawns on the page as it was. -/
theorem SpawnsImage.unselected (spawns : SpawnsImage known pieces k) :
    ¬ anchors.Selects pieces (k + 1) ∧ ¬ images.Selects pieces (k + 1) :=
  ⟨fun selects => selects.2.2.2 spawns.anchor, fun selects => spawns.closed_before selects.1⟩

theorem not_spawnsImage (noTag : '<' ∉ pieces.getD k []) : ¬ SpawnsImage known pieces k := by
  intro spawns
  obtain ⟨_, ⟨before, whole⟩, opens⟩ := spawns.opens_after
  obtain ⟨rest, rfl, _⟩ := opens.eq_cons
  have kept : '<' ∈ withoutPageSuffixes (pieces.getD k []) := by
    rw [← whole]
    exact List.mem_append_right before List.mem_cons_self
  exact noTag ((withoutPageSuffixes_sublist _).subset kept)

/-- An anchor that spawns no image opens an image value after its conversion exactly if it did so
before. -/
theorem endsInOpening_convertAnchor_iff (noTag : '<' ∉ root)
    (noSpawn : ¬ SpawnsImage known pieces k) (anchor : anchors.Selects pieces k)
    (value : '>' ∉ pieces.getD (k + 1) []) (bound : k + 2 < pieces.length) :
    images.EndsInOpening (convertAnchor known root (pieces.getD k [])) ↔
      images.EndsInOpening (pieces.getD k []) := by
  by_cases names : NamesSymbol known (pieces.getD k [])
  · rw [endsInOpening_convertAnchor_of_namesSymbol names]
    constructor
    · intro opens
      by_contra closed
      exact noSpawn ⟨anchor, names, closed, opens, value, bound⟩
    · exact Selector.EndsInOpening.withoutPageSuffixes
  · exact endsInOpening_convertAnchor_of_not_namesSymbol noTag names

/-- Where no anchor spawns an image, the pass over images selects what it would have selected on the
page as it was. -/
theorem selects_images_anchored_iff (noTag : '<' ∉ root)
    (noSpawn : ∀ k, ¬ SpawnsImage known pieces k) (k : Nat) :
    images.Selects (anchored known root pieces) k ↔ images.Selects pieces k :=
  anchors_apart_images.selects_convertSelected_iff
    (fun k anchor => endsInOpening_convertAnchor_iff noTag (noSpawn k) anchor) k

/-! ## What both passes leave as it was -/

/-- Whether both passes change only what a selector selects on the page as it was. -/
def ChangesOnlySelected (known : Resolver) (root text : Text) : Prop :=
  ∀ k, ¬ anchors.Selects (segments text) k → ¬ images.Selects (segments text) k →
    (segments (relink known root text))[k]? = (segments text)[k]?

/-- Whether each image value that the second pass finds is an image value of the page as it was. -/
def FindsOnlyOwnImages (known : Resolver) (root text : Text) : Prop :=
  ∀ k, images.Selects (segments ((anchorRule known).apply root text)) k →
    images.Selects (segments text) k

theorem directory_ne_nil (someRoot : root ≠ []) : directory root ≠ [] := by
  cases root with
  | nil => exact absurd rfl someRoot
  | cons c t =>
    rw [directory]
    split <;> exact List.cons_ne_nil _ _

theorem length_lt_convertImage (someRoot : root ≠ []) (href : Text) :
    href.length < (convertImage root href).length := by
  unfold convertImage
  split
  next =>
    have scheme : 0 < pageScheme.length := by decide
    simp only [fragmentReference, List.length_append]
    omega
  next =>
    have some : 0 < (directory root).length := List.length_pos_iff.2 (directory_ne_nil someRoot)
    rw [List.length_append]
    omega

theorem findsOnlyOwnImages_iff (noQuote : '"' ∉ root) (noTag : '<' ∉ root) :
    FindsOnlyOwnImages known root text ↔ ∀ k, ¬ SpawnsImage known (segments text) k := by
  rw [FindsOnlyOwnImages, segments_anchored noQuote]
  constructor
  · intro own k spawns
    exact spawns.unselected.2 (own (k + 1) spawns.selects)
  · intro noSpawn k
    exact (selects_images_anchored_iff noTag noSpawn k).1

theorem changesOnlySelected_of_no_spawn (noQuote : '"' ∉ root) (noTag : '<' ∉ root)
    (noSpawn : ∀ k, ¬ SpawnsImage known (segments text) k) :
    ChangesOnlySelected known root text := by
  intro k noAnchor noImage
  have noImageAfter : ¬ images.Selects (anchored known root (segments text)) k := fun selects =>
    noImage ((selects_images_anchored_iff noTag noSpawn k).1 selects)
  rw [segments_relink noQuote, getElem?_convertSelected_of_not_selects noImageAfter, anchored,
    getElem?_convertSelected_of_not_selects noAnchor]

/-- A spawned image value is changed, though nothing selects it on the page as it was. -/
theorem SpawnsImage.not_changesOnlySelected (noQuote : '"' ∉ root) (someRoot : root ≠ [])
    (spawns : SpawnsImage known (segments text) k) : ¬ ChangesOnlySelected known root text := by
  intro frame
  obtain ⟨noAnchor, noImage⟩ := spawns.unselected
  have bound : k + 1 < (segments text).length := Nat.lt_of_succ_lt spawns.quoted
  have kept := frame (k + 1) noAnchor noImage
  rw [segments_relink noQuote, getElem?_convertSelected_of_selects spawns.selects,
    getD_anchored_of_not_selects noAnchor, List.getElem?_eq_getElem bound,
    Option.some.injEq] at kept
  have longer := length_lt_convertImage someRoot ((segments text).getD (k + 1) [])
  rw [kept, List.getD_eq_getElem _ _ bound] at longer
  exact Nat.lt_irrefl _ longer

/-- Both passes keep the number of segments.  They change only what a selector selects on the page
as it was, and find no other images, exactly if no anchor spawns an image. -/
theorem relink_frame (noQuote : '"' ∉ root) (noTag : '<' ∉ root) :
    (segments (relink known root text)).length = (segments text).length ∧
    (ChangesOnlySelected known root text ∧ FindsOnlyOwnImages known root text ↔
      ∀ k, ¬ SpawnsImage known (segments text) k) ∧
    (root ≠ [] → (ChangesOnlySelected known root text ↔
      ∀ k, ¬ SpawnsImage known (segments text) k)) := by
  refine ⟨?_, ?_, ?_⟩
  · rw [segments_relink noQuote, length_convertSelected, length_anchored]
  · rw [findsOnlyOwnImages_iff noQuote noTag]
    constructor
    · exact And.right
    · intro noSpawn
      exact ⟨changesOnlySelected_of_no_spawn noQuote noTag noSpawn, noSpawn⟩
  · intro someRoot
    constructor
    · intro frame k spawns
      exact spawns.not_changesOnlySelected noQuote someRoot frame
    · exact changesOnlySelected_of_no_spawn noQuote noTag

/-- A page on which no link holds a tag: both passes change its anchor and its image, no more. -/
theorem relink_frame_gadget :
    let known : Resolver := fun name => name = "Gadget".toList
    let root := "http://x/pkg/Y.html".toList
    let text := "<A HREF=\"../Gadget.html#a\"><IMG SRC=\"y.png\">".toList
    '"' ∉ root ∧ '<' ∉ root ∧ root ≠ [] ∧
      (segments (relink known root text)).length = 5 ∧ ChangesOnlySelected known root text ∧
      FindsOnlyOwnImages known root text := by
  intro known root text
  have noQuote : '"' ∉ root := by decide
  have noTag : '<' ∉ root := by decide
  have noSpawn : ∀ k, ¬ SpawnsImage known (segments text) k := by
    intro k spawns
    have noLinkTag : ∀ k < 4, anchors.Selects (segments text) k →
        '<' ∉ (segments text).getD k [] := by decide
    have bound : k < 4 := Nat.lt_of_succ_lt_succ (lt_length_of_selects spawns.anchor)
    exact not_spawnsImage (noLinkTag k bound spawns.anchor) spawns
  obtain ⟨length, frame, _⟩ := @relink_frame known root text noQuote noTag
  exact ⟨noQuote, noTag, by decide, length, frame.2 noSpawn⟩

/-- The two halves of an opening around a page suffix: on this page no selector selects `y.png`, and
yet it becomes an image address. -/
theorem not_changesOnlySelected_gadget :
    let known : Resolver := fun name => name = "Gadget".toList
    let root := "http://x/pkg/Y.html".toList
    let text := "<A HREF=\"Gadget.html#<IM.htmG SRC=\"y.png\">".toList
    '"' ∉ root ∧ '<' ∉ root ∧ ¬ ChangesOnlySelected known root text := by
  intro known root text
  have link : (segments text).getD 1 [] = "Gadget.html#<IM.htmG SRC=".toList := by decide
  have joined : withoutPageSuffixes "Gadget.html#<IM.htmG SRC=".toList =
      "Gadget#<IMG SRC=".toList := by cbv
  have found : known (withoutFragment (symbolName "Gadget.html#<IM.htmG SRC=".toList)) = true := by
    rw [symbolName, joined]
    decide
  have spawns : SpawnsImage known (segments text) 1 :=
    { anchor := by decide
      names := link ▸ ⟨by decide, by decide, found⟩
      closed_before := by decide
      opens_after := by
        rw [link, joined]
        decide
      value := by decide
      quoted := by decide }
  exact ⟨by decide, by decide, spawns.not_changesOnlySelected (by decide) (by decide)⟩

end DocExcerpt.Link
