import DocExcerpt.Proofs.Link.Relink

/-!
# Both passes at once

No value is an anchor and an image at once, and a pass that keeps what each of its values opens
hides no value of the other kind and exposes none.  Two such passes can be made at once, each value
by its own rule (`together`), and so the order in which they are made does not matter.

The pass over images always keeps what its values open, the pass over anchors unless an anchor
spawns an image.  Without symbols no anchor does (`passes_without_symbols_in_any_order`).
-/

namespace DocExcerpt.Link

open Selector

variable {known : Resolver} {root text : Text} {pieces : List Text}

/-! ## Two rules -/

/-- The segments of a page with the values of two rules converted at once. -/
def together (one other : Rule) (root : Text) (pieces : List Text) : List Text :=
  pieces.mapIdx fun k piece =>
    if one.selector.Selects pieces k then one.convert root piece
    else if other.selector.Selects pieces k then other.convert root piece
    else piece

section TwoRules

variable {one other : Rule} (apart : one.selector.Apart other.selector)

include apart

theorem together_comm (root : Text) (pieces : List Text) :
    together one other root pieces = together other one root pieces := by
  apply List.mapIdx_eq_mapIdx_iff.2
  intro k _
  by_cases selects : one.selector.Selects pieces k
  · rw [if_pos selects, if_neg (apart.not_selects selects), if_pos selects]
  · rw [if_neg selects, if_neg selects]

/-- What a pass does behind another one that hides nothing from it and exposes nothing to it. -/
theorem convertSelected_convertSelected
    (same : ∀ k, other.selector.Selects
        (one.selector.convertSelected (one.convert root) pieces) k ↔
      other.selector.Selects pieces k) :
    other.selector.convertSelected (other.convert root)
        (one.selector.convertSelected (one.convert root) pieces) =
      together one other root pieces := by
  rw [convertSelected]
  simp only [same]
  rw [convertSelected, List.mapIdx_mapIdx]
  apply List.mapIdx_eq_mapIdx_iff.2
  intro k _
  rw [Function.comp_apply]
  by_cases selects : one.selector.Selects pieces k
  · rw [if_neg (apart.not_selects selects), if_pos selects, if_pos selects]
  · rw [if_neg selects, if_neg selects]

/-- A pass whose conversions add no double quote and keep what the values open, and another pass
behind it. -/
theorem Rule.apply_apply_eq_together
    (noQuote : ∀ href, '"' ∉ href → '"' ∉ one.convert root href)
    (keeps : ∀ k, one.selector.Selects (segments text) k → '>' ∉ (segments text).getD (k + 1) [] →
      k + 2 < (segments text).length →
      (other.selector.EndsInOpening (one.convert root ((segments text).getD k [])) ↔
        other.selector.EndsInOpening ((segments text).getD k []))) :
    other.apply root (one.apply root text) = quoted (together one other root (segments text)) := by
  rw [Rule.apply_eq_quoted, Rule.segments_apply noQuote,
    convertSelected_convertSelected apart (apart.selects_convertSelected_iff keeps)]

end TwoRules

/-! ## Anchors and images -/

theorem relink_eq_together (noQuote : '"' ∉ root) (noTag : '<' ∉ root)
    (noSpawn : ∀ k, ¬ SpawnsImage known (segments text) k) :
    relink known root text = quoted (together (anchorRule known) imageRule root (segments text)) :=
  Rule.apply_apply_eq_together anchors_apart_images
    (fun _ => not_mem_convertAnchor known (by decide) noQuote)
    (fun k anchor => endsInOpening_convertAnchor_iff noTag (noSpawn k) anchor)

theorem anchors_behind_images_eq_together (noQuote : '"' ∉ root) (noTag : '<' ∉ root) :
    (anchorRule known).apply root (imageRule.apply root text) =
      quoted (together imageRule (anchorRule known) root (segments text)) :=
  Rule.apply_apply_eq_together anchors_apart_images.symm
    (fun _ => not_mem_convertImage (by decide) noQuote)
    (fun _ _ _ _ => endsInOpening_convertImage_iff noTag _)

theorem not_spawnsImage_noSymbols (k : Nat) : ¬ SpawnsImage noSymbols pieces k := fun spawns =>
  Bool.false_ne_true spawns.names.2.2

/-- Without symbols it does not matter which pass comes first: both ways each anchor and each image
of the page as it was is converted by its own rule, and nothing else. -/
theorem passes_without_symbols_in_any_order (noQuote : '"' ∉ root) (noTag : '<' ∉ root)
    (text : Text) :
    imageRule.apply root ((anchorRule noSymbols).apply root text) =
        quoted (together (anchorRule noSymbols) imageRule root (segments text)) ∧
      (anchorRule noSymbols).apply root (imageRule.apply root text) =
        quoted (together (anchorRule noSymbols) imageRule root (segments text)) := by
  constructor
  · exact relink_eq_together noQuote noTag not_spawnsImage_noSymbols
  · rw [anchors_behind_images_eq_together noQuote noTag]
    exact congrArg quoted (together_comm anchors_apart_images.symm root (segments text))

/-- A link, an image and a link that share their quotes: each holds the opening of the next. -/
def sharedQuotes : Text := "<A HREF=\"#<IMG SRC=\"#<A HREF=\"b.html\">".toList

theorem passes_without_symbols_in_any_order_sharedQuotes :
    let root := "http://x/Y.html".toList
    let converted := quoted ["<A HREF=".toList, "doc_element://http://x/Y#<IMG SRC=".toList,
      "doc_element://http://x/Y#<A HREF=".toList, "doc_element://http://x/b.html".toList,
      ">".toList]
    '"' ∉ root ∧ '<' ∉ root ∧
      imageRule.apply root ((anchorRule noSymbols).apply root sharedQuotes) = converted ∧
      (anchorRule noSymbols).apply root (imageRule.apply root sharedQuotes) = converted := by
  have noQuote : '"' ∉ "http://x/Y.html".toList := by decide
  have noTag : '<' ∉ "http://x/Y.html".toList := by decide
  obtain ⟨anchorsFirst, imagesFirst⟩ :=
    passes_without_symbols_in_any_order noQuote noTag sharedQuotes
  have atOnce : together (anchorRule noSymbols) imageRule "http://x/Y.html".toList
      (segments sharedQuotes) = ["<A HREF=".toList, "doc_element://http://x/Y#<IMG SRC=".toList,
        "doc_element://http://x/Y#<A HREF=".toList, "doc_element://http://x/b.html".toList,
        ">".toList] := by cbv
  rw [atOnce] at anchorsFirst imagesFirst
  exact ⟨noQuote, noTag, anchorsFirst, imagesFirst⟩

end DocExcerpt.Link
