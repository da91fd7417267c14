import DocExcerpt.Proofs.Link.Address
import DocExcerpt.Proofs.Link.Selection

/-!
# What a converted link holds and how it ends

A link and the page address are all that a converted link is made of, besides a scheme and dots.
Whether a segment ends in an opening is decided behind its last `<`, slash or dot, so most
conversions do not change it.  The exception is a link that names a known symbol: the removal of
page suffixes can join the two halves of an opening.
-/

namespace DocExcerpt.Link

/-! ## Characters -/

theorem map_dots_of_not_mem {t : Text} (noSlash : '/' ∉ t) :
    (t.map fun c => if c = '/' then '.' else c) = t := by
  have same : (t.map fun c => if c = '/' then '.' else c) = t.map id := by
    apply List.map_congr_left
    intro c member
    have other : c ≠ '/' := fun isSlash => noSlash (isSlash ▸ member)
    exact if_neg other
  rw [same, List.map_id]

theorem mem_symbolName {c : Char} {href : Text} (member : c ∈ symbolName href) :
    c = '.' ∨ c ∈ href := by
  obtain ⟨d, inName, eq⟩ := List.mem_map.1 member
  have inHref : d ∈ href := (withoutPageSuffixes_sublist href).subset
    ((withoutLeadingParents_suffix _).subset inName)
  by_cases slash : d = '/'
  · rw [if_pos slash] at eq
    exact .inl eq.symm
  · rw [if_neg slash] at eq
    exact .inr (eq ▸ inHref)

theorem mem_fragmentReference {c : Char} {root href : Text}
    (member : c ∈ fragmentReference root href) : c ∈ pageScheme ∨ c ∈ root ∨ c ∈ href := by
  simp only [fragmentReference, List.mem_append, or_assoc] at member
  exact member.imp_right (Or.imp_left fun inRoot =>
    (withoutFinalPageSuffix_sublist root).subset inRoot)

/-- A converted anchor holds the characters of a scheme, dots, and what was there. -/
theorem mem_convertAnchor {known : Resolver} {c : Char} {root href : Text}
    (member : c ∈ convertAnchor known root href) :
    c ∈ symbolScheme ++ pageScheme ∨ c = '.' ∨ c ∈ root ∨ c ∈ href := by
  unfold convertAnchor at member
  split at member
  next => exact .inr (.inr (.inr member))
  next =>
    split at member
    next =>
      rcases mem_fragmentReference member with inScheme | kept
      · exact .inl (List.mem_append_right _ inScheme)
      · exact .inr (.inr kept)
    next =>
      split at member
      next =>
        rcases List.mem_append.1 member with inScheme | inName
        · exact .inl (List.mem_append_left _ inScheme)
        · exact .inr ((mem_symbolName inName).imp_right .inr)
      next =>
        rcases List.mem_append.1 member with inScheme | inPath
        · exact .inl (List.mem_append_right _ inScheme)
        · rcases List.mem_append.1 ((collapseParents_sublist _).subset inPath) with inRoot | inHref
          · exact .inr (.inr (.inl ((directory_sublist root).subset inRoot)))
          · exact .inr (.inr (.inr inHref))

theorem mem_convertImage {c : Char} {root href : Text} (member : c ∈ convertImage root href) :
    c ∈ pageScheme ∨ c ∈ root ∨ c ∈ href := by
  unfold convertImage at member
  split at member
  next => exact mem_fragmentReference member
  next =>
    rcases List.mem_append.1 member with inRoot | inHref
    · exact .inr (.inl ((directory_sublist root).subset inRoot))
    · exact .inr (.inr inHref)

/-- A conversion writes no character that is foreign to schemes, page address and link. -/
theorem not_mem_convertAnchor {c : Char} (known : Resolver) {root href : Text}
    (foreign : c ∉ '.' :: (symbolScheme ++ pageScheme)) (noRoot : c ∉ root) (noHref : c ∉ href) :
    c ∉ convertAnchor known root href := by
  intro member
  rcases mem_convertAnchor member with inScheme | isDot | inRoot | inHref
  · exact foreign (List.mem_cons_of_mem _ inScheme)
  · exact foreign (isDot ▸ List.mem_cons_self)
  · exact noRoot inRoot
  · exact noHref inHref

theorem not_mem_convertImage {c : Char} {root href : Text} (foreign : c ∉ pageScheme)
    (noRoot : c ∉ root) (noHref : c ∉ href) : c ∉ convertImage root href := by
  intro member
  rcases mem_convertImage member with inScheme | inRoot | inHref
  · exact foreign inScheme
  · exact noRoot inRoot
  · exact noHref inHref

/-! ## Endings -/

namespace Selector

variable {s : Selector}

theorem endsInOpening_append_iff {before : Text} (noTag : '<' ∉ before) (t : Text) :
    s.EndsInOpening (before ++ t) ↔ s.EndsInOpening t := by
  induction before with
  | nil => rfl
  | cons c before inductionHypothesis =>
    have notHere : ¬ s.IsOpening (c :: (before ++ t)) := by
      intro opens
      obtain ⟨rest, eq, _⟩ := opens.eq_cons
      obtain ⟨rfl, _⟩ := List.cons.inj eq
      exact noTag List.mem_cons_self
    rw [List.cons_append, endsInOpening_cons_iff,
      inductionHypothesis fun member => noTag (List.mem_cons_of_mem c member)]
    simp [notHere]

theorem endsInOpening_append_cons_iff {c : Char} (foreign : isOpeningChar c = false)
    (noTag : c ≠ '<') (before t : Text) :
    s.EndsInOpening (before ++ c :: t) ↔ s.EndsInOpening t := by
  induction before with
  | nil =>
    have notHere : ¬ s.IsOpening (c :: t) := fun opens =>
      opens.not_mem foreign noTag List.mem_cons_self
    rw [List.nil_append, endsInOpening_cons_iff]
    simp [notHere]
  | cons d before inductionHypothesis =>
    have notHere : ¬ s.IsOpening (d :: (before ++ c :: t)) := fun opens =>
      opens.not_mem foreign noTag (by simp)
    rw [List.cons_append, endsInOpening_cons_iff, inductionHypothesis]
    simp [notHere]

theorem endsInOpening_append_slash_iff (before t : Text) :
    s.EndsInOpening (before ++ '/' :: t) ↔ s.EndsInOpening t :=
  endsInOpening_append_cons_iff (by decide) (by decide) before t

theorem isOpening_cons_collapseOnce_iff (c : Char) (t : Text) :
    s.IsOpening (c :: collapseOnce t) ↔ s.IsOpening (c :: t) := by
  by_cases slash : '/' ∈ t
  · have holds : ∀ u : Text, '/' ∈ u → ¬ s.IsOpening (c :: u) := fun u member opens =>
      opens.slash_not_mem (List.mem_cons_of_mem c member)
    simp [holds t slash, holds _ (mem_collapseOnce slash)]
  · rw [collapseOnce_of_not_mem slash]

theorem endsInOpening_collapseOnce_iff (t : Text) :
    s.EndsInOpening (collapseOnce t) ↔ s.EndsInOpening t := by
  fun_induction collapseOnce t with
  | case1 t rest found inductionHypothesis =>
    obtain ⟨before, rfl⟩ := eq_of_afterUndoneDirectory? found
    have collapsed := (endsInOpening_append_slash_iff [] _).trans inductionHypothesis
    exact collapsed.trans (endsInOpening_append_slash_iff ('/' :: before) rest).symm
  | case2 => rfl
  | case3 c t notFound inductionHypothesis =>
    rw [endsInOpening_cons_iff, endsInOpening_cons_iff, isOpening_cons_collapseOnce_iff]
    exact or_congr_right inductionHypothesis

theorem endsInOpening_collapseParents_iff (t : Text) :
    s.EndsInOpening (collapseParents t) ↔ s.EndsInOpening t := by
  fun_induction collapseParents t with
  | case1 t shorter inductionHypothesis =>
    exact inductionHypothesis.trans (endsInOpening_collapseOnce_iff t)
  | case2 t done => rfl

theorem endsInOpening_withoutLeadingParents_iff (t : Text) :
    s.EndsInOpening (withoutLeadingParents t) ↔ s.EndsInOpening t := by
  fun_induction withoutLeadingParents t with
  | case1 t inductionHypothesis =>
    exact inductionHypothesis.trans (endsInOpening_append_slash_iff ['.', '.'] t).symm
  | case2 t _ => rfl

theorem EndsInOpening.withoutPageSuffixes {t : Text} (ends : s.EndsInOpening t) :
    s.EndsInOpening (withoutPageSuffixes t) := by
  obtain ⟨opening, ⟨before, rfl⟩, opens⟩ := ends
  have noDot : '.' ∉ opening := opens.dot_not_mem
  obtain ⟨rest, rfl, _⟩ := opens.eq_cons
  rw [withoutPageSuffixes_append_cons (by decide),
    withoutPageSuffixes_of_not_mem fun member => noDot (List.mem_cons_of_mem _ member)]
  exact ⟨'<' :: rest, List.suffix_append _ _, opens⟩

theorem isOpening_map_dots_iff (t : Text) :
    s.IsOpening (t.map fun c => if c = '/' then '.' else c) ↔ s.IsOpening t := by
  by_cases slash : '/' ∈ t
  · have notBefore : ¬ s.IsOpening t := fun opens => opens.slash_not_mem slash
    have dot : '.' ∈ t.map fun c => if c = '/' then '.' else c :=
      List.mem_map.2 ⟨'/', slash, rfl⟩
    have notAfter : ¬ s.IsOpening (t.map fun c => if c = '/' then '.' else c) := fun opens =>
      opens.dot_not_mem dot
    simp only [notBefore, notAfter]
  · rw [map_dots_of_not_mem slash]

theorem endsInOpening_map_dots_iff (t : Text) :
    s.EndsInOpening (t.map fun c => if c = '/' then '.' else c) ↔ s.EndsInOpening t := by
  induction t with
  | nil => rfl
  | cons c t inductionHypothesis =>
    have here := isOpening_map_dots_iff (s := s) (c :: t)
    rw [List.map_cons] at here ⊢
    rw [endsInOpening_cons_iff, endsInOpening_cons_iff, inductionHypothesis, here]

theorem endsInOpening_symbolName_iff (href : Text) :
    s.EndsInOpening (symbolName href) ↔ s.EndsInOpening (Link.withoutPageSuffixes href) := by
  rw [symbolName, endsInOpening_map_dots_iff, endsInOpening_withoutLeadingParents_iff]

end Selector

/-! ## Converted links -/

/-- A link that becomes a reference to a known symbol. -/
def NamesSymbol (known : Resolver) (href : Text) : Prop :=
  Url.isAbsolute href = false ∧ href.head? ≠ some '#' ∧
    known (withoutFragment (symbolName href)) = true

theorem convertAnchor_of_namesSymbol {known : Resolver} {href : Text}
    (names : NamesSymbol known href) (root : Text) :
    convertAnchor known root href = symbolScheme ++ symbolName href := by
  obtain ⟨relative, noFragment, found⟩ := names
  simp [convertAnchor, relative, noFragment, found]

theorem endsInOpening_fragmentReference_iff {s : Selector} {root : Text} (noTag : '<' ∉ root)
    (href : Text) : s.EndsInOpening (fragmentReference root href) ↔ s.EndsInOpening href := by
  apply Selector.endsInOpening_append_iff
  intro member
  rcases List.mem_append.1 member with inScheme | inRoot
  · exact absurd inScheme (by decide)
  · exact noTag ((withoutFinalPageSuffix_sublist root).subset inRoot)

theorem endsInOpening_convertImage_iff {s : Selector} {root : Text} (noTag : '<' ∉ root)
    (href : Text) : s.EndsInOpening (convertImage root href) ↔ s.EndsInOpening href := by
  unfold convertImage
  split
  next => exact endsInOpening_fragmentReference_iff noTag href
  next =>
    apply Selector.endsInOpening_append_iff
    exact fun member => noTag ((directory_sublist root).subset member)

theorem endsInOpening_convertAnchor_of_namesSymbol {s : Selector} {known : Resolver} {href : Text}
    (names : NamesSymbol known href) (root : Text) :
    s.EndsInOpening (convertAnchor known root href) ↔
      s.EndsInOpening (withoutPageSuffixes href) := by
  rw [convertAnchor_of_namesSymbol names, Selector.endsInOpening_append_iff (by decide),
    Selector.endsInOpening_symbolName_iff]

theorem endsInOpening_convertAnchor_of_not_namesSymbol {s : Selector} {known : Resolver}
    {root href : Text} (noTag : '<' ∉ root) (noName : ¬ NamesSymbol known href) :
    s.EndsInOpening (convertAnchor known root href) ↔ s.EndsInOpening href := by
  unfold convertAnchor
  split
  next => rfl
  next relative =>
    split
    next => exact endsInOpening_fragmentReference_iff noTag href
    next noFragment =>
      split
      next found => exact absurd ⟨by simpa using relative, noFragment, found⟩ noName
      next =>
        have noTagBefore : '<' ∉ directory root := fun member =>
          noTag ((directory_sublist root).subset member)
        rw [Selector.endsInOpening_append_iff (by decide),
          Selector.endsInOpening_collapseParents_iff, Selector.endsInOpening_append_iff noTagBefore]

end DocExcerpt.Link
