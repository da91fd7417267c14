import DocExcerpt.Link.Address

/-!
# What editing an address keeps

Every edit of an address only leaves characters out, so that nothing appears in the result that
was not there before.  Page suffixes are removed on each side of a foreign character on their own
(`withoutPageSuffixes_append_cons`), and collapsing keeps slashes and what has none.
-/

namespace DocExcerpt.Link

/-! ## Fragments -/

theorem withoutFragment_sublist (t : Text) : (withoutFragment t).Sublist t :=
  List.takeWhile_sublist _

theorem withoutFragment_of_not_mem {t : Text} (noFragment : '#' ∉ t) : withoutFragment t = t := by
  have others : ∀ c ∈ t, decide (c ≠ '#') = true := fun c member =>
    decide_eq_true fun isHash => noFragment (isHash ▸ member)
  have whole : (t ++ []).takeWhile (· ≠ '#') = t ++ List.takeWhile (· ≠ '#') [] :=
    List.takeWhile_append_of_pos others
  rwa [List.append_nil, List.takeWhile_nil, List.append_nil] at whole

/-! ## Page suffixes -/

def isPageSuffixChar (c : Char) : Bool := c = '.' || c.toLower ∈ ['h', 't', 'm', 'l']

theorem suffix_of_afterPageSuffix? {t rest : Text} (found : afterPageSuffix? t = some rest) :
    rest <:+ t := by
  unfold afterPageSuffix? at found
  split at found
  next h u m tail =>
    split at found
    next =>
      split at found
      next =>
        cases found
        exact List.nil_suffix
      next l more =>
        split at found <;> cases found
        · exact ⟨['.', h, u, m, l], rfl⟩
        · exact ⟨['.', h, u, m], rfl⟩
    next => cases found
  next => cases found

theorem withoutPageSuffixes_of_some {t rest : Text} (found : afterPageSuffix? t = some rest) :
    withoutPageSuffixes t = withoutPageSuffixes rest := by
  rw [withoutPageSuffixes]
  split
  next other eq =>
    rw [found] at eq
    cases eq
    rfl
  next eq =>
    rw [found] at eq
    cases eq

theorem withoutPageSuffixes_cons_of_none {c : Char} {t : Text}
    (notFound : afterPageSuffix? (c :: t) = none) :
    withoutPageSuffixes (c :: t) = c :: withoutPageSuffixes t := by
  rw [withoutPageSuffixes]
  split
  next other eq =>
    rw [notFound] at eq
    cases eq
  next => rfl

theorem withoutPageSuffixes_sublist (t : Text) : (withoutPageSuffixes t).Sublist t := by
  fun_induction withoutPageSuffixes t with
  | case1 t rest found inductionHypothesis =>
    exact inductionHypothesis.trans (suffix_of_afterPageSuffix? found).sublist
  | case2 => exact List.Sublist.refl _
  | case3 c t notFound inductionHypothesis => exact inductionHypothesis.cons_cons c

theorem afterPageSuffix?_of_ne_dot {c : Char} (noDot : c ≠ '.') (t : Text) :
    afterPageSuffix? (c :: t) = none := by
  unfold afterPageSuffix?
  split
  next eq =>
    cases eq
    exact absurd rfl noDot
  next => rfl

theorem withoutPageSuffixes_of_not_mem {t : Text} (noDot : '.' ∉ t) :
    withoutPageSuffixes t = t := by
  induction t with
  | nil => rw [withoutPageSuffixes]; rfl
  | cons c t inductionHypothesis =>
    have notFound : afterPageSuffix? (c :: t) = none :=
      afterPageSuffix?_of_ne_dot (fun isDot => noDot (isDot ▸ List.mem_cons_self)) t
    rw [withoutPageSuffixes_cons_of_none notFound,
      inductionHypothesis fun member => noDot (List.mem_cons_of_mem c member)]

/-- A page suffix that begins before a character which is none of its letters ends before it. -/
theorem afterPageSuffix?_cons_append_cons {c : Char} (noLetter : c.toLower ∉ ['h', 't', 'm', 'l'])
    (a : Char) (t rest : Text) :
    afterPageSuffix? (a :: t ++ c :: rest) = (afterPageSuffix? (a :: t)).map (· ++ c :: rest) := by
  simp only [List.mem_cons, List.not_mem_nil, or_false, not_or] at noLetter
  obtain ⟨noH, noT, noM, noL⟩ := noLetter
  by_cases dot : a = '.'
  · subst dot
    match t with
    | [] =>
      match rest with
      | [] | [_] | _ :: _ :: _ => simp [afterPageSuffix?, Text.lower, noH]
    | [h] => cases rest <;> simp [afterPageSuffix?, Text.lower, noT]
    | [h, u] => simp [afterPageSuffix?, Text.lower, noM]
    | [h, u, m] => simp [afterPageSuffix?, noL]
    | h :: u :: m :: l :: t =>
      simp only [List.cons_append, afterPageSuffix?]
      split
      · split <;> rfl
      · rfl
  · rw [List.cons_append, afterPageSuffix?_of_ne_dot dot, afterPageSuffix?_of_ne_dot dot]
    rfl

theorem withoutPageSuffixes_append {c : Char} (noLetter : c.toLower ∉ ['h', 't', 'm', 'l'])
    (t rest : Text) :
    withoutPageSuffixes (t ++ c :: rest) =
      withoutPageSuffixes t ++ withoutPageSuffixes (c :: rest) := by
  have across := afterPageSuffix?_cons_append_cons noLetter
  fun_induction withoutPageSuffixes t with
  | case1 t more found inductionHypothesis =>
    have foundBoth : afterPageSuffix? (t ++ c :: rest) = some (more ++ c :: rest) := by
      cases t with
      | nil => cases found
      | cons a t => rw [across, found, Option.map_some]
    rw [withoutPageSuffixes_of_some foundBoth, inductionHypothesis]
  | case2 => rfl
  | case3 d t notFound inductionHypothesis =>
    have notFoundBoth : afterPageSuffix? (d :: (t ++ c :: rest)) = none := by
      rw [← List.cons_append, across, notFound, Option.map_none]
    rw [List.cons_append, withoutPageSuffixes_cons_of_none notFoundBoth, inductionHypothesis]
    rfl

theorem withoutPageSuffixes_append_cons {c : Char} (foreign : isPageSuffixChar c = false)
    (t rest : Text) :
    withoutPageSuffixes (t ++ c :: rest) =
      withoutPageSuffixes t ++ c :: withoutPageSuffixes rest := by
  obtain ⟨noDot, noLetter⟩ : c ≠ '.' ∧ c.toLower ∉ ['h', 't', 'm', 'l'] := by
    simpa [isPageSuffixChar] using foreign
  rw [withoutPageSuffixes_append noLetter,
    withoutPageSuffixes_cons_of_none (afterPageSuffix?_of_ne_dot noDot rest)]

theorem withoutFinalPageSuffix_sublist (t : Text) : (withoutFinalPageSuffix t).Sublist t := by
  induction t with
  | nil => exact List.Sublist.refl _
  | cons c t inductionHypothesis =>
    rw [withoutFinalPageSuffix]
    split
    · exact List.nil_sublist _
    · exact inductionHypothesis.cons_cons c

/-! ## Directories -/

theorem directory_sublist (t : Text) : (directory t).Sublist t := by
  induction t with
  | nil => exact List.Sublist.refl _
  | cons c t inductionHypothesis =>
    rw [directory]
    split
    next isFile =>
      rw [isFile.1]
      exact (List.nil_sublist t).cons_cons '/'
    next => exact inductionHypothesis.cons_cons c

theorem withoutLeadingParents_suffix (t : Text) : withoutLeadingParents t <:+ t := by
  fun_induction withoutLeadingParents t with
  | case1 t inductionHypothesis => exact inductionHypothesis.trans ⟨['.', '.', '/'], rfl⟩
  | case2 t _ => exact List.suffix_rfl

/-! ## Collapsing -/

theorem eq_of_afterUndoneDirectory? {t rest : Text} (found : afterUndoneDirectory? t = some rest) :
    ∃ before, t = '/' :: (before ++ '/' :: rest) := by
  unfold afterUndoneDirectory? at found
  split at found
  next tail =>
    split at found
    next more eq =>
      cases found
      refine ⟨tail.takeWhile isPlainNameChar ++ ['/', '.', '.'], ?_⟩
      have whole := List.takeWhile_append_dropWhile (p := isPlainNameChar) (l := tail)
      rw [eq] at whole
      rw [List.append_assoc]
      exact congrArg ('/' :: ·) whole.symm
    next => cases found
  next => cases found

theorem collapseOnce_sublist (t : Text) : (collapseOnce t).Sublist t := by
  fun_induction collapseOnce t with
  | case1 t rest found inductionHypothesis =>
    obtain ⟨before, rfl⟩ := eq_of_afterUndoneDirectory? found
    apply List.Sublist.cons_cons
    exact inductionHypothesis.trans ((List.sublist_cons_self '/' rest).trans
      (List.sublist_append_right before _))
  | case2 => exact List.Sublist.refl _
  | case3 c t notFound inductionHypothesis => exact inductionHypothesis.cons_cons c

theorem collapseParents_sublist (t : Text) : (collapseParents t).Sublist t := by
  fun_induction collapseParents t with
  | case1 t shorter inductionHypothesis => exact inductionHypothesis.trans (collapseOnce_sublist t)
  | case2 t done => exact List.Sublist.refl _

theorem collapseOnce_of_not_mem {t : Text} (noSlash : '/' ∉ t) : collapseOnce t = t := by
  fun_induction collapseOnce t with
  | case1 t rest found inductionHypothesis =>
    obtain ⟨before, rfl⟩ := eq_of_afterUndoneDirectory? found
    exact absurd List.mem_cons_self noSlash
  | case2 => rfl
  | case3 c t notFound inductionHypothesis =>
    rw [inductionHypothesis fun member => noSlash (List.mem_cons_of_mem c member)]

theorem mem_collapseOnce {t : Text} (slash : '/' ∈ t) : '/' ∈ collapseOnce t := by
  fun_induction collapseOnce t with
  | case1 t rest found inductionHypothesis => exact List.mem_cons_self
  | case2 => exact slash
  | case3 c t notFound inductionHypothesis =>
    rcases List.mem_cons.1 slash with rfl | member
    · exact List.mem_cons_self
    · exact List.mem_cons_of_mem c (inductionHypothesis member)

end DocExcerpt.Link
