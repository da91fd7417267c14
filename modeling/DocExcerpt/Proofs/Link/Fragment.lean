import DocExcerpt.Proofs.Link.ClassPage
import DocExcerpt.Proofs.Link.Site

/-!
# Links with a fragment

The edits that turn a link into the name of a symbol go over its fragment as well.  None of them
reaches over the `#`: page suffixes and leading `../` hold none, and dots are put one by one.  So a
link and its fragment are edited each on its own (`symbolName_append_fragment`), and what is looked
up is the name of the link alone (`convertAnchor_append_fragment`).
-/

namespace DocExcerpt.Link

variable {known : Resolver} {href page fragment name other : Text}

/-! ## What is looked up -/

/-- Whether the conversion of a link looks up one name and nothing else: the link becomes a
reference to a symbol if that name is known, and one to a page if it is not. -/
structure LooksUp (href name : Text) : Prop where
  known : ∀ known root, known name = true → symbolScheme <+: convertAnchor known root href
  unknown : ∀ known root, known name = false → pageScheme <+: convertAnchor known root href
  alone : ∀ (known other : Resolver) root, known name = other name →
    convertAnchor known root href = convertAnchor other root href

theorem not_symbolScheme_of_pageScheme {t : Text} (isPage : pageScheme <+: t) :
    ¬ symbolScheme <+: t := by
  rintro ⟨name, rfl⟩
  obtain ⟨path, same⟩ := isPage
  exact pageScheme_append_ne path name same

theorem looksUp_of_relative (relative : Url.isAbsolute href = false)
    (noFragment : href.head? ≠ some '#') : LooksUp href (withoutFragment (symbolName href)) where
  known known root found := by
    rw [convertAnchor_of_namesSymbol ⟨relative, noFragment, found⟩]
    exact List.prefix_append symbolScheme _
  unknown known root unknown := by
    rw [convertAnchor_of_unknown relative noFragment unknown]
    exact List.prefix_append pageScheme _
  alone known other root same := by
    unfold convertAnchor
    rw [same]

/-! ## Names with a fragment -/

theorem withoutFragment_append (noFragment : '#' ∉ page) (fragment : Text) :
    withoutFragment (page ++ '#' :: fragment) = page := by
  have before : ∀ c ∈ page, decide (c ≠ '#') = true := fun c member =>
    decide_eq_true fun isHash => noFragment (isHash ▸ member)
  rw [withoutFragment, List.takeWhile_append_of_pos before]
  simp

theorem withoutLeadingParents_append (page fragment : Text) :
    withoutLeadingParents (page ++ '#' :: fragment) =
      withoutLeadingParents page ++ '#' :: fragment := by
  fun_induction withoutLeadingParents page with
  | case1 page inductionHypothesis => exact inductionHypothesis
  | case2 page noParent =>
    unfold withoutLeadingParents
    split
    next rest eq =>
      match page with
      | [] | [_] | [_, _] => simp at eq
      | a :: b :: c :: more =>
        simp only [List.cons_append, List.cons.injEq] at eq
        obtain ⟨rfl, rfl, rfl, -⟩ := eq
        exact absurd rfl (noParent more)
    next => rfl

/-- The name of a link with a fragment is the name of the link, and then the fragment, edited in the
same way. -/
theorem symbolName_append_fragment (page fragment : Text) :
    symbolName (page ++ '#' :: fragment) =
      symbolName page ++
        '#' :: (withoutPageSuffixes fragment).map fun c => if c = '/' then '.' else c := by
  rw [symbolName, withoutPageSuffixes_append_cons (by decide), withoutLeadingParents_append,
    List.map_append]
  rfl

theorem fragment_not_mem_symbolName (noFragment : '#' ∉ page) : '#' ∉ symbolName page := by
  intro member
  rcases mem_symbolName member with isDot | inPage
  · cases isDot
  · exact noFragment inPage

/-! ## Links with a fragment -/

/-- A link is looked up under the same name with a fragment and without one.  A reference to a symbol
gets the fragment behind it, without page suffixes and with dots for slashes. -/
theorem convertAnchor_append_fragment (page fragment : Text) (nonempty : page ≠ [])
    (noFragment : '#' ∉ page) (relative : Url.isAbsolute page = false)
    (relativeBoth : Url.isAbsolute (page ++ '#' :: fragment) = false) :
    (∃ name, LooksUp page name ∧ LooksUp (page ++ '#' :: fragment) name) ∧
    ∀ known root,
      (symbolScheme <+: convertAnchor known root page ∧
        convertAnchor known root (page ++ '#' :: fragment) =
          convertAnchor known root page ++
            '#' :: (withoutPageSuffixes fragment).map fun c => if c = '/' then '.' else c) ∨
      (pageScheme <+: convertAnchor known root page ∧
        pageScheme <+: convertAnchor known root (page ++ '#' :: fragment)) := by
  have noHash : page.head? ≠ some '#' := fun isHash => noFragment (List.mem_of_head? isHash)
  have noHashBoth : (page ++ '#' :: fragment).head? ≠ some '#' := by
    rwa [List.head?_append_of_ne_nil _ nonempty]
  have noFragmentInName := fragment_not_mem_symbolName noFragment
  have looksUp : LooksUp page (symbolName page) := by
    have looksUp := looksUp_of_relative relative noHash
    rwa [withoutFragment_of_not_mem noFragmentInName] at looksUp
  have nameBoth : withoutFragment (symbolName (page ++ '#' :: fragment)) = symbolName page := by
    rw [symbolName_append_fragment, withoutFragment_append noFragmentInName]
  have looksUpBoth : LooksUp (page ++ '#' :: fragment) (symbolName page) :=
    nameBoth ▸ looksUp_of_relative relativeBoth noHashBoth
  refine ⟨⟨symbolName page, looksUp, looksUpBoth⟩, fun known root => ?_⟩
  cases found : known (symbolName page) with
  | true =>
    have names : NamesSymbol known page :=
      ⟨relative, noHash, by rwa [withoutFragment_of_not_mem noFragmentInName]⟩
    have namesBoth : NamesSymbol known (page ++ '#' :: fragment) :=
      ⟨relativeBoth, noHashBoth, by rwa [nameBoth]⟩
    refine .inl ⟨looksUp.known known root found, ?_⟩
    rw [convertAnchor_of_namesSymbol names, convertAnchor_of_namesSymbol namesBoth,
      symbolName_append_fragment, List.append_assoc]
  | false => exact .inr ⟨looksUp.unknown known root found, looksUpBoth.unknown known root found⟩

/-- A fragment with slashes, a page suffix and a `#` of its own. -/
theorem convertAnchor_append_fragment_member :
    let known : Resolver := fun name => name = "a.B".toList
    convertAnchor known [] "../a/B.html".toList = "psi_element://a.B".toList ∧
      convertAnchor known [] "../a/B.html#f(c/D.htm)#../x".toList =
        "psi_element://a.B#f(c.D)#...x".toList := by
  have page : convertAnchor (fun name => name = "a.B".toList) [] "../a/B.html".toList =
      "psi_element://a.B".toList := by cbv
  intro known
  have isSymbol : symbolScheme <+: convertAnchor known [] "../a/B.html".toList := by
    rw [page]
    exact List.prefix_append symbolScheme "a.B".toList
  have edited : ((withoutPageSuffixes "f(c/D.htm)#../x".toList).map fun c =>
      if c = '/' then '.' else c) = "f(c.D)#...x".toList := by cbv
  obtain ⟨-, together⟩ := convertAnchor_append_fragment "../a/B.html".toList
    "f(c/D.htm)#../x".toList (by decide) (by decide)
    (Url.not_isAbsolute_of_not_mem (by decide)) (Url.not_isAbsolute_of_not_mem (by decide))
  refine ⟨page, ?_⟩
  rcases together known [] with ⟨-, both⟩ | ⟨isPage, -⟩
  · rw [page, edited] at both
    exact both
  · exact absurd isSymbol (not_symbolScheme_of_pageScheme isPage)

end DocExcerpt.Link
