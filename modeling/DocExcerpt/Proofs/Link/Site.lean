import DocExcerpt.Link.Rule
import DocExcerpt.Proofs.Link.Collapsing

/-!
# References that stay on their site

An address is collapsed as a plain text, so that a host is a segment like any other, and the empty
text between the two slashes in front of it is one too.  A `..` that has no directory left to undo
undoes the host itself, unless there is a dot or a caret in the host.  A host that is `..` undoes
what stands in front of it.

`collapseParents_site_iff` says that these are the only ways to leave a site: else the path is
collapsed on its own, and what stands before it is kept.
-/

namespace DocExcerpt.Link

open Relation Pieces

variable {known : Resolver} {scheme host path href t u : Text}

/-! ## Sites -/

def site (scheme host : Text) : Text := scheme ++ "://".toList ++ host

/-- Whether a path leads out of the directory that it begins in. -/
def ClimbsOut (path : Text) : Prop := "/../".toList <+: collapseParents path

/-- Whether a host stands its ground before a path. -/
def HoldsBefore (host path : Text) : Prop :=
  host ≠ "..".toList ∧ (ClimbsOut path → '.' ∈ host ∨ '^' ∈ host)

/-! ## Where a path begins -/

theorem Undoes.head?_eq (undoes : Undoes t u) : u.head? = t.head? := by
  cases undoes with
  | directory before name after plain => cases before <;> rfl

theorem head?_eq_of_reflTransGen (reaches : ReflTransGen Undoes t u) : u.head? = t.head? := by
  induction reaches with
  | refl => rfl
  | tail _ undoes inductionHypothesis => exact undoes.head?_eq.trans inductionHypothesis

theorem head?_directory (t : Text) : (directory t).head? = t.head? := by
  cases t with
  | nil => rfl
  | cons c t =>
    rw [directory]
    split
    next isFile => rw [isFile.1]; rfl
    next => rfl

theorem directory_append_slash (before path : Text) :
    directory (before ++ '/' :: path) = before ++ directory ('/' :: path) := by
  induction before with
  | nil => rfl
  | cons c before inductionHypothesis =>
    have notLast : ¬ (c = '/' ∧ '/' ∉ before ++ '/' :: path ∧
        endsInPageSuffix (before ++ '/' :: path) = true) := fun isFile => isFile.2.1 (by simp)
    rw [List.cons_append, directory, if_neg notLast, inductionHypothesis, List.cons_append]

theorem collapseParents_eq_cons {place : Text} (slash : place.head? = some '/') :
    ∃ rest, collapseParents place = '/' :: rest := by
  have kept := head?_eq_of_reflTransGen (reflTransGen_collapseParents place)
  exact List.head?_eq_some_iff.mp (kept.trans slash)

/-! ## Sites in front of a path -/

theorem ended_site (noScheme : '/' ∉ scheme) (noHost : '/' ∉ host) (path : Text) :
    ended '/' (site scheme host ++ '/' :: path) =
      (scheme ++ [':']) :: [] :: host :: ended '/' path := by
  have noColon : '/' ∉ scheme ++ [':'] := by simp [noScheme]
  have cut : site scheme host ++ '/' :: path =
      scheme ++ [':'] ++ '/' :: ([] ++ '/' :: (host ++ '/' :: path)) := by
    simp [site]
  rw [cut, ended_append_mark noColon, ended_append_mark List.not_mem_nil, ended_append_mark noHost]

theorem eq_cons_of_ended_eq_parent {after : List Text}
    (cut : ended '/' path = ['.', '.'] :: after) : "/../".toList <+: '/' :: path := by
  have whole : (ended '/' path).flatMap (· ++ ['/']) ++ unended '/' path = path :=
    flatMap_ended_append_unended path
  rw [cut, List.flatMap_cons] at whole
  rw [← whole]
  exact ⟨after.flatMap (· ++ ['/']) ++ unended '/' path, by simp⟩

/-- A site may stand before a settled path if the host is no `..` and is not undone by the path. -/
theorem settled_site (noScheme : '/' ∉ scheme) (noHost : '/' ∉ host)
    (noParent : host ≠ "..".toList) (settled : Settled ('/' :: path))
    (holds : "/../".toList <+: '/' :: path → '.' ∈ host ∨ '^' ∈ host) :
    Settled (site scheme host ++ '/' :: path) := by
  have stay : AllStay ([] :: ended '/' path) := by
    have slash : ended '/' ('/' :: path) = [] :: ended '/' path :=
      ended_append_mark List.not_mem_nil path
    rw [← slash]
    exact settled_iff_allStay.mp settled
  rw [settled_iff_allStay, ended_site noScheme noHost]
  intro before below name after cut
  match before with
  | [] =>
    simp only [List.nil_append, List.cons.injEq] at cut
    exact absurd cut.2.2.1 noParent
  | [_] =>
    simp only [List.cons_append, List.nil_append, List.cons.injEq] at cut
    obtain ⟨-, -, rfl, cut⟩ := cut
    exact holds (eq_cons_of_ended_eq_parent cut)
  | [_, _] =>
    simp only [List.cons_append, List.nil_append, List.cons.injEq] at cut
    exact stay [] [] name after (by simp [cut.2.2.2])
  | _ :: _ :: _ :: before =>
    simp only [List.cons_append, List.cons.injEq] at cut
    exact stay ([] :: before) below name after (by simp [cut.2.2.2])

/-- The path behind a site is collapsed on its own exactly if the host stands its ground. -/
theorem collapseParents_site_iff (noScheme : '/' ∉ scheme) (noHost : '/' ∉ host) {place : Text}
    (slash : place.head? = some '/') :
    collapseParents (site scheme host ++ place) = site scheme host ++ collapseParents place ↔
      HoldsBefore host place := by
  obtain ⟨rest, collapsed⟩ := collapseParents_eq_cons slash
  rw [HoldsBefore, ClimbsOut, collapsed]
  constructor
  · intro kept
    have settled : Settled (site scheme host ++ '/' :: rest) :=
      kept ▸ settled_collapseParents (site scheme host ++ place)
    constructor
    · rintro rfl
      have undoes := Undoes.directory (scheme ++ [':']) [] rest (by simp [IsPlainName])
      apply settled (scheme ++ [':'] ++ '/' :: rest)
      simpa [site] using undoes
    · rintro ⟨after, climbs⟩
      by_contra taken
      obtain ⟨noDot, noCaret⟩ := not_or.mp taken
      have undoes := Undoes.directory (scheme ++ [':', '/']) host after ⟨noHost, noDot, noCaret⟩
      apply settled (scheme ++ [':', '/'] ++ '/' :: after)
      rw [← climbs]
      simpa [site] using undoes
  · rintro ⟨noParent, holds⟩
    have reaches : ReflTransGen Undoes (site scheme host ++ place)
        (site scheme host ++ collapseParents place) :=
      (reflTransGen_collapseParents place).lift (site scheme host ++ ·) fun _ _ undoes =>
        undoes.append_left (site scheme host)
    rw [collapsed] at reaches
    have settled := settled_collapseParents place
    rw [collapsed] at settled
    exact (eq_collapseParents reaches (settled_site noScheme noHost noParent settled holds)).symm

/-! ## References to pages -/

theorem convertAnchor_of_unknown (relative : Url.isAbsolute href = false)
    (noFragment : href.head? ≠ some '#')
    (unknown : known (withoutFragment (symbolName href)) = false) (root : Text) :
    convertAnchor known root href = pageScheme ++ collapseParents (directory root ++ href) := by
  simp [convertAnchor, relative, noFragment, unknown]

/-- A reference from a page to another keeps the site of the page and collapses what stands behind
it exactly if the host stands its ground, and then it begins with that site, however many `../` the
link has. -/
theorem convertAnchor_keeps_site_iff (known : Resolver) (scheme host path href : Text)
    (letters : ∀ c ∈ scheme, c.isAlpha = true) (noHost : '/' ∉ host)
    (relative : Url.isAbsolute href = false) (noFragment : href.head? ≠ some '#')
    (unknown : known (withoutFragment (symbolName href)) = false) :
    (HoldsBefore host (directory ('/' :: path) ++ href) →
      pageScheme ++ site scheme host ++ ['/'] <+:
        convertAnchor known (site scheme host ++ '/' :: path) href) ∧
    (convertAnchor known (site scheme host ++ '/' :: path) href =
        pageScheme ++ site scheme host ++ collapseParents (directory ('/' :: path) ++ href) ↔
      HoldsBefore host (directory ('/' :: path) ++ href)) := by
  have noScheme : '/' ∉ scheme := fun member => absurd (letters '/' member) (by decide)
  have slash : (directory ('/' :: path) ++ href).head? = some '/' := by
    obtain ⟨rest, eq⟩ := List.head?_eq_some_iff.mp (head?_directory ('/' :: path))
    rw [eq]
    rfl
  have kept := collapseParents_site_iff noScheme noHost slash
  rw [convertAnchor_of_unknown relative noFragment unknown, directory_append_slash,
    List.append_assoc (site scheme host),
    List.append_assoc pageScheme (site scheme host) (collapseParents _), List.append_cancel_left_eq]
  refine ⟨fun holds => ?_, kept⟩
  obtain ⟨rest, collapsed⟩ := collapseParents_eq_cons slash
  rw [kept.mpr holds, collapsed]
  exact ⟨rest, by simp⟩

/-- A link with more `../` than there are directories, on a site with a dot in its name. -/
theorem convertAnchor_keeps_site_dotted :
    "doc_element://http://e.org/".toList <+:
      convertAnchor noSymbols "http://e.org/docs/Y.html".toList "../../../a.html".toList :=
  (convertAnchor_keeps_site_iff noSymbols "http".toList "e.org".toList "docs/Y.html".toList
    "../../../a.html".toList (List.all_eq_true.mp rfl) (by decide) (by decide) (by decide) rfl).1
    ⟨by decide, fun _ => .inl (by decide)⟩

/-- On a site without a dot in its name, one `../` more than there are directories undoes the
host. -/
theorem convertAnchor_leaves_site_localhost :
    let scheme := "http".toList
    let host := "localhost".toList
    let root := site scheme host ++ '/' :: "docs/Y.html".toList
    let href := "../../a/b.html".toList
    (∀ c ∈ scheme, c.isAlpha = true) ∧ host ≠ [] ∧ '/' ∉ host ∧
      Url.isAbsolute href = false ∧ href.head? ≠ some '#' ∧
      noSymbols (withoutFragment (symbolName href)) = false ∧
      convertAnchor noSymbols root href = "doc_element://http://a/b.html".toList ∧
      ¬ pageScheme ++ site scheme host ++ ['/'] <+: convertAnchor noSymbols root href := by
  intro scheme host root href
  have relative : Url.isAbsolute href = false := by decide
  have noFragment : href.head? ≠ some '#' := by decide
  have left : convertAnchor noSymbols root href = "doc_element://http://a/b.html".toList := by
    rw [convertAnchor_of_unknown relative noFragment rfl, ← walked_eq_collapseParents]
    decide
  refine ⟨List.all_eq_true.mp rfl, by decide, by decide, relative, noFragment, rfl, left, ?_⟩
  rw [left]
  decide

end DocExcerpt.Link
