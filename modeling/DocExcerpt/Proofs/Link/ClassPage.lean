import DocExcerpt.Proofs.Link.Conversion

/-!
# Links to the page of a class

The page of a class lies in the directories of its packages and is named for the class, with the
classes around it before a nested one, as in `../../java/util/Map.Entry.html`.  A link to it reads
back as the qualified name, up to one thing: page suffixes are removed wherever they stand, and the
dot in front of a nested class whose name begins with `htm` begins one (`symbolName_classPage`).

So a link to the page of the known class becomes a reference to the symbol exactly if none of the
nested names begins so (`convertAnchor_classPage`).
-/

namespace DocExcerpt

/-! ## Links without a scheme -/

theorem Url.mem_of_mem_cleaned {t : Text} {c : Char} (member : c ∈ cleaned t) : c ∈ t := by
  have inTrimmed : c ∈ t.trimBoth fun c => c.toNat ≤ 0x20 := List.mem_of_mem_filter member
  have inFront := (List.dropWhile_sublist _).subset (List.mem_reverse.mp inTrimmed)
  exact (List.dropWhile_sublist _).subset (List.mem_reverse.mp inFront)

theorem Url.not_isAbsolute_of_not_mem {t : Text} (noColon : ':' ∉ t) : isAbsolute t = false := by
  have noScheme : cutScheme? (cleaned t) = none := by
    unfold cutScheme?
    split
    next first rest _ eq =>
      have inRest : ':' ∈ (cleaned t).dropWhile isSchemeChar := eq ▸ List.mem_cons_self
      exact absurd (mem_of_mem_cleaned ((List.dropWhile_sublist _).subset inRest)) noColon
    next => rfl
  rw [isAbsolute, parse, noScheme]
  rfl

namespace Link

variable {known : Resolver} {root name suffix : Text} {packages classes names : List Text}

/-! ## Qualified names -/

def isNameChar (c : Char) : Bool := c.isAlphanum || c = '_' || c = '$'

/-- The name of a package or class, by itself. -/
def IsName (name : Text) : Prop := name ≠ [] ∧ ∀ c ∈ name, isNameChar c = true

def dotted (names : List Text) : Text := ['.'].intercalate names

/-- The link to the page of a class, from a page that lies `ups` directories deep: up to the root of
the site, down the packages, to the file that is named for the class and those around it. -/
def classPage (ups : Nat) (packages classes : List Text) (suffix : Text) : Text :=
  (List.replicate ups "../".toList).flatten ++ packages.flatMap (· ++ ['/']) ++
    (dotted classes ++ suffix)

/-- Whether a name reads as a page suffix once a dot stands before it. -/
def BeginsAsSuffix (name : Text) : Prop := "htm".toList <+: name.lower

instance : DecidablePred BeginsAsSuffix := fun _ => inferInstanceAs (Decidable (_ <+: _))

theorem IsName.not_mem (isName : IsName name) {c : Char} (foreign : isNameChar c = false) :
    c ∉ name := by
  intro member
  rw [isName.2 c member] at foreign
  cases foreign

theorem IsName.head?_append_ne (isName : IsName name) (rest : Text) :
    (name ++ rest).head? ≠ some '.' := by
  cases name with
  | nil => exact absurd rfl isName.1
  | cons c name =>
    intro dot
    obtain rfl := Option.some.inj dot
    exact absurd (isName.2 '.' List.mem_cons_self) (by decide)

theorem dotted_cons (name : Text) (names : List Text) :
    dotted (name :: names) = name ++ names.flatMap ('.' :: ·) := by
  induction names generalizing name with
  | nil => simp [dotted]
  | cons next names inductionHypothesis =>
    have cut : dotted (name :: next :: names) = name ++ '.' :: dotted (next :: names) := by
      simp [dotted, List.intercalate_cons_cons]
    rw [cut, inductionHypothesis]
    simp

theorem dotted_append (packages : List Text) (some : names ≠ []) :
    dotted (packages ++ names) = packages.flatMap (· ++ ['.']) ++ dotted names := by
  induction packages with
  | nil => rfl
  | cons package packages inductionHypothesis =>
    have more : packages ++ names ≠ [] := by simp [some]
    have cut : dotted (package :: (packages ++ names)) =
        package ++ '.' :: dotted (packages ++ names) := by
      simp [dotted, List.intercalate_cons_of_ne_nil more]
    rw [List.cons_append, cut, inductionHypothesis]
    simp

theorem not_mem_dotted {c : Char} (noDot : c ≠ '.') (foreign : ∀ name ∈ names, c ∉ name) :
    c ∉ dotted names := by
  cases names with
  | nil => simp [dotted]
  | cons name names =>
    rw [dotted_cons]
    simp_all [List.mem_flatMap]

/-! ## Page suffixes between names -/

theorem eq_of_toLower_eq {c d : Char} (same : c.toLower = d) (noLetter : d.isAlpha = false) :
    c = d := by
  have plain : c.isAlpha = false := by rw [← Char.isAlpha_toLower_eq_isAlpha, same, noLetter]
  have noCapital : c.isUpper ≠ true := by
    intro capital
    simp [Char.isAlpha, capital] at plain
  rw [← same, Char.toLower_eq_of_not_isUpper noCapital]

theorem afterPageSuffix?_dot_eq_none_iff (name : Text) :
    afterPageSuffix? ('.' :: name) = none ↔ ¬ BeginsAsSuffix name := by
  match name with
  | [] | [_] | [_, _] => simp [afterPageSuffix?, BeginsAsSuffix, Text.lower]
  | h :: t :: m :: rest =>
    have begins : BeginsAsSuffix (h :: t :: m :: rest) ↔
        Text.lower [h, t, m] = ['h', 't', 'm'] := by
      simp [BeginsAsSuffix, Text.lower, eq_comm]
    rw [begins]
    by_cases same : Text.lower [h, t, m] = ['h', 't', 'm']
    · cases rest with
      | nil => simp [afterPageSuffix?, same]
      | cons l rest => by_cases long : l.toLower = 'l' <;> simp [afterPageSuffix?, same, long]
    · simp [afterPageSuffix?, same]

theorem withoutPageSuffixes_dot (noDot : '.' ∉ name) (plain : ¬ BeginsAsSuffix name) :
    withoutPageSuffixes ('.' :: name) = '.' :: name := by
  rw [withoutPageSuffixes_cons_of_none ((afterPageSuffix?_dot_eq_none_iff name).mpr plain),
    withoutPageSuffixes_of_not_mem noDot]

theorem length_withoutPageSuffixes_dot_lt (begins : BeginsAsSuffix name) :
    (withoutPageSuffixes ('.' :: name)).length < ('.' :: name).length := by
  obtain ⟨rest, found⟩ := Option.ne_none_iff_exists'.mp
    (mt (afterPageSuffix?_dot_eq_none_iff name).mp (not_not_intro begins))
  rw [withoutPageSuffixes_of_some found]
  exact Nat.lt_of_le_of_lt (withoutPageSuffixes_sublist rest).length_le
    (length_of_afterPageSuffix? found)

theorem afterPageSuffix?_of_isPageSuffix (isSuffix : isPageSuffix suffix = true) :
    suffix.head? = some '.' ∧ afterPageSuffix? suffix = some [] := by
  simp only [isPageSuffix, Bool.or_eq_true, decide_eq_true_eq] at isSuffix
  simp only [Text.lower, List.map_eq_cons_iff, List.map_eq_nil_iff] at isSuffix
  rcases isSuffix with ⟨dot, _, rfl, isDot, h, _, rfl, isH, t, _, rfl, isT, m, _, rfl, isM, rfl⟩ |
    ⟨dot, _, rfl, isDot, h, _, rfl, isH, t, _, rfl, isT, m, _, rfl, isM, l, _, rfl, isL, rfl⟩
  · obtain rfl := eq_of_toLower_eq isDot (by decide)
    simp [afterPageSuffix?, Text.lower, isH, isT, isM]
  · obtain rfl := eq_of_toLower_eq isDot (by decide)
    simp [afterPageSuffix?, Text.lower, isH, isT, isM, isL]

theorem withoutPageSuffixes_suffix (isSuffix : isPageSuffix suffix = true) :
    withoutPageSuffixes suffix = [] := by
  rw [withoutPageSuffixes_of_some (afterPageSuffix?_of_isPageSuffix isSuffix).2,
    withoutPageSuffixes_of_not_mem List.not_mem_nil]

/-- A dot stands before each nested name and before the suffix, and there a link may be cut. -/
theorem withoutPageSuffixes_append_nested (t : Text) (names : List Text)
    (isSuffix : isPageSuffix suffix = true) :
    withoutPageSuffixes (t ++ (names.flatMap ('.' :: ·) ++ suffix)) =
      withoutPageSuffixes t ++ withoutPageSuffixes (names.flatMap ('.' :: ·) ++ suffix) := by
  obtain ⟨rest, dot⟩ : ∃ rest, names.flatMap ('.' :: ·) ++ suffix = '.' :: rest := by
    cases names with
    | nil => simpa using List.head?_eq_some_iff.mp (afterPageSuffix?_of_isPageSuffix isSuffix).1
    | cons next names => exact ⟨_, rfl⟩
  rw [dot, withoutPageSuffixes_append (by decide)]

theorem withoutPageSuffixes_nested (names : List Text) (isSuffix : isPageSuffix suffix = true) :
    withoutPageSuffixes (names.flatMap ('.' :: ·) ++ suffix) =
      names.flatMap fun name => withoutPageSuffixes ('.' :: name) := by
  induction names with
  | nil => simp [withoutPageSuffixes_suffix isSuffix]
  | cons name names inductionHypothesis =>
    rw [List.flatMap_cons, List.flatMap_cons, List.append_assoc,
      withoutPageSuffixes_append_nested _ names isSuffix, inductionHypothesis]

theorem withoutPageSuffixes_dotted (noDot : '.' ∉ name) (names : List Text)
    (isSuffix : isPageSuffix suffix = true) :
    withoutPageSuffixes (dotted (name :: names) ++ suffix) =
      name ++ names.flatMap fun name => withoutPageSuffixes ('.' :: name) := by
  rw [dotted_cons, List.append_assoc, withoutPageSuffixes_append_nested name names isSuffix,
    withoutPageSuffixes_of_not_mem noDot, withoutPageSuffixes_nested names isSuffix]

/-! ## The name of a link to a class -/

theorem withoutPageSuffixes_parents (ups : Nat) (rest : Text) :
    withoutPageSuffixes ((List.replicate ups "../".toList).flatten ++ rest) =
      (List.replicate ups "../".toList).flatten ++ withoutPageSuffixes rest := by
  induction ups with
  | zero => rfl
  | succ ups inductionHypothesis =>
    have dots : withoutPageSuffixes ['.', '.'] = ['.', '.'] := by cbv
    have step := withoutPageSuffixes_append_cons (c := '/') (by decide) ['.', '.']
      ((List.replicate ups "../".toList).flatten ++ rest)
    rw [dots, inductionHypothesis] at step
    exact step

theorem withoutPageSuffixes_packages (noDot : ∀ name ∈ packages, '.' ∉ name) (rest : Text) :
    withoutPageSuffixes (packages.flatMap (· ++ ['/']) ++ rest) =
      packages.flatMap (· ++ ['/']) ++ withoutPageSuffixes rest := by
  induction packages with
  | nil => rfl
  | cons name packages inductionHypothesis =>
    have cut : (name :: packages).flatMap (· ++ ['/']) ++ rest =
        name ++ '/' :: (packages.flatMap (· ++ ['/']) ++ rest) := by simp
    rw [cut, withoutPageSuffixes_append_cons (by decide),
      withoutPageSuffixes_of_not_mem (noDot name List.mem_cons_self),
      inductionHypothesis fun other member => noDot other (List.mem_cons_of_mem _ member)]
    simp

theorem withoutLeadingParents_parents (ups : Nat) (rest : Text) :
    withoutLeadingParents ((List.replicate ups "../".toList).flatten ++ rest) =
      withoutLeadingParents rest := by
  induction ups with
  | zero => rfl
  | succ ups inductionHypothesis =>
    rw [← inductionHypothesis]
    exact withoutLeadingParents.eq_1 _

theorem withoutLeadingParents_of_head? {t : Text} (noDot : t.head? ≠ some '.') :
    withoutLeadingParents t = t := by
  unfold withoutLeadingParents
  split
  next => exact absurd rfl noDot
  next => rfl

theorem map_dots_packages (noSlash : ∀ name ∈ packages, '/' ∉ name) :
    ((packages.flatMap (· ++ ['/'])).map fun c => if c = '/' then '.' else c) =
      packages.flatMap (· ++ ['.']) := by
  induction packages with
  | nil => rfl
  | cons name packages inductionHypothesis =>
    rw [List.flatMap_cons, List.map_append, List.map_append,
      map_dots_of_not_mem (noSlash name List.mem_cons_self),
      inductionHypothesis fun other member => noSlash other (List.mem_cons_of_mem _ member)]
    rfl

/-- The name of a link to the page of a class: the qualified name, but for what page suffixes leave
of the nested names. -/
theorem symbolName_classPage (ups : Nat)
    (allNames : ∀ other ∈ packages ++ name :: names, IsName other)
    (isSuffix : isPageSuffix suffix = true) :
    symbolName (classPage ups packages (name :: names) suffix) =
      packages.flatMap (· ++ ['.']) ++
        (name ++ names.flatMap fun name => withoutPageSuffixes ('.' :: name)) := by
  have noDot : ∀ other ∈ packages ++ name :: names, '.' ∉ other := fun other member =>
    (allNames other member).not_mem (by decide)
  have noSlash : ∀ other ∈ packages ++ name :: names, '/' ∉ other := fun other member =>
    (allNames other member).not_mem (by decide)
  have stripped : withoutPageSuffixes (classPage ups packages (name :: names) suffix) =
      (List.replicate ups "../".toList).flatten ++ (packages.flatMap (· ++ ['/']) ++
        (name ++ names.flatMap fun name => withoutPageSuffixes ('.' :: name))) := by
    rw [classPage, List.append_assoc, withoutPageSuffixes_parents,
      withoutPageSuffixes_packages fun other member => noDot other (by simp [member]),
      withoutPageSuffixes_dotted (noDot name (by simp)) names isSuffix]
  have noParents : (packages.flatMap (· ++ ['/']) ++
      (name ++ names.flatMap fun name => withoutPageSuffixes ('.' :: name))).head? ≠ some '.' := by
    cases packages with
    | nil => exact (allNames name (by simp)).head?_append_ne _
    | cons package packages =>
      rw [List.flatMap_cons, List.append_assoc, List.append_assoc]
      exact (allNames package (by simp)).head?_append_ne _
  have noSlashBehind :
      '/' ∉ name ++ names.flatMap fun name => withoutPageSuffixes ('.' :: name) := by
    intro member
    rcases List.mem_append.mp member with inName | inNested
    · exact noSlash name (by simp) inName
    · obtain ⟨nested, isNested, inRest⟩ := List.mem_flatMap.mp inNested
      rcases List.mem_cons.mp ((withoutPageSuffixes_sublist _).subset inRest) with isDot | inNested
      · cases isDot
      · exact noSlash nested (by simp [isNested]) inNested
  rw [symbolName, stripped, withoutLeadingParents_parents, withoutLeadingParents_of_head? noParents,
    List.map_append, map_dots_of_not_mem noSlashBehind,
    map_dots_packages fun other member => noSlash other (by simp [member])]

theorem length_nested_lt (begins : ∃ nested ∈ names, BeginsAsSuffix nested) :
    (names.flatMap fun name => withoutPageSuffixes ('.' :: name)).length <
      (names.flatMap ('.' :: ·)).length := by
  rw [List.length_flatMap, List.length_flatMap]
  apply List.sum_lt_sum
  · exact fun nested _ => (withoutPageSuffixes_sublist _).length_le
  · obtain ⟨nested, member, begins⟩ := begins
    exact ⟨nested, member, length_withoutPageSuffixes_dot_lt begins⟩

/-! ## Links to the page of the known class -/

theorem not_mem_of_isPageSuffix {c : Char} (isSuffix : isPageSuffix suffix = true)
    (foreign : c.toLower ∉ ".html".toList) : c ∉ suffix := by
  intro member
  have lowered : c.toLower ∈ suffix.lower := List.mem_map_of_mem member
  simp only [isPageSuffix, Bool.or_eq_true, decide_eq_true_eq] at isSuffix
  rcases isSuffix with short | long
  · rw [short] at lowered
    exact foreign (List.mem_append_left ['l'] lowered)
  · rw [long] at lowered
    exact foreign lowered

theorem not_mem_classPage {c : Char} (ups : Nat)
    (allNames : ∀ other ∈ packages ++ classes, IsName other) (isSuffix : isPageSuffix suffix = true)
    (noName : isNameChar c = false) (noSlash : c ≠ '/') (noDot : c ≠ '.')
    (noSuffix : c.toLower ∉ ".html".toList) : c ∉ classPage ups packages classes suffix := by
  have foreign : ∀ other ∈ packages ++ classes, c ∉ other := fun other member =>
    (allNames other member).not_mem noName
  have notInParents : c ∉ (List.replicate ups "../".toList).flatten := by
    intro member
    obtain ⟨parent, isParent, inParent⟩ := List.mem_flatten.mp member
    rw [List.eq_of_mem_replicate isParent] at inParent
    simp [noSlash, noDot] at inParent
  have notInPackages : c ∉ packages.flatMap (· ++ ['/']) := by
    intro member
    obtain ⟨package, isPackage, inPackage⟩ := List.mem_flatMap.mp member
    simp [noSlash, foreign package (by simp [isPackage])] at inPackage
  have notInClasses : c ∉ dotted classes :=
    not_mem_dotted noDot fun other member => foreign other (by simp [member])
  have notInSuffix : c ∉ suffix := not_mem_of_isPageSuffix isSuffix noSuffix
  simp only [classPage, List.mem_append, not_or]
  exact ⟨⟨notInParents, notInPackages⟩, notInClasses, notInSuffix⟩

/-- A link to the page of a class is relative, and not one to a place on its own page. -/
theorem convertAnchor_of_classPage (ups : Nat)
    (allNames : ∀ other ∈ packages ++ classes, IsName other) (isSuffix : isPageSuffix suffix = true)
    (known : Resolver) (root : Text) :
    convertAnchor known root (classPage ups packages classes suffix) =
      if known (withoutFragment (symbolName (classPage ups packages classes suffix))) then
        symbolScheme ++ symbolName (classPage ups packages classes suffix)
      else
        pageScheme ++
          collapseParents (directory root ++ classPage ups packages classes suffix) := by
  have relative : Url.isAbsolute (classPage ups packages classes suffix) = false :=
    Url.not_isAbsolute_of_not_mem
      (not_mem_classPage ups allNames isSuffix (by decide) (by decide) (by decide) (by decide))
  have noFragment : (classPage ups packages classes suffix).head? ≠ some '#' := by
    intro isHash
    exact not_mem_classPage ups allNames isSuffix (by decide) (by decide) (by decide) (by decide)
      (List.mem_of_mem_head? isHash)
  simp [convertAnchor, relative, noFragment]

/-- The name of a link to the page of a class is the qualified name, if no nested name begins as a
suffix. -/
theorem symbolName_classPage_of_plain (ups : Nat)
    (allNames : ∀ other ∈ packages ++ name :: names, IsName other)
    (isSuffix : isPageSuffix suffix = true)
    (plain : ∀ nested ∈ names, ¬ BeginsAsSuffix nested) :
    symbolName (classPage ups packages (name :: names) suffix) =
      dotted (packages ++ name :: names) := by
  have kept : (names.flatMap fun name => withoutPageSuffixes ('.' :: name)) =
      names.flatMap ('.' :: ·) := by
    apply List.flatMap_congr
    intro nested isNested
    have noDot : '.' ∉ nested := (allNames nested (by simp [isNested])).not_mem (by decide)
    exact withoutPageSuffixes_dot noDot (plain nested isNested)
  rw [symbolName_classPage ups allNames isSuffix, kept, dotted_append packages (by simp),
    dotted_cons]

theorem length_symbolName_classPage_lt (ups : Nat)
    (allNames : ∀ other ∈ packages ++ name :: names, IsName other)
    (isSuffix : isPageSuffix suffix = true)
    (begins : ∃ nested ∈ names, BeginsAsSuffix nested) :
    (symbolName (classPage ups packages (name :: names) suffix)).length <
      (dotted (packages ++ name :: names)).length := by
  rw [symbolName_classPage ups allNames isSuffix, dotted_append packages (by simp), dotted_cons]
  simp only [List.length_append]
  have shorter := length_nested_lt begins
  omega

/-- The name of a link with a nested name that begins as a suffix is not the name of the class, so
the class is not found under it. -/
theorem convertAnchor_classPage_of_begins (root : Text) (ups : Nat) (nonempty : classes ≠ [])
    (allNames : ∀ other ∈ packages ++ classes, IsName other) (isSuffix : isPageSuffix suffix = true)
    (only : ∀ other, known other = true ↔ other = dotted (packages ++ classes))
    (begins : ∃ nested ∈ classes.tail, BeginsAsSuffix nested) :
    convertAnchor known root (classPage ups packages classes suffix) =
      pageScheme ++
        collapseParents (directory root ++ classPage ups packages classes suffix) := by
  obtain ⟨name, names, rfl⟩ := List.exists_cons_of_ne_nil nonempty
  rw [convertAnchor_of_classPage ups allNames isSuffix, if_neg]
  intro found
  have shorter := length_symbolName_classPage_lt ups allNames isSuffix begins
  have cut := (withoutFragment_sublist
    (symbolName (classPage ups packages (name :: names) suffix))).length_le
  rw [(only _).mp found] at cut
  omega

/-- A link to the page of the only known class becomes a reference to the symbol, if no nested name
begins as a page suffix.  Otherwise it becomes a reference to the page. -/
theorem convertAnchor_classPage (known : Resolver) (root : Text) (ups : Nat)
    (packages classes : List Text) (suffix : Text) (nonempty : classes ≠ [])
    (allNames : ∀ name ∈ packages ++ classes, IsName name) (isSuffix : isPageSuffix suffix = true)
    (only : ∀ name, known name = true ↔ name = dotted (packages ++ classes)) :
    ((∀ nested ∈ classes.tail, ¬ BeginsAsSuffix nested) →
      convertAnchor known root (classPage ups packages classes suffix) =
        symbolScheme ++ dotted (packages ++ classes)) ∧
    ((∃ nested ∈ classes.tail, BeginsAsSuffix nested) →
      convertAnchor known root (classPage ups packages classes suffix) =
        pageScheme ++
          collapseParents (directory root ++ classPage ups packages classes suffix)) := by
  refine ⟨fun plain => ?_,
    convertAnchor_classPage_of_begins root ups nonempty allNames isSuffix only⟩
  obtain ⟨name, names, rfl⟩ := List.exists_cons_of_ne_nil nonempty
  have noFragment : '#' ∉ dotted (packages ++ name :: names) :=
    not_mem_dotted (by decide) fun other member => (allNames other member).not_mem (by decide)
  have found : known (withoutFragment (dotted (packages ++ name :: names))) = true :=
    (only _).mpr (withoutFragment_of_not_mem noFragment)
  rw [convertAnchor_of_classPage ups allNames isSuffix,
    symbolName_classPage_of_plain ups allNames isSuffix plain, if_pos found]

/-- A nested class, from a page two directories deep. -/
theorem convertAnchor_classPage_entry :
    convertAnchor (fun name => name = "java.util.Map.Entry".toList)
        "http://x/docs/a/b/Y.html".toList "../../java/util/Map.Entry.HtmL".toList =
      "psi_element://java.util.Map.Entry".toList :=
  (convertAnchor_classPage _ _ 2 ["java".toList, "util".toList] ["Map".toList, "Entry".toList]
    ".HtmL".toList (by decide) (by simp [IsName, isNameChar]) (by decide)
    (fun _ => decide_eq_true_iff)).1 (by decide)

theorem pageScheme_append_ne (path name : Text) : pageScheme ++ path ≠ symbolScheme ++ name := by
  intro same
  have sameHead := congrArg List.head? same
  rw [List.head?_append_of_ne_nil _ (by decide), List.head?_append_of_ne_nil _ (by decide)]
    at sameHead
  exact absurd sameHead (by decide)

/-- The dot before `HTMLFactory` and the letters behind it are removed with the suffix, and the
class is not found. -/
theorem convertAnchor_classPage_htmlFactory :
    let packages := ["javax".toList, "swing".toList, "text".toList, "html".toList]
    let classes := ["HTMLEditorKit".toList, "HTMLFactory".toList]
    let known : Resolver := fun name => name = dotted (packages ++ classes)
    classes ≠ [] ∧ (∀ name ∈ packages ++ classes, IsName name) ∧
      isPageSuffix ".html".toList = true ∧
      (∀ name, known name = true ↔ name = dotted (packages ++ classes)) ∧
      convertAnchor known "http://x/docs/Y.html".toList
          (classPage 0 packages classes ".html".toList) ≠
        symbolScheme ++ dotted (packages ++ classes) := by
  intro packages classes known
  have nonempty : classes ≠ [] := by decide
  have allNames : ∀ name ∈ packages ++ classes, IsName name := by
    simp [packages, classes, IsName, isNameChar]
  have isSuffix : isPageSuffix ".html".toList = true := by decide
  have only : ∀ name, known name = true ↔ name = dotted (packages ++ classes) :=
    fun _ => decide_eq_true_iff
  have isPage := convertAnchor_classPage_of_begins "http://x/docs/Y.html".toList 0 nonempty allNames
    isSuffix only (by decide)
  refine ⟨nonempty, allNames, isSuffix, only, ?_⟩
  rw [isPage]
  exact pageScheme_append_ne _ _

end Link

end DocExcerpt
