import DocExcerpt.Proofs.Files.Walking

/-!
# Making directories

To make a directory is to enter all the names of its path but the last and to create that one there
(`makeDirectory_eq`).  Making all the directories of a path comes to one of three ends
(`makeDirectories_outcome`): the path leads to a directory, nothing was made, or what was made ends
at a name that cannot be entered.  So whoever makes them again makes nothing
(`makeDirectories_again`).
-/

namespace DocExcerpt.FileTree

variable {tree grown : FileTree} {base start place parent : Location} {path : Path}
  {name : Bytes} {names parents : List Bytes} {fault : FileFault}

/-! ## One directory -/

def newPlace (parent : Location) (name : Bytes) : Except FileFault Location :=
  if name = [0x2E] ∨ name = [0x2E, 0x2E] then .error .alreadyExists
  else if 255 < name.length then .error .nameTooLong
  else .ok (parent ++ [name])

def create (tree : FileTree) (name : Bytes) (parent : Location) : Except FileFault FileTree := do
  let place ← newPlace parent name
  match tree.node? place with
  | some _ => throw .alreadyExists
  | none => return tree.put place .directory

theorem exists_trimmed (named : pathNames path = parents ++ [name]) :
    ∃ front, ((pathPieces path).reverse.dropWhile (·.isEmpty)).reverse = front ++ [name] ∧
      front.filter (!·.isEmpty) = parents := by
  have backwards : (pathPieces path).reverse.filter (!·.isEmpty) = name :: parents.reverse := by
    rw [List.filter_reverse, ← pathNames, named]
    simp
  obtain ⟨empties, rest, eq, all, kept, above⟩ := List.filter_eq_cons_iff.1 backwards
  have cut : (pathPieces path).reverse.dropWhile (·.isEmpty) = name :: rest := by
    rw [eq, List.dropWhile_append_of_pos (by simpa using all), List.dropWhile_cons_of_neg]
    simpa using kept
  refine ⟨rest.reverse, ?_, ?_⟩
  · rw [cut, List.reverse_cons]
  · rw [List.filter_reverse, above, List.reverse_reverse]

theorem findNew_eq (noNul : 0 ∉ path) (named : pathNames path = parents ++ [name]) :
    tree.findNew base path
      = tree.descend (startOf base path) parents >>= fun parent => newPlace parent name := by
  obtain ⟨front, trimmed, above⟩ := exists_trimmed named
  have notEmpty : path.isEmpty = false := by simpa using ne_nil_of_pathNames named
  rw [← above, ← walk_asDirectory, findNew]
  simp only [noNul, notEmpty, trimmed, List.getLast?_concat, List.dropLast_concat, if_false]
  match tree.walk (startOf base path) .directory front with
  | .error fault => rfl
  | .ok (place, .file content) => rfl
  | .ok (place, .directory) =>
    change (if name = [0x2E] ∨ name = [0x2E, 0x2E] then _ else _) = newPlace place name
    rw [newPlace]
    split_ifs <;> rfl

theorem write_of_free (isName : IsName name) (noNul : 0 ∉ path) (nonempty : path ≠ [])
    (reached : tree.descend (startOf base path) (pathNames path) = .ok place)
    (free : tree.node? (place ++ [name]) = none) (content : Bytes) :
    tree.write base (path ++ 0x2F :: name) content
      = .ok (tree.put (place ++ [name]) (.file content)) := by
  have missing : tree.find base (path ++ 0x2F :: name) = .error .notFound := by
    rw [find_append_slash isName noNul nonempty, reached]
    change tree.lookIn name place = _
    rw [lookIn, free]
  have noSlashAtEnd : (path ++ 0x2F :: name).getLast? ≠ some 0x2F := by
    have last := List.getLast?_eq_some_getLast isName.nonempty
    intro ends
    have slash : name.getLast isName.nonempty = 0x2F := by
      simpa [List.getLast?_append, List.getLast?_cons, last] using ends
    exact isName.noSlash (slash ▸ List.getLast_mem isName.nonempty)
  have found : tree.findNew base (path ++ 0x2F :: name) = .ok (place ++ [name]) := by
    have start := startOf_eq (List.prefix_append path (0x2F :: name)) nonempty base
    rw [findNew_eq (isName.nul_not_mem_append noNul)
      (pathNames_append_name path isName.noSlash isName.nonempty), ← start, reached]
    change newPlace place name = _
    rw [newPlace, if_neg (not_or.2 isName.noDots), if_neg (Nat.not_lt.2 isName.short)]
  rw [write, missing]
  simp only [noSlashAtEnd, if_false, found]
  rfl

/-- To make a directory is to enter all its names but the last, and to create that one there. -/
theorem makeDirectory_eq (noNul : 0 ∉ path) (named : pathNames path = parents ++ [name]) :
    tree.makeDirectory base path
      = tree.descend (startOf base path) parents >>= tree.create name := by
  rw [makeDirectory, findNew_eq noNul named, bind_assoc]
  rfl

theorem makeDirectory_of_reached (noNul : 0 ∉ path) (named : pathNames path = parents ++ [name])
    (reached : tree.descend (startOf base path) parents = .ok parent) :
    tree.makeDirectory base path = tree.create name parent := by
  rw [makeDirectory_eq noNul named, reached]
  rfl

theorem makeDirectory_of_blocked (noNul : 0 ∉ path) (named : pathNames path = parents ++ [name])
    (blocked : tree.descend (startOf base path) parents = .error fault) :
    tree.makeDirectory base path = .error fault := by
  rw [makeDirectory_eq noNul named, blocked]
  rfl

def asCreated : FileFault → FileFault
  | .notADirectory => .alreadyExists
  | fault => fault

/-- What creating a directory comes to, by what entering it comes to. -/
def createAt (tree : FileTree) (place : Location) :
    Except FileFault Location → Except FileFault FileTree
  | .ok _ => .error .alreadyExists
  | .error .notFound => .ok (tree.put place .directory)
  | .error fault => .error (asCreated fault)

theorem create_of_enter (tree : FileTree) (name : Bytes) (parent : Location) :
    tree.create name parent = tree.createAt (parent ++ [name]) (tree.enter parent name) := by
  rw [create, newPlace, enter]
  by_cases here : name = [0x2E]
  · simp [here, bind, Except.bind, createAt]
  by_cases back : name = [0x2E, 0x2E]
  · simp [back, bind, Except.bind, createAt]
  by_cases long : 255 < name.length
  · simp [here, back, long, bind, Except.bind, createAt, asCreated]
  simp only [here, back, long, or_self, if_false, bind, Except.bind]
  cases tree.node? (parent ++ [name]) with
  | none => rfl
  | some node => cases node <;> rfl

theorem create_of_entered {next : Location} (entered : tree.enter parent name = .ok next) :
    tree.create name parent = .error .alreadyExists := by
  rw [create_of_enter, entered, createAt]

theorem create_of_notFound (missing : tree.enter parent name = .error .notFound) :
    tree.create name parent = .ok (tree.put (parent ++ [name]) .directory) := by
  rw [create_of_enter, missing, createAt]

theorem create_of_blocked (blocked : tree.enter parent name = .error fault)
    (cause : fault ≠ .notFound) : tree.create name parent = .error (asCreated fault) := by
  rw [create_of_enter, blocked]
  cases fault <;> first | rfl | exact absurd rfl cause

theorem create_ne_notFound : tree.create name parent ≠ .error .notFound := by
  rw [create_of_enter]
  match tree.enter parent name with
  | .ok _ => simp [createAt]
  | .error fault => cases fault <;> simp [createAt, asCreated]

theorem enter_put (missing : tree.enter parent name = .error .notFound) :
    (tree.put (parent ++ [name]) .directory).enter parent name = .ok (parent ++ [name]) := by
  obtain ⟨noDots, short, -⟩ := enter_eq_notFound_iff.1 missing
  exact enter_eq_ok_iff.2 (.inr (.inr ⟨noDots, short, by simp [node?_put], rfl⟩))

/-! ## All directories -/

/-- A way that stops before its end: some name cannot be entered, and not because it is missing.
The fault is the one of creating that name. -/
inductive Stopped (tree : FileTree) (start : Location) : List Bytes → FileFault → Prop
  | here {names : List Bytes} {name : Bytes} {parent : Location} {fault : FileFault}
      (reached : tree.descend start names = .ok parent)
      (blocked : tree.enter parent name = .error fault) (cause : fault ≠ .notFound) :
      Stopped tree start (names ++ [name]) (asCreated fault)
  | before {names : List Bytes} {name : Bytes} {fault : FileFault}
      (above : Stopped tree start names fault) : Stopped tree start (names ++ [name]) fault

/-- How making all the directories of a path ends. -/
inductive Outcome (tree : FileTree) (start : Location) (names : List Bytes) :
    FileTree × Except FileFault Unit → Prop
  | reached {grown : FileTree} {place : Location} (grows : tree.ExtendsByDirectories grown)
      (way : grown.descend start names = .ok place) : Outcome tree start names (grown, .ok ())
  | refused {fault : FileFault} : Outcome tree start names (tree, .error fault)
  | stopped {grown : FileTree} {fault : FileFault} (grows : tree.ExtendsByDirectories grown)
      (stop : Stopped grown start names fault) : Outcome tree start names (grown, .error fault)

theorem Stopped.descend (stop : Stopped tree start names fault) :
    ∃ cause, tree.descend start names = .error cause ∧ cause ≠ .notFound ∧
      (fault = cause ∨ fault = .alreadyExists ∧ cause = .notADirectory) := by
  induction stop with
  | @here names name parent fault reached blocked cause =>
    refine ⟨fault, descend_append_eq_error_iff.2 (.inr ⟨parent, reached, blocked⟩), cause, ?_⟩
    cases fault <;> simp [asCreated]
  | before above inductionHypothesis =>
    obtain ⟨cause, stops, known⟩ := inductionHypothesis
    exact ⟨cause, descend_append_eq_error_iff.2 (.inl stops), known⟩

theorem isDirectory_iff_of_names (noNul : 0 ∉ path) (named : pathNames path = names ++ [name]) :
    tree.isDirectory base path = true ↔
      ∃ place, tree.descend (startOf base path) (names ++ [name]) = .ok place := by
  rw [isDirectory_iff noNul (ne_nil_of_pathNames named), named]

theorem settle_of_stopped (noNul : 0 ∉ path) (named : pathNames path = parents ++ [name])
    {cause : FileFault}
    (stops : tree.descend (startOf base path) (parents ++ [name]) = .error cause) :
    makeDirectories.settle base tree (.error fault) path = (tree, .error fault) := by
  rw [makeDirectories.settle, if_neg]
  rw [isDirectory_iff_of_names noNul named, stops]
  simp

theorem settle_of_there (noNul : 0 ∉ path) (named : pathNames path = parents ++ [name])
    (way : tree.descend (startOf base path) (parents ++ [name]) = .ok place) :
    makeDirectories.settle base tree (.error fault) path = (tree, .ok ()) := by
  rw [makeDirectories.settle, if_pos ((isDirectory_iff_of_names noNul named).2 ⟨place, way⟩)]

/-- Where the way to the last name is there, that one is made, found, or in the way. -/
theorem settle_outcome (noNul : 0 ∉ path) (named : pathNames path = parents ++ [name])
    (grows : tree.ExtendsByDirectories grown)
    (reached : grown.descend (startOf base path) parents = .ok parent) :
    Outcome tree (startOf base path) (parents ++ [name])
      (makeDirectories.settle base grown (grown.makeDirectory base path) path) := by
  rw [makeDirectory_of_reached noNul named reached]
  cases entered : grown.enter parent name with
  | ok next =>
    have way := descend_append_eq_ok_iff.2 ⟨parent, reached, entered⟩
    rw [create_of_entered entered, settle_of_there noNul named way]
    exact .reached grows way
  | error cause =>
    have stops := descend_append_eq_error_iff.2 (.inr ⟨parent, reached, entered⟩)
    by_cases missing : cause = .notFound
    · subst missing
      obtain ⟨-, -, free⟩ := enter_eq_notFound_iff.1 entered
      have made := extendsByDirectories_put (by simp) free
      rw [create_of_notFound entered]
      exact .reached (grows.trans made)
        (descend_append_eq_ok_iff.2 ⟨parent, made.keeps.descend_eq_ok reached, enter_put entered⟩)
    · rw [create_of_blocked entered missing, settle_of_stopped noNul named stops]
      exact .stopped grows (.here reached entered missing)

/-- Only a directory that is missing above makes the directories above be made first. -/
theorem go_eq_settle (nonempty : path ≠ []) (fuel : Nat)
    (notMissing : tree.makeDirectory base path ≠ .error .notFound) :
    makeDirectories.go base (fuel + 1) tree path
      = makeDirectories.settle base tree (tree.makeDirectory base path) path := by
  have notEmpty : path.isEmpty = false := by simpa using nonempty
  rw [makeDirectories.go, notEmpty]
  cases made : tree.makeDirectory base path with
  | ok made => rfl
  | error cause => cases cause <;> first | rfl | exact absurd made notMissing

theorem go_of_missing {above : Path} (nonempty : path ≠ []) (fuel : Nat)
    (missing : tree.makeDirectory base path = .error .notFound)
    (parent : parentPath? path = some above) :
    makeDirectories.go base (fuel + 1) tree path
      = match makeDirectories.go base fuel tree above with
        | (tree, .error fault) => (tree, .error fault)
        | (tree, .ok ()) =>
          makeDirectories.settle base tree (tree.makeDirectory base path) path := by
  have notEmpty : path.isEmpty = false := by simpa using nonempty
  rw [makeDirectories.go, notEmpty, missing]
  simp only [parent]
  rfl

theorem go_outcome {fuel : Nat} (noNul : 0 ∉ path) (named : pathNames path = parents ++ [name])
    (enough : path.length < fuel) :
    Outcome tree (startOf base path) (parents ++ [name]) (makeDirectories.go base fuel tree path) := by
  induction fuel generalizing path parents name with
  | zero => cases enough
  | succ fuel inductionHypothesis =>
    have nonempty := ne_nil_of_pathNames named
    cases above : tree.descend (startOf base path) parents with
    | ok parent =>
      have makes := makeDirectory_of_reached noNul named above
      rw [go_eq_settle nonempty fuel (makes ▸ create_ne_notFound)]
      exact settle_outcome noNul named (.refl tree) above
    | error cause =>
      have makes := makeDirectory_of_blocked noNul named above
      by_cases missing : cause = .notFound
      · subst missing
        have further : parents ≠ [] := by
          rintro rfl
          cases above
        obtain ⟨parent, isParent, parentNames, begins, notEmpty⟩ := parentPath?_eq named further
        have shorter : parent.length < path.length := by
          refine Nat.lt_of_le_of_ne begins.length_le fun same => ?_
          rw [begins.eq_of_length same, named] at parentNames
          simpa using congrArg List.length parentNames
        obtain ⟨grandparents, last, rfl⟩ := (List.eq_nil_or_concat' parents).resolve_left further
        have made := inductionHypothesis (fun nul => noNul (begins.subset nul)) parentNames
          (by omega)
        rw [startOf_eq begins notEmpty base] at made
        rw [go_of_missing nonempty fuel makes isParent]
        generalize makeDirectories.go base fuel tree parent = answer at made ⊢
        cases made with
        | reached grows way => exact settle_outcome noNul named grows way
        | refused => exact .refused
        | stopped grows stop => exact .stopped grows (.before stop)
      · have stops : tree.descend (startOf base path) (parents ++ [name]) = .error cause :=
          descend_append_eq_error_iff.2 (.inl above)
        rw [go_eq_settle nonempty fuel (by simpa [makes] using missing), makes,
          settle_of_stopped noNul named stops]
        exact .refused

theorem makeDirectories_of_nul (nul : 0 ∈ path) (tree : FileTree) (base : Location) :
    tree.makeDirectories base path = (tree, .error .nulInName) := by
  have refuses : tree.makeDirectory base path = .error .nulInName := by
    rw [makeDirectory, findNew, if_pos nul]
    rfl
  have notThere : tree.isDirectory base path = false := by
    rw [isDirectory, find, if_pos nul]
  rw [makeDirectories, go_eq_settle (List.ne_nil_of_mem nul) _ (by simp [refuses]), refuses,
    makeDirectories.settle, notThere]
  rfl

theorem makeDirectories_outcome (tree : FileTree) (base : Location)
    (named : pathNames path = parents ++ [name]) :
    Outcome tree (startOf base path) (parents ++ [name]) (tree.makeDirectories base path) := by
  by_cases nul : 0 ∈ path
  · rw [makeDirectories_of_nul nul]
    exact .refused
  · exact go_outcome nul named (Nat.lt_succ_self _)

theorem extends_of_makeDirectories {answer : Except FileFault Unit}
    (named : pathNames path = parents ++ [name])
    (made : tree.makeDirectories base path = (grown, answer)) : tree.ExtendsByDirectories grown := by
  have outcome := makeDirectories_outcome tree base named
  rw [made] at outcome
  cases outcome with
  | reached grows _ => exact grows
  | refused => exact .refl tree
  | stopped grows _ => exact grows

theorem reached_of_makeDirectories (named : pathNames path = parents ++ [name])
    (made : tree.makeDirectories base path = (grown, .ok ())) :
    0 ∉ path ∧ ∃ place, grown.descend (startOf base path) (parents ++ [name]) = .ok place := by
  have outcome := makeDirectories_outcome tree base named
  rw [made] at outcome
  cases outcome with
  | @reached grown place grows way =>
    refine ⟨fun nul => ?_, place, way⟩
    simp [makeDirectories_of_nul nul] at made

/-! ## Making them again -/

theorem makeDirectories_of_there (noNul : 0 ∉ path) (named : pathNames path = parents ++ [name])
    (way : tree.descend (startOf base path) (parents ++ [name]) = .ok place) :
    tree.makeDirectories base path = (tree, .ok ()) := by
  obtain ⟨parent, reached, entered⟩ := descend_append_eq_ok_iff.1 way
  have makes := makeDirectory_of_reached noNul named reached
  rw [makeDirectories, go_eq_settle (ne_nil_of_pathNames named) _ (makes ▸ create_ne_notFound),
    makes, create_of_entered entered, settle_of_there noNul named way]

/-- Where the way stops before the last name, nothing is made. -/
theorem makeDirectories_of_blocked (noNul : 0 ∉ path) (named : pathNames path = parents ++ [name])
    (blocked : tree.descend (startOf base path) parents = .error fault)
    (cause : fault ≠ .notFound) : tree.makeDirectories base path = (tree, .error fault) := by
  have makes := makeDirectory_of_blocked noNul named blocked
  have stops : tree.descend (startOf base path) (parents ++ [name]) = .error fault :=
    descend_append_eq_error_iff.2 (.inl blocked)
  rw [makeDirectories, go_eq_settle (ne_nil_of_pathNames named) _ (by simpa [makes] using cause),
    makes, settle_of_stopped noNul named stops]

/-- Where the way stops at the last name, nothing is made, and the fault is that of creating it. -/
theorem makeDirectories_of_last_blocked (noNul : 0 ∉ path)
    (named : pathNames path = parents ++ [name])
    (reached : tree.descend (startOf base path) parents = .ok parent)
    (blocked : tree.enter parent name = .error fault) (cause : fault ≠ .notFound) :
    tree.makeDirectories base path = (tree, .error (asCreated fault)) := by
  have makes := makeDirectory_of_reached noNul named reached
  have stops := descend_append_eq_error_iff.2 (.inr ⟨parent, reached, blocked⟩)
  rw [makeDirectories, go_eq_settle (ne_nil_of_pathNames named) _ (makes ▸ create_ne_notFound),
    makes, create_of_blocked blocked cause, settle_of_stopped noNul named stops]

/-- A way that stops stops again, and says so in the words of creating the name only where that is
the last one. -/
theorem makeDirectories_of_stopped (noNul : 0 ∉ path) (named : pathNames path = names)
    (stop : Stopped tree (startOf base path) names fault) :
    ∃ cause, tree.makeDirectories base path = (tree, .error cause) ∧
      (cause = fault ∨ fault = .alreadyExists ∧ cause = .notADirectory ∧
        tree.descend (startOf base path) names = .error .notADirectory) := by
  cases stop with
  | here reached blocked cause =>
    exact ⟨_, makeDirectories_of_last_blocked noNul named reached blocked cause, .inl rfl⟩
  | before above =>
    obtain ⟨cause, blocked, notMissing, known⟩ := above.descend
    refine ⟨cause, makeDirectories_of_blocked noNul named blocked notMissing, ?_⟩
    rcases known with rfl | ⟨rfl, rfl⟩
    · exact .inl rfl
    · exact .inr ⟨rfl, rfl, descend_append_eq_error_iff.2 (.inl blocked)⟩

theorem makeDirectories_of_notADirectory (noNul : 0 ∉ path)
    (named : pathNames path = parents ++ [name])
    (stops : tree.descend (startOf base path) (parents ++ [name]) = .error .notADirectory) :
    (tree.makeDirectories base path).1 = tree := by
  rcases descend_append_eq_error_iff.1 stops with above | ⟨parent, above, blocked⟩
  · rw [makeDirectories_of_blocked noNul named above (by simp)]
  · rw [makeDirectories_of_last_blocked noNul named above blocked (by simp)]

/-- Who makes directories again makes nothing.  The answer is the same, but where the way goes back
by `..` from what was made and comes to a file. -/
theorem makeDirectories_again {answer : Except FileFault Unit}
    (named : pathNames path = parents ++ [name])
    (once : tree.makeDirectories base path = (grown, answer)) :
    ∃ second, grown.makeDirectories base path = (grown, second) ∧
      (second = answer ∨ answer = .error .alreadyExists ∧ second = .error .notADirectory ∧
        ¬(tree.WellFormed ∧ [0x2E, 0x2E] ∉ parents ++ [name])) := by
  by_cases nul : 0 ∈ path
  · rw [makeDirectories_of_nul nul] at once
    cases once
    exact ⟨_, makeDirectories_of_nul nul _ _, .inl rfl⟩
  have outcome := makeDirectories_outcome tree base named
  rw [once] at outcome
  cases outcome with
  | reached grows way => exact ⟨_, makeDirectories_of_there nul named way, .inl rfl⟩
  | refused => exact ⟨_, once, .inl rfl⟩
  | stopped grows stop =>
    obtain ⟨second, twice, rfl | ⟨rfl, rfl, stops⟩⟩ := makeDirectories_of_stopped nul named stop
    · exact ⟨_, twice, .inl rfl⟩
    · refine ⟨_, twice, .inr ⟨rfl, rfl, ?_⟩⟩
      rintro ⟨wellFormed, straight⟩
      have before := descend_eq_notADirectory wellFormed grows straight stops
      have same := makeDirectories_of_notADirectory nul named before
      rw [once] at same
      obtain rfl : grown = tree := same
      simp [once] at twice

end DocExcerpt.FileTree
