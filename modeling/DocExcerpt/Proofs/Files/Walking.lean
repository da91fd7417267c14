import DocExcerpt.Files
import DocExcerpt.Proofs.Text.Pieces

/-!
# Walking a path

A path is walked name by name: slashes only separate its names (`pathNames_append_slash`).  To walk to
a directory is to enter one directory after the other (`walk_asDirectory`).  A tree that grows leads
everywhere it led before (`Extends.descend_eq_ok`).  Where every node stands in a directory, a tree
that grows by directories gets no file into a way without `..` (`descend_eq_notADirectory`).
-/

namespace DocExcerpt.FileTree

open Pieces

variable {tree grown : FileTree} {base place : Location} {path front : Path}
  {name : Bytes} {names parents : List Bytes}

/-! ## Names -/

/-- The names of a path: what stands between its slashes. -/
def pathNames (path : Path) : List Bytes := (pathPieces path).filter (!·.isEmpty)

/-- What a path may have as a name. -/
structure IsName (name : Bytes) : Prop where
  nonempty : name ≠ []
  noSlash : 0x2F ∉ name
  noNul : 0 ∉ name
  noDots : name ≠ [0x2E] ∧ name ≠ [0x2E, 0x2E]
  short : name.length ≤ 255

theorem IsName.nul_not_mem_append (isName : IsName name) (noNul : 0 ∉ path) :
    0 ∉ path ++ 0x2F :: name := by
  simp [noNul, isName.noNul]

theorem pathPieces_eq (path : Path) : pathPieces path = path.splitOn 0x2F := by
  induction path with
  | nil => rfl
  | cons b path inductionHypothesis =>
    obtain ⟨piece, pieces, eq⟩ := List.exists_cons_of_ne_nil (List.splitOn_ne_nil 0x2F path)
    rw [pathPieces, List.splitOn_cons_eq_if_modifyHead, inductionHypothesis, eq]
    simp [beq_iff_eq]

theorem pathPieces_append_slash (front behind : Path) :
    pathPieces (front ++ 0x2F :: behind) = pathPieces front ++ pathPieces behind := by
  simp only [pathPieces_eq, ← ended_append_unended, ended_append_cons, unended_append_cons]
  simp

theorem pathPieces_of_not_mem (noSlash : 0x2F ∉ name) : pathPieces name = [name] := by
  rw [pathPieces_eq, List.splitOn_eq_singleton noSlash]

theorem pathNames_append_slash (front behind : Path) :
    pathNames (front ++ 0x2F :: behind) = pathNames front ++ pathNames behind := by
  rw [pathNames, pathPieces_append_slash, List.filter_append, pathNames, pathNames]

theorem pathNames_of_not_mem (noSlash : 0x2F ∉ name) (nonempty : name ≠ []) :
    pathNames name = [name] := by
  simp [pathNames, pathPieces_of_not_mem noSlash, nonempty]

theorem pathNames_append_name (path : Path) (noSlash : 0x2F ∉ name) (nonempty : name ≠ []) :
    pathNames (path ++ 0x2F :: name) = pathNames path ++ [name] := by
  rw [pathNames_append_slash, pathNames_of_not_mem noSlash nonempty]

theorem ne_nil_of_pathNames (named : pathNames path = parents ++ [name]) : path ≠ [] := by
  rintro rfl
  simp [pathNames, pathPieces] at named

theorem pathNames_append_slashes {slashes : Path} (all : ∀ b ∈ slashes, b = 0x2F) (front : Path) :
    pathNames (front ++ slashes) = pathNames front := by
  induction slashes generalizing front with
  | nil => rw [List.append_nil]
  | cons b slashes inductionHypothesis =>
    obtain rfl := all b List.mem_cons_self
    have none : pathNames slashes = [] := by
      have alone := inductionHypothesis (fun b member => all b (List.mem_cons_of_mem _ member)) []
      rwa [List.nil_append] at alone
    rw [pathNames_append_slash, none, List.append_nil]

/-! ## The last name -/

def bare (path : Path) : Path := path.rdropWhile (· == 0x2F)

theorem bare_append_slashes (path : Path) :
    ∃ slashes : Path, (∀ b ∈ slashes, b = 0x2F) ∧ path = bare path ++ slashes := by
  refine ⟨path.rtakeWhile (· == 0x2F), ?_, (List.rdropWhile_append_rtakeWhile ..).symm⟩
  intro b member
  exact eq_of_beq (List.mem_rtakeWhile_imp (p := (· == 0x2F)) member)

theorem getLast?_bare_ne (path : Path) : (bare path).getLast? ≠ some 0x2F := by
  intro ends
  have nonempty : bare path ≠ [] := by
    intro nothing
    simp [nothing] at ends
  have last := List.rdropWhile_last_not (· == 0x2F) path nonempty
  rw [List.getLast?_eq_some_getLast nonempty, Option.some.injEq] at ends
  exact last (beq_iff_eq.2 ends)

theorem pathNames_bare (path : Path) : pathNames (bare path) = pathNames path := by
  obtain ⟨slashes, all, eq⟩ := bare_append_slashes path
  conv_rhs => rw [eq, pathNames_append_slashes all]

/-- A path with a name at its end: the way to that name, the name, and slashes. -/
theorem bare_of_pathNames_eq_append (named : pathNames path = parents ++ [name]) :
    0x2F ∉ name ∧ name ≠ [] ∧
      ((parents = [] ∧ bare path = name) ∨
        ∃ front, pathNames front = parents ∧ bare path = front ++ 0x2F :: name) := by
  rw [← pathNames_bare] at named
  have nonempty := ne_nil_of_pathNames named
  by_cases slash : 0x2F ∈ (bare path).reverse
  · obtain ⟨last, front, eq, noSlash⟩ := List.eq_append_cons_of_mem slash
    have cut : bare path = front.reverse ++ 0x2F :: last.reverse := by
      rw [← List.reverse_reverse (bare path), eq]
      simp
    have noSlash : 0x2F ∉ last.reverse := by simpa using noSlash
    have notEmpty : last.reverse ≠ [] := by
      intro nothing
      exact getLast?_bare_ne path (by rw [cut, nothing, List.getLast?_concat])
    rw [cut, pathNames_append_name _ noSlash notEmpty] at named
    obtain ⟨rfl, rest⟩ := List.append_inj' named rfl
    obtain rfl : last.reverse = name := by simpa using rest
    exact ⟨noSlash, notEmpty, .inr ⟨front.reverse, rfl, cut⟩⟩
  · have noSlash : 0x2F ∉ bare path := by simpa using slash
    rw [pathNames_of_not_mem noSlash nonempty] at named
    have alone : [] ++ [bare path] = parents ++ [name] := named
    obtain ⟨none, rest⟩ := List.append_inj' alone rfl
    obtain rfl : bare path = name := by simpa using rest
    exact ⟨noSlash, nonempty, .inl ⟨none.symm, rfl⟩⟩

/-- The parent of a path is walked from the same place, along all names but the last. -/
theorem parentPath?_eq (named : pathNames path = parents ++ [name]) (above : parents ≠ []) :
    ∃ parent, parentPath? path = some parent ∧ pathNames parent = parents ∧ parent <+: path ∧
      parent ≠ [] := by
  obtain ⟨noSlash, -, ⟨none, -⟩ | ⟨front, frontNames, cut⟩⟩ := bare_of_pathNames_eq_append named
  · exact absurd none above
  have trimmed : path.reverse.dropWhile (· == 0x2F) = name.reverse ++ 0x2F :: front.reverse := by
    rw [← List.reverse_reverse (List.dropWhile _ _), ← List.rdropWhile, ← bare, cut]
    simp
  have parent : (name.reverse ++ 0x2F :: front.reverse).dropWhile (!· == 0x2F)
      = 0x2F :: front.reverse := by
    rw [List.dropWhile_append_of_pos]
    · simp
    · intro b member
      have inName : b ∈ name := List.mem_reverse.1 member
      simpa using fun slash : b = 0x2F => noSlash (slash ▸ inName)
  have frontBare : pathNames (bare front) = parents := by rw [pathNames_bare, frontNames]
  have nonempty : bare front ≠ [] := by
    intro nothing
    rw [nothing] at frontBare
    exact above frontBare.symm
  refine ⟨bare front, ?_, frontBare, ?_, nonempty⟩
  · have notEmpty : (front.reverse.dropWhile (· == 0x2F)).isEmpty = false := by
      rw [← Bool.not_eq_true, List.isEmpty_iff, ← List.reverse_eq_nil_iff, ← List.rdropWhile]
      exact nonempty
    simp only [parentPath?, trimmed, parent]
    simp [notEmpty, bare, List.rdropWhile]
  · have begins : front <+: bare path := ⟨0x2F :: name, cut.symm⟩
    exact ((List.rdropWhile_prefix _ front).trans begins).trans (List.rdropWhile_prefix _ path)

theorem startOf_eq (begins : front <+: path) (nonempty : front ≠ []) (base : Location) :
    startOf base front = startOf base path := by
  obtain ⟨b, front, rfl⟩ := List.exists_cons_of_ne_nil nonempty
  obtain ⟨behind, rfl⟩ := begins
  rfl

/-! ## Directory after directory -/

def enter (tree : FileTree) (place : Location) (name : Bytes) : Except FileFault Location :=
  if name = [0x2E] then .ok place
  else if name = [0x2E, 0x2E] then .ok place.dropLast
  else if 255 < name.length then .error .nameTooLong
  else
    match tree.node? (place ++ [name]) with
    | none => .error .notFound
    | some (.file _) => .error .notADirectory
    | some .directory => .ok (place ++ [name])

def descend (tree : FileTree) (place : Location) (names : List Bytes) : Except FileFault Location :=
  names.foldlM tree.enter place

def asDirectory : Location × FileNode → Except FileFault Location
  | (place, .directory) => .ok place
  | (_, .file _) => .error .notADirectory

theorem enter_eq_ok_iff {next : Location} : tree.enter place name = .ok next ↔
    (name = [0x2E] ∧ next = place) ∨ (name = [0x2E, 0x2E] ∧ next = place.dropLast) ∨
      ((name ≠ [0x2E] ∧ name ≠ [0x2E, 0x2E]) ∧ name.length ≤ 255 ∧
        tree.node? (place ++ [name]) = some .directory ∧ next = place ++ [name]) := by
  rw [enter]
  split_ifs with here parent long
  · simp [here, eq_comm]
  · simp [parent, eq_comm]
  · simp [here, parent, long]
  · match tree.node? (place ++ [name]) with
    | none => simp [here, parent]
    | some (.file content) => simp [here, parent]
    | some .directory => simp [here, parent, Nat.le_of_not_lt long, eq_comm]

theorem enter_eq_notADirectory_iff : tree.enter place name = .error .notADirectory ↔
    (name ≠ [0x2E] ∧ name ≠ [0x2E, 0x2E]) ∧ name.length ≤ 255 ∧
      ∃ content, tree.node? (place ++ [name]) = some (.file content) := by
  rw [enter]
  split_ifs with here parent long
  · simp [here]
  · simp [parent]
  · simp [long]
  · match tree.node? (place ++ [name]) with
    | none => simp
    | some (.file content) => simp [here, parent, Nat.le_of_not_lt long]
    | some .directory => simp

theorem enter_eq_notFound_iff : tree.enter place name = .error .notFound ↔
    (name ≠ [0x2E] ∧ name ≠ [0x2E, 0x2E]) ∧ name.length ≤ 255 ∧
      tree.node? (place ++ [name]) = none := by
  rw [enter]
  split_ifs with here parent long
  · simp [here]
  · simp [parent]
  · simp [long]
  · match tree.node? (place ++ [name]) with
    | none => simp [here, parent, Nat.le_of_not_lt long]
    | some (.file content) => simp
    | some .directory => simp

theorem descend_append_singleton (tree : FileTree) (place : Location) (names : List Bytes)
    (name : Bytes) : tree.descend place (names ++ [name])
      = tree.descend place names >>= fun place => tree.enter place name := by
  simp [descend]

theorem descend_append_eq_ok_iff {last : Location} :
    tree.descend place (names ++ [name]) = .ok last ↔
      ∃ parent, tree.descend place names = .ok parent ∧ tree.enter parent name = .ok last := by
  rw [descend_append_singleton]
  cases tree.descend place names <;> simp [bind, Except.bind]

theorem descend_append_eq_error_iff {fault : FileFault} :
    tree.descend place (names ++ [name]) = .error fault ↔ tree.descend place names = .error fault ∨
      ∃ parent, tree.descend place names = .ok parent ∧ tree.enter parent name = .error fault := by
  rw [descend_append_singleton]
  cases tree.descend place names <;> simp [bind, Except.bind]

theorem walk_asDirectory (tree : FileTree) (place : Location) (pieces : List Bytes) :
    tree.walk place .directory pieces >>= asDirectory
      = tree.descend place (pieces.filter (!·.isEmpty)) := by
  induction pieces generalizing place with
  | nil => rfl
  | cons piece pieces inductionHypothesis =>
    by_cases nothing : piece = []
    · simp [walk, nothing, inductionHypothesis]
    have kept : (piece :: pieces).filter (!·.isEmpty) = piece :: pieces.filter (!·.isEmpty) := by
      simp [nothing]
    rw [kept, descend, List.foldlM_cons]
    simp only [walk, List.isEmpty_iff, nothing, false_or, enter]
    split_ifs with here parent long
    · exact inductionHypothesis place
    · exact inductionHypothesis place.dropLast
    · rfl
    · match tree.node? (place ++ [piece]) with
      | none => rfl
      | some .directory => exact inductionHypothesis (place ++ [piece])
      | some (.file content) => cases pieces <;> rfl

theorem walk_append (tree : FileTree) (place : Location) (node : FileNode) (front behind : List Bytes) :
    tree.walk place node (front ++ behind)
      = tree.walk place node front >>= fun found => tree.walk found.1 found.2 behind := by
  induction front generalizing place node with
  | nil => simp [walk, bind, Except.bind]
  | cons piece front inductionHypothesis =>
    match node with
    | .file content => rfl
    | .directory =>
      rw [List.cons_append, walk, walk]
      split_ifs
      · exact inductionHypothesis place .directory
      · exact inductionHypothesis place.dropLast .directory
      · rfl
      · match tree.node? (place ++ [piece]) with
        | none => rfl
        | some next => exact inductionHypothesis (place ++ [piece]) next

def lookIn (tree : FileTree) (name : Bytes) (place : Location) :
    Except FileFault (Location × FileNode) :=
  match tree.node? (place ++ [name]) with
  | none => .error .notFound
  | some node => .ok (place ++ [name], node)

/-- A name behind a slash is looked up in the directory that stands before the slash. -/
theorem find_append_slash (isName : IsName name) (noNul : 0 ∉ path) (nonempty : path ≠ []) :
    tree.find base (path ++ 0x2F :: name)
      = tree.descend (startOf base path) (pathNames path) >>= tree.lookIn name := by
  have start := startOf_eq (List.prefix_append path (0x2F :: name)) nonempty base
  rw [find, if_neg (isName.nul_not_mem_append noNul), if_neg (by simp), ← start,
    pathPieces_append_slash, pathPieces_of_not_mem isName.noSlash, walk_append, pathNames,
    ← walk_asDirectory]
  match tree.walk (startOf base path) .directory (pathPieces path) with
  | .error fault => rfl
  | .ok (place, .file content) => rfl
  | .ok (place, .directory) =>
    change tree.walk place .directory [name] = tree.lookIn name place
    rw [walk, if_neg (by simp [isName.nonempty, isName.noDots.1]), if_neg isName.noDots.2,
      if_neg (Nat.not_lt.2 isName.short), lookIn]
    cases tree.node? (place ++ [name]) <;> rfl

theorem pathExists_of_read {content : Bytes} (held : tree.read base path = .ok content) :
    tree.pathExists base path = true := by
  rw [read] at held
  rw [pathExists]
  match found : tree.find base path with
  | .ok (place, node) => rfl
  | .error fault => simp [found] at held

theorem isDirectory_iff (noNul : 0 ∉ path) (nonempty : path ≠ []) :
    tree.isDirectory base path = true ↔
      ∃ place, tree.descend (startOf base path) (pathNames path) = .ok place := by
  rw [pathNames, ← walk_asDirectory, isDirectory, find, if_neg noNul,
    if_neg (by simpa using nonempty)]
  match tree.walk (startOf base path) .directory (pathPieces path) with
  | .error fault => simp [bind, Except.bind]
  | .ok (place, .file content) => simp [bind, Except.bind, asDirectory]
  | .ok (place, .directory) => simp [bind, Except.bind, asDirectory]

/-! ## Trees that grow -/

/-- Everything that a tree holds stays where it is. -/
def Extends (tree grown : FileTree) : Prop :=
  ∀ ⦃place node⦄, tree.node? place = some node → grown.node? place = some node

theorem Extends.refl (tree : FileTree) : tree.Extends tree := fun _ _ found => found

theorem Extends.trans {middle : FileTree} (first : tree.Extends middle)
    (second : middle.Extends grown) : tree.Extends grown :=
  fun _ _ found => second (first found)

theorem Extends.enter_eq_ok {next : Location} (grows : tree.Extends grown)
    (entered : tree.enter place name = .ok next) : grown.enter place name = .ok next := by
  rw [enter] at entered ⊢
  split_ifs at entered ⊢
  · exact entered
  · exact entered
  · cases found : tree.node? (place ++ [name]) with
    | none => simp [found] at entered
    | some node =>
      rw [found] at entered
      rwa [grows found]

/-- A tree that grows leads everywhere it led before. -/
theorem Extends.descend_eq_ok {last : Location} (grows : tree.Extends grown)
    (reached : tree.descend place names = .ok last) : grown.descend place names = .ok last := by
  induction names generalizing place with
  | nil => exact reached
  | cons name names inductionHypothesis =>
    rw [descend, List.foldlM_cons] at reached ⊢
    cases entered : tree.enter place name with
    | error fault => simp [entered, bind, Except.bind] at reached
    | ok next =>
      rw [entered] at reached
      rw [grows.enter_eq_ok entered]
      exact inductionHypothesis reached

theorem lookup_cons_eq_ite (key other : Location) (node : FileNode)
    (nodes : List (Location × FileNode)) :
    ((key, node) :: nodes).lookup other = if other = key then some node else nodes.lookup other := by
  by_cases here : other = key
  · simp [here]
  · simp [List.lookup_cons, beq_false_of_ne here, here]

theorem lookup_map_replace (nodes : List (Location × FileNode)) (node : FileNode)
    (other : Location) :
    (nodes.map fun entry => if entry.1 == place then (place, node) else entry).lookup other
      = if other = place ∧ (nodes.lookup place).isSome then some node else nodes.lookup other := by
  induction nodes with
  | nil => simp
  | cons entry nodes inductionHypothesis =>
    obtain ⟨key, content⟩ := entry
    by_cases same : key = place
    · subst same
      rw [List.map_cons, if_pos (beq_self_eq_true _), lookup_cons_eq_ite, inductionHypothesis,
        lookup_cons_eq_ite, lookup_cons_eq_ite, if_pos rfl]
      by_cases here : other = key <;> simp [here]
    · rw [List.map_cons, if_neg (by simpa using same), lookup_cons_eq_ite, inductionHypothesis,
        lookup_cons_eq_ite, lookup_cons_eq_ite, if_neg (Ne.symm same)]
      by_cases here : other = key
      · simp [here, same]
      · simp [here]

theorem node?_put (notRoot : place ≠ []) (tree : FileTree) (node : FileNode) (other : Location) :
    (tree.put place node).node? other = if other = place then some node else tree.node? other := by
  by_cases root : other = []
  · simp [node?, root, notRoot.symm]
  simp only [node?, List.isEmpty_iff, root, if_false, put]
  by_cases held : (tree.nodes.lookup place).isSome
  · rw [if_pos held, lookup_map_replace]
    simp only [held, and_true]
  · have nothing : tree.nodes.lookup place = none := Option.not_isSome_iff_eq_none.1 held
    rw [if_neg held, List.lookup_append, lookup_cons_eq_ite]
    by_cases here : other = place
    · simp [here, nothing]
    · simp [here]

theorem extends_put (notRoot : place ≠ []) (free : tree.node? place = none) (node : FileNode) :
    tree.Extends (tree.put place node) := by
  intro other found held
  rw [node?_put notRoot, if_neg]
  · exact held
  · rintro rfl
    simp [free] at held

/-- Everything that a tree holds stays where it is, and directories come in. -/
structure ExtendsByDirectories (tree grown : FileTree) : Prop where
  keeps : tree.Extends grown
  added : ∀ ⦃place node⦄, grown.node? place = some node →
    tree.node? place = some node ∨ node = .directory

theorem ExtendsByDirectories.refl (tree : FileTree) : tree.ExtendsByDirectories tree :=
  ⟨.refl tree, fun _ _ found => .inl found⟩

theorem ExtendsByDirectories.trans {middle : FileTree} (first : tree.ExtendsByDirectories middle)
    (second : middle.ExtendsByDirectories grown) : tree.ExtendsByDirectories grown where
  keeps := first.keeps.trans second.keeps
  added _ _ found :=
    match second.added found with
    | .inl before => first.added before
    | .inr isDirectory => .inr isDirectory

theorem extendsByDirectories_put (notRoot : place ≠ []) (free : tree.node? place = none) :
    tree.ExtendsByDirectories (tree.put place .directory) where
  keeps := extends_put notRoot free .directory
  added other node found := by
    rw [node?_put notRoot] at found
    split_ifs at found with here
    · exact .inr (Option.some.inj found).symm
    · exact .inl found

/-! ## Trees of a file system -/

/-- What stands anywhere stands in a directory. -/
def WellFormed (tree : FileTree) : Prop :=
  ∀ place name, (tree.node? (place ++ [name])).isSome → tree.node? place = some .directory

theorem wellFormed_of_nodes
    (placed : ∀ entry ∈ tree.nodes, tree.node? entry.1.dropLast = some .directory) :
    tree.WellFormed := by
  intro place name held
  rw [node?, if_neg (by simp)] at held
  obtain ⟨node, found⟩ := Option.isSome_iff_exists.1 held
  obtain ⟨before, behind, eq, -⟩ := List.lookup_eq_some_iff.1 found
  have member : (place ++ [name], node) ∈ tree.nodes := by simp [eq]
  simpa using placed _ member

theorem mem_above_iff {other : Location} :
    (other ∈ (List.range (place.length - 1)).map fun n => place.take (n + 1)) ↔
      other ≠ [] ∧ other ≠ place ∧ other <+: place := by
  simp only [List.mem_map, List.mem_range]
  constructor
  · rintro ⟨n, bound, rfl⟩
    have length : (place.take (n + 1)).length = n + 1 := by
      rw [List.length_take]
      omega
    refine ⟨List.ne_nil_of_length_eq_add_one length, fun same => ?_, List.take_prefix _ _⟩
    have := congrArg List.length same
    omega
  · rintro ⟨nonempty, different, above⟩
    have positive := List.length_pos_of_ne_nil nonempty
    have shorter : other.length < place.length :=
      lt_of_le_of_ne above.length_le fun same => different (above.eq_of_length same)
    refine ⟨other.length - 1, by omega, ?_⟩
    rw [Nat.sub_add_cancel positive]
    exact (List.prefix_iff_eq_take.mp above).symm

theorem node?_fillIn (places : List Location) (proper : [] ∉ places) (tree : FileTree)
    (other : Location) :
    (places.foldl (fun tree place =>
      if (tree.node? place).isSome then tree else tree.put place .directory) tree).node? other =
      if other ∈ places then some ((tree.node? other).getD .directory) else tree.node? other := by
  induction places generalizing tree with
  | nil => simp
  | cons place places inductionHypothesis =>
    obtain ⟨notRoot, proper⟩ := not_or.mp (mt List.mem_cons.mpr proper)
    have step : (if (tree.node? place).isSome then tree else tree.put place .directory).node? other =
        if other = place then some ((tree.node? other).getD .directory) else tree.node? other := by
      cases stands : tree.node? place with
      | none =>
        rw [Option.isSome_none, if_neg Bool.false_ne_true, node?_put (Ne.symm notRoot)]
        by_cases here : other = place
        · simp [here, stands]
        · simp [here]
      | some node =>
        by_cases here : other = place
        · simp [here, stands]
        · simp [here]
    rw [List.foldl_cons, inductionHypothesis proper, step]
    by_cases here : other = place
    · simp [here]
    · simp [here]

theorem node?_plant (notRoot : place ≠ []) (tree : FileTree) (node : FileNode) (other : Location) :
    (tree.plant place node).node? other =
      if other = place then some node
      else if other <+: place then some ((tree.node? other).getD .directory)
      else tree.node? other := by
  have proper : [] ∉ (List.range (place.length - 1)).map fun n => place.take (n + 1) :=
    fun root => (mem_above_iff.mp root).1 rfl
  rw [plant, node?_put notRoot, node?_fillIn _ proper]
  by_cases here : other = place
  · rw [if_pos here, if_pos here]
  · rw [if_neg here, if_neg here]
    by_cases root : other = []
    · simp [root, node?]
    · simp only [mem_above_iff, root, here, ne_eq, not_false_eq_true, true_and]

/-- What is planted where no file is above it, and nothing below, stands as files do. -/
theorem WellFormed.plant (wellFormed : tree.WellFormed) (notRoot : place ≠ []) (node : FileNode)
    (above : ∀ front, front <+: place → front ≠ place →
      ∀ content, tree.node? front ≠ some (.file content))
    (below : ∀ name, tree.node? (place ++ [name]) = none) :
    (tree.plant place node).WellFormed := by
  intro parent name held
  have onTheWay : parent ++ [name] <+: place →
      (tree.plant place node).node? parent = some .directory := by
    intro leads
    have front : parent <+: place := (List.prefix_append parent [name]).trans leads
    have shorter : parent ≠ place := by
      rintro rfl
      simpa using leads.length_le
    rw [node?_plant notRoot, if_neg shorter, if_pos front]
    match stands : tree.node? parent with
    | none | some .directory => rfl
    | some (.file content) => exact absurd stands (above parent front shorter content)
  by_cases leads : parent ++ [name] <+: place
  · exact onTheWay leads
  · have different : parent ++ [name] ≠ place := fun same => leads (same ▸ List.prefix_rfl)
    rw [node?_plant notRoot, if_neg different, if_neg leads] at held
    have stands := wellFormed parent name held
    have apart : parent ≠ place := by
      rintro rfl
      simp [below name] at held
    rw [node?_plant notRoot, if_neg apart, stands]
    split <;> rfl

/-- Where nothing goes back by `..`, the way to what a tree holds leads through what it holds. -/
theorem descend_of_isSome {last : Location} (wellFormed : tree.WellFormed)
    (grows : tree.Extends grown) (straight : [0x2E, 0x2E] ∉ names)
    (reached : grown.descend place names = .ok last) (held : (tree.node? last).isSome) :
    tree.descend place names = .ok last := by
  induction names using List.reverseRecOn generalizing last with
  | nil => exact reached
  | append_singleton names name inductionHypothesis =>
    simp only [List.mem_append, List.mem_singleton, not_or] at straight
    obtain ⟨straightAbove, straight⟩ := straight
    obtain ⟨parent, above, entered⟩ := descend_append_eq_ok_iff.1 reached
    rw [descend_append_eq_ok_iff]
    rcases enter_eq_ok_iff.1 entered with ⟨rfl, rfl⟩ | ⟨back, -⟩ | ⟨noDots, short, stands, rfl⟩
    · exact ⟨last, inductionHypothesis straightAbove above held, if_pos rfl⟩
    · exact absurd back.symm straight
    · have parentHeld : tree.node? parent = some .directory := wellFormed parent name held
      obtain ⟨node, found⟩ := Option.isSome_iff_exists.1 held
      obtain rfl : node = .directory := Option.some.inj ((grows found).symm.trans stands)
      refine ⟨parent, inductionHypothesis straightAbove above (by simp [parentHeld]), ?_⟩
      exact enter_eq_ok_iff.2 (.inr (.inr ⟨noDots, short, found, rfl⟩))

/-- Where nothing goes back by `..`, no file comes into the way. -/
theorem descend_eq_notADirectory (wellFormed : tree.WellFormed)
    (grows : tree.ExtendsByDirectories grown) (straight : [0x2E, 0x2E] ∉ names)
    (stops : grown.descend place names = .error .notADirectory) :
    tree.descend place names = .error .notADirectory := by
  induction names using List.reverseRecOn with
  | nil => cases stops
  | append_singleton names name inductionHypothesis =>
    have straightAbove : [0x2E, 0x2E] ∉ names := fun back => straight (List.mem_append_left _ back)
    rw [descend_append_eq_error_iff] at stops ⊢
    rcases stops with above | ⟨parent, above, atFile⟩
    · exact .inl (inductionHypothesis straightAbove above)
    · obtain ⟨noDots, short, content, stands⟩ := enter_eq_notADirectory_iff.1 atFile
      have before : tree.node? (parent ++ [name]) = some (.file content) :=
        (grows.added stands).resolve_right (by simp)
      have parentHeld : tree.node? parent = some .directory :=
        wellFormed parent name (by simp [before])
      have reached : tree.descend place names = .ok parent :=
        descend_of_isSome wellFormed grows.keeps straightAbove above (by simp [parentHeld])
      exact .inr ⟨parent, reached, enter_eq_notADirectory_iff.2 ⟨noDots, short, content, before⟩⟩

end DocExcerpt.FileTree
