import DocExcerpt.Proofs.Page.Lines
import DocExcerpt.Symbols

/-!
# Symbol files as sets

A set of symbols answers as the finite set of its names does (`answers_toFinset`), and a symbol file
lists the names that its lines are without the blanks around them (`has_ofText_iff`).  What else
there is to a file is of no account: the order of the lines, lines that come twice, remarks, blanks,
and carriage returns at the ends of lines (`Edit`).  So a file is read as a set of names, and stays
one when names are added (`load_as_set`).
-/

namespace DocExcerpt

/-! ## Blanks around a line -/

namespace Text

variable {left right line : Text} {drop : Char → Bool}

theorem trimBoth_append_left (all : ∀ c ∈ left, drop c = true) (line : Text) :
    trimBoth drop (left ++ line) = trimBoth drop line := by
  rw [trimBoth, List.dropWhile_append_of_pos all, trimBoth]

theorem trimBoth_append_right (all : ∀ c ∈ right, drop c = true) (line : Text) :
    trimBoth drop (line ++ right) = trimBoth drop line := by
  have allReversed : ∀ c ∈ right.reverse, drop c = true := fun c member =>
    all c (List.mem_reverse.mp member)
  rw [trimBoth, trimBoth, List.dropWhile_append]
  split
  next nothing =>
    have noRight : right.dropWhile drop = [] := List.dropWhile_eq_nil_iff.mpr all
    rw [noRight, List.isEmpty_iff.mp nothing]
  next => rw [List.reverse_append, List.dropWhile_append_of_pos allReversed]

theorem trimBlanks_between (leftBlank : ∀ c ∈ left, isBlank c = true)
    (rightBlank : ∀ c ∈ right, isBlank c = true) (line : Text) :
    trimBlanks (left ++ line ++ right) = trimBlanks line := by
  rw [trimBlanks, trimBoth_append_right rightBlank, trimBoth_append_left leftBlank, trimBlanks]

theorem trimBlanks_append_return (line : Text) : trimBlanks (line ++ ['\r']) = trimBlanks line :=
  trimBoth_append_right (List.forall_mem_singleton.mpr rfl) line

theorem trimBlanks_withoutReturn (line : Text) :
    trimBlanks (withoutReturn line) = trimBlanks line := by
  unfold withoutReturn
  split
  next ends =>
    obtain ⟨front, rfl⟩ := List.getLast?_eq_some_iff.mp ends
    rw [List.dropLast_concat, trimBlanks_append_return]
  next => rfl

theorem lines_append_cons (before after : Text) :
    lines (before ++ '\n' :: after) = (Pieces.ended '\n' before).map withoutReturn ++
      withoutReturn (Pieces.unended '\n' before) :: lines after := by
  rw [lines_eq, Pieces.ended_append_cons, Pieces.unended_append_cons, lines_eq]
  simp

end Text

namespace Symbols

variable {symbols : Symbols} {names : Finset Text} {t name : Text}

/-! ## The set of the names -/

def toFinset (symbols : Symbols) : Finset Text := ⟨symbols.names, symbols.nodup⟩

/-- Whether a set of symbols answers as the set `names` does. -/
structure Answers (symbols : Symbols) (names : Finset Text) : Prop where
  has : ∀ name, symbols.has name = true ↔ name ∈ names
  size : symbols.size = names.card
  isEmpty : symbols.isEmpty = true ↔ names = ∅

theorem mem_toFinset : name ∈ symbols.toFinset ↔ symbols.has name = true :=
  List.contains_iff_mem.symm

theorem answers_toFinset (symbols : Symbols) : symbols.Answers symbols.toFinset where
  has _ := mem_toFinset.symm
  size := rfl
  isEmpty := by
    rw [isEmpty, List.isEmpty_iff, ← Finset.card_eq_zero, ← List.length_eq_zero_iff]
    rfl

theorem answers_iff : symbols.Answers names ↔ ∀ name, symbols.has name = true ↔ name ∈ names := by
  refine ⟨Answers.has, fun has => ?_⟩
  have same : symbols.toFinset = names := Finset.ext fun name => mem_toFinset.trans (has name)
  exact same ▸ answers_toFinset symbols

theorem Answers.insert (answers : symbols.Answers names) (added : Text) :
    (symbols.insert added).Answers (Insert.insert added names) := by
  rw [answers_iff]
  intro name
  rw [has_insert, Bool.or_eq_true, decide_eq_true_iff, answers.has, Finset.mem_insert]

/-- After any number of insertions the names are those before and those inserted. -/
theorem Answers.insertAll (answers : symbols.Answers names) (added : List Text) :
    (added.foldl Symbols.insert symbols).Answers (names ∪ added.toFinset) := by
  induction added generalizing symbols names with
  | nil => simpa using answers
  | cons name added inductionHypothesis =>
    have grown := inductionHypothesis (answers.insert name)
    rwa [Finset.insert_union, ← Finset.union_insert, ← List.toFinset_cons] at grown

theorem answers_ofNames (names : List Text) : (ofNames names).Answers names.toFinset := by
  have grown := (answers_toFinset empty).insertAll names
  rwa [show empty.toFinset = ∅ from rfl, Finset.empty_union] at grown

/-! ## The names that a text lists -/

/-- Whether a text, read as a symbol file, lists a name. -/
structure Lists (t name : Text) : Prop where
  nonempty : name ≠ []
  noComment : name.head? ≠ some '#'
  line : ∃ line ∈ t.lines, line.trimBlanks = name

theorem isName_iff : isName name = true ↔ name ≠ [] ∧ name.head? ≠ some '#' := by
  simp [isName]

theorem lists_iff : Lists t name ↔ isName name = true ∧ name ∈ t.lines.map Text.trimBlanks := by
  rw [isName_iff, List.mem_map]
  exact ⟨fun ⟨nonempty, noComment, line⟩ => ⟨⟨nonempty, noComment⟩, line⟩,
    fun ⟨⟨nonempty, noComment⟩, line⟩ => ⟨nonempty, noComment, line⟩⟩

theorem has_ofText_iff : (ofText t).has name = true ↔ Lists t name := by
  rw [ofText, (answers_ofNames _).has, List.mem_toFinset, List.mem_filter, lists_iff, and_comm]

/-! ## What is of no account -/

/-- A line that is blank or holds a comment. -/
def IsRemark (line : Text) : Prop :=
  line.trimBlanks = [] ∨ line.trimBlanks.head? = some '#'

/-- One change to a symbol file that is of no account.  A line that is added stands in front, from
where it can be moved. -/
inductive Edit : Text → Text → Prop where
  /-- The lines come in another order. -/
  | order {t u : Text} (same : t.lines.Perm u.lines) : Edit t u
  /-- A line comes once more. -/
  | repetition {t u line : Text} (there : line ∈ t.lines) (more : u.lines = line :: t.lines) :
      Edit t u
  | remark {t u line : Text} (remark : IsRemark line) (more : u.lines = line :: t.lines) : Edit t u
  /-- Blanks are put around a line. -/
  | indentation {t u left line right : Text} {before after : List Text}
      (leftBlank : ∀ c ∈ left, Text.isBlank c = true)
      (rightBlank : ∀ c ∈ right, Text.isBlank c = true)
      (whole : t.lines = before ++ line :: after)
      (indented : u.lines = before ++ (left ++ line ++ right) :: after) : Edit t u
  /-- A line feed gets a carriage return in front of it. -/
  | lineEnd (before after : Text) : Edit (before ++ '\n' :: after) (before ++ '\r' :: '\n' :: after)

theorem isName_trimBlanks_of_isRemark {line : Text} (remark : IsRemark line) :
    isName line.trimBlanks = false := by
  rw [← Bool.not_eq_true, isName_iff]
  rcases remark with blank | comment
  · exact fun isName => isName.1 blank
  · exact fun isName => isName.2 comment

theorem Edit.lists_iff {t u : Text} (edit : Edit t u) : Lists t name ↔ Lists u name := by
  rw [Symbols.lists_iff, Symbols.lists_iff]
  cases edit with
  | order same => rw [(same.map Text.trimBlanks).mem_iff]
  | repetition there more =>
    have again := List.mem_map_of_mem (f := Text.trimBlanks) there
    rw [more, List.map_cons, List.mem_cons, or_iff_right_of_imp]
    rintro rfl
    exact again
  | remark remark more =>
    have noName := isName_trimBlanks_of_isRemark remark
    rw [more, List.map_cons, List.mem_cons]
    apply and_congr_right
    intro isName
    rw [or_iff_right]
    rintro rfl
    simp [noName] at isName
  | indentation leftBlank rightBlank whole indented =>
    rw [whole, indented, List.map_append, List.map_append, List.map_cons, List.map_cons,
      Text.trimBlanks_between leftBlank rightBlank]
  | lineEnd before after =>
    have noFeed : '\n' ∉ Pieces.unended '\n' before ++ ['\r'] := by
      simp [Pieces.not_mem_unended before]
    have withReturn : before ++ '\r' :: '\n' :: after = (before ++ ['\r']) ++ '\n' :: after := by simp
    rw [withReturn, Text.lines_append_cons, Text.lines_append_cons, Pieces.ended_append,
      Pieces.ended_of_not_mem noFeed, List.append_nil, Pieces.unended_append,
      Pieces.unended_of_not_mem noFeed]
    simp only [List.map_append, List.map_cons, Text.trimBlanks_withoutReturn]
    rw [Text.trimBlanks_append_return]

theorem lists_iff_of_edits {t u : Text} (edits : Relation.EqvGen Edit t u) :
    Lists t name ↔ Lists u name := by
  induction edits with
  | rel _ _ edit => exact edit.lists_iff
  | refl _ => exact Iff.rfl
  | symm _ _ _ inductionHypothesis => exact inductionHypothesis.symm
  | trans _ _ _ _ _ first second => exact first.trans second

/-! ## Names on lines of their own -/

/-- A name that a line can hold by itself. -/
structure IsListable (name : Text) : Prop where
  nonempty : name ≠ []
  noComment : name.head? ≠ some '#'
  trimmed : name.trimBlanks = name
  oneLine : '\n' ∉ name

theorem lines_of_names {names : List Text} (oneLine : ∀ name ∈ names, '\n' ∉ name) :
    Text.lines (names.flatMap (· ++ ['\n'])) = names.map Text.withoutReturn := by
  induction names with
  | nil => rfl
  | cons name names inductionHypothesis =>
    have cut : (name :: names).flatMap (· ++ ['\n']) =
        name ++ '\n' :: names.flatMap (· ++ ['\n']) := by simp
    rw [cut, Text.lines_append_lineFeed (oneLine name List.mem_cons_self),
      inductionHypothesis fun other member => oneLine other (List.mem_cons_of_mem name member),
      List.map_cons]

theorem answers_ofText_names {names : List Text} (listable : ∀ name ∈ names, IsListable name) :
    (ofText (names.flatMap (· ++ ['\n']))).Answers names.toFinset := by
  have lines := lines_of_names fun name member => (listable name member).oneLine
  have trimmed : (names.map Text.withoutReturn).map Text.trimBlanks = names := by
    rw [List.map_map]
    refine (List.map_congr_left fun name member => ?_).trans (List.map_id names)
    exact (Text.trimBlanks_withoutReturn name).trans (listable name member).trimmed
  rw [answers_iff]
  intro name
  rw [has_ofText_iff, lists_iff, lines, trimmed, List.mem_toFinset, and_iff_right_iff_imp, isName_iff]
  exact fun member => ⟨(listable name member).nonempty, (listable name member).noComment⟩

/-! ## Loading -/

theorem load_of_encode {files : FileTree} {base : Location} {path : Path} {data : Text}
    (holds : files.read base path = .ok (Utf8.encode data)) :
    load files base path = .ok (ofText data) := by
  rw [load, FileTree.readText, holds]
  simp [bind, Except.bind, Utf8.decode?_encode, Except.map]

/-- Whether a file is loaded as symbols that answer as `names` does, and go on to do so with the names
that are added. -/
def LoadsAs (files : FileTree) (base : Location) (path : Path) (names : Finset Text) : Prop :=
  ∃ symbols, load files base path = .ok symbols ∧
    ∀ added : List Text, (added.foldl insert symbols).Answers (names ∪ added.toFinset)

theorem loadsAs_of_encode {files : FileTree} {base : Location} {path : Path} {data : Text}
    (holds : files.read base path = .ok (Utf8.encode data)) (answers : (ofText data).Answers names) :
    LoadsAs files base path names :=
  ⟨ofText data, load_of_encode holds, answers.insertAll⟩

/-- A symbol file is read as the set of the names that its lines are without the blanks around them,
and what else there is to the file is of no account.  Names that stand on lines of their own are read
as the set that is made of them. -/
theorem load_as_set (files : FileTree) (base : Location) (path : Path) (data : Text)
    (holds : files.read base path = .ok (Utf8.encode data)) :
    ∃ names : Finset Text,
      (∀ name, name ∈ names ↔ Lists data name) ∧
      LoadsAs files base path names ∧
      (∀ changed other, Relation.EqvGen Edit data other →
        changed.read base path = .ok (Utf8.encode other) → LoadsAs changed base path names) ∧
      ∀ lines : List Text, (∀ name ∈ lines, IsListable name) →
        data = lines.flatMap (· ++ ['\n']) → (ofNames lines).Answers names := by
  have answers := answers_toFinset (ofText data)
  have listed : ∀ name, name ∈ (ofText data).toFinset ↔ Lists data name := fun name =>
    (answers.has name).symm.trans has_ofText_iff
  refine ⟨(ofText data).toFinset, listed, loadsAs_of_encode holds answers, ?_, ?_⟩
  · intro changed other edits holdsOther
    apply loadsAs_of_encode holdsOther
    rw [answers_iff]
    intro name
    rw [has_ofText_iff, listed, lists_iff_of_edits edits]
  · rintro lines listable rfl
    have same := answers_ofText_names listable
    rw [answers_iff]
    intro name
    rw [(answers_ofNames lines).has, ← same.has, answers.has]

/-- A file with a remark, a blank line, and blanks and a carriage return around a name. -/
def remarked : Text := "# jdk\njava.lang.Object\n\n  java.util.List \r\njava.lang.Object".toList

theorem load_as_set_of_remarked :
    LoadsAs ⟨[([[0x73]], .file (Utf8.encode remarked))]⟩ [] [0x2F, 0x73]
      {"java.lang.Object".toList, "java.util.List".toList} := by
  obtain ⟨names, listed, loads, -⟩ := load_as_set ⟨[([[0x73]], .file (Utf8.encode remarked))]⟩ []
    [0x2F, 0x73] remarked rfl
  have lines : remarked.lines.map Text.trimBlanks = ["# jdk".toList, "java.lang.Object".toList, [],
      "java.util.List".toList, "java.lang.Object".toList] := by decide
  have same : names = {"java.lang.Object".toList, "java.util.List".toList} := by
    ext name
    rw [listed, lists_iff, lines, Finset.mem_insert, Finset.mem_singleton]
    constructor
    · rintro ⟨isName, member⟩
      simp only [List.mem_cons, List.not_mem_nil, or_false] at member
      rcases member with rfl | rfl | rfl | rfl | rfl
      · cases isName
      · exact .inl rfl
      · cases isName
      · exact .inr rfl
      · exact .inl rfl
    · rintro (rfl | rfl) <;> decide
  exact same ▸ loads

end Symbols

end DocExcerpt
