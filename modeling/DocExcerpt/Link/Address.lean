import DocExcerpt.Text.Basic

/-!
# Addresses and relative paths as texts

Links of a documentation page are edited as plain texts: the fragment is cut off, page suffixes
are removed, the directory of a page is taken, and `..` segments are collapsed. Nothing here asks
whether the text is a well formed address; that is the business of `DocExcerpt.Url`.
-/

namespace DocExcerpt.Link

/-! ## Fragments -/

def withoutFragment (address : Text) : Text := address.takeWhile (· ≠ '#')

def fragment? (address : Text) : Option Text := (address.splitAtChar? '#').map (·.2)

/-! ## Page suffixes

A page suffix is `.htm` or `.html` in any letter case. -/

/-- The text after a page suffix, if a text begins with one. The longer suffix is preferred. -/
def afterPageSuffix? : Text → Option Text
  | '.' :: h :: t :: m :: rest =>
    if Text.lower [h, t, m] = ['h', 't', 'm'] then
      match rest with
      | [] => some []
      | l :: more => if l.toLower = 'l' then some more else some rest
    else none
  | _ => none

theorem length_of_afterPageSuffix? {t rest : Text} (found : afterPageSuffix? t = some rest) :
    rest.length < t.length := by
  unfold afterPageSuffix? at found
  split at found
  · split at found
    · split at found
      · cases found; simp
      · split at found <;> cases found
        · simp; omega
        · simp
    · cases found
  · cases found

def withoutPageSuffixes (t : Text) : Text :=
  match _found : afterPageSuffix? t with
  | some rest => withoutPageSuffixes rest
  | none =>
    match t with
    | [] => []
    | c :: t => c :: withoutPageSuffixes t
termination_by t.length
decreasing_by
  · exact length_of_afterPageSuffix? _found
  · simp

def isPageSuffix (t : Text) : Bool :=
  t.lower = ['.', 'h', 't', 'm'] || t.lower = ['.', 'h', 't', 'm', 'l']

def endsInPageSuffix : Text → Bool
  | [] => false
  | c :: t => isPageSuffix (c :: t) || endsInPageSuffix t

def withoutFinalPageSuffix : Text → Text
  | [] => []
  | c :: t => if isPageSuffix (c :: t) then [] else c :: withoutFinalPageSuffix t

/-! ## Directories -/

/-- The directory of a page address: if its last segment ends in a page suffix, that segment is
dropped and the slash before it is kept. Any other address is its own directory. -/
def directory : Text → Text
  | [] => []
  | c :: t => if c = '/' ∧ '/' ∉ t ∧ endsInPageSuffix t then ['/'] else c :: directory t

def withoutLeadingParents : Text → Text
  | '.' :: '.' :: '/' :: t => withoutLeadingParents t
  | t => t

/-! ## Collapsing parents

A named directory followed by `..`, as in `/name/../`, is the directory that holds it. -/

/-- A character of a directory name that `..` may undo: not a slash, dot or caret. -/
def isPlainNameChar (c : Char) : Bool := c ≠ '/' && c ≠ '^' && c ≠ '.'

def afterUndoneDirectory? : Text → Option Text
  | '/' :: t =>
    match t.dropWhile isPlainNameChar with
    | '/' :: '.' :: '.' :: '/' :: rest => some rest
    | _ => none
  | _ => none

theorem length_of_afterUndoneDirectory? {t rest : Text}
    (found : afterUndoneDirectory? t = some rest) : rest.length < t.length := by
  unfold afterUndoneDirectory? at found
  split at found
  · rename_i tail
    have := (List.dropWhile_sublist isPlainNameChar (l := tail)).length_le
    split at found
    · rename_i eq
      cases found
      rw [eq] at this
      simp at this ⊢
      omega
    · cases found
  · cases found

/-- One pass from left to right that replaces each `/name/../` by `/`. A slash that ends one
occurrence does not begin the next. -/
def collapseOnce (t : Text) : Text :=
  match _found : afterUndoneDirectory? t with
  | some rest => '/' :: collapseOnce rest
  | none =>
    match t with
    | [] => []
    | c :: t => c :: collapseOnce t
termination_by t.length
decreasing_by
  · exact length_of_afterUndoneDirectory? _found
  · simp

/-- An address in which no directory is undone by a following `..`: passes are made until one
finds nothing to replace. -/
def collapseParents (t : Text) : Text :=
  if (collapseOnce t).length < t.length then collapseParents (collapseOnce t) else t
termination_by t.length

end DocExcerpt.Link
