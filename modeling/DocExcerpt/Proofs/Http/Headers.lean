import DocExcerpt.Charset.Label
import DocExcerpt.Http.ContentType
import DocExcerpt.Http.Transfer
import Mathlib

/-!
# The content types of a transfer

Two readers look for the content type in the header lines of a transfer.  A visitor of lines takes
the last line that gives one (`GivesContentType`), whichever answer it belongs to.  The library looks
at the lines before a body, more strictly, and reports what it has found when the transfer is over
(`Transfer.Reports`); what it finds need not be text.
-/

namespace DocExcerpt

theorem Text.splitAtChar?_eq_some_iff {mark : Char} {t before after : Text} :
    t.splitAtChar? mark = some (before, after) ↔ t = before ++ mark :: after ∧ mark ∉ before := by
  induction t generalizing before with
  | nil => simp [splitAtChar?]
  | cons c t inductionHypothesis =>
    by_cases found : c = mark
    · cases before with
      | nil => simp [splitAtChar?, found, eq_comm]
      | cons d before => simp +contextual [splitAtChar?, found]
    · cases before with
      | nil => simp [splitAtChar?, found]
      | cons d before =>
        have cut := @inductionHypothesis before
        simp only [splitAtChar?, if_neg found, Option.map_eq_some_iff, Prod.mk.injEq,
          List.cons.injEq, List.cons_append, List.mem_cons, not_or]
        constructor
        · rintro ⟨⟨front, back⟩, split, ⟨rfl, rfl⟩, rfl⟩
          obtain ⟨eq, whole⟩ := cut.mp split
          exact ⟨⟨rfl, eq⟩, Ne.symm found, whole⟩
        · rintro ⟨⟨rfl, eq⟩, -, whole⟩
          exact ⟨(before, after), cut.mpr ⟨eq, whole⟩, ⟨rfl, rfl⟩, rfl⟩

namespace Http

variable {lines : List Bytes}

/-! ## The last line that gives something -/

/-- What the last of the lines gives that gives anything. -/
inductive LastOf {α : Type} (gives : Bytes → α → Prop) (lines : List Bytes) : Option α → Prop
  | nothing (silent : ∀ line ∈ lines, ∀ value, ¬ gives line value) : LastOf gives lines none
  | value {before after : List Bytes} {line : Bytes} {value : α}
      (cut : lines = before ++ line :: after) (given : gives line value)
      (silent : ∀ later ∈ after, ∀ value, ¬ gives later value) : LastOf gives lines (some value)

theorem lastOf_iff {α : Type} {read : Bytes → Option α} {found : Option α} :
    LastOf (fun line value => read line = some value) lines found ↔
      lines.reverse.findSome? read = found := by
  constructor
  · rintro (silent | @⟨before, after, _, _, cut, given, silent⟩)
    · rw [List.findSome?_eq_none_iff]
      intro line member
      exact Option.eq_none_iff_forall_ne_some.mpr (silent line (List.mem_reverse.mp member))
    · rw [List.findSome?_eq_some_iff]
      refine ⟨after.reverse, _, before.reverse, by rw [cut]; simp, given, ?_⟩
      intro line member
      exact Option.eq_none_iff_forall_ne_some.mpr (silent line (List.mem_reverse.mp member))
  · cases found with
    | none =>
      intro silent
      rw [List.findSome?_eq_none_iff] at silent
      refine .nothing fun line member value given => ?_
      rw [silent line (List.mem_reverse.mpr member)] at given
      cases given
    | some value =>
      intro last
      obtain ⟨after, line, before, cut, given, silent⟩ := List.findSome?_eq_some_iff.mp last
      have inOrder : lines = before.reverse ++ line :: after.reverse := by
        simpa using congrArg List.reverse cut
      refine .value inOrder given ?_
      intro later member value given
      rw [silent later (List.mem_reverse.mp member)] at given
      cases given

/-! ## The content type that counts for lines -/

/-- Whether a header line gives a content type: it is text, and before its first colon stands the
name of the field, in any case and with blanks around it. -/
def GivesContentType (line : Bytes) (value : Text) : Prop :=
  ∃ name rest, Utf8.decode? line = some (name ++ ':' :: rest) ∧ ':' ∉ name ∧
    Text.lower (Text.trimBlanks name) = "content-type".toList ∧ Text.trimBlanks rest = value

theorem contentTypeOf?_eq_some_iff {line : Bytes} {value : Text} :
    contentTypeOf? line = some value ↔ GivesContentType line value := by
  unfold contentTypeOf? GivesContentType
  constructor
  · intro given
    split at given
    next name rest cut =>
      obtain ⟨text, decoded, cut⟩ := Option.bind_eq_some_iff.mp cut
      obtain ⟨rfl, whole⟩ := Text.splitAtChar?_eq_some_iff.mp cut
      split at given
      next named => exact ⟨name, rest, decoded, whole, named, Option.some.inj given⟩
      next => cases given
    next => cases given
  · rintro ⟨name, rest, decoded, whole, named, rfl⟩
    rw [decoded, Option.bind_some, Text.splitAtChar?_eq_some_iff.mpr ⟨rfl, whole⟩]
    exact if_pos named

theorem lastOf_givesContentType_iff {found : Option Text} :
    LastOf GivesContentType lines found ↔ lines.reverse.findSome? contentTypeOf? = found := by
  rw [← lastOf_iff]
  simp only [contentTypeOf?_eq_some_iff]

/-! ## The content type that the library reports -/

def isHeaderBlank (b : UInt8) : Bool := b = 0x20 || (0x09 ≤ b && b ≤ 0x0D)

/-- The value of a content type that the library finds in a header line: what stands behind the name
of the field and a colon that follows it at once, without blanks around it.  An empty value does not
count. -/
def libraryValue? (line : Bytes) : Option Bytes :=
  if Text.lower (Utf8.decode (line.take 13)) = "content-type:".toList then
    let rest := (line.drop 13).takeWhile fun b => b ≠ 0x00 && b ≠ 0x0A && b ≠ 0x0D
    let value := ((rest.dropWhile isHeaderBlank).reverse.dropWhile isHeaderBlank).reverse
    if value = [] then none else some value
  else none

/-- The value of the last content type that the library finds. -/
def libraryType? (lines : List Bytes) : Option Bytes := lines.reverse.findSome? libraryValue?

theorem libraryType?_append (before own : List Bytes) :
    libraryType? (before ++ own) = (libraryType? own).or (libraryType? before) := by
  rw [libraryType?, List.reverse_append, List.findSome?_append]
  rfl

/-- What the library documents of the content type that it reports: it is the last one of the header
lines before the body, and asking for it fails if it is no text. -/
def Transfer.Reports (transfer : Transfer) (head : List Bytes) : Prop :=
  match libraryType? head with
  | none => transfer.contentType = .ok none
  | some value =>
    match Utf8.decode? value with
    | some text => transfer.contentType = .ok (some text)
    | none => ∃ fault, transfer.contentType = .error fault

/-! ## Content types that leave a body in UTF-8 -/

/-- Whether a content type names no character set, an unknown one, or UTF-8. -/
def NamesNoOther (contentType : Text) : Prop :=
  ∀ label set, charsetLabel? contentType = some label →
    Charset.ofLabel? (Text.trimBlanks label) = some set → set = .utf8

/-! ## Headers and networks to speak of -/

def headerLines (lines : List String) : List Bytes :=
  (lines ++ [""]).map fun line => Utf8.encode (line ++ "\r\n").toList

def Transport.always (transfer : Transfer) : Transport := ⟨fun _ => .ok transfer⟩

end Http

end DocExcerpt
