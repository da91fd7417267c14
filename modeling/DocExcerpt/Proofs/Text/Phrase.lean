import DocExcerpt.Text.Basic
import Mathlib

/-!
# Occurrences of a phrase

`Text.hasPhrase` finds a phrase wherever it stands (`hasPhrase_iff`).  `Text.replaceAll` looks for
the next occurrence behind the last one; a phrase whose first character comes back nowhere in it
cannot overlap itself, so that every occurrence is found (`replaceAll_eq_addBehind`).  For the same
reason a text that is put together around such a phrase is cut there again
(`splitAtPhrase?_append`).
-/

namespace DocExcerpt.Text

theorem hasPhrase_iff {phrase t : Text} : hasPhrase phrase t = true ↔ phrase <:+: t := by
  induction t with
  | nil => simp [hasPhrase]
  | cons c t inductionHypothesis =>
    rw [hasPhrase, Bool.or_eq_true, inductionHypothesis, List.isPrefixOf_iff_prefix,
      List.infix_cons_iff]

/-! ## Additions behind a phrase -/

/-- A text with an addition behind each place where a phrase ends, given what stands before it. -/
def addBehind (phrase addition : Text) : Text → Text → Text
  | _, [] => []
  | before, c :: t =>
    c :: ((if phrase <:+ before ++ [c] then addition else []) ++
      addBehind phrase addition (before ++ [c]) t)

theorem addBehind_append (phrase addition before s t : Text) :
    addBehind phrase addition before (s ++ t) =
      addBehind phrase addition before s ++ addBehind phrase addition (before ++ s) t := by
  induction s generalizing before with
  | nil => simp [addBehind]
  | cons c s inductionHypothesis => simp [addBehind, inductionHypothesis]

theorem addBehind_eq_self {phrase before t : Text} (addition : Text)
    (never : ∀ s, s ≠ [] → s <+: t → ¬ phrase <:+ before ++ s) :
    addBehind phrase addition before t = t := by
  induction t generalizing before with
  | nil => rfl
  | cons c t inductionHypothesis =>
    have notHere : ¬ phrase <:+ before ++ [c] :=
      never [c] (List.cons_ne_nil _ _) (List.prefix_append [c] t)
    have notLater : ∀ s, s ≠ [] → s <+: t → ¬ phrase <:+ before ++ [c] ++ s := by
      intro s _ begins
      rw [List.append_assoc]
      exact never (c :: s) (List.cons_ne_nil _ _) ((List.prefix_cons_inj c).2 begins)
    rw [addBehind, if_neg notHere, inductionHypothesis notLater, List.nil_append]

/-- A phrase that cannot overlap itself: only all of it is both a beginning and an end of it. -/
def Unbordered (phrase : Text) : Prop :=
  ∀ s, s ≠ [] → s <+: phrase → s <:+ phrase → s = phrase

theorem unbordered_of_not_mem {first : Char} {others : Text} (single : first ∉ others) :
    Unbordered (first :: others) := by
  intro s nonempty begins ends
  rcases List.suffix_cons_iff.1 ends with whole | inside
  · exact whole
  · obtain ⟨c, s, rfl⟩ := List.exists_cons_of_ne_nil nonempty
    obtain ⟨rfl, _⟩ := List.cons_prefix_cons.1 begins
    exact absurd (inside.subset List.mem_cons_self) single

/-- No occurrence of a phrase begins in what has been read and ends in what is to come. -/
def Apart (phrase before t : Text) : Prop :=
  ∀ s u, phrase = s ++ u → s ≠ [] → u ≠ [] → s <:+ before → ¬ u <+: t

theorem apart_nil (phrase t : Text) : Apart phrase [] t :=
  fun _ _ _ someChar _ ends => absurd (List.suffix_nil.1 ends) someChar

/-- Where the phrase does not begin with the next character, it does not end with it either, and
stays apart behind it. -/
theorem Apart.append_char {phrase before t : Text} {c : Char} (apart : Apart phrase before (c :: t))
    (notNow : ¬ phrase <+: c :: t) (nonempty : phrase ≠ []) :
    ¬ phrase <:+ before ++ [c] ∧ Apart phrase (before ++ [c]) t := by
  have crosses : ∀ s u, phrase = s ++ u → s ≠ [] → s <:+ before ++ [c] → ¬ u <+: t := by
    intro s u cut someChar ends begins
    obtain ⟨start, last, rfl⟩ := (List.eq_nil_or_concat' s).resolve_left someChar
    obtain ⟨lead, eq⟩ := ends
    rw [← List.append_assoc] at eq
    obtain ⟨rfl, same⟩ := List.append_inj' eq rfl
    obtain rfl := List.singleton_inj.1 same
    rw [List.append_assoc, List.singleton_append] at cut
    have follows : last :: u <+: last :: t := (List.prefix_cons_inj last).2 begins
    by_cases alone : start = []
    · rw [alone, List.nil_append] at cut
      exact notNow (cut ▸ follows)
    · exact apart start (last :: u) cut alone (List.cons_ne_nil _ _)
        (List.suffix_append lead start) follows
  constructor
  · exact fun ends => crosses phrase [] (List.append_nil _).symm nonempty ends List.nil_prefix
  · exact fun s u cut someChar _ => crosses s u cut someChar

section Unbordered

variable {phrase : Text} (unbordered : Unbordered phrase)

include unbordered

theorem addBehind_phrase (nonempty : phrase ≠ []) (addition before : Text) :
    addBehind phrase addition before phrase = phrase ++ addition := by
  obtain ⟨start, last, cut⟩ := (List.eq_nil_or_concat' phrase).resolve_left nonempty
  have never : ∀ s, s ≠ [] → s <+: start → ¬ phrase <:+ before ++ s := by
    intro s someChar begins ends
    have shorter : s.length < phrase.length := by
      have := begins.length_le
      simp only [cut, List.length_append, List.length_singleton]
      omega
    have isEnd : s <:+ phrase :=
      List.suffix_of_suffix_length_le (List.suffix_append before s) ends shorter.le
    have isBeginning : s <+: phrase := cut ▸ begins.trans (List.prefix_append start _)
    rw [unbordered s someChar isBeginning isEnd] at shorter
    exact Nat.lt_irrefl _ shorter
  have here : phrase <:+ before ++ start ++ [last] := by
    rw [List.append_assoc, ← cut]
    exact List.suffix_append before phrase
  calc addBehind phrase addition before phrase
      = addBehind phrase addition before (start ++ [last]) := by rw [← cut]
    _ = start ++ (last :: (addition ++ [])) := by
      rw [addBehind_append, addBehind_eq_self addition never, addBehind, if_pos here, addBehind]
    _ = phrase ++ addition := by simp [cut]

theorem apart_phrase (before rest : Text) : Apart phrase (before ++ phrase) rest := by
  intro s u cut someChar more ends _
  have begins : s <+: phrase := cut ▸ List.prefix_append s u
  have isEnd : s <:+ phrase :=
    List.suffix_of_suffix_length_le ends (List.suffix_append before phrase) begins.length_le
  rw [← unbordered s someChar begins isEnd] at cut
  exact more (List.append_right_eq_self.1 cut.symm)

/-- Every occurrence of a phrase that cannot overlap itself is found, so that replacing it by itself
and an addition puts the addition behind each of them. -/
theorem replaceAll_eq_addBehind (nonempty : phrase ≠ []) (addition t : Text) :
    replaceAll phrase (phrase ++ addition) t = addBehind phrase addition [] t := by
  suffices general : ∀ before, Apart phrase before t →
      replaceAll phrase (phrase ++ addition) t = addBehind phrase addition before t from
    general [] (apart_nil phrase t)
  fun_induction replaceAll phrase (phrase ++ addition) t with
  | case1 => exact fun _ _ => rfl
  | case2 c t found inductionHypothesis =>
    intro before _
    obtain ⟨rest, whole⟩ := List.isPrefixOf_iff_prefix.1 found.1
    rw [← whole, List.drop_left] at inductionHypothesis ⊢
    rw [inductionHypothesis (before ++ phrase) (apart_phrase unbordered before rest),
      addBehind_append, addBehind_phrase unbordered nonempty]
  | case3 c t notFound inductionHypothesis =>
    intro before apart
    have notNow : ¬ phrase <+: c :: t := fun begins => notFound
      ⟨List.isPrefixOf_iff_prefix.2 begins, List.length_pos_iff.2 nonempty⟩
    obtain ⟨notEnded, stillApart⟩ := apart.append_char notNow nonempty
    rw [addBehind, if_neg notEnded, List.nil_append, inductionHypothesis _ stillApart]

/-- In front of an occurrence another one begins only if it ends there as well. -/
theorem prefix_of_prefix_append_phrase {before rest : Text} (someChar : before ≠ [])
    (begins : phrase <+: before ++ phrase ++ rest) : phrase <+: before := by
  have front : before <+: before ++ phrase ++ rest := by
    rw [List.append_assoc]
    exact List.prefix_append before _
  rcases Nat.lt_or_ge before.length phrase.length with short | long
  · obtain ⟨last, cut⟩ := List.prefix_of_prefix_length_le front begins short.le
    have ends : last <:+ phrase := cut ▸ List.suffix_append before last
    have follows : last <+: phrase ++ rest := by
      rw [← cut, List.append_assoc, List.append_assoc, List.prefix_append_right_inj] at begins
      rwa [← List.append_assoc, cut] at begins
    have isBeginning : last <+: phrase :=
      List.prefix_of_prefix_length_le follows (List.prefix_append phrase rest) ends.length_le
    have nonempty : last ≠ [] := by
      rintro rfl
      rw [← cut, List.append_nil] at short
      exact Nat.lt_irrefl _ short
    rw [unbordered last nonempty isBeginning ends] at cut
    exact absurd (List.append_left_eq_self.mp cut) someChar
  · exact List.prefix_of_prefix_length_le begins front long

theorem splitAtPhrase?_append (nonempty : phrase ≠ []) {before : Text}
    (first : ¬ phrase <:+: before) (after : Text) :
    splitAtPhrase? phrase (before ++ phrase ++ after) = some (before, after) := by
  induction before with
  | nil =>
    obtain ⟨c, others, rfl⟩ := List.exists_cons_of_ne_nil nonempty
    have here : (c :: others).isPrefixOf (c :: (others ++ after)) = true :=
      List.isPrefixOf_iff_prefix.mpr (List.prefix_append (c :: others) after)
    rw [List.nil_append, List.cons_append, splitAtPhrase?, if_pos here, ← List.cons_append,
      List.drop_left]
  | cons c before inductionHypothesis =>
    have notLater : ¬ phrase <:+: before := fun later => first (List.infix_cons later)
    have notHere : ¬ phrase.isPrefixOf (c :: (before ++ phrase ++ after)) = true := by
      rw [List.isPrefixOf_iff_prefix]
      intro begins
      exact first (prefix_of_prefix_append_phrase unbordered (List.cons_ne_nil c before) begins).isInfix
    rw [List.cons_append, List.cons_append, splitAtPhrase?, if_neg notHere,
      inductionHypothesis notLater, Option.map_some]

end Unbordered

/-! ## First occurrences -/

section FirstOccurrence

variable {phrase : Text} (nonempty : phrase ≠ [])

include nonempty

theorem splitAtPhrase?_eq_none_iff {t : Text} :
    splitAtPhrase? phrase t = none ↔ ¬ phrase <:+: t := by
  induction t with
  | nil => simp [splitAtPhrase?, nonempty]
  | cons c t inductionHypothesis =>
    rw [splitAtPhrase?, List.infix_cons_iff, ← List.isPrefixOf_iff_prefix]
    split
    next here => simp [here]
    next notHere => simp [notHere, inductionHypothesis]

theorem eq_of_splitAtPhrase? {t before after : Text}
    (cut : splitAtPhrase? phrase t = some (before, after)) :
    t = before ++ phrase ++ after ∧ ¬ phrase <:+: before := by
  induction t generalizing before with
  | nil => simp [splitAtPhrase?, nonempty] at cut
  | cons c t inductionHypothesis =>
    rw [splitAtPhrase?] at cut
    split at cut
    next here =>
      cases cut
      have begins := List.prefix_iff_eq_append.mp (List.isPrefixOf_iff_prefix.mp here)
      exact ⟨begins.symm, by simpa using nonempty⟩
    next notHere =>
      obtain ⟨⟨front, rest⟩, inner, same⟩ := Option.map_eq_some_iff.mp cut
      cases same
      obtain ⟨whole, first⟩ := inductionHypothesis inner
      refine ⟨by rw [whole]; rfl, fun occurs => ?_⟩
      rcases List.infix_cons_iff.mp occurs with begins | later
      · apply notHere
        rw [List.isPrefixOf_iff_prefix, whole, List.append_assoc]
        exact begins.trans (List.prefix_append (c :: front) _)
      · exact first later

theorem exists_first_of_infix {t : Text} (occurs : phrase <:+: t) :
    ∃ before after, t = before ++ phrase ++ after ∧ ¬ phrase <:+: before := by
  obtain ⟨⟨before, after⟩, cut⟩ := Option.ne_none_iff_exists'.mp
    (mt (splitAtPhrase?_eq_none_iff nonempty).mp (not_not_intro occurs))
  exact ⟨before, after, eq_of_splitAtPhrase? nonempty cut⟩

end FirstOccurrence

end DocExcerpt.Text
