import Mathlib

/-!
# Lists cut at a mark

A page is a list of bytes cut at its line feeds, and its text is a list of characters cut at the
same places.  Both are cut here: into the pieces that a mark ends, and what is left behind the last
mark.  Nothing but the marks is lost (`flatMap_ended_append_unended`), and no piece holds one.

Functions that go through such a list piece by piece are compared by `piecewise`, an induction that
takes one piece off the front at a time.
-/

namespace DocExcerpt.Pieces

theorem prefix_append_mark_iff {α : Type} {mark : α} {front : List α} (whole : mark ∉ front)
    (piece xs : List α) : front <+: piece ++ mark :: xs ↔ front <+: piece := by
  constructor
  · intro begins
    rcases Nat.lt_or_ge piece.length front.length with longer | shorter
    · have reaches : piece ++ [mark] <+: front := by
        apply List.prefix_of_prefix_length_le _ begins
        · simpa using longer
        · exact ⟨xs, by simp⟩
      exact absurd (reaches.subset (by simp)) whole
    · exact List.prefix_of_prefix_length_le begins (List.prefix_append _ _) shorter
  · exact fun begins => begins.trans (List.prefix_append _ _)

variable {α : Type} [DecidableEq α] (mark : α)

def ended (xs : List α) : List (List α) := (xs.splitOn mark).dropLast

def unended (xs : List α) : List α := (xs.splitOn mark).getLastD []

variable {mark} {xs piece : List α}

theorem unended_mem_splitOn (xs : List α) : unended mark xs ∈ xs.splitOn mark := by
  have pieces := List.splitOn_ne_nil mark xs
  rw [unended, List.getLastD_eq_getLast?, List.getLast?_eq_some_getLast pieces]
  exact List.getLast_mem pieces

theorem ended_of_not_mem (whole : mark ∉ xs) : ended mark xs = [] := by
  rw [ended, List.splitOn_eq_singleton whole]
  rfl

theorem unended_of_not_mem (whole : mark ∉ xs) : unended mark xs = xs := by
  rw [unended, List.splitOn_eq_singleton whole]
  rfl

theorem ended_append_mark (whole : mark ∉ piece) (xs : List α) :
    ended mark (piece ++ mark :: xs) = piece :: ended mark xs := by
  rw [ended, List.splitOn_append_cons_self_of_not_mem whole,
    List.dropLast_cons_of_ne_nil (List.splitOn_ne_nil _ _), ended]

theorem unended_append_mark (whole : mark ∉ piece) (xs : List α) :
    unended mark (piece ++ mark :: xs) = unended mark xs := by
  rw [unended, List.splitOn_append_cons_self_of_not_mem whole, unended]
  obtain ⟨first, pieces, eq⟩ := List.exists_cons_of_ne_nil (List.splitOn_ne_nil mark xs)
  simp [eq]

/-- What holds of a piece without a mark, and of an ended piece in front of a list of which it
holds, holds of every list. -/
@[elab_as_elim]
theorem piecewise (mark : α) {motive : List α → Prop} (unended : ∀ piece, mark ∉ piece → motive piece)
    (ended : ∀ piece xs, mark ∉ piece → motive xs → motive (piece ++ mark :: xs))
    (xs : List α) : motive xs := by
  by_cases marked : mark ∈ xs
  · obtain ⟨piece, rest, cut, whole⟩ := List.eq_append_cons_of_mem marked
    have shorter : rest.length < xs.length := by
      rw [cut, List.length_append, List.length_cons]
      omega
    rw [cut]
    exact ended piece rest whole (piecewise mark unended ended rest)
  · exact unended xs marked
termination_by xs.length

/-- Each piece with its mark, and then what follows the last mark, make up the list. -/
theorem flatMap_ended_append_unended (xs : List α) :
    (ended mark xs).flatMap (· ++ [mark]) ++ unended mark xs = xs := by
  induction xs using piecewise mark with
  | unended piece whole => simp [ended_of_not_mem whole, unended_of_not_mem whole]
  | ended piece xs whole inductionHypothesis =>
    rw [ended_append_mark whole, unended_append_mark whole, List.flatMap_cons, List.append_assoc,
      inductionHypothesis]
    simp

/-- What is added behind a list ends no piece anew that a mark has ended already. -/
theorem ended_append (xs ys : List α) :
    ended mark (xs ++ ys) = ended mark xs ++ ended mark (unended mark xs ++ ys) := by
  induction xs using piecewise mark with
  | unended piece whole => rw [ended_of_not_mem whole, unended_of_not_mem whole, List.nil_append]
  | ended piece xs whole inductionHypothesis =>
    rw [List.append_assoc, List.cons_append, ended_append_mark whole, ended_append_mark whole,
      unended_append_mark whole, inductionHypothesis, List.cons_append]

theorem unended_append (xs ys : List α) :
    unended mark (xs ++ ys) = unended mark (unended mark xs ++ ys) := by
  induction xs using piecewise mark with
  | unended piece whole => rw [unended_of_not_mem whole]
  | ended piece xs whole inductionHypothesis =>
    rw [List.append_assoc, List.cons_append, unended_append_mark whole, unended_append_mark whole,
      inductionHypothesis]

theorem ended_append_unended (xs : List α) :
    ended mark xs ++ [unended mark xs] = xs.splitOn mark := by
  have pieces := List.splitOn_ne_nil mark xs
  rw [ended, unended, List.getLastD_eq_getLast?, List.getLast?_eq_some_getLast pieces,
    Option.getD_some, List.dropLast_append_getLast pieces]

theorem not_mem_of_mem_ended (member : piece ∈ ended mark xs) : mark ∉ piece := by
  induction xs using piecewise mark with
  | unended other whole =>
    rw [ended_of_not_mem whole] at member
    cases member
  | ended other xs whole inductionHypothesis =>
    rw [ended_append_mark whole] at member
    rcases List.mem_cons.1 member with rfl | member
    · exact whole
    · exact inductionHypothesis member

theorem not_mem_unended (xs : List α) : mark ∉ unended mark xs := by
  induction xs using piecewise mark with
  | unended piece whole => rwa [unended_of_not_mem whole]
  | ended piece xs whole inductionHypothesis => rwa [unended_append_mark whole]

theorem ended_append_cons (xs ys : List α) :
    ended mark (xs ++ mark :: ys) = ended mark xs ++ unended mark xs :: ended mark ys := by
  rw [ended_append, ended_append_mark (not_mem_unended xs)]

theorem unended_append_cons (xs ys : List α) : unended mark (xs ++ mark :: ys) = unended mark ys := by
  induction xs using piecewise mark with
  | unended piece whole => exact unended_append_mark whole ys
  | ended piece xs whole inductionHypothesis =>
    rw [List.append_assoc, List.cons_append, unended_append_mark whole, inductionHypothesis]

end DocExcerpt.Pieces
