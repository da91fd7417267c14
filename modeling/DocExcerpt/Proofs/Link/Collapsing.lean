import DocExcerpt.Proofs.Link.Address
import DocExcerpt.Proofs.Text.Pieces
import Mathlib

/-!
# Directories undone in any order

A directory that `..` follows may be undone wherever it stands, one at a time and in any order.
Collapsing makes passes over the whole path instead, and each pass undoes many.  Both come to the
same end (`eq_collapseParents`), a path in which nothing is left to undo.

The two are compared through a third way, one pass over the segments of a path with a stack
(`walked`).  Undoing a directory anywhere does not change what this pass leaves
(`walked_eq_of_undoes`), and it leaves a path as it is if nothing can be undone in it
(`walked_of_settled`).
-/

namespace DocExcerpt.Link

open Relation Pieces

variable {t u rest name segment : Text} {stack segments : List Text}

/-! ## One directory at a time -/

/-- The name of a directory that `..` may undo. -/
def IsPlainName (name : Text) : Prop := '/' ∉ name ∧ '.' ∉ name ∧ '^' ∉ name

/-- Somewhere in a path, `/name/../` becomes `/`. -/
inductive Undoes : Text → Text → Prop where
  | directory (before name after : Text) (plain : IsPlainName name) :
      Undoes (before ++ '/' :: (name ++ '/' :: '.' :: '.' :: '/' :: after))
        (before ++ '/' :: after)

def Settled (t : Text) : Prop := ∀ u, ¬ Undoes t u

theorem settled_iff : Settled t ↔
    ∀ name, IsPlainName name → ¬ '/' :: (name ++ ['/', '.', '.', '/']) <:+: t := by
  constructor
  · rintro settled name plain ⟨before, after, rfl⟩
    apply settled (before ++ '/' :: after)
    have undoes := Undoes.directory before name after plain
    simpa using undoes
  · intro factorless u undoes
    cases undoes with
    | directory before name after plain => exact factorless name plain ⟨before, after, by simp⟩

theorem Undoes.append_left (undoes : Undoes t u) (front : Text) :
    Undoes (front ++ t) (front ++ u) := by
  cases undoes with
  | directory before name after plain =>
    have wider := Undoes.directory (front ++ before) name after plain
    simpa using wider

theorem Undoes.length_lt (undoes : Undoes t u) : u.length < t.length := by
  cases undoes with
  | directory before name after plain =>
    simp only [List.length_append, List.length_cons]
    omega

theorem not_undoes_forever (paths : ℕ → Text) : ¬ ∀ n, Undoes (paths n) (paths (n + 1)) := by
  intro forever
  have shorter : ∀ n, (paths n).length + n ≤ (paths 0).length := by
    intro n
    induction n with
    | zero => omega
    | succ n inductionHypothesis =>
      have step := (forever n).length_lt
      omega
  have tooShort := shorter ((paths 0).length + 1)
  omega

/-! ## Passes over the whole path -/

theorem isPlainName_iff : IsPlainName name ↔ ∀ c ∈ name, isPlainNameChar c = true := by
  simp only [IsPlainName, isPlainNameChar, Bool.and_eq_true, decide_eq_true_eq]
  constructor
  · rintro ⟨noSlash, noDot, noCaret⟩ c member
    refine ⟨⟨?_, ?_⟩, ?_⟩ <;> rintro rfl <;> contradiction
  · intro allowed
    refine ⟨?_, ?_, ?_⟩ <;> intro member <;> simpa using allowed _ member

theorem afterUndoneDirectory?_eq_some_iff :
    afterUndoneDirectory? t = some rest ↔
      ∃ name, IsPlainName name ∧ t = '/' :: (name ++ '/' :: '.' :: '.' :: '/' :: rest) := by
  constructor
  · intro found
    unfold afterUndoneDirectory? at found
    split at found
    next tail =>
      split at found
      next more eq =>
        cases found
        refine ⟨tail.takeWhile isPlainNameChar, ?_, ?_⟩
        · exact isPlainName_iff.mpr fun c member => List.mem_takeWhile_imp member
        · rw [← eq, List.takeWhile_append_dropWhile]
      next => cases found
    next => cases found
  · rintro ⟨name, plain, rfl⟩
    have slash : isPlainNameChar '/' = false := by decide
    have cut : (name ++ '/' :: '.' :: '.' :: '/' :: rest).dropWhile isPlainNameChar =
        '/' :: '.' :: '.' :: '/' :: rest := by
      rw [List.dropWhile_append_of_pos (isPlainName_iff.mp plain),
        List.dropWhile_cons_of_neg (by simp [slash])]
    simp only [afterUndoneDirectory?, cut]

theorem reflTransGen_collapseOnce (t : Text) : ReflTransGen Undoes t (collapseOnce t) := by
  have cons : ∀ (c : Char) {t u : Text}, ReflTransGen Undoes t u →
      ReflTransGen Undoes (c :: t) (c :: u) := fun c _ _ reaches =>
    reaches.lift (c :: ·) fun _ _ undoes => undoes.append_left [c]
  fun_induction collapseOnce t with
  | case1 t rest found inductionHypothesis =>
    obtain ⟨name, plain, rfl⟩ := afterUndoneDirectory?_eq_some_iff.mp found
    exact .head (Undoes.directory [] name rest plain) (cons '/' inductionHypothesis)
  | case2 => exact .refl
  | case3 c t notFound inductionHypothesis => exact cons c inductionHypothesis

theorem Undoes.length_collapseOnce_lt (undoes : Undoes t u) :
    (collapseOnce t).length < t.length := by
  fun_induction collapseOnce t generalizing u with
  | case1 t rest found inductionHypothesis =>
    obtain ⟨name, plain, rfl⟩ := afterUndoneDirectory?_eq_some_iff.mp found
    have shorter := (collapseOnce_sublist rest).length_le
    simp only [List.length_append, List.length_cons]
    omega
  | case2 =>
    have shorter := undoes.length_lt
    simp at shorter
  | case3 c t notFound inductionHypothesis =>
    generalize whole : c :: t = path at undoes
    cases undoes with
    | directory before name after plain =>
      cases before with
      | nil =>
        have found := afterUndoneDirectory?_eq_some_iff.mpr ⟨name, plain, whole⟩
        rw [notFound] at found
        cases found
      | cons d before =>
        rw [List.cons_append, List.cons.injEq] at whole
        obtain ⟨rfl, rfl⟩ := whole
        have shorter := inductionHypothesis (Undoes.directory before name after plain)
        simpa using shorter

theorem reflTransGen_collapseParents (t : Text) : ReflTransGen Undoes t (collapseParents t) := by
  fun_induction collapseParents t with
  | case1 t shorter inductionHypothesis =>
    exact (reflTransGen_collapseOnce t).trans inductionHypothesis
  | case2 t done => exact .refl

theorem settled_collapseParents (t : Text) : Settled (collapseParents t) := by
  fun_induction collapseParents t with
  | case1 t shorter inductionHypothesis => exact inductionHypothesis
  | case2 t done => exact fun u undoes => done undoes.length_collapseOnce_lt

/-- Passes are made until one does not shorten the path any more, and there is such a pass. -/
theorem exists_passes (t : Text) :
    ∃ n, collapseParents t = collapseOnce^[n] t ∧
      (∀ k < n, (collapseOnce (collapseOnce^[k] t)).length < (collapseOnce^[k] t).length) ∧
      ¬ (collapseOnce (collapseOnce^[n] t)).length < (collapseOnce^[n] t).length := by
  fun_induction collapseParents t with
  | case1 t shorter inductionHypothesis =>
    obtain ⟨n, same, before, last⟩ := inductionHypothesis
    refine ⟨n + 1, by rw [same, Function.iterate_succ_apply], ?_, ?_⟩
    · intro k bound
      cases k with
      | zero => exact shorter
      | succ k =>
        rw [Function.iterate_succ_apply]
        exact before k (by omega)
    · rw [Function.iterate_succ_apply]
      exact last
  | case2 t done => exact ⟨0, rfl, fun k bound => absurd bound (Nat.not_lt_zero k), done⟩

/-! ## One pass over segments -/

/-- A segment comes upon the stack of those before it, the latest on top.  `..` takes a name without
dots and carets off the top, but never the segment at the bottom. -/
def arrive : List Text → Text → List Text
  | top :: below :: stack, segment =>
    if segment = ['.', '.'] ∧ '.' ∉ top ∧ '^' ∉ top then below :: stack
    else segment :: top :: below :: stack
  | stack, segment => segment :: stack

/-- The path that a pass over its segments leaves.  The last one is put on the stack as it is. -/
def walked (t : Text) : Text :=
  ['/'].intercalate (unended '/' t :: (ended '/' t).foldl arrive []).reverse

theorem arrive_of_not_parent (other : segment ≠ ['.', '.']) :
    arrive stack segment = segment :: stack := by
  match stack with
  | [] | [_] => rfl
  | top :: below :: stack => simp [arrive, other]

theorem arrive_parent (plain : IsPlainName name) (some : stack ≠ []) :
    arrive (name :: stack) ['.', '.'] = stack := by
  obtain ⟨below, stack, rfl⟩ := List.exists_cons_of_ne_nil some
  simp [arrive, plain.2.1, plain.2.2]

theorem arrive_ne_nil (stack : List Text) (segment : Text) : arrive stack segment ≠ [] := by
  unfold arrive
  split
  · split <;> simp
  · simp

theorem foldl_arrive_undone (plain : IsPlainName name) (some : stack ≠ []) :
    [name, ['.', '.']].foldl arrive stack = stack := by
  have noParent : name ≠ ['.', '.'] := by
    rintro rfl
    exact plain.2.1 List.mem_cons_self
  rw [List.foldl_cons, List.foldl_cons, arrive_of_not_parent noParent, arrive_parent plain some,
    List.foldl_nil]

/-- A directory and the `..` behind it are two segments with a segment before them. -/
theorem ended_directory (before after : Text) (plain : IsPlainName name) :
    ended '/' (before ++ '/' :: (name ++ '/' :: '.' :: '.' :: '/' :: after)) =
      ended '/' before ++ unended '/' before :: name :: ['.', '.'] :: ended '/' after := by
  have dots : ('/' : Char) ∉ ['.', '.'] := by decide
  rw [ended_append_cons, ended_append_mark plain.1]
  exact congrArg (ended '/' before ++ unended '/' before :: name :: ·)
    (ended_append_mark dots after)

theorem walked_eq_of_undoes (undoes : Undoes t u) : walked t = walked u := by
  cases undoes with
  | directory before name after plain =>
    have last : ∀ front : Text, unended '/' (front ++ '/' :: after) = unended '/' after :=
      fun front => unended_append_cons front after
    have sameLast := (last (before ++ '/' :: (name ++ ['/', '.', '.']))).trans (last before).symm
    simp only [List.append_assoc, List.cons_append, List.nil_append] at sameLast
    have bottom := arrive_ne_nil ((ended '/' before).foldl arrive []) (unended '/' before)
    have undone := foldl_arrive_undone plain bottom
    simp only [List.foldl_cons, List.foldl_nil] at undone
    rw [walked, walked, ended_directory before after plain, ended_append_cons, sameLast]
    simp only [List.foldl_append, List.foldl_cons, undone]

theorem walked_eq_of_reflTransGen (reaches : ReflTransGen Undoes t u) : walked t = walked u := by
  induction reaches with
  | refl => rfl
  | tail _ undoes inductionHypothesis =>
    exact inductionHypothesis.trans (walked_eq_of_undoes undoes)

/-- No `..` stands behind a name that it undoes.  The segment at the front is never undone. -/
def AllStay (segments : List Text) : Prop :=
  ∀ before below name after, segments = before ++ below :: name :: ['.', '.'] :: after →
    '.' ∈ name ∨ '^' ∈ name

theorem settled_iff_allStay : Settled t ↔ AllStay (ended '/' t) := by
  constructor
  · intro settled before below name after cut
    by_contra taken
    obtain ⟨noDot, noCaret⟩ := not_or.mp taken
    have segment : name ∈ ended '/' t := by simp [cut]
    have noSlash : '/' ∉ name := not_mem_of_mem_ended segment
    have whole : (ended '/' t).flatMap (· ++ ['/']) ++ unended '/' t = t :=
      flatMap_ended_append_unended t
    have undoes := Undoes.directory (before.flatMap (· ++ ['/']) ++ below) name
      (after.flatMap (· ++ ['/']) ++ unended '/' t) ⟨noSlash, noDot, noCaret⟩
    apply settled
    rw [← whole, cut]
    simpa using undoes
  · intro stay u undoes
    cases undoes with
    | directory before name after plain =>
      have named := stay _ _ _ _ (ended_directory before after plain)
      exact named.elim plain.2.1 plain.2.2

theorem AllStay.foldl_arrive (stay : AllStay segments) :
    segments.foldl arrive [] = segments.reverse := by
  -- The induction is on the segment that comes last, which meets all others on the stack.
  induction segments using List.reverseRecOn with
  | nil => rfl
  | append_singleton segments segment inductionHypothesis =>
    have sooner := inductionHypothesis fun before below name after cut =>
      stay before below name (after ++ [segment]) (by simp [cut])
    rw [List.foldl_append, sooner, List.foldl_cons, List.foldl_nil, List.reverse_concat]
    match reversed : segments.reverse with
    | [] | [_] => rfl
    | top :: below :: stack =>
      have cut : segments = stack.reverse ++ [below, top] := by
        rw [← List.reverse_reverse segments, reversed]
        simp
      have notTaken : ¬ (segment = ['.', '.'] ∧ '.' ∉ top ∧ '^' ∉ top) := by
        rintro ⟨rfl, noDot, noCaret⟩
        have named := stay stack.reverse below top [] (by simp [cut])
        exact named.elim noDot noCaret
      rw [arrive, if_neg notTaken]

/-- A pass leaves a path as it is if nothing can be undone in it. -/
theorem walked_of_settled (settled : Settled t) : walked t = t := by
  rw [walked, (settled_iff_allStay.mp settled).foldl_arrive, List.reverse_cons,
    List.reverse_reverse, ended_append_unended, List.intercalate_splitOn]

/-! ## The common end -/

theorem walked_eq_collapseParents (t : Text) : walked t = collapseParents t := by
  rw [walked_eq_of_reflTransGen (reflTransGen_collapseParents t),
    walked_of_settled (settled_collapseParents t)]

/-- Whatever is undone first, the end is the same. -/
theorem eq_collapseParents (reaches : ReflTransGen Undoes t u) (settled : Settled u) :
    u = collapseParents t := by
  rw [← walked_eq_collapseParents, walked_eq_of_reflTransGen reaches, walked_of_settled settled]

/-- Collapsing ends after some passes, with a path in which nothing is left to undo.  Undoing one
directory after the other ends as well, and with the same path in whatever order it is done; so does
one pass over the segments with a stack. -/
theorem collapseParents_is_normal_form (t : Text) :
    (∃ n, collapseParents t = collapseOnce^[n] t ∧
      (∀ k < n, (collapseOnce (collapseOnce^[k] t)).length < (collapseOnce^[k] t).length) ∧
      ¬ (collapseOnce (collapseOnce^[n] t)).length < (collapseOnce^[n] t).length) ∧
    (∀ name, IsPlainName name →
      ¬ '/' :: (name ++ ['/', '.', '.', '/']) <:+: collapseParents t) ∧
    (∀ paths : ℕ → Text, paths 0 = t → ¬ ∀ n, Undoes (paths n) (paths (n + 1))) ∧
    ReflTransGen Undoes t (collapseParents t) ∧
    (∀ u, ReflTransGen Undoes t u → Settled u → u = collapseParents t) ∧
    collapseParents t = walked t := by
  refine ⟨exists_passes t, settled_iff.mp (settled_collapseParents t), ?_,
    reflTransGen_collapseParents t, fun u => eq_collapseParents, (walked_eq_collapseParents t).symm⟩
  exact fun paths _ => not_undoes_forever paths

-- The front has nothing before it, and so it stays.
example : walked "http/../a/b/../../c/..".toList = "http/../c/..".toList := by decide

end DocExcerpt.Link
