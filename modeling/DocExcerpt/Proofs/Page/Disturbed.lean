import DocExcerpt.Proofs.Page.Description

/-!
# Cutting out a section under a disturbance

To cut out a section is to pass its stops one after the other, each up to the first line that it
holds of.  This takes a number of reads that only the lines of the page decide (`reads`): one for
each line, and one more if the end of the page is met before the last stop.

A disturbed reader sees the lines before the first read that is struck, and then the error.  If that
read is among those of the section, the error is what comes out; if not, the section is the one of
the whole page (`excerpt_all_or_nothing`).  The loops are treated alike, because each of them passes
one stop and leaves the rest of the reading to the next (`Passes.bind`).
-/

namespace DocExcerpt.Page

/-! ## The reads of a section -/

/-- What ends the parts of a section, one behind the other. -/
def Section.stops : Section → List (Text → Bool)
  | .classDoc => [hasTag Section.classDoc.startMark, isTag "<DL>".toList, isTag "<HR>".toList,
      isTag "<P>".toList, Text.hasPhrase Section.classDoc.endMark]
  | .member name => [hasTag (Section.member name).startMark,
      Text.hasPhrase (Section.member name).endMark]

/-- The number of reads that it takes to pass the stops: one for each line up to the last stop, and
one that finds the end of the page if it comes before. -/
def reads : List (Text → Bool) → List Text → Nat
  | [], _ => 0
  | _ :: _, [] => 1
  | stop :: stops, line :: lines => reads (if stop line then stops else stop :: stops) lines + 1

theorem reads_nil (lines : List Text) : reads [] lines = 0 := by
  cases lines <;> rfl

theorem reads_of_stops {stop : Text → Bool} {line : Text} (stops : stop line = true)
    (more : List (Text → Bool)) (lines : List Text) :
    reads (stop :: more) (line :: lines) = reads more lines + 1 := by
  rw [reads, if_pos stops]

theorem reads_of_not_stops {stop : Text → Bool} {line : Text} (passes : ¬ stop line = true)
    (more : List (Text → Bool)) (lines : List Text) :
    reads (stop :: more) (line :: lines) = reads (stop :: more) lines + 1 := by
  rw [reads, if_neg passes]

theorem reads_of_dropWhile_eq_nil {stop : Text → Bool} {lines : List Text}
    (missing : lines.dropWhile (!stop ·) = []) (more : List (Text → Bool)) :
    reads (stop :: more) lines = reads [stop] lines := by
  induction lines with
  | nil => rfl
  | cons line lines inductionHypothesis =>
    by_cases stops : stop line = true
    · simp [stops] at missing
    · rw [reads_of_not_stops stops, reads_of_not_stops stops]
      simp only [stops, Bool.not_false, List.dropWhile_cons_of_pos] at missing
      rw [inductionHypothesis missing]

/-! ## Readings that are cut off -/

/-- What is left after a number of reads.  The end of a page may be read more than once. -/
def Reading.after : Nat → Reading → Except FetchError Reading
  | 0, reading => .ok reading
  | n + 1, ⟨_ :: lines, error⟩ => Reading.after n ⟨lines, error⟩
  | _ + 1, ⟨[], some error⟩ => .error error
  | _ + 1, ⟨[], none⟩ => .ok ⟨[], none⟩

theorem Reading.after_whole (n : Nat) (lines : List Text) :
    Reading.after n ⟨lines, none⟩ = .ok ⟨lines.drop n, none⟩ := by
  induction n generalizing lines with
  | zero => rfl
  | succ n inductionHypothesis =>
    cases lines with
    | nil => rfl
    | cons line lines => exact inductionHypothesis lines

/-- Whether a reader sees a page with the given lines, all of it or up to an error. -/
structure Reading.Sees (reading : Reading) (lines : List Text) : Prop where
  seen : reading.lines <+: lines
  whole : reading.error = none → reading.lines = lines

/-- What a reader does on a page with the given lines: it passes the stops, answers `a`, and leaves
the lines `rest`.  If the page is cut off before, it meets the error that the reads meet. -/
def Passes {α : Type} (reader : Reader α) (stops : List (Text → Bool)) (lines : List Text) (a : α)
    (rest : List Text) : Prop :=
  ∀ reading : Reading, reading.Sees lines →
    (∃ left, reader reading = .ok (a, left) ∧ left.Sees rest ∧
      ∀ more, reading.after (reads (stops ++ more) lines) = left.after (reads more rest)) ∨
    (∃ error, reader reading = .error error ∧
      ∀ more, reading.after (reads (stops ++ more) lines) = .error error)

variable {α β : Type} {lines : List Text}

theorem passes_pure (a : α) (lines : List Text) : Passes (pure a) [] lines a lines :=
  fun reading sees => .inl ⟨reading, rfl, sees, fun _ => rfl⟩

theorem bind_eq_of_eq_error {reader : Reader α} {next : α → Reader β} {reading : Reading}
    {error : FetchError} (fails : reader reading = .error error) :
    (reader >>= next) reading = .error error := by
  change (reader reading >>= fun read => next read.1 read.2) = _
  rw [fails]
  rfl

theorem Passes.bind {reader : Reader α} {next : α → Reader β} {stops later : List (Text → Bool)}
    {rest last : List Text} {a : α} {b : β} (first : Passes reader stops lines a rest)
    (second : Passes (next a) later rest b last) :
    Passes (reader >>= next) (stops ++ later) lines b last := by
  intro reading sees
  rcases first reading sees with ⟨left, reads, seesRest, same⟩ | ⟨error, fails, met⟩
  · rw [bind_eq_of_eq_ok reads]
    simp only [List.append_assoc, same]
    exact second left seesRest
  · refine .inr ⟨error, bind_eq_of_eq_error fails, fun more => ?_⟩
    rw [List.append_assoc]
    exact met (later ++ more)

theorem passes_linesUntil (stop : Text → Bool) (lines : List Text) :
    Passes (linesUntil stop) [stop] lines
      (lines.takeWhile (!stop ·), (lines.dropWhile (!stop ·)).head?)
      (lines.dropWhile (!stop ·)).tail := by
  -- The loop goes over the lines that are seen, so the induction is on the lines of the page.
  induction lines with
  | nil =>
    rintro ⟨seen, error⟩ ⟨isPrefix, -⟩
    obtain rfl : seen = [] := List.prefix_nil.mp isPrefix
    cases error with
    | some error => exact .inr ⟨error, rfl, fun _ => rfl⟩
    | none =>
      refine .inl ⟨⟨[], none⟩, rfl, ⟨List.nil_prefix, fun _ => rfl⟩, fun more => ?_⟩
      rw [Reading.after_whole, Reading.after_whole, List.drop_nil, List.dropWhile_nil,
        List.tail_nil, List.drop_nil]
  | cons line lines inductionHypothesis =>
    rintro ⟨seen, error⟩ ⟨isPrefix, whole⟩
    cases seen with
    | nil =>
      cases error with
      | none => cases whole rfl
      | some error =>
        refine .inr ⟨error, rfl, fun more => ?_⟩
        by_cases stops : stop line = true
        · rw [List.singleton_append, reads_of_stops stops]
          rfl
        · rw [List.singleton_append, reads_of_not_stops stops]
          rfl
    | cons first seen =>
      obtain ⟨rfl, seenBehind⟩ := List.cons_prefix_cons.mp isPrefix
      have sees : Reading.Sees ⟨seen, error⟩ lines :=
        ⟨seenBehind, fun complete => (List.cons.inj (whole complete)).2⟩
      by_cases stops : stop first = true
      · refine .inl ⟨⟨seen, error⟩, ?_, ?_, fun more => ?_⟩
        · simp [linesUntil, linesUntil.go, stops]
        · simpa [stops] using sees
        · rw [List.singleton_append, reads_of_stops stops]
          simp only [stops, Bool.not_true, Bool.false_eq_true, not_false_eq_true,
            List.dropWhile_cons_of_neg, List.tail_cons]
          rfl
      · rcases inductionHypothesis ⟨seen, error⟩ sees with
          ⟨left, reads, seesRest, same⟩ | ⟨met, fails, same⟩
        · refine .inl ⟨left, ?_, ?_, fun more => ?_⟩
          · simp only [linesUntil] at reads
            simp [linesUntil, linesUntil.go, stops, reads]
          · simpa [stops] using seesRest
          · rw [List.singleton_append, reads_of_not_stops stops]
            simp only [stops, Bool.not_false, List.dropWhile_cons_of_pos]
            exact same more
        · refine .inr ⟨met, ?_, fun more => ?_⟩
          · simp only [linesUntil] at fails
            simp [linesUntil, linesUntil.go, stops, fails]
          · rw [List.singleton_append, reads_of_not_stops stops]
            exact same more

/-! ## The reads of the extraction -/

theorem passes_classSummary (lines : List Text) :
    ∃ summary rest, Passes classSummary
      [isTag "<DL>".toList, isTag "<HR>".toList, isTag "<P>".toList] lines summary rest := by
  have title := passes_linesUntil (isTag "<DL>".toList) lines
  have details := passes_linesUntil (isTag "<HR>".toList)
    (lines.dropWhile (!isTag "<DL>".toList ·)).tail
  have definitions := passes_linesUntil (isTag "<P>".toList)
    ((lines.dropWhile (!isTag "<DL>".toList ·)).tail.dropWhile (!isTag "<HR>".toList ·)).tail
  exact ⟨_, _, title.bind (details.bind (definitions.bind (passes_pure _ _)))⟩

/-- The extraction of a section passes its stops, if the first of them is on the page. -/
theorem exists_passes_excerpt (part : Section) (lines : List Text) :
    ∃ text rest, (Passes (excerpt part) part.stops lines text rest ∨
      Passes (excerpt part) [hasTag part.startMark] lines text rest ∧
        lines.dropWhile (!hasTag part.startMark ·) = []) := by
  have start := passes_linesUntil (hasTag part.startMark) lines
  cases found : lines.dropWhile (!hasTag part.startMark ·) with
  | nil =>
    rw [found] at start
    exact ⟨[], [], .inr ⟨start.bind (passes_pure [] []), rfl⟩⟩
  | cons first behind =>
    rw [found] at start
    cases part with
    | classDoc =>
      obtain ⟨summary, rest, passes⟩ := passes_classSummary behind
      have body := passes_linesUntil (Text.hasPhrase Section.classDoc.endMark) rest
      exact ⟨_, _, .inl (start.bind (passes.bind (body.bind (passes_pure _ _))))⟩
    | member name =>
      have body := passes_linesUntil (Text.hasPhrase (Section.member name).endMark) behind
      exact ⟨_, _, .inl (start.bind ((passes_pure [] behind).bind (body.bind (passes_pure _ _))))⟩

theorem Passes.eq_after {reader : Reader α} {stops : List (Text → Bool)} {a : α} {rest : List Text}
    (passes : Passes reader stops lines a rest) {reading : Reading} (sees : reading.Sees lines) :
    reader reading = (reading.after (reads stops lines)).map fun left => (a, left) := by
  rcases passes reading sees with ⟨left, answers, -, same⟩ | ⟨error, fails, met⟩
  · have whole := same []
    rw [List.append_nil, reads_nil] at whole
    rw [answers, whole]
    rfl
  · have met := met []
    rw [List.append_nil] at met
    rw [fails, met]
    rfl

/-- Every reader of a page either meets an error in one of the reads of the section, or has the text
that all readers of the page have. -/
theorem excerpt_eq_after (part : Section) (lines : List Text) :
    ∃ text, ∀ reading : Reading, reading.Sees lines →
      excerpt part reading =
        (reading.after (reads part.stops lines)).map fun left => (text, left) := by
  obtain ⟨text, rest, passes | ⟨passes, missing⟩⟩ := exists_passes_excerpt part lines
  · exact ⟨text, fun reading sees => passes.eq_after sees⟩
  · refine ⟨text, fun reading sees => ?_⟩
    have same : reads part.stops lines = reads [hasTag part.startMark] lines := by
      cases part <;> exact reads_of_dropWhile_eq_nil missing _
    rw [same]
    exact passes.eq_after sees

/-! ## Reads that are struck -/

def feedsBefore (lines : List RawLine) (k : Nat) : Nat := (lines.take k).countP (·.ended)

def bytesBefore (lines : List RawLine) (k : Nat) : Nat := ((lines.take k).map RawLine.size).sum

/-- The number of bytes that a read looks at: those of a line with its line feed, or up to the end of
the page, which counts as one. -/
def bytesRead (lines : List RawLine) (k : Nat) : Nat :=
  ((lines[k]?).map fun line => line.content.length).getD 0 + 1

namespace Disturbance

/-- Whether a read meets an error.  A cancellation is looked for first. -/
inductive Strikes (d : Disturbance) (lines : List RawLine) (k : Nat) : FetchError → Prop
  /-- The fetch is cancelled before the read starts. -/
  | cancels {n : Nat} (cancelled : d.cancelledAfter = some n) (past : n ≤ feedsBefore lines k) :
      Strikes d lines k .cancelled
  /-- The source fails at one of the bytes that the read looks at. -/
  | fails {limit : Nat} {fault : FileFault} (failing : d.failsAfter = some (limit, fault))
      (met : limit < bytesBefore lines k + bytesRead lines k)
      (uncancelled : ∀ n, d.cancelledAfter = some n → feedsBefore lines k < n) :
      Strikes d lines k (.read fault)

def Spares (d : Disturbance) (lines : List RawLine) (k : Nat) : Prop :=
  ∀ error, ¬ d.Strikes lines k error

variable {d : Disturbance} {lines : List RawLine} {line : RawLine} {k : Nat} {error : FetchError}

theorem error?_of_strikes (strikes : d.Strikes lines 0 error) :
    d.error? (bytesRead lines 0) = some error := by
  cases strikes with
  | cancels cancelled past =>
    obtain rfl : _ = 0 := Nat.le_zero.mp past
    rw [error?, if_pos cancelled]
  | @fails limit fault failing met uncancelled =>
    have fresh : d.cancelledAfter ≠ some 0 := fun cancelled =>
      Nat.lt_irrefl 0 (uncancelled 0 cancelled)
    have reached : limit < bytesRead lines 0 := by
      simpa [bytesBefore] using met
    rw [error?, if_neg fresh, failing]
    simp only [if_pos reached]

theorem error?_of_spares (spares : d.Spares lines 0) :
    d.error? (bytesRead lines 0) = Option.none := by
  have fresh : d.cancelledAfter ≠ some 0 := fun cancelled =>
    spares _ (.cancels cancelled (Nat.zero_le _))
  rw [error?, if_neg fresh]
  cases failing : d.failsAfter with
  | none => rfl
  | some failure =>
    obtain ⟨limit, fault⟩ := failure
    have unmet : ¬ limit < bytesRead lines 0 := by
      intro reached
      refine spares _ (.fails failing ?_ fun n cancelled => ?_)
      · simpa [bytesBefore] using reached
      · exact Nat.pos_of_ne_zero fun isZero => fresh (isZero ▸ cancelled)
    simp only [if_neg unmet]

theorem feeds_left_le_iff {n : Nat} :
    (if line.ended then n - 1 else n) ≤ feedsBefore lines k ↔
      n ≤ feedsBefore (line :: lines) (k + 1) := by
  have feeds : feedsBefore (line :: lines) (k + 1) =
      feedsBefore lines k + if line.ended then 1 else 0 := by
    simp [feedsBefore, List.countP_cons]
  rw [feeds]
  split <;> omega

theorem bytes_left_lt_iff {limit : Nat} :
    limit - line.size < bytesBefore lines k + bytesRead lines k ↔
      limit < bytesBefore (line :: lines) (k + 1) + bytesRead (line :: lines) (k + 1) := by
  have bytes : bytesBefore (line :: lines) (k + 1) = line.size + bytesBefore lines k := by
    simp [bytesBefore]
  have same : bytesRead (line :: lines) (k + 1) = bytesRead lines k := rfl
  have some : 0 < bytesRead lines k := Nat.succ_pos _
  omega

theorem strikes_after_iff :
    (d.after line).Strikes lines k error ↔ d.Strikes (line :: lines) (k + 1) error := by
  constructor
  · intro strikes
    cases strikes with
    | cancels cancelled past =>
      obtain ⟨n, before, rfl⟩ := Option.map_eq_some_iff.mp cancelled
      exact .cancels before (feeds_left_le_iff.mp past)
    | fails failing met uncancelled =>
      obtain ⟨⟨limit, fault⟩, before, same⟩ := Option.map_eq_some_iff.mp failing
      obtain ⟨rfl, rfl⟩ := Prod.mk.inj same
      refine .fails before (bytes_left_lt_iff.mp met) fun n cancelled => ?_
      have later := uncancelled _ (congrArg (Option.map _) cancelled)
      exact Nat.lt_of_not_le fun past => Nat.not_le_of_lt later (feeds_left_le_iff.mpr past)
  · intro strikes
    cases strikes with
    | cancels cancelled past =>
      exact .cancels (congrArg (Option.map _) cancelled) (feeds_left_le_iff.mpr past)
    | fails failing met uncancelled =>
      refine .fails (congrArg (Option.map _) failing) (bytes_left_lt_iff.mpr met)
        fun n cancelled => ?_
      obtain ⟨n, before, rfl⟩ := Option.map_eq_some_iff.mp cancelled
      have later := uncancelled n before
      exact Nat.lt_of_not_le fun past => Nat.not_le_of_lt later (feeds_left_le_iff.mp past)

theorem Strikes.of_end (strikes : d.Strikes [] k error) : d.Strikes [] 0 error := by
  have feeds : feedsBefore [] k = feedsBefore [] 0 := by simp [feedsBefore]
  have bytes : bytesBefore [] k + bytesRead [] k = bytesBefore [] 0 + bytesRead [] 0 := by
    simp [bytesBefore, bytesRead]
  cases strikes with
  | cancels cancelled past => exact .cancels cancelled (feeds ▸ past)
  | fails failing met uncancelled => exact .fails failing (bytes ▸ met) (feeds ▸ uncancelled)

theorem spares_or_strikes_first (d : Disturbance) (lines : List RawLine) (n : Nat) :
    (∀ k < n, d.Spares lines k) ∨
      ∃ k < n, ∃ error, d.Strikes lines k error ∧ ∀ j < k, d.Spares lines j := by
  induction n with
  | zero => exact .inl nofun
  | succ n inductionHypothesis =>
    rcases inductionHypothesis with spares | ⟨k, bound, first⟩
    · by_cases struck : ∃ error, d.Strikes lines n error
      · obtain ⟨error, strikes⟩ := struck
        exact .inr ⟨n, n.lt_succ_self, error, strikes, spares⟩
      · refine .inl fun k bound => ?_
        rcases Nat.lt_succ_iff_lt_or_eq.mp bound with before | rfl
        · exact spares k before
        · exact not_exists.mp struck
    · exact .inr ⟨k, bound.trans n.lt_succ_self, first⟩

end Disturbance

variable {d : Disturbance} {raw : List RawLine} {n : Nat}

theorem Reading.sees_ofLines (d : Disturbance) (raw : List RawLine) :
    (Reading.ofLines d raw).Sees (raw.map RawLine.text) := by
  induction raw generalizing d with
  | nil => exact ⟨List.nil_prefix, fun _ => rfl⟩
  | cons line raw inductionHypothesis =>
    obtain ⟨seen, whole⟩ := inductionHypothesis (d.after line)
    rw [Reading.ofLines]
    cases d.error? (line.content.length + 1) with
    | some error =>
      exact ⟨List.nil_prefix, fun complete => absurd complete (Option.some_ne_none error)⟩
    | none =>
      refine ⟨(List.prefix_cons_inj _).mpr seen, fun complete => ?_⟩
      exact congrArg (line.text :: ·) (whole complete)

theorem Reading.after_ofLines_of_spares (spares : ∀ k < n, d.Spares raw k) :
    ∃ left, (Reading.ofLines d raw).after n = .ok left := by
  induction raw generalizing d n with
  | nil =>
    cases n with
    | zero => exact ⟨_, rfl⟩
    | succ n =>
      have clear : d.error? 1 = none := Disturbance.error?_of_spares (spares 0 n.succ_pos)
      rw [Reading.ofLines, clear]
      exact ⟨_, rfl⟩
  | cons line raw inductionHypothesis =>
    cases n with
    | zero => exact ⟨_, rfl⟩
    | succ n =>
      have clear : d.error? (line.content.length + 1) = none :=
        Disturbance.error?_of_spares (spares 0 n.succ_pos)
      rw [Reading.ofLines, clear]
      apply inductionHypothesis
      intro k bound error strikes
      exact spares (k + 1) (Nat.succ_lt_succ bound) error (Disturbance.strikes_after_iff.mp strikes)

theorem Reading.after_ofLines_of_strikes {k : Nat} {error : FetchError} (bound : k < n)
    (strikes : d.Strikes raw k error) (first : ∀ j < k, d.Spares raw j) :
    (Reading.ofLines d raw).after n = .error error := by
  induction raw generalizing d n k with
  | nil =>
    obtain ⟨n, rfl⟩ := Nat.exists_eq_succ_of_ne_zero (Nat.ne_zero_of_lt bound)
    have met : d.error? 1 = some error := Disturbance.error?_of_strikes strikes.of_end
    rw [Reading.ofLines, met]
    rfl
  | cons line raw inductionHypothesis =>
    obtain ⟨n, rfl⟩ := Nat.exists_eq_succ_of_ne_zero (Nat.ne_zero_of_lt bound)
    rw [Reading.ofLines]
    cases k with
    | zero =>
      have met : d.error? (line.content.length + 1) = some error :=
        Disturbance.error?_of_strikes strikes
      rw [met]
      rfl
    | succ k =>
      have clear : d.error? (line.content.length + 1) = none :=
        Disturbance.error?_of_spares (first 0 k.succ_pos)
      rw [clear]
      refine inductionHypothesis (Nat.lt_of_succ_lt_succ bound)
        (Disturbance.strikes_after_iff.mpr strikes) fun j before other earlier => ?_
      exact first (j + 1) (Nat.succ_lt_succ before) other
        (Disturbance.strikes_after_iff.mp earlier)

/-! ## All or nothing -/

/-- The number of reads that it takes to cut a section out of a page. -/
def Section.reads (part : Section) (page : Bytes) : Nat :=
  Page.reads part.stops ((RawLine.ofBytes page).map RawLine.text)

/-- A disturbed reader has the section of the whole page, or an error that strikes one of the reads
of the section, and no part of it.  It has the section exactly if none of these reads is struck, and
else the error of the first one that is. -/
theorem excerpt_all_or_nothing (d : Disturbance) (page : Bytes) (part : Section) :
    ∃ text, (Reading.ofBytes .none page).excerpt part = .ok text ∧
      Page.excerpt part (Reading.ofBytes .none page) = .ok (text,
        ⟨((RawLine.ofBytes page).map RawLine.text).drop (part.reads page), none⟩) ∧
      ((Reading.ofBytes d page).excerpt part = .ok text ∨
        ∃ k < part.reads page, ∃ error, d.Strikes (RawLine.ofBytes page) k error ∧
          (Reading.ofBytes d page).excerpt part = .error error) ∧
      ((Reading.ofBytes d page).excerpt part = .ok text ↔
        ∀ k < part.reads page, d.Spares (RawLine.ofBytes page) k) ∧
      (∀ k < part.reads page, ∀ error, d.Strikes (RawLine.ofBytes page) k error →
        (∀ j < k, d.Spares (RawLine.ofBytes page) j) →
        (Reading.ofBytes d page).excerpt part = .error error) := by
  obtain ⟨text, cutOut⟩ := excerpt_eq_after part ((RawLine.ofBytes page).map RawLine.text)
  have whole : Page.excerpt part (Reading.ofBytes .none page) = .ok (text,
      ⟨((RawLine.ofBytes page).map RawLine.text).drop (part.reads page), none⟩) := by
    rw [Reading.ofBytes_none, cutOut _ ⟨List.prefix_rfl, fun _ => rfl⟩, Reading.after_whole]
    rfl
  have disturbed : (Reading.ofBytes d page).excerpt part =
      ((Reading.ofBytes d page).after (part.reads page)).map fun _ => text := by
    have sees : (Reading.ofBytes d page).Sees ((RawLine.ofBytes page).map RawLine.text) :=
      Reading.sees_ofLines d _
    rw [Reading.excerpt, cutOut _ sees, ← Section.reads]
    cases (Reading.ofBytes d page).after (part.reads page) <;> rfl
  have spared : (∀ k < part.reads page, d.Spares (RawLine.ofBytes page) k) →
      (Reading.ofBytes d page).excerpt part = .ok text := by
    intro spares
    obtain ⟨left, read⟩ := Reading.after_ofLines_of_spares spares
    rw [disturbed, Reading.ofBytes, read]
    rfl
  have struck : ∀ k < part.reads page, ∀ error, d.Strikes (RawLine.ofBytes page) k error →
      (∀ j < k, d.Spares (RawLine.ofBytes page) j) →
      (Reading.ofBytes d page).excerpt part = .error error := by
    intro k bound error strikes first
    rw [disturbed, Reading.ofBytes, Reading.after_ofLines_of_strikes bound strikes first]
    rfl
  refine ⟨text, by rw [Reading.excerpt, whole]; rfl, whole, ?_, ⟨?_, spared⟩, struck⟩ <;>
    rcases d.spares_or_strikes_first (RawLine.ofBytes page) (part.reads page) with
      spares | ⟨k, bound, error, strikes, first⟩
  · exact .inl (spared spares)
  · exact .inr ⟨k, bound, error, strikes, struck k bound error strikes first⟩
  · exact fun _ => spares
  · intro complete
    rw [struck k bound error strikes first] at complete
    cases complete

end DocExcerpt.Page
