import DocExcerpt.Text.Utf8
import Mathlib

/-!
# Decoding whole or piece by piece

A byte of ASCII brings the decoder back to rest whatever was left unfinished before it
(`step_of_ascii`), and it is the only byte that yields its character (`mem_of_mem_decode`).  So
bytes may be cut behind each line feed before they are decoded or after (`decode_append_ascii`),
malformed or not.

What the decoder makes of an encoded text is that text (`decode_encode`, `decode?_encode`).
-/

namespace DocExcerpt.Utf8

/-! ## One byte inside a character -/

section Inside

variable {owed : Nat} {next : Tail} {bits : Nat} {b : UInt8}

theorem step_last (within : next.low ≤ b ∧ b ≤ next.high) :
    step (.inside 0 next bits) b = ([some (Char.ofNat (bits * 64 + (b.toNat - 0x80)))], .rest) :=
  if_pos within

theorem step_more (within : next.low ≤ b ∧ b ≤ next.high) :
    step (.inside (owed + 1) next bits) b =
      ([], .inside owed .any (bits * 64 + (b.toNat - 0x80))) :=
  if_pos within

theorem step_malformed (outside : ¬ (next.low ≤ b ∧ b ≤ next.high)) :
    step (.inside owed next bits) b = (none :: (start b).1, (start b).2) :=
  if_neg outside

end Inside

/-! ## Bytes of ASCII -/

/-- A byte of ASCII ends what was left unfinished and stands for its own character. -/
theorem step_of_ascii (q : State) {b : UInt8} (ascii : b < 0x80) :
    step q b = (finish q ++ [some (Char.ofNat b.toNat)], .rest) := by
  have alone : start b = ([some (Char.ofNat b.toNat)], .rest) := if_pos ascii
  cases q with
  | rest => exact alone
  | inside owed next bits =>
    have outside : ¬ (next.low ≤ b ∧ b ≤ next.high) := by
      rintro ⟨above, _⟩
      have least : (0x80 : UInt8) ≤ next.low := by cases next <;> decide
      simp only [UInt8.le_iff_toNat_le, UInt8.lt_iff_toNat_lt] at ascii above least
      omega
    rw [step_malformed outside, alone]
    rfl

theorem outputFrom_append_ascii (q : State) (before : Bytes) {b : UInt8} (ascii : b < 0x80)
    (after : Bytes) :
    outputFrom q (before ++ b :: after) =
      outputFrom q before ++ some (Char.ofNat b.toNat) :: outputFrom .rest after := by
  induction before generalizing q with
  | nil => simp [outputFrom, step_of_ascii q ascii]
  | cons first before inductionHypothesis => simp [outputFrom, inductionHypothesis]

theorem decode_append_ascii (before : Bytes) {b : UInt8} (ascii : b < 0x80) (after : Bytes) :
    decode (before ++ b :: after) = decode before ++ Char.ofNat b.toNat :: decode after := by
  simp [decode, outputFrom_append_ascii .rest before ascii]

/-! ## Characters of ASCII -/

/-- A number of a character beyond ASCII. -/
def IsWide (n : Nat) : Prop := 0x80 ≤ n ∧ n.isValidChar

/-- Bytes in their ranges can complete only a character beyond ASCII. -/
def CompletesWide : Nat → Tail → Nat → Prop
  | 0, next, bits =>
    ∀ b, next.low ≤ b → b ≤ next.high → IsWide (bits * 64 + (b.toNat - 0x80))
  | owed + 1, next, bits =>
    ∀ b, next.low ≤ b → b ≤ next.high → CompletesWide owed .any (bits * 64 + (b.toNat - 0x80))

/-- A state from which no character of ASCII is completed. -/
def State.Sound : State → Prop
  | .rest => True
  | .inside owed next bits => CompletesWide owed next bits

theorem sound_start (b : UInt8) : (start b).2.Sound := by
  unfold start
  split_ifs <;>
    simp only [State.Sound, CompletesWide, IsWide, Nat.isValidChar, Tail.low, Tail.high,
      UInt8.le_iff_toNat_le, UInt8.lt_iff_toNat_lt, UInt8.reduceToNat, ← UInt8.toNat_inj] at *
  all_goals
    intros
    omega

theorem State.Sound.step {q : State} (sound : q.Sound) (b : UInt8) : (step q b).2.Sound := by
  cases q with
  | rest => exact sound_start b
  | inside owed next bits =>
    by_cases within : next.low ≤ b ∧ b ≤ next.high
    · cases owed with
      | zero =>
        rw [step_last within]
        trivial
      | succ owed =>
        rw [step_more within]
        exact sound b within.1 within.2
    · rw [step_malformed within]
      exact sound_start b

theorem toNat_ofNat {n : Nat} (valid : n.isValidChar) : (Char.ofNat n).toNat = n := by
  unfold Char.ofNat
  rw [dif_pos valid]
  rfl

theorem eq_of_mem_start {b : UInt8} {c : Char} (ascii : c.toNat < 0x80)
    (yields : some c ∈ (start b).1) : UInt8.ofNat c.toNat = b := by
  unfold start at yields
  split_ifs at yields
  case pos =>
    obtain rfl : c = Char.ofNat b.toNat := by simpa using yields
    have valid : b.toNat.isValidChar := .inl (Nat.lt_trans b.toNat_lt (by decide))
    rw [toNat_ofNat valid, UInt8.ofNat_toNat]
  all_goals simp at yields

theorem eq_of_mem_step {q : State} (sound : q.Sound) {b : UInt8} {c : Char}
    (ascii : c.toNat < 0x80) (yields : some c ∈ (step q b).1) : UInt8.ofNat c.toNat = b := by
  cases q with
  | rest => exact eq_of_mem_start ascii yields
  | inside owed next bits =>
    by_cases within : next.low ≤ b ∧ b ≤ next.high
    · cases owed with
      | zero =>
        obtain ⟨beyond, valid⟩ := sound b within.1 within.2
        rw [step_last within] at yields
        rw [Option.some.inj (List.mem_singleton.1 yields), toNat_ofNat valid] at ascii
        omega
      | succ owed =>
        rw [step_more within] at yields
        cases yields
    · rw [step_malformed within] at yields
      rcases List.mem_cons.1 yields with malformed | yields
      · cases malformed
      · exact eq_of_mem_start ascii yields

theorem mem_of_mem_outputFrom {q : State} (sound : q.Sound) {bytes : Bytes} {c : Char}
    (ascii : c.toNat < 0x80) (yields : some c ∈ outputFrom q bytes) :
    UInt8.ofNat c.toNat ∈ bytes := by
  induction bytes generalizing q with
  | nil => cases q <;> simp [outputFrom, finish] at yields
  | cons b bytes inductionHypothesis =>
    rcases List.mem_append.1 yields with now | later
    · rw [eq_of_mem_step sound ascii now]
      exact List.mem_cons_self
    · exact List.mem_cons_of_mem _ (inductionHypothesis (State.Sound.step sound b) later)

theorem mem_of_mem_decode {bytes : Bytes} {c : Char} (ascii : c.toNat < 0x80)
    (member : c ∈ decode bytes) : UInt8.ofNat c.toNat ∈ bytes := by
  obtain ⟨output, yields, rfl⟩ := List.mem_map.1 member
  cases output with
  | none => exact absurd ascii (by decide)
  | some c => exact mem_of_mem_outputFrom (q := .rest) trivial ascii yields

/-! ## Empty texts -/

theorem start_yields (b : UInt8) :
    (start b).1 ≠ [] ∨ ∃ owed next bits, (start b).2 = .inside owed next bits := by
  unfold start
  split_ifs <;> simp

/-- Inside a character something is still to come, if only a malformed stretch. -/
theorem outputFrom_inside_ne_nil (owed : Nat) (next : Tail) (bits : Nat) (bytes : Bytes) :
    outputFrom (.inside owed next bits) bytes ≠ [] := by
  induction bytes generalizing owed next bits with
  | nil => exact List.cons_ne_nil _ _
  | cons b bytes inductionHypothesis =>
    rw [outputFrom]
    by_cases within : next.low ≤ b ∧ b ≤ next.high
    · cases owed with
      | zero => simp [step_last within]
      | succ owed =>
        rw [step_more within]
        exact inductionHypothesis owed .any _
    · simp [step_malformed within]

theorem decode_eq_nil_iff {bytes : Bytes} : decode bytes = [] ↔ bytes = [] := by
  constructor
  · intro empty
    cases bytes with
    | nil => rfl
    | cons b bytes =>
      have nothing : (start b).1 ++ outputFrom (start b).2 bytes = [] := List.map_eq_nil_iff.1 empty
      obtain ⟨notNow, notLater⟩ := List.append_eq_nil_iff.1 nothing
      rcases start_yields b with now | later
      · exact absurd notNow now
      · obtain ⟨owed, next, bits, inside⟩ := later
        rw [inside] at notLater
        exact absurd notLater (outputFrom_inside_ne_nil owed next bits bytes)
  · rintro rfl
    rfl

/-! ## What was encoded -/

def secondOfThree (lead : Nat) : Tail :=
  if lead = 0 then .notOverlongThree else if lead = 0xD then .notSurrogate else .any

def secondOfFour (lead : Nat) : Tail :=
  if lead = 0 then .notOverlongFour else if lead = 4 then .notBeyond else .any

theorem start_two : ∀ lead < 0x20, 2 ≤ lead →
    start (UInt8.ofNat (lead + 0xC0)) = ([], .inside 0 .any lead) := by decide

theorem start_three : ∀ lead < 0x10,
    start (UInt8.ofNat (lead + 0xE0)) = ([], .inside 1 (secondOfThree lead) lead) := by decide

theorem start_four : ∀ lead < 5,
    start (UInt8.ofNat (lead + 0xF0)) = ([], .inside 2 (secondOfFour lead) lead) := by decide

def tailByte (bits : Nat) : UInt8 := UInt8.ofNat (bits + 0x80)

section Tails

variable {bits tail : Nat} (small : tail < 64)

include small

theorem toNat_tailByte : (tailByte tail).toNat = tail + 0x80 := by
  rw [tailByte, UInt8.toNat_ofNat']
  omega

theorem tailByte_within {next : Tail} (above : next.low.toNat ≤ tail + 0x80)
    (below : tail + 0x80 ≤ next.high.toNat) :
    next.low ≤ tailByte tail ∧ tailByte tail ≤ next.high := by
  rw [UInt8.le_iff_toNat_le, UInt8.le_iff_toNat_le, toNat_tailByte small]
  exact ⟨above, below⟩

theorem outputFrom_last {next : Tail} (above : next.low.toNat ≤ tail + 0x80)
    (below : tail + 0x80 ≤ next.high.toNat) (after : Bytes) :
    outputFrom (.inside 0 next bits) (tailByte tail :: after) =
      some (Char.ofNat (bits * 64 + tail)) :: outputFrom .rest after := by
  rw [outputFrom, step_last (tailByte_within small above below), toNat_tailByte small,
    Nat.add_sub_cancel]
  rfl

theorem outputFrom_more {next : Tail} {owed : Nat} (above : next.low.toNat ≤ tail + 0x80)
    (below : tail + 0x80 ≤ next.high.toNat) (after : Bytes) :
    outputFrom (.inside (owed + 1) next bits) (tailByte tail :: after) =
      outputFrom (.inside owed .any (bits * 64 + tail)) after := by
  rw [outputFrom, step_more (tailByte_within small above below), toNat_tailByte small,
    Nat.add_sub_cancel]
  rfl

theorem any_within : Tail.any.low.toNat ≤ tail + 0x80 ∧ tail + 0x80 ≤ Tail.any.high.toNat := by
  change 0x80 ≤ _ ∧ _ ≤ 0xBF
  omega

end Tails

section Lengths

variable {v : Nat} (after : Bytes)

theorem six_bits (n : Nat) : n % 64 < 64 := Nat.mod_lt n (by decide)

theorem outputFrom_one (small : v ≤ 0x7F) :
    outputFrom .rest (UInt8.ofNat v :: after) =
      some (Char.ofNat v) :: outputFrom .rest after := by
  have number : (UInt8.ofNat v).toNat = v := by
    rw [UInt8.toNat_ofNat']
    omega
  have ascii : UInt8.ofNat v < 0x80 := by
    rw [UInt8.lt_iff_toNat_lt, number]
    exact Nat.lt_succ_of_le small
  rw [outputFrom, step_of_ascii .rest ascii, number]
  rfl

theorem outputFrom_two (large : 0x7F < v) (small : v ≤ 0x7FF) :
    outputFrom .rest (UInt8.ofNat (v / 64 % 0x20 + 0xC0) :: tailByte (v % 64) :: after) =
      some (Char.ofNat v) :: outputFrom .rest after := by
  have whole : v / 64 % 0x20 * 64 + v % 64 = v := by omega
  have last := any_within (six_bits v)
  rw [outputFrom, step, start_two _ (by omega) (by omega), List.nil_append,
    outputFrom_last (six_bits v) last.1 last.2, whole]

theorem outputFrom_three (large : 0x7FF < v) (small : v ≤ 0xFFFF)
    (valid : v < 0xD800 ∨ 0xDFFF < v) :
    outputFrom .rest (UInt8.ofNat (v / 4096 % 0x10 + 0xE0) ::
        tailByte (v / 64 % 64) :: tailByte (v % 64) :: after) =
      some (Char.ofNat v) :: outputFrom .rest after := by
  have whole : (v / 4096 % 0x10 * 64 + v / 64 % 64) * 64 + v % 64 = v := by omega
  have second : (secondOfThree (v / 4096 % 0x10)).low.toNat ≤ v / 64 % 64 + 0x80 ∧
      v / 64 % 64 + 0x80 ≤ (secondOfThree (v / 4096 % 0x10)).high.toNat := by
    unfold secondOfThree
    split_ifs <;> simp only [Tail.low, Tail.high, UInt8.reduceToNat] <;> omega
  have last := any_within (six_bits v)
  rw [outputFrom, step, start_three _ (by omega), List.nil_append,
    outputFrom_more (six_bits _) second.1 second.2,
    outputFrom_last (six_bits v) last.1 last.2, whole]

theorem outputFrom_four (large : 0xFFFF < v) (small : v < 0x110000) :
    outputFrom .rest (UInt8.ofNat (v / 262144 % 0x08 + 0xF0) ::
        tailByte (v / 4096 % 64) :: tailByte (v / 64 % 64) :: tailByte (v % 64) :: after) =
      some (Char.ofNat v) :: outputFrom .rest after := by
  have whole :
      ((v / 262144 % 0x08 * 64 + v / 4096 % 64) * 64 + v / 64 % 64) * 64 + v % 64 = v := by
    omega
  have second : (secondOfFour (v / 262144 % 0x08)).low.toNat ≤ v / 4096 % 64 + 0x80 ∧
      v / 4096 % 64 + 0x80 ≤ (secondOfFour (v / 262144 % 0x08)).high.toNat := by
    unfold secondOfFour
    split_ifs <;> simp only [Tail.low, Tail.high, UInt8.reduceToNat] <;> omega
  have third := any_within (six_bits (v / 64))
  have last := any_within (six_bits v)
  rw [outputFrom, step, start_four _ (by omega), List.nil_append,
    outputFrom_more (six_bits _) second.1 second.2,
    outputFrom_more (six_bits _) third.1 third.2,
    outputFrom_last (six_bits v) last.1 last.2, whole]

end Lengths

theorem outputFrom_encodeChar (c : Char) (after : Bytes) :
    outputFrom .rest (String.utf8EncodeChar c ++ after) = some c :: outputFrom .rest after := by
  have valid : c.toNat < 0xD800 ∨ 0xDFFF < c.toNat ∧ c.toNat < 0x110000 := c.valid
  nth_rewrite 2 [← Char.ofNat_toNat c]
  unfold String.utf8EncodeChar
  simp only [Char.toNat_val]
  split_ifs with one two three
  · exact outputFrom_one after one
  · exact outputFrom_two after (by omega) two
  · exact outputFrom_three after (by omega) three (valid.imp_right And.left)
  · exact outputFrom_four after (by omega) (by omega)

theorem outputFrom_encode (t : Text) : outputFrom .rest (encode t) = t.map some := by
  induction t with
  | nil => rfl
  | cons c t inductionHypothesis =>
    rw [encode, List.flatMap_cons, outputFrom_encodeChar, ← encode, inductionHypothesis]
    rfl

theorem decode_encode (t : Text) : decode (encode t) = t := by
  simp [decode, outputFrom_encode, Function.comp_def]

theorem decode?_encode (t : Text) : decode? (encode t) = some t := by
  rw [decode?, outputFrom_encode]
  induction t with
  | nil => rfl
  | cons c t inductionHypothesis => simp [List.mapM_cons, inductionHypothesis]

end DocExcerpt.Utf8
