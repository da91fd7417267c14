import DocExcerpt.Text.Basic

/-!
# Punycode

A text is written in ASCII as its ASCII characters followed by the others, as numbers in order of
their code points: each says how far the place of a character is behind that of the one before,
where a place is a code point and an index among the characters so far. A number is written in
base 36, with digits that tell by themselves where it ends; which digits do so follows the size of
the numbers before.
-/

namespace DocExcerpt.Url.Idna.Punycode

/-! ## Numbers -/

def digitValue? (c : Char) : Option Nat :=
  if 'a' ≤ c ∧ c ≤ 'z' then some (c.toNat - 'a'.toNat)
  else if 'A' ≤ c ∧ c ≤ 'Z' then some (c.toNat - 'A'.toNat)
  else if '0' ≤ c ∧ c ≤ '9' then some (c.toNat - '0'.toNat + 26)
  else none

def digit (d : Nat) : Char :=
  if d < 26 then Char.ofNat ('a'.toNat + d) else Char.ofNat ('0'.toNat + (d - 26))

/-- The value from which on a digit is not the last one, at a position counted in steps of 36. -/
def threshold (bias position : Nat) : Nat :=
  if position ≤ bias then 1 else if bias + 26 ≤ position then 26 else position - bias

theorem threshold_pos (bias position : Nat) : 0 < threshold bias position := by
  unfold threshold; split
  · decide
  · split <;> omega

theorem threshold_le (bias position : Nat) : threshold bias position ≤ 26 := by
  unfold threshold; split
  · decide
  · split <;> omega

/-- Scales a number down until it is small, and counts the steps. -/
def scale (steps delta : Nat) : Nat × Nat :=
  if 455 < delta then scale (steps + 1) (delta / 35) else (steps, delta)
termination_by delta
decreasing_by omega

/-- The bias for the next number, after `delta` brought the number of characters to `count`. -/
def adapt (delta count : Nat) (isFirst : Bool) : Nat :=
  let damped := if isFirst then delta / 700 else delta / 2
  let (steps, small) := scale 0 (damped + damped / count)
  36 * steps + 36 * small / (small + 38)

/-! ## Reading -/

/-- The greatest number that is read. -/
def greatest : Nat := 0xFFFFFFFF

def readNumber (bias : Nat) (value weight position : Nat) : Text → Option (Nat × Text)
  | [] => none
  | c :: t => do
    let d ← digitValue? c
    let value := value + d * weight
    let limit := threshold bias position
    if greatest < value then none
    else if d < limit then some (value, t)
    else
      let weight := weight * (36 - limit)
      if greatest < weight then none else readNumber bias value weight (position + 36) t

theorem readNumber_length {bias value weight position n : Nat} {t rest : Text}
    (h : readNumber bias value weight position t = some (n, rest)) : rest.length < t.length := by
  induction t generalizing value weight position with
  | nil => simp [readNumber] at h
  | cons c t ih =>
    rw [readNumber] at h
    cases hd : digitValue? c with
    | none => simp [hd] at h
    | some d =>
      simp only [hd, bind, Option.bind] at h
      split at h
      · simp at h
      · split at h
        · obtain ⟨-, rfl⟩ : _ ∧ t = rest := by simpa using h
          simp
        · split at h
          · simp at h
          · exact Nat.lt_trans (ih h) (by simp)

def isCharacter (n : Nat) : Bool := n < 0xD800 || (0xDFFF < n && n < 0x110000)

/-- Reads the characters that are not ASCII into those before. Places start at a code point and an
index. -/
def readCharacters (before : Text) (code index bias : Nat) (t : Text) : Option Text :=
  if _more : t ≠ [] then
    match _number : readNumber bias index 1 36 t with
    | none => none
    | some (place, rest) =>
      let count := before.length + 1
      let code := code + place / count
      let next := place % count
      if isCharacter code then
        readCharacters (before.take next ++ Char.ofNat code :: before.drop next) code (next + 1)
          (adapt (place - index) count (index = 0)) rest
      else none
  else some before
termination_by t.length
decreasing_by exact readNumber_length _number

/-- What stands before and after the last hyphen; nothing before it if there is none. A hyphen at
the head does not count. -/
def splitAtLastHyphen (t : Text) : Text × Text :=
  match Text.splitAtChar? '-' t.reverse with
  | some (after, before) => if before.isEmpty then ([], t) else (before.reverse, after.reverse)
  | none => ([], t)

def decode? (t : Text) : Option Text :=
  let (ascii, numbers) := splitAtLastHyphen t
  readCharacters ascii 128 0 72 numbers

/-! ## Writing -/

def writeNumber (bias position n : Nat) : Text :=
  let limit := threshold bias position
  if n < limit then [digit n]
  else digit (limit + (n - limit) % (36 - limit)) ::
    writeNumber bias (position + 36) ((n - limit) / (36 - limit))
termination_by n
decreasing_by
  have := threshold_pos bias position
  have := threshold_le bias position
  exact Nat.lt_of_le_of_lt (Nat.div_le_self _ _) (by omega)

/-- What has been written: the text, how far the next place is behind the last one, the bias, and
the number of characters. -/
structure Writing where
  written : Text
  distance : Nat
  bias : Nat
  count : Nat

/-- Passes a character on the way to those of a code point, and writes it if it is one of them. -/
def Writing.pass (ascii code : Nat) (w : Writing) (c : Char) : Writing :=
  if c.toNat < code then { w with distance := w.distance + 1 }
  else if c.toNat = code then
    { written := w.written ++ writeNumber w.bias 36 w.distance
      distance := 0
      bias := adapt w.distance (w.count + 1) (w.count = ascii)
      count := w.count + 1 }
  else w

/-- Writes the characters of the given code points, from `code` on. -/
def Writing.addAll (t : Text) (ascii : Nat) : Writing → Nat → List Nat → Writing
  | w, _, [] => w
  | w, code, next :: codes =>
    let w := { w with distance := w.distance + (next - code) * (w.count + 1) }
    let w := t.foldl (Writing.pass ascii next) w
    Writing.addAll t ascii { w with distance := w.distance + 1 } (next + 1) codes

def encode (t : Text) : Text :=
  let ascii := t.filter fun c => c.toNat < 0x80
  let codes := ((t.map (·.toNat)).filter (0x80 ≤ ·)).mergeSort.eraseDups
  let w := Writing.addAll t ascii.length ⟨[], 0, 72, ascii.length⟩ 128 codes
  ascii ++ (if ascii.isEmpty then [] else ['-']) ++ w.written

end DocExcerpt.Url.Idna.Punycode
