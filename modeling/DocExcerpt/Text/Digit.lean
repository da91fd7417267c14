import DocExcerpt.Text.Basic

/-!
# Digits

The value of a digit and of a run of digits, in any base up to sixteen.
-/

namespace DocExcerpt

def digitValue? (c : Char) : Option Nat :=
  if '0' ≤ c ∧ c ≤ '9' then some (c.toNat - '0'.toNat)
  else if 'a' ≤ c ∧ c ≤ 'f' then some (c.toNat - 'a'.toNat + 10)
  else if 'A' ≤ c ∧ c ≤ 'F' then some (c.toNat - 'A'.toNat + 10)
  else none

def digitOfBase? (base : Nat) (c : Char) : Option Nat :=
  (digitValue? c).filter (· < base)

/-- The number that a text of digits denotes; none if it holds anything else. A text without
digits denotes zero. -/
def Text.number? (base : Nat) (t : Text) : Option Nat :=
  t.foldlM (fun n c => (digitOfBase? base c).map fun d => n * base + d) 0

end DocExcerpt
