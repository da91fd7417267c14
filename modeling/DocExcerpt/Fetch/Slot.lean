/-!
# The fetch slot

At most one fetch runs at a time. The slot is a flag that is taken by an atomic exchange and set
free by whoever took it.
-/

namespace DocExcerpt.Fetch

/-- The slot: whether a fetch holds it. -/
structure Slot where
  busy : Bool
  deriving DecidableEq, Repr

namespace Slot

def free : Slot := ⟨false⟩

def isFree (slot : Slot) : Bool := !slot.busy

/-- The exchange: takes the slot if it is free. Says whether it was, and how the slot is after. -/
def take (slot : Slot) : Bool × Slot := (slot.isFree, ⟨true⟩)

/-- The slot after its holder has set it free. -/
def release (_ : Slot) : Slot := free

/-- Several takers that try one after the other and keep what they get: the number of those who
get the slot, and how the slot is after. -/
def race : Nat → Slot → Nat × Slot
  | 0, slot => (0, slot)
  | takers + 1, slot =>
    let (taken, slot) := slot.take
    let (others, slot) := race takers slot
    (others + if taken then 1 else 0, slot)

end Slot

end DocExcerpt.Fetch
