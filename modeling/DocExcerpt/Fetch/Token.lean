/-!
# Abort tokens

Each fetch has a token, a flag that is shared between the fetch and those who may cancel it. All
tokens live in one store and are named by numbers, so that two holders of a token are two uses of
one number. A flag that is set stays set.
-/

namespace DocExcerpt.Fetch

abbrev TokenId := Nat

/-- The flags of all tokens, in the order in which they were made. -/
structure Tokens where
  flags : List Bool
  deriving DecidableEq, Repr

namespace Tokens

def empty : Tokens := ⟨[]⟩

/-- Makes a token: its name and the store that holds it. -/
def fresh (tokens : Tokens) : TokenId × Tokens := (tokens.flags.length, ⟨tokens.flags ++ [false]⟩)

def isAborted (tokens : Tokens) (token : TokenId) : Bool := tokens.flags.getD token false

/-- Sets a token's flag. -/
def abort (tokens : Tokens) (token : TokenId) : Tokens := ⟨tokens.flags.set token true⟩

def Issued (tokens : Tokens) (token : TokenId) : Prop := token < tokens.flags.length

theorem not_issued_fresh (tokens : Tokens) : ¬ tokens.Issued tokens.fresh.1 :=
  Nat.lt_irrefl _

theorem isAborted_of_not_issued {tokens : Tokens} {token : TokenId}
    (unmade : ¬ tokens.Issued token) : tokens.isAborted token = false := by
  rw [isAborted, List.getD_eq_getElem?_getD, List.getElem?_eq_none (Nat.le_of_not_lt unmade)]
  rfl

@[simp] theorem issued_fresh_iff (tokens : Tokens) (token : TokenId) :
    tokens.fresh.2.Issued token ↔ tokens.Issued token ∨ token = tokens.fresh.1 := by
  simp only [Issued, fresh, List.length_append, List.length_singleton]
  exact Nat.lt_succ_iff_lt_or_eq

@[simp] theorem issued_abort_iff (tokens : Tokens) (aborted token : TokenId) :
    (tokens.abort aborted).Issued token ↔ tokens.Issued token := by
  simp [Issued, abort]

@[simp] theorem isAborted_fresh (tokens : Tokens) (token : TokenId) :
    tokens.fresh.2.isAborted token = tokens.isAborted token := by
  simp only [isAborted, fresh, List.getD_eq_getElem?_getD, List.getElem?_append]
  split
  · rfl
  · rename_i beyond
    rw [List.getElem?_eq_none (by omega : tokens.flags.length ≤ token)]
    cases token - tokens.flags.length <;> rfl

theorem isAborted_fresh_self (tokens : Tokens) :
    tokens.fresh.2.isAborted tokens.fresh.1 = false := by
  rw [isAborted_fresh]
  exact isAborted_of_not_issued tokens.not_issued_fresh

/-- Setting a token sets that one and leaves the others as they are. -/
theorem isAborted_abort_iff {tokens : Tokens} {token : TokenId} (aborted : TokenId)
    (made : tokens.Issued token) :
    (tokens.abort aborted).isAborted token = true ↔
      tokens.isAborted token = true ∨ aborted = token := by
  have bound : token < tokens.flags.length := made
  by_cases same : aborted = token
  · subst same
    simp [isAborted, abort, List.getD_eq_getElem?_getD, bound]
  · simp [isAborted, abort, List.getD_eq_getElem?_getD, same]

end Tokens

end DocExcerpt.Fetch
