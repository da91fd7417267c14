import DocExcerpt.Fetch.Slot
import DocExcerpt.Fetch.Token
import DocExcerpt.FetchError

/-!
# Coordination of fetches

A fetch takes the slot or is declined. Its worker holds the slot until it ends, in whatever way; the
slot is set free first, and the outcome is reported to the caller after that. A cancellation sets the
token of the latest fetch, and a caller that goes away sets the token of its own. All this happens in
atomic actions, so a history of the coordinator is a list of actions.
-/

namespace DocExcerpt.Fetch

inductive Outcome where
  | done (result : Except FetchError (Option Text))
  /-- The worker broke down. -/
  | lost

/-- What a caller is told of an outcome. An empty page, a cancellation and a worker that broke
down give no page. -/
def Outcome.answer : Outcome → Except FetchError (Option Text)
  | .done (.ok (some [])) => .ok none
  | .done (.ok page) => .ok page
  | .done (.error .cancelled) => .ok none
  | .done (.error error) => .error error
  | .lost => .ok none

/-- The state of the coordinator. A fetch is known by its token. -/
structure Coordinator where
  slot : Slot
  tokens : Tokens
  /-- The token that a cancellation sets. -/
  current : TokenId
  /-- The fetches whose worker runs; each holds the slot. -/
  running : List TokenId
  /-- The fetches whose caller waits. -/
  waiting : List TokenId
  /-- The outcomes of workers that have left the slot and are not reported yet. -/
  leaving : List (TokenId × Outcome)
  /-- The outcomes that have been reported and not handed over. -/
  ended : List (TokenId × Outcome)

namespace Coordinator

def idle : Coordinator := ⟨.free, Tokens.empty.fresh.2, Tokens.empty.fresh.1, [], [], [], []⟩

def isFree (c : Coordinator) : Bool := c.slot.isFree

/-- Starts a fetch, unless the slot is taken: the token of the fetch becomes the one that a
cancellation sets. -/
def start (c : Coordinator) : Option TokenId × Coordinator :=
  match c.slot.take with
  | (true, slot) =>
    let (token, tokens) := c.tokens.fresh
    (some token, { c with
      slot, tokens, current := token, running := token :: c.running, waiting := token :: c.waiting })
  | (false, slot) => (none, { c with slot })

/-- A worker ends: it sets the slot free. -/
def finish (c : Coordinator) (token : TokenId) (outcome : Outcome) : Coordinator :=
  if token ∈ c.running then
    { c with
      slot := c.slot.release
      running := c.running.erase token
      leaving := (token, outcome) :: c.leaving }
  else c

/-- The outcome of a worker that has left the slot is reported, if a caller waits for it. -/
def report (c : Coordinator) (token : TokenId) : Coordinator :=
  match c.leaving.lookup token with
  | some outcome => { c with
      leaving := c.leaving.filter (·.1 ≠ token)
      ended := if token ∈ c.waiting then (token, outcome) :: c.ended else c.ended }
  | none => c

/-- Hands an outcome over to the caller that waits for it. -/
def deliver (c : Coordinator) (token : TokenId) :
    Option (Except FetchError (Option Text)) × Coordinator :=
  match c.ended.lookup token with
  | some outcome => (some outcome.answer, { c with
      waiting := c.waiting.erase token, ended := c.ended.filter (·.1 ≠ token) })
  | none => (none, c)

def cancel (c : Coordinator) : Coordinator := { c with tokens := c.tokens.abort c.current }

/-- A caller goes away. The token of its fetch is set; the worker ends in its own time. -/
def abandon (c : Coordinator) (token : TokenId) : Coordinator :=
  if token ∈ c.waiting then
    { c with
      tokens := c.tokens.abort token
      waiting := c.waiting.erase token
      ended := c.ended.filter (·.1 ≠ token) }
  else c

/-! ## Histories -/

inductive Action where
  | start
  | finish (token : TokenId) (outcome : Outcome)
  | report (token : TokenId)
  | deliver (token : TokenId)
  | cancel
  | abandon (token : TokenId)

def step (c : Coordinator) : Action → Coordinator
  | .start => c.start.2
  | .finish token outcome => c.finish token outcome
  | .report token => c.report token
  | .deliver token => (c.deliver token).2
  | .cancel => c.cancel
  | .abandon token => c.abandon token

def run (c : Coordinator) (history : List Action) : Coordinator := history.foldl step c

/-- A fetch that nothing comes between: its worker does `work`, which may look at its token. -/
def fetch (c : Coordinator) (work : Bool → Except FetchError (Option Text)) :
    Except FetchError (Option Text) × Coordinator :=
  match c.start with
  | (none, c) => (.ok none, c)
  | (some token, c) =>
    let outcome := Outcome.done (work (c.tokens.isAborted token))
    match ((c.finish token outcome).report token).deliver token with
    | (some answer, c) => (answer, c)
    | (none, c) => (.ok none, c)

end Coordinator

end DocExcerpt.Fetch
