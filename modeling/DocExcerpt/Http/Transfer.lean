import DocExcerpt.FetchError
import DocExcerpt.Settings.Basic

/-!
# Transfers over HTTP

The network is used through a library that makes transfers: it sends a request, follows the answers
that point elsewhere, and calls back for each header line and each part of the body that comes in.
All that it does is a parameter here.  A statement about a transfer is one about all that the
library and the network can do, and what a statement needs of them it says.
-/

namespace DocExcerpt.Http

/-- What comes in during a transfer, as it is handed over. -/
inductive Event where
  /-- A line of a header, with its end.  The lines of the answers that are left for another address
  come first, and those behind a body last. -/
  | header (line : Bytes)
  /-- A part of the body.  The network cuts a body as it likes. -/
  | chunk (bytes : Bytes)
  deriving DecidableEq, Repr

/-- A transfer, as it goes if nobody stops it. -/
structure Transfer where
  events : List Event
  ending : Except TransferFault Unit
  /-- The status of the last answer, when the transfer is over. -/
  status : Except TransferFault Nat
  /-- The content type that the library reports when the transfer is over. -/
  contentType : Except TransferFault (Option Text)

structure Request where
  address : Text
  options : TransferOptions
  /-- Whether a status from 400 on is to end the transfer. -/
  refusesErrors : Bool
  /-- Whether the library is told to give up when it asks. -/
  cancelled : Bool

/-- The library, and the network behind it.  A request that it does not take makes no transfer. -/
structure Transport where
  transfer : Request → Except TransferFault Transfer

def Transport.unreachable : Transport where
  transfer _ := .ok {
    events := []
    ending := .error ⟨7, "Couldn't connect to server"⟩
    status := .ok 0
    contentType := .ok none }

/-! ## Taking part in a transfer -/

/-- How a transfer has gone for one who takes what comes in. -/
structure Delivery (β : Type) where
  state : β
  /-- Whether something was not taken. -/
  stopped : Bool
  ending : Except TransferFault Unit

/-- Hands over what comes in, until something is not taken. -/
def deliver {β : Type} (take : β → Event → β × Bool) (ending : Except TransferFault Unit) :
    List Event → β → Delivery β
  | [], state => ⟨state, false, ending⟩
  | event :: events, state =>
    match take state event with
    | (state, true) => deliver take ending events state
    | (state, false) => ⟨state, true, .error .notTaken⟩

namespace Transfer

def perform {β : Type} (transfer : Transfer) (take : β → Event → β × Bool) (state : β) :
    Delivery β :=
  deliver take transfer.ending transfer.events state

def checkStatus (transfer : Transfer) (address : Text) : Except FetchError Unit :=
  match transfer.status with
  | .error fault => .error (.transfer fault)
  | .ok status =>
    if 200 ≤ status ∧ status < 300 then .ok () else .error (.status address status)

end Transfer

end DocExcerpt.Http
