import DocExcerpt.Provider

/-!
# Sessions

A provider may be asked for several things at once. All that it keeps from one request to the next
is its coordinator. A detection takes no slot: it has a token of its own, from the store that the
fetches have theirs from, and whoever waits for it sets that token when it takes too long. All this
happens in atomic events, so a history of a session is a list of events.
-/

namespace DocExcerpt

/-- Whether the page at an address is one of the tool's pages, as a detection finds out whose token
is set or not. -/
def Detection.search (sources : Sources) (lookahead : Nat) (cancelled : Bool) (address : Text) :
    Bool :=
  if lookahead = 0 then false
  else
    match sources.visitLines cancelled address Search.look ⟨lookahead, false⟩ with
    | (search, .ok ()) => search.found
    | (_, .error _) => false

theorem Detection.search_false (sources : Sources) (lookahead : Nat) (address : Text) :
    search sources lookahead false address = isJavadoc sources lookahead address := rfl

structure Session where
  coordinator : Fetch.Coordinator
  /-- The tokens of the detections that somebody waits for. -/
  searching : List Fetch.TokenId

namespace Session

def new : Session := ⟨.idle, []⟩

/-! ## Detections -/

def beginSearch (s : Session) : Fetch.TokenId × Session :=
  let (token, tokens) := s.coordinator.tokens.fresh
  (token, ⟨{ s.coordinator with tokens }, token :: s.searching⟩)

/-- What a detection finds at an address, if it ends now. A flag that is not set now was not set when
the detection looked at it before. -/
def verdict (provider : Provider) (s : Session) (token : Fetch.TokenId) (address : Text) : Bool :=
  Detection.search provider.sources provider.lookahead (s.coordinator.tokens.isAborted token)
    address

def endSearch (s : Session) (token : Fetch.TokenId) : Session :=
  { s with searching := s.searching.erase token }

/-- Nobody waits for a detection any longer: its token is set. -/
def giveUp (s : Session) (token : Fetch.TokenId) : Session :=
  if token ∈ s.searching then
    ⟨{ s.coordinator with tokens := s.coordinator.tokens.abort token }, s.searching.erase token⟩
  else s

/-! ## Histories -/

/-- An atomic event. A text in memory is filtered without a trace. -/
inductive Event where
  | fetch (action : Fetch.Coordinator.Action)
  | beginSearch
  | endSearch (token : Fetch.TokenId)
  | giveUp (token : Fetch.TokenId)
  | internal (text address : Option Text)

def Event.isFetch : Event → Bool
  | .fetch _ => true
  | _ => false

def step (s : Session) : Event → Session
  | .fetch action => { s with coordinator := s.coordinator.step action }
  | .beginSearch => s.beginSearch.2
  | .endSearch token => s.endSearch token
  | .giveUp token => s.giveUp token
  | .internal _ _ => s

def run (s : Session) (history : List Event) : Session := history.foldl step s

/-! ## Requests -/

inductive Request where
  | external (address : Text) (target : Target)
  | detection (address : Text)
  | internal (text address : Option Text)

def Request.isFetch : Request → Bool
  | .external _ _ => true
  | _ => false

inductive Response where
  | page (answer : Except FetchError (Option Text))
  | verdict (found : Bool)
  | text (text : Option Text)

def serve (provider : Provider) (s : Session) : Request → Response × Session
  | .external address target =>
    let (answer, coordinator) := provider.externalFor s.coordinator address target
    (.page answer, { s with coordinator })
  | .detection address =>
    let (token, s) := s.beginSearch
    (.verdict (s.verdict provider token address), s.endSearch token)
  | .internal text address => (.text (provider.internal text address), s)

end Session

end DocExcerpt
