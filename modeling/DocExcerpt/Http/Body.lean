import DocExcerpt.Charset.Label
import DocExcerpt.Http.ContentType
import DocExcerpt.Http.Transfer

/-!
# Pages fetched whole

The body of an answer is taken in whole and decoded before anything is done with it, by the
character set of the content type that the library reports.  Its status is looked at when the body
has come.
-/

namespace DocExcerpt.Http

def gather (body : Bytes) : Event → Bytes × Bool
  | .header _ => (body, true)
  | .chunk bytes => (body ++ bytes, true)

def fetch (transport : Transport) (options : TransferOptions) (cancelled : Bool) (address : Text) :
    Except FetchError Bytes :=
  match transport.transfer ⟨address, options, false, cancelled⟩ with
  | .error fault => .error (.transfer fault)
  | .ok transfer =>
    let delivery := transfer.perform gather []
    match delivery.ending with
    | .error fault => .error (if fault.isGivenUp then .cancelled else .transfer fault)
    | .ok () => do
      transfer.checkStatus address
      let contentType ← transfer.contentType.mapError .transfer
      return Utf8.encode
        (Charset.decodeLabelled (contentType.bind charsetLabel?) delivery.state)

end DocExcerpt.Http
