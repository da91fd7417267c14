import DocExcerpt.Decimal.Shortest
import DocExcerpt.Settings.Basic
import DocExcerpt.Text.Quoted
import DocExcerpt.Toml.Document

/-!
# The format of the settings file

A settings file is a TOML document with one key for each setting. The four numbers have to be
there; the texts may be left out; other keys do not count. The values are looked at in the order
of the file, so the first one of a wrong type is reported, and only then is a missing number.
-/

namespace DocExcerpt.Settings

inductive Expected where
  | count
  | lineCount
  | text
  | path
  deriving DecidableEq, Repr

def Expected.message : Expected → String
  | .count => "u64"
  | .lineCount => "usize"
  | .text => "a string"
  | .path => "path string"

/-- Why a document does not hold settings. -/
inductive FormatFault where
  | wrongType (found : Text) (expected : Expected)
  | negative (n : Int) (expected : Expected)
  | missing (key : Text)
  deriving DecidableEq, Repr

def FormatFault.message : FormatFault → String
  | .wrongType found expected =>
    "invalid type: " ++ String.ofList found ++ ", expected " ++ expected.message
  | .negative n expected =>
    "invalid value: integer \x60" ++ toString n ++ "\x60, expected " ++ expected.message
  | .missing key => "missing field \x60" ++ String.ofList key ++ "\x60"

def describe : Toml.Value → Text
  | .string content => "string ".toList ++ content.quoted
  | .integer n => "integer \x60".toList ++ (toString n).toList ++ ['\x60']
  | .float x => "floating point \x60".toList ++ Decimal.positional x ++ ['\x60']
  | .boolean b => "boolean \x60".toList ++ (if b then "true" else "false").toList ++ ['\x60']
  | .array _ | .tables _ => "sequence".toList
  | .table .. | .dateTime => "map".toList

def number (expected : Expected) : Toml.Value → Except FormatFault Nat
  | .integer n => if 0 ≤ n then .ok n.toNat else .error (.negative n expected)
  | value => .error (.wrongType (describe value) expected)

def text (expected : Expected) : Toml.Value → Except FormatFault Text
  | .string content => .ok content
  | value => .error (.wrongType (describe value) expected)

/-! ## Keys -/

def connectTimeoutKey : Text := "connect_timeout_secs".toList

def requestTimeoutKey : Text := "request_timeout_secs".toList

def detectionWaitKey : Text := "detect_wait_ms".toList

def detectionLookaheadKey : Text := "detect_lookahead_lines".toList

def proxyKey : Text := "proxy".toList

def userAgentKey : Text := "user_agent".toList

def symbolFileKey : Text := "symbols_file".toList

/-! ## Reading -/

structure Draft where
  connectTimeout : Option Nat := none
  requestTimeout : Option Nat := none
  detectionWait : Option Nat := none
  detectionLookahead : Option Nat := none
  proxy : Option Text := none
  userAgent : Option Text := none
  symbolFile : Option Text := none

def Draft.set (draft : Draft) (key : Text) (value : Toml.Value) : Except FormatFault Draft :=
  if key = connectTimeoutKey then
    (number .count value).map fun n => { draft with connectTimeout := some n }
  else if key = requestTimeoutKey then
    (number .count value).map fun n => { draft with requestTimeout := some n }
  else if key = detectionWaitKey then
    (number .count value).map fun n => { draft with detectionWait := some n }
  else if key = detectionLookaheadKey then
    (number .lineCount value).map fun n => { draft with detectionLookahead := some n }
  else if key = proxyKey then
    (text .text value).map fun t => { draft with proxy := some t }
  else if key = userAgentKey then
    (text .text value).map fun t => { draft with userAgent := some t }
  else if key = symbolFileKey then
    (text .path value).map fun t => { draft with symbolFile := some t }
  else .ok draft

def required (key : Text) : Option Nat → Except FormatFault Nat
  | some n => .ok n
  | none => .error (.missing key)

def Draft.settings (draft : Draft) : Except FormatFault Settings := do
  return {
    connectTimeout := ← required connectTimeoutKey draft.connectTimeout
    requestTimeout := ← required requestTimeoutKey draft.requestTimeout
    detectionWait := ← required detectionWaitKey draft.detectionWait
    detectionLookahead := ← required detectionLookaheadKey draft.detectionLookahead
    proxy := draft.proxy
    userAgent := draft.userAgent
    symbolFile := draft.symbolFile }

def ofEntries (entries : Toml.Entries) : Except FormatFault Settings := do
  let draft ← entries.foldlM (fun draft entry => Draft.set draft entry.1 entry.2) {}
  draft.settings

/-! ## Writing -/

def numberLine (key : Text) (n : Nat) : Text := key ++ " = ".toList ++ Text.ofNat n ++ ['\n']

def numbersText (s : Settings) : Text :=
  numberLine connectTimeoutKey s.connectTimeout ++ numberLine requestTimeoutKey s.requestTimeout
    ++ numberLine detectionWaitKey s.detectionWait
    ++ numberLine detectionLookaheadKey s.detectionLookahead

end DocExcerpt.Settings
