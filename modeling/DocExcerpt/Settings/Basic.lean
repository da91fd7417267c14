import DocExcerpt.Text.Basic

/-!
# Settings
-/

namespace DocExcerpt

structure Settings where
  /-- Seconds within which a connection has to be made. -/
  connectTimeout : Nat := 15
  /-- Seconds within which a transfer has to end. -/
  requestTimeout : Nat := 30
  /-- Milliseconds to wait for the answer of a detection. -/
  detectionWait : Nat := 600
  /-- Lines that a detection looks at. -/
  detectionLookahead : Nat := 6
  proxy : Option Text := none
  userAgent : Option Text := none
  /-- The symbol file to use where the command line names none. -/
  symbolFile : Option Text := none
  deriving DecidableEq, Repr

structure TransferOptions where
  connectTimeout : Nat
  timeout : Nat
  proxy : Option Text
  userAgent : Option Text
  deriving DecidableEq, Repr

structure DetectionOptions where
  /-- Milliseconds to wait for an answer. -/
  wait : Nat
  lookahead : Nat
  deriving DecidableEq, Repr

def Settings.transfer (s : Settings) : TransferOptions :=
  ⟨s.connectTimeout, s.requestTimeout, s.proxy, s.userAgent⟩

def Settings.detection (s : Settings) : DetectionOptions := ⟨s.detectionWait, s.detectionLookahead⟩

end DocExcerpt
