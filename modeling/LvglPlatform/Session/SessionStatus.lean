import LvglPlatform.Foundation.KeyLines
import LvglPlatform.Package.CanonicalJson

namespace LvglPlatform

open Foundation

inductive SessionState
  | starting
  | ready
  | error
  | stopped
  deriving DecidableEq, Repr

structure SessionStatusDocument where
  sessionPid : Int32 := 0
  sessionNonce : UInt64 := 0
  state : SessionState := .starting
  result : Int32 := 0
  holeReady : Bool := false
  inputReady : Bool := false
  logicalWidth : Int32 := 0
  logicalHeight : Int32 := 0
  deriving DecidableEq

def SessionState.stateName : SessionState → Bytes
  | .starting => text "starting"
  | .ready => text "ready"
  | .error => text "error"
  | .stopped => text "stopped"

def flagText (value : Bool) : Bytes := if value then text "1" else text "0"

def SessionStatusDocument.fields (status : SessionStatusDocument) : List (Bytes × Bytes) :=
  [(text "SESSION_PID", signedDecimal status.sessionPid.toInt),
    (text "SESSION_NONCE", decimal status.sessionNonce.toNat),
    (text "STATE", status.state.stateName),
    (text "RESULT", signedDecimal status.result.toInt),
    (text "HOLE_READY", flagText status.holeReady),
    (text "INPUT_READY", flagText status.inputReady),
    (text "LOGICAL_WIDTH", signedDecimal status.logicalWidth.toInt),
    (text "LOGICAL_HEIGHT", signedDecimal status.logicalHeight.toInt)]

/-- An inconsistent document has no text. -/
def encodeSessionStatus (status : SessionStatusDocument) : Bytes :=
  if status.sessionPid ≤ 1 ∨ status.sessionNonce = 0 ∨ status.result < 0 ∨ status.logicalWidth ≤ 0 ∨
      status.logicalHeight ≤ 0 ∨ (status.state ≠ .ready ∧ (status.holeReady ∨ status.inputReady)) ∨
      (status.inputReady ∧ !status.holeReady) then []
  else status.fields.flatMap fun field => (field.1 ++ chr '=' :: field.2) ++ [chr '\n']

lemma decimal_length {n e : ℕ} (he : 0 < e) (h : n < 10 ^ e) : (decimal n).length ≤ e := by
  rw [decimal, List.length_map]
  exact Nat.toDigits_length 10 n e he h

lemma signedDecimal_length {n : ℤ} {e : ℕ} (he : 0 < e) (h : n.natAbs < 10 ^ e) :
    (signedDecimal n).length ≤ e + 1 := by
  have hlength := decimal_length he h
  rw [signedDecimal]
  split
  · rw [List.length_cons]
    omega
  · omega

lemma signedDecimal_range {n : ℤ} {c : UInt8} (h : c ∈ signedDecimal n) : 45 ≤ c.toNat := by
  rw [signedDecimal] at h
  split at h
  · rcases List.mem_cons.mp h with rfl | h
    · decide
    · have hrange := decimal_range h
      omega
  · have hrange := decimal_range h
    omega

end LvglPlatform
