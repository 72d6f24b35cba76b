import LvglPlatform.Ipc.TouchProtocol
import LvglPlatform.Platform.NumberText
import LvglPlatform.Session.SessionStatus

/-! The launcher of the host application: it starts the session daemon, reads the status document of the
session and sends touch frames to it. -/

namespace LvglPlatform

open Foundation

/-- The keys and values of a status text; lines that are not one or are too long are skipped. -/
def parseStatus (contents : Bytes) : List (Bytes × Bytes) :=
  (linesOf (chr '\n') contents).filterMap fun line =>
    let line := if line.getLast? = some (chr '\r') then line.dropLast else line
    match splitFirst (chr '=') line with
    | none => none
    | some (key, value) =>
      if key = [] ∨ key.length > 32 ∨ value.length > 128 then none else some (key, value)

/-- The first value of a key is the one that counts. -/
def statusValue (values : List (Bytes × Bytes)) (key : Bytes) : Option Bytes :=
  (values.find? fun field => field.1 = key).map Prod.snd

def parseUnsigned (values : List (Bytes × Bytes)) (key : Bytes) : UInt64 :=
  ((statusValue values key).bind strtoull).getD 0

def flag (values : List (Bytes × Bytes)) (key : Bytes) : Bool := statusValue values key = some (text "1")

def phaseValue (phase : Bytes) : ℕ :=
  if phase = text "start" then 1
  else if phase = text "move" then 2
  else if phase = text "end" then 3
  else if phase = text "cancel" then 4
  else 0

inductive LauncherState
  | idle
  | launching
  | starting
  | ready
  | error
  deriving DecidableEq

structure LauncherStatus where
  available : Bool := false
  accepted : Bool := false
  holeReady : Bool := false
  inputReady : Bool := false
  logicalWidth : ℤ := 0
  logicalHeight : ℤ := 0
  state : LauncherState := .idle
  sessionPid : ℤ := 0
  result : ℤ := 0
  message : Bytes := []
  deriving DecidableEq

structure TouchRequest where
  phase : Bytes
  contactId : UInt32
  x : ℤ
  y : ℤ

inductive RootFile
  | unavailable
  | exposed
  | safe
  deriving DecidableEq

def RootFile.error : RootFile → Bytes
  | .unavailable => text "required platform file is unavailable"
  | .exposed => text "required platform file has unsafe ownership or mode"
  | .safe => []

structure LauncherCalls where
  statusFile : Bytes
  profileFile : Bytes
  executable : RootFile
  reopened : RootFile
  runsSessiond : ℤ → Bool
  fork : Except Bytes ℤ
  clock : Option (UInt64 × UInt64)
  socketTrusted : Bool
  socketOpened : Bool
  connected : Bool
  sent : Bool

structure Launcher where
  lastStartedPid : ℤ := 0
  touchWidth : ℤ := 0
  touchHeight : ℤ := 0
  touchNonce : UInt64 := 0
  touchSequence : UInt64 := 0
  deriving DecidableEq

def LauncherCalls.validSessionProcess (calls : LauncherCalls) (processId : ℤ) : Bool :=
  1 < processId && calls.runsSessiond processId

def maximumInt : ℕ := 2147483647

def launcherState (values : List (Bytes × Bytes)) : LauncherState :=
  match statusValue values (text "STATE") with
  | none => .idle
  | some state =>
    if state = text "starting" then .starting
    else if state = text "ready" then .ready
    else if state = text "error" then .error
    else .idle

namespace Launcher

def readStatus (launcher : Launcher) (calls : LauncherCalls) : LauncherStatus × Launcher :=
  let values := parseStatus calls.statusFile
  let processId := parseUnsigned values (text "SESSION_PID")
  let nonce := parseUnsigned values (text "SESSION_NONCE")
  if processId.toNat > maximumInt ∨ nonce = 0 ∨ !calls.validSessionProcess processId.toNat then
    if launcher.lastStartedPid > 1 ∧ calls.validSessionProcess launcher.lastStartedPid then
      ({ state := .launching, sessionPid := launcher.lastStartedPid }, launcher)
    else if launcher.lastStartedPid > 1 then ({}, { launcher with lastStartedPid := 0 })
    else ({}, launcher)
  else
    let state := launcherState values
    let holeReady := state = .ready && flag values (text "HOLE_READY")
    let dimensionsValid :=
      (parseUnsigned values (text "LOGICAL_WIDTH")).toNat = launcher.touchWidth &&
        (parseUnsigned values (text "LOGICAL_HEIGHT")).toNat = launcher.touchHeight &&
        0 < launcher.touchWidth && 0 < launcher.touchHeight
    ({ sessionPid := processId.toNat
       state
       result := min (parseUnsigned values (text "RESULT")).toNat maximumInt
       holeReady
       inputReady := holeReady && dimensionsValid && flag values (text "INPUT_READY")
       logicalWidth := launcher.touchWidth
       logicalHeight := launcher.touchHeight },
      if launcher.touchNonce ≠ nonce then { launcher with touchNonce := nonce, touchSequence := 0 }
      else launcher)

/-- The dimensions are those of the profile, or zero with an error. -/
def validateRelease (launcher : Launcher) (calls : LauncherCalls) : Option Bytes × Launcher :=
  let launcher := { launcher with touchWidth := 0, touchHeight := 0 }
  match calls.executable with
  | .safe =>
    let profile := parseStatus calls.profileFile
    let width := parseUnsigned profile (text "LOGICAL_WIDTH")
    let height := parseUnsigned profile (text "LOGICAL_HEIGHT")
    if width < 240 ∨ width > 4096 ∨ height < 80 ∨ height > 2048 ∨
        (!flag profile (text "HOLE_SESSION_CERTIFIED") ∧ !flag profile (text "PERSONAL_UNBOUND")) then
      (some (text "installed platform profile does not permit Falcon hole sessions"), launcher)
    else (none, { launcher with touchWidth := width.toNat, touchHeight := height.toNat })
  | file => (some file.error, launcher)

def probe (launcher : Launcher) (calls : LauncherCalls) : LauncherStatus × Launcher :=
  match launcher.validateRelease calls with
  | (some error, launcher) =>
    ({ logicalWidth := launcher.touchWidth, logicalHeight := launcher.touchHeight, message := error },
      launcher)
  | (none, launcher) =>
    let (result, launcher) := launcher.readStatus calls
    ({ result with
        available := true
        logicalWidth := launcher.touchWidth
        logicalHeight := launcher.touchHeight
        message := text "ready" }, launcher)

def status (launcher : Launcher) (calls : LauncherCalls) : LauncherStatus × Launcher :=
  launcher.probe calls

def showsSession (status : LauncherStatus) : Bool :=
  1 < status.sessionPid &&
    (status.state = .launching || status.state = .starting || status.state = .ready)

def start (launcher : Launcher) (calls : LauncherCalls) : LauncherStatus × Launcher :=
  match launcher.validateRelease calls with
  | (some error, launcher) => ({ message := error }, launcher)
  | (none, launcher) =>
    let (result, launcher) := launcher.readStatus calls
    let result := { result with
      logicalWidth := launcher.touchWidth, logicalHeight := launcher.touchHeight }
    match calls.reopened with
    | .safe =>
      let result := { result with available := true }
      if showsSession result then
        ({ result with
            state := if result.holeReady then .ready else .launching
            message := text "LVGL session is already active" }, launcher)
      else match calls.fork with
        | .error reason => ({ result with message := text "fork failed: " ++ reason }, launcher)
        | .ok child =>
          ({ result with
              accepted := true
              state := .launching
              sessionPid := child
              message := text "launch accepted" },
            { launcher with lastStartedPid := child, touchNonce := 0, touchSequence := 0 })
    | file => ({ result with message := file.error }, launcher)

/-- The fields of a touch frame as the launcher lays them out; the rest of the frame is zero. -/
def frameFields (launcher : Launcher) (monotonicUs : UInt64) (phase : ℕ) (request : TouchRequest) :
    List Bytes :=
  [littleEndian 4 0x4C565450,
    littleEndian 2 1,
    littleEndian 2 56,
    littleEndian 8 launcher.touchNonce.toNat,
    littleEndian 8 launcher.touchSequence.toNat,
    littleEndian 8 monotonicUs.toNat,
    littleEndian 4 phase,
    littleEndian 4 request.contactId.toNat,
    littleEndian 4 (unsigned32 request.x),
    littleEndian 4 (unsigned32 request.y),
    List.replicate 8 0]

def sendTouch (launcher : Launcher) (calls : LauncherCalls) (request : TouchRequest) :
    Except Bytes Bytes × Launcher :=
  let (status, launcher) := launcher.readStatus calls
  let phase := phaseValue request.phase
  if !status.inputReady ∨ launcher.touchNonce = 0 then
    (.error (text "LVGL touch channel is not ready"), launcher)
  else if phase = 0 ∨ request.contactId > 31 ∨ launcher.touchWidth ≤ 0 ∨ launcher.touchHeight ≤ 0 ∨
      request.x < 0 ∨ request.x ≥ launcher.touchWidth ∨ request.y < 0 ∨
      request.y ≥ launcher.touchHeight ∨ launcher.touchSequence = UInt64.ofNat (2 ^ 64 - 1) then
    (.error (text "touch frame is invalid"), launcher)
  else match calls.clock with
    | none => (.error (text "monotonic clock is unavailable"), launcher)
    | some (seconds, nanoseconds) =>
      let monotonicUs := seconds * 1000000 + nanoseconds / 1000
      if monotonicUs = 0 then (.error (text "monotonic timestamp is invalid"), launcher)
      else if !calls.socketTrusted then (.error (text "touch socket is untrusted"), launcher)
      else if !calls.socketOpened then (.error (text "touch socket cannot be opened"), launcher)
      else if !calls.connected then (.error (text "touch socket cannot be connected"), launcher)
      else
        let launcher := { launcher with touchSequence := launcher.touchSequence + 1 }
        if !calls.sent then (.error (text "touch frame was not delivered"), launcher)
        else (.ok (launcher.frameFields monotonicUs phase request).flatten, launcher)

end Launcher

end LvglPlatform
