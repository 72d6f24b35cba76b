import LvglPlatform.Foundation.EventLog
import LvglPlatform.Session.SessionStatus
import LvglPlatform.Session.VerifiedProgram

/-! The main loop of the session: one foreground program after another, and what is published, taken and
rolled back between them. -/

namespace LvglPlatform

open Foundation

def desktopId : Bytes := text "top.lvgl.desktop"

structure SessionDaemon where
  env : Environment
  profile : CertifiedSessionProfile
  personalUnbound : Bool
  platform : VerifiedRelease
  document : SessionStatusDocument

inductive EndCause
  | stopSignal
  | exitRequest
  | setupFailure (result : ℕ)
  | desktopFailures
  deriving DecidableEq

inductive SessionRecord
  | signalled
  | published (document : SessionStatusDocument)
  | started (app : Bytes) (source : ProgramSource)
  | ready
  | took (action : ForegroundAction)
  | failed (app : Bytes)
  | rolledBack (app : Bytes) (release : UInt64)
  | ended (cause : EndCause)
  deriving DecidableEq

/-- Where the main loop stands. A program that runs is forked first, and executed when its child has come
through its own set-up. -/
inductive DaemonPoint
  | head
  | opening
  | running (program : VerifiedProgram) (loop : Foreground) (executed : Bool)
  | leaving (cause : EndCause)
  | ended
  deriving DecidableEq

structure DaemonState where
  system : Node
  status : SessionStatusDocument
  foreground : Bytes := desktopId
  previousError : Bytes := []
  desktopFailures : ℕ := 0
  result : ℕ := 0
  exitRequested : Bool := false
  stopped : Bool := false
  router : TouchRouter
  point : DaemonPoint := .head
  log : List SessionRecord := []

/-- `atomic_status` can fail before and after the document is in its place. -/
inductive StatusWrite
  | kept
  | renamed
  | written

/-- The steps of `run_foreground` before there is a child. -/
inductive SetupFailure
  | sockets
  | drm
  | storageBuffers
  | installerBuffers
  | fork

def SetupFailure.result : SetupFailure → ℕ
  | .sockets => 76
  | .drm => 87
  | .storageBuffers => 88
  | .installerBuffers => 90
  | .fork => 77

structure OpeningCalls where
  enumerates : Bool
  registry : Bool
  storage : Bool
  setup : Option SetupFailure
  randoms : SlotRandoms

/-- What can happen while the child of a program is not executed yet: it sends nothing, and ends by the exits
of its set-up or by a signal. -/
def ForegroundEvent.setsUp : ForegroundEvent → Bool
  | .sendControl _ => false
  | .sendStorage _ => false
  | .exit status => status ∈ [125, 126, 127] || 128 < status
  | _ => true

/-- The events of a session. Other parties change the file system between the turns: the only program
that changes what is installed is the installer, which itself has no release. -/
inductive DaemonEvent
  | outside (system : Node)
  | stop
  | publish (write : StatusWrite)
  | openProgram (calls : OpeningCalls)
  | execute
  | foreground (event : ForegroundEvent) (renamed : Bool)
  | close (waited : ℕ) (randoms : SlotRandoms)
  | leave (written : Bool)

def foregroundProgram (app : Bytes) (program : VerifiedProgram) : ForegroundProgram where
  desktop := app = desktopId
  privateStorage := program.policy.privateStorage
  installer := app = text "top.lvgl.installer"

namespace DaemonState

def record (s : DaemonState) (entry : SessionRecord) : DaemonState := { s with log := s.log ++ [entry] }

def leave (s : DaemonState) (cause : EndCause) : DaemonState := { s with point := .leaving cause }

def fail (s : DaemonState) (result : ℕ) : DaemonState :=
  { s with result }.leave (.setupFailure result)

def toDesktop (s : DaemonState) : DaemonState := { s with foreground := desktopId, point := .head }

end DaemonState

/-- The result of a turn after the program has been waited for. -/
def Foreground.finalResult (loop : Foreground) (waited : ℕ) : ℕ :=
  let result := if !loop.exited ∧ loop.result = 0 ∧ !loop.requested then waited else loop.result
  if loop.stopped ∧ result = 0 then 143 else result

namespace SessionDaemon

variable (daemon : SessionDaemon)

def start (system : Node) : DaemonState where
  system
  status := daemon.document
  router := .new daemon.document.sessionNonce daemon.document.logicalWidth.toInt
    daemon.document.logicalHeight.toInt

def rollBack (s : DaemonState) (randoms : SlotRandoms) (otherwise : Bytes) : Option DaemonState := do
  let rolledBack ← failureRollback daemon.env daemon.profile s.system s.foreground
  let (system, detail) ←
    rollbackApplicationAfterFailure daemon.env daemon.profile randoms s.system s.foreground
  let release := (storedReleaseOf daemon.env s.system s.foreground).selected.state.currentRelease
  let s := s.record (.failed s.foreground)
  let s := if rolledBack.isSome then s.record (.rolledBack s.foreground release) else s
  some { s with system, previousError := detail.getD otherwise }.toDesktop

def settle (s : DaemonState) (action : ForegroundAction) (result : ℕ) (randoms : SlotRandoms) :
    Option DaemonState :=
  let s := { s with previousError := [] }
  if s.stopped then some ({ s with result := if result = 0 then 143 else result }.leave .stopSignal)
  else match action with
    | .exitSession =>
      some ({ s with exitRequested := true, result := 0, point := .head }.record (.took action))
    | .launch app =>
      some ({ s with foreground := app, desktopFailures := 0, point := .head }.record (.took action))
    | .home => some ({ s with desktopFailures := 0 }.toDesktop.record (.took action))
    | .failure =>
      if s.foreground ≠ desktopId then
        (daemon.rollBack s randoms (text "应用异常退出，代码 " ++ decimal result)).map fun s =>
          { s with desktopFailures := 0 }
      else
        let s := { s with
          result := if result = 0 then 84 else result
          desktopFailures := s.desktopFailures + 1 }.record (.failed s.foreground)
        if s.desktopFailures ≥ 3 then some (s.leave .desktopFailures)
        else some { s with previousError := text "桌面已从异常退出中恢复", point := .head }

def publishStep (s : DaemonState) (write : StatusWrite) : DaemonState :=
  if s.stopped then s.leave .stopSignal
  else if s.exitRequested then s.leave .exitRequest
  else
    let status := { s.status with
      state := .starting, result := 0, holeReady := false, inputReady := false }
    let s := { s with status }
    match write with
    | .kept => s.fail 74
    | .renamed => (s.record (.published status)).fail 74
    | .written => { s.record (.published status) with point := .opening }

def openStep (s : DaemonState) (calls : OpeningCalls) : Option DaemonState := do
  let opened ← openVerifiedProgram daemon.env daemon.profile daemon.platform daemon.personalUnbound
    calls.enumerates s.system s.foreground
  match opened with
  | none =>
    if s.foreground ≠ desktopId then
      daemon.rollBack s calls.randoms (text "应用入口未包含在已验证的平台发行版中")
    else some (s.fail 75)
  | some program =>
    if s.foreground = desktopId ∧ !calls.registry then some (s.fail 85)
    else if program.policy.privateStorage ∧ !calls.storage then
      if s.foreground ≠ desktopId then
        some { s.record (.failed s.foreground) with
          previousError := text "应用私有存储不可用" }.toDesktop
      else some (s.fail 86)
    else match calls.setup with
      | some failure => daemon.settle s .failure failure.result calls.randoms
      | none =>
        let loop := { Foreground.start s.router with
          stopped := s.stopped, point := if s.stopped then .done else .poll }
        some { s with point := .running program loop false }

/-- The `fexecve` of the child succeeds. -/
def executeStep (s : DaemonState) : Option DaemonState :=
  match s.point with
  | .running program loop false =>
    if loop.child = none then
      some { s.record (.started s.foreground program.source) with point := .running program loop true }
    else none
  | _ => none

/-- READY publishes the status; every other step of the loop over a program changes the loop only. -/
def foregroundStep (s : DaemonState) (program : VerifiedProgram) (loop : Foreground) (executed : Bool)
    (event : ForegroundEvent) (renamed : Bool) : Option DaemonState :=
  (loop.step (foregroundProgram s.foreground program) event).map fun next =>
    let s := { s with point := .running program next executed }
    if next.ready ∧ !loop.ready then
      let status := { s.status with state := .ready, holeReady := true, inputReady := true }
      let s := { s with status }.record .ready
      if next.point ≠ .done ∨ renamed then s.record (.published status) else s
    else s

def leaveStep (s : DaemonState) (cause : EndCause) (written : Bool) : DaemonState :=
  let status := { s.status with
    state := if s.result = 0 then .stopped else .error
    result := Int32.ofNat s.result, holeReady := false, inputReady := false }
  let s := { s with status, point := .ended }
  (if written then s.record (.published status) else s).record (.ended cause)

def step (s : DaemonState) : DaemonEvent → Option DaemonState
  | .outside system => if s.point = .head then some { s with system } else none
  | .stop =>
    let s := { s with stopped := true }.record .signalled
    match s.point with
    | .running program loop executed =>
      some { s with point := .running program { loop with stopped := true } executed }
    | _ => some s
  | .publish write => if s.point = .head then some (publishStep s write) else none
  | .openProgram calls => if s.point = .opening then daemon.openStep s calls else none
  | .execute => executeStep s
  | .foreground event renamed =>
    match s.point, event with
    | .running _ _ _, .stop => none
    | .running program loop executed, event =>
      if executed || event.setsUp then foregroundStep s program loop executed event renamed else none
    | _, _ => none
  | .close waited randoms =>
    match s.point with
    | .running _ loop _ =>
      if loop.point = .done then
        daemon.settle { s with router := loop.router } loop.action (loop.finalResult waited) randoms
      else none
    | _ => none
  | .leave written =>
    match s.point with
    | .leaving cause => some (leaveStep s cause written)
    | _ => none

end SessionDaemon

def sessionProcess (daemon : SessionDaemon) : Process DaemonState DaemonEvent where
  step := daemon.step

end LvglPlatform
