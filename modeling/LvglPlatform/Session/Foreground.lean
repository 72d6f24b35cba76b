import LvglPlatform.Foundation.Process
import LvglPlatform.Ipc.SessionControl
import LvglPlatform.Session.TouchRouter

/-! `run_foreground`: the loop of the session over one foreground program, interleaved with the
steps of that program. -/

namespace LvglPlatform

open Foundation

inductive ForegroundAction
  | failure
  | exitSession
  | launch (appId : Bytes)
  | home
  deriving DecidableEq

structure ForegroundProgram where
  desktop : Bool
  privateStorage : Bool := false
  installer : Bool := false

/-- Where the loop stands; `done` is after it. -/
inductive LoopPoint
  | poll
  | control
  | touch
  | storage
  | installer
  | deadline
  | reap
  | done
  deriving DecidableEq

/-- The descriptors the last `poll` reported. -/
structure Polled where
  control : Bool := false
  touch : Bool := false
  storage : Bool := false
  installer : Bool := false
  deriving DecidableEq

inductive PollResult
  | failed
  | interrupted
  | returned (touch installer : Bool)
  deriving DecidableEq

structure Foreground where
  point : LoopPoint := .poll
  polled : Polled := {}
  ready : Bool := false
  requested : Bool := false
  exited : Bool := false
  stopped : Bool := false
  action : ForegroundAction := .failure
  result : ℕ := 0
  router : TouchRouter
  forwarded : List TouchFrame := []
  /-- The packets the program has sent and the session has not received. -/
  control : List Bytes := []
  storage : List Bytes := []
  /-- The storage packets the broker has received. -/
  handled : List Bytes := []
  child : Option ℕ := none
  deriving DecidableEq

/-- The steps of the program, the stop signal, and the steps of the loop with what the system
answers in them. -/
inductive ForegroundEvent
  | sendControl (packet : Bytes)
  | sendStorage (packet : Bytes)
  | exit (status : ℕ)
  | stop
  | poll (result : PollResult)
  | control (statusWritten : Bool)
  | touch (datagram : TouchDatagram) (sent : Bool)
  | storage (answered : Bool)
  | installer (answered : Bool)
  | deadline (passed : Bool)
  | reap

def builtInProgramPath (app : Bytes) : Option Bytes :=
  if app = text "top.lvgl.desktop" then some (text "bin/lvgl-desktop")
  else if app = text "top.lvgl.game2048" then some (text "bin/lvgl-2048")
  else if app = text "top.lvgl.installer" then some (text "bin/lvgl-installer")
  else none

def commandAction (program : ForegroundProgram) (message : SessionControlMessage) :
    Option ForegroundAction :=
  match message.command with
  | .ready => none
  | .exitSession => some .exitSession
  | .launchApplication =>
    if program.desktop ∧ message.appId ≠ text "top.lvgl.desktop" ∧
        ((builtInProgramPath message.appId).isSome ∨ !reservedApplicationId message.appId) then
      some (.launch message.appId)
    else none
  | .home => if program.desktop then none else some .home

namespace Foreground

def start (router : TouchRouter) : Foreground := { router }

def broken (s : Foreground) (result : ℕ) : Foreground := { s with result, point := .done }

/-- A poll reports a socket that holds a packet or whose other end is closed. -/
def pollStep (program : ForegroundProgram) (s : Foreground) : PollResult → Foreground
  | .failed => s.broken 78
  | .interrupted => { s with polled := {}, point := .control }
  | .returned touch installer => { s with
      polled := {
        control := s.control ≠ [] ∨ s.child.isSome
        touch := s.ready && touch
        storage := program.privateStorage && (s.storage ≠ [] ∨ s.child.isSome)
        installer := program.installer && (installer || s.child.isSome) }
      point := .control }

def messageStep (program : ForegroundProgram) (s : Foreground) (message : SessionControlMessage)
    (statusWritten : Bool) : Foreground :=
  if message.command = .ready ∧ !s.ready then
    if statusWritten then { s with ready := true, point := .touch }
    else { s with ready := true }.broken 80
  else if !s.ready then s.broken 81
  else match commandAction program message with
    | none => s.broken 81
    | some action => { s with action, requested := true, point := .touch }

def controlStep (program : ForegroundProgram) (s : Foreground) (statusWritten : Bool) : Foreground :=
  if !s.polled.control then { s with point := .touch }
  else match s.control with
    | [] => s.broken 79
    | packet :: control =>
      let s := { s with control }
      match decodeSessionControl packet with
      | none => s.broken 79
      | some message => messageStep program s message statusWritten

def touchStep (s : Foreground) (datagram : TouchDatagram) (sent : Bool) : Foreground :=
  if !(s.ready && s.polled.touch) then { s with point := .storage }
  else
    let (routed, router) := s.router.route datagram
    let s := { s with router }
    match routed with
    | .error _ => { s with point := .storage }
    | .ok frame =>
      if sent then { s with forwarded := s.forwarded ++ [frame], point := .storage } else s.broken 82

def storageStep (s : Foreground) (answered : Bool) : Foreground :=
  if !s.polled.storage then { s with point := .installer }
  else match s.storage with
    | [] => s.broken 89
    | packet :: storage =>
      let s := { s with storage, handled := s.handled ++ [packet] }
      if answered then { s with point := .installer } else s.broken 89

def installerStep (s : Foreground) (answered : Bool) : Foreground :=
  if s.polled.installer && !answered then s.broken 91 else { s with point := .deadline }

def deadlineStep (s : Foreground) (passed : Bool) : Foreground :=
  if !s.ready && passed then s.broken 83 else { s with point := .reap }

/-- `waitpid` and the test of the loop. -/
def reapStep (s : Foreground) : Foreground :=
  let s := match s.child with
    | none => s
    | some status => { s with exited := true, result := if status = 0 then 84 else status }
  { s with point := if s.exited ∨ s.stopped ∨ s.requested then .done else .poll }

/-- The program acts until it has ended; each step of the loop waits for its turn. -/
def step (program : ForegroundProgram) (s : Foreground) : ForegroundEvent → Option Foreground
  | .sendControl packet =>
    if s.child = none then some { s with control := s.control ++ [packet] } else none
  | .sendStorage packet =>
    if s.child = none then some { s with storage := s.storage ++ [packet] } else none
  | .exit status => if s.child = none then some { s with child := some status } else none
  | .stop => some { s with stopped := true }
  | .poll result => if s.point = .poll then some (s.pollStep program result) else none
  | .control written => if s.point = .control then some (s.controlStep program written) else none
  | .touch datagram sent => if s.point = .touch then some (s.touchStep datagram sent) else none
  | .storage answered => if s.point = .storage then some (s.storageStep answered) else none
  | .installer answered => if s.point = .installer then some (s.installerStep answered) else none
  | .deadline passed => if s.point = .deadline then some (s.deadlineStep passed) else none
  | .reap => if s.point = .reap then some s.reapStep else none

inductive Moves (program : ForegroundProgram) (s : Foreground) : ForegroundEvent → Foreground → Prop
  | sendControl (packet : Bytes) (h : s.child = none) :
      Moves program s (.sendControl packet) { s with control := s.control ++ [packet] }
  | sendStorage (packet : Bytes) (h : s.child = none) :
      Moves program s (.sendStorage packet) { s with storage := s.storage ++ [packet] }
  | exit (status : ℕ) (h : s.child = none) :
      Moves program s (.exit status) { s with child := some status }
  | stop : Moves program s .stop { s with stopped := true }
  | polled (result : PollResult) (h : s.point = .poll) :
      Moves program s (.poll result) (s.pollStep program result)
  | controlQuiet (written : Bool) (h : s.point = .control) (hpolled : s.polled.control = false) :
      Moves program s (.control written) { s with point := .touch }
  | controlClosed (written : Bool) (h : s.point = .control) (hpolled : s.polled.control = true)
      (hempty : s.control = []) : Moves program s (.control written) (s.broken 79)
  | controlBroken (written : Bool) (packet : Bytes) (control : List Bytes) (ready : Bool) (result : ℕ)
      (h : s.point = .control) (hpolled : s.polled.control = true)
      (hcontrol : s.control = packet :: control) :
      Moves program s (.control written) ({ s with control, ready }.broken result)
  | readyAccepted (packet : Bytes) (control : List Bytes) (h : s.point = .control)
      (hpolled : s.polled.control = true) (hcontrol : s.control = packet :: control)
      (hready : s.ready = false) :
      Moves program s (.control true) { s with control, ready := true, point := .touch }
  | commandTaken (written : Bool) (packet : Bytes) (control : List Bytes)
      (message : SessionControlMessage) (action : ForegroundAction) (h : s.point = .control)
      (hpolled : s.polled.control = true) (hcontrol : s.control = packet :: control)
      (hready : s.ready = true) (hmessage : decodeSessionControl packet = some message)
      (haction : commandAction program message = some action) :
      Moves program s (.control written)
        { s with control, action, requested := true, point := .touch }
  | touchQuiet (datagram : TouchDatagram) (sent : Bool) (h : s.point = .touch) :
      Moves program s (.touch datagram sent) { s with point := .storage }
  | touchRejected (datagram : TouchDatagram) (sent : Bool) (error : TouchError) (h : s.point = .touch)
      (hready : s.ready = true) (hroute : (s.router.route datagram).1 = .error error) :
      Moves program s (.touch datagram sent)
        { s with router := (s.router.route datagram).2, point := .storage }
  | touchForwarded (datagram : TouchDatagram) (frame : TouchFrame) (h : s.point = .touch)
      (hready : s.ready = true) (hroute : (s.router.route datagram).1 = .ok frame) :
      Moves program s (.touch datagram true) { s with
        router := (s.router.route datagram).2, forwarded := s.forwarded ++ [frame], point := .storage }
  | touchBroken (datagram : TouchDatagram) (frame : TouchFrame) (h : s.point = .touch)
      (hready : s.ready = true) (hroute : (s.router.route datagram).1 = .ok frame) :
      Moves program s (.touch datagram false)
        ({ s with router := (s.router.route datagram).2 }.broken 82)
  | storageQuiet (answered : Bool) (h : s.point = .storage) (hpolled : s.polled.storage = false) :
      Moves program s (.storage answered) { s with point := .installer }
  | storageClosed (answered : Bool) (h : s.point = .storage) (hpolled : s.polled.storage = true)
      (hempty : s.storage = []) : Moves program s (.storage answered) (s.broken 89)
  | storageHandled (packet : Bytes) (storage : List Bytes) (h : s.point = .storage)
      (hpolled : s.polled.storage = true) (hstorage : s.storage = packet :: storage) :
      Moves program s (.storage true)
        { s with storage, handled := s.handled ++ [packet], point := .installer }
  | storageBroken (packet : Bytes) (storage : List Bytes) (h : s.point = .storage)
      (hpolled : s.polled.storage = true) (hstorage : s.storage = packet :: storage) :
      Moves program s (.storage false)
        ({ s with storage, handled := s.handled ++ [packet] }.broken 89)
  | installerPassed (answered : Bool) (h : s.point = .installer) :
      Moves program s (.installer answered) { s with point := .deadline }
  | installerBroken (h : s.point = .installer) : Moves program s (.installer false) (s.broken 91)
  | deadlinePassed (passed : Bool) (h : s.point = .deadline) :
      Moves program s (.deadline passed) { s with point := .reap }
  | deadlineBroken (h : s.point = .deadline) (hready : s.ready = false) :
      Moves program s (.deadline true) (s.broken 83)
  | reapRunning (h : s.point = .reap) (hchild : s.child = none) : Moves program s .reap
      { s with point := if s.exited ∨ s.stopped ∨ s.requested then .done else .poll }
  | reapEnded (status : ℕ) (h : s.point = .reap) (hchild : s.child = some status) :
      Moves program s .reap { s with
        exited := true, result := if status = 0 then 84 else status, point := .done }

variable {program : ForegroundProgram} {s t : Foreground} {e : ForegroundEvent}

lemma messageStep_moves {written : Bool} {packet : Bytes} {control : List Bytes}
    {message : SessionControlMessage} (h : s.point = .control) (hpolled : s.polled.control = true)
    (hcontrol : s.control = packet :: control) (hmessage : decodeSessionControl packet = some message) :
    Moves program s (.control written) (messageStep program { s with control } message written) := by
  rw [messageStep]
  split
  · rename_i hready
    cases written with
    | false => exact .controlBroken false packet control true 80 h hpolled hcontrol
    | true => exact .readyAccepted packet control h hpolled hcontrol (by simpa using hready.2)
  split
  · exact .controlBroken written packet control s.ready 81 h hpolled hcontrol
  rename_i hready
  split
  · exact .controlBroken written packet control s.ready 81 h hpolled hcontrol
  · rename_i action haction
    exact .commandTaken written packet control message action h hpolled hcontrol (by simpa using hready)
      hmessage haction

lemma step_moves (hstep : s.step program e = some t) : Moves program s e t := by
  cases e with
  | stop =>
    obtain rfl := Option.some.inj hstep
    exact .stop
  | sendControl packet =>
    obtain ⟨hchild, ht⟩ := Option.ite_none_right_eq_some.mp hstep
    obtain rfl := Option.some.inj ht
    exact .sendControl packet hchild
  | sendStorage packet =>
    obtain ⟨hchild, ht⟩ := Option.ite_none_right_eq_some.mp hstep
    obtain rfl := Option.some.inj ht
    exact .sendStorage packet hchild
  | exit status =>
    obtain ⟨hchild, ht⟩ := Option.ite_none_right_eq_some.mp hstep
    obtain rfl := Option.some.inj ht
    exact .exit status hchild
  | poll result =>
    obtain ⟨hpoint, ht⟩ := Option.ite_none_right_eq_some.mp hstep
    obtain rfl := Option.some.inj ht
    exact .polled result hpoint
  | control written =>
    obtain ⟨hpoint, ht⟩ := Option.ite_none_right_eq_some.mp hstep
    obtain rfl := Option.some.inj ht
    rw [controlStep]
    split
    · rename_i hpolled
      exact .controlQuiet written hpoint (by simpa using hpolled)
    rename_i hpolled
    have hpolled : s.polled.control = true := by simpa using hpolled
    split
    · rename_i hempty
      exact .controlClosed written hpoint hpolled hempty
    rename_i packet control hcontrol
    dsimp only
    split
    · exact .controlBroken written packet control s.ready 79 hpoint hpolled hcontrol
    · rename_i message hmessage
      exact messageStep_moves hpoint hpolled hcontrol hmessage
  | touch datagram sent =>
    obtain ⟨hpoint, ht⟩ := Option.ite_none_right_eq_some.mp hstep
    obtain rfl := Option.some.inj ht
    rw [touchStep]
    split
    · exact .touchQuiet datagram sent hpoint
    rename_i hready
    have hready : s.ready = true := by
      simp only [Bool.not_eq_true', Bool.not_eq_false, Bool.and_eq_true] at hready
      exact hready.1
    dsimp only
    split
    · rename_i error hroute
      exact .touchRejected datagram sent error hpoint hready hroute
    rename_i frame hroute
    cases sent with
    | false => exact .touchBroken datagram frame hpoint hready hroute
    | true => exact .touchForwarded datagram frame hpoint hready hroute
  | storage answered =>
    obtain ⟨hpoint, ht⟩ := Option.ite_none_right_eq_some.mp hstep
    obtain rfl := Option.some.inj ht
    rw [storageStep]
    split
    · rename_i hpolled
      exact .storageQuiet answered hpoint (by simpa using hpolled)
    rename_i hpolled
    have hpolled : s.polled.storage = true := by simpa using hpolled
    split
    · rename_i hempty
      exact .storageClosed answered hpoint hpolled hempty
    rename_i packet storage hstorage
    cases answered with
    | false => exact .storageBroken packet storage hpoint hpolled hstorage
    | true => exact .storageHandled packet storage hpoint hpolled hstorage
  | installer answered =>
    obtain ⟨hpoint, ht⟩ := Option.ite_none_right_eq_some.mp hstep
    obtain rfl := Option.some.inj ht
    rw [installerStep]
    split
    · rename_i hfailed
      obtain rfl : answered = false := by
        simp only [Bool.and_eq_true, Bool.not_eq_true'] at hfailed
        exact hfailed.2
      exact .installerBroken hpoint
    · exact .installerPassed answered hpoint
  | deadline passed =>
    obtain ⟨hpoint, ht⟩ := Option.ite_none_right_eq_some.mp hstep
    obtain rfl := Option.some.inj ht
    rw [deadlineStep]
    split
    · rename_i hlate
      simp only [Bool.and_eq_true, Bool.not_eq_true'] at hlate
      obtain ⟨hready, rfl⟩ := hlate
      exact .deadlineBroken hpoint hready
    · exact .deadlinePassed passed hpoint
  | reap =>
    obtain ⟨hpoint, ht⟩ := Option.ite_none_right_eq_some.mp hstep
    obtain rfl := Option.some.inj ht
    rw [reapStep]
    cases hchild : s.child with
    | none => exact .reapRunning hpoint hchild
    | some status =>
      have hmoved : Moves program s .reap _ := .reapEnded status hpoint hchild
      simpa [hchild] using hmoved

end Foreground

def foregroundProcess (program : ForegroundProgram) : Process Foreground ForegroundEvent where
  step := Foreground.step program

end LvglPlatform
