import LvglPlatform.Foundation.Process
import LvglPlatform.Foundation.SlotTable
import LvglPlatform.Foundation.SortUnique
import LvglPlatform.Foundation.Unicode
import LvglPlatform.Ipc.TouchProtocol

namespace LvglPlatform

open Foundation

def startPollMs : ℕ := 180

def readyPollMs : ℕ := 1000

def maxContacts : ℕ := 32

/-- A normalized result of the launcher. A size that is not finite is out of range like a large one. -/
structure LauncherResult where
  available : Bool := false
  accepted : Bool := false
  holeReady : Bool := false
  inputReady : Bool := false
  state : Bytes := text "error"
  logicalWidth : ℚ := 0
  logicalHeight : ℚ := 0
  deriving DecidableEq

/-- A touch of the host. The identifier is its text, and `none` where it is undefined or null; a coordinate
that is no finite number is `none`, one that is undefined falls back to the screen. -/
structure Touch where
  identifier : Option Units := none
  pageX : Option (Option ℚ) := none
  pageY : Option (Option ℚ) := none
  screenX : Option ℚ := none
  screenY : Option ℚ := none
  deriving DecidableEq

structure PageTouchEvent where
  touches : Option (List Touch) := none
  changedTouches : Option (List Touch) := none
  deriving DecidableEq

def touchList (value : Option (List Touch)) : List Touch := value.getD []

def touchKey (touch : Touch) (index : ℕ) : Units :=
  match touch.identifier with
  | some raw => raw
  | none => utf16 ("fallback-".toList ++ Nat.toDigits 10 index)

/-- The number of a key that is an array index: a canonical decimal below 2^32 - 1. -/
def arrayIndex (key : Units) : Option ℕ :=
  let value := key.foldl (fun n u => 10 * n + (u.toNat - 48)) 0
  if key = utf16 (Nat.toDigits 10 value) ∧ value < 4294967295 then some value else none

/-- The properties of an object in the order of `Object.keys`: the array indices in ascending order, and then
the other keys in the order in which they were added. -/
def objectKeys {α : Type} (properties : List (Units × α)) : List (Units × α) :=
  sortBy (fun property => (arrayIndex property.1).getD 0) (fun a b => a ≤ b)
      (properties.filter fun property => (arrayIndex property.1).isSome) ++
    properties.filter fun property => !(arrayIndex property.1).isSome

inductive PagePhase
  | starting
  | ready
  | error
  deriving DecidableEq

inductive LaunchPoint
  | probing
  | starting
  deriving DecidableEq

structure LaunchCall where
  generation : ℕ
  point : LaunchPoint
  deriving DecidableEq

structure PollTimer where
  generation : ℕ
  delay : ℕ
  deriving DecidableEq

structure TouchPayload where
  phase : TouchPhase
  contactId : ℕ
  x : ℚ
  y : ℚ
  deriving DecidableEq

/-- What a touch without a slot has got, and the touches that were down then. -/
inductive Placement
  | placed (key : Units) (contactId : ℕ) (down : Finset Units)
  | refused (key : Units) (down : Finset Units)
  deriving DecidableEq

structure LauncherPage where
  phase : PagePhase := .starting
  pageActive : Bool := false
  requestActive : Bool := false
  holeVisible : Bool := false
  inputReady : Bool := false
  logicalWidth : ℚ := 960
  logicalHeight : ℚ := 266
  generation : ℕ := 0
  pollTimer : Option PollTimer := none
  contactSlots : SlotTable Units maxContacts := ∅
  launches : List LaunchCall := []
  polls : List ℕ := []
  down : Finset Units := ∅
  sent : List TouchPayload := []
  placements : List Placement := []
  deriving DecidableEq

/-- Which frames the native module sends: those of the touches of an event, and the cancellations of
the contacts. -/
structure SendAnswers where
  frame : ℕ → Bool
  cancel : ℕ → Bool

namespace LauncherPage

def stopPolling (page : LauncherPage) : LauncherPage := { page with pollTimer := none }

def cancelTouches (page : LauncherPage) (cancelled : ℕ → Bool) : LauncherPage :=
  { page with
    contactSlots := ∅
    sent := page.sent ++ ((objectKeys page.contactSlots.entries).filter fun contact => cancelled contact.2).map
      fun contact => ⟨.cancel, contact.2, 0, 0⟩ }

def applyStatus (page : LauncherPage) (status : LauncherResult) : LauncherPage :=
  { page with
    logicalWidth := if 240 ≤ status.logicalWidth ∧ status.logicalWidth ≤ 4096 then status.logicalWidth
      else page.logicalWidth
    logicalHeight := if 80 ≤ status.logicalHeight ∧ status.logicalHeight ≤ 2048 then status.logicalHeight
      else page.logicalHeight
    holeVisible := status.holeReady
    inputReady := status.holeReady && status.inputReady
    phase := if status.holeReady then .ready
      else if status.state = text "error" then .error else .starting }

def showError (page : LauncherPage) (cancelled : ℕ → Bool) : LauncherPage :=
  { page.cancelTouches cancelled with holeVisible := false, inputReady := false, phase := .error }

/-- What a call has awaited no longer concerns the page. -/
def stale (page : LauncherPage) (generation : ℕ) : Bool :=
  !page.pageActive || generation ≠ page.generation

def schedulePoll (page : LauncherPage) (generation delay : ℕ) : LauncherPage :=
  if page.stopPolling.stale generation then page.stopPolling
  else { page.stopPolling with pollTimer := some ⟨generation, delay⟩ }

def beginLaunch (page : LauncherPage) : LauncherPage :=
  if page.requestActive || !page.pageActive then page
  else
    { page.stopPolling with
      requestActive := true
      holeVisible := false
      inputReady := false
      phase := .starting
      generation := page.generation + 1
      launches := page.launches ++ [⟨page.generation + 1, .probing⟩] }

/-- The `catch` of a call. -/
def catchError (page : LauncherPage) (generation : ℕ) (cancelled : ℕ → Bool) : LauncherPage :=
  if page.stale generation then page else page.showError cancelled

/-- The `finally` of a launch call, after which the call is no longer in flight. -/
def endLaunch (page : LauncherPage) (call : LaunchCall) : LauncherPage :=
  { page with
    launches := page.launches.erase call
    requestActive := if call.generation = page.generation then false else page.requestActive }

def launchDelay (page : LauncherPage) : ℕ := if page.holeVisible then readyPollMs else startPollMs

def resumeProbe (page : LauncherPage) (generation : ℕ) (answer : Option LauncherResult)
    (cancelled : ℕ → Bool) : LauncherPage :=
  let call : LaunchCall := ⟨generation, .probing⟩
  match answer with
  | none => (page.catchError generation cancelled).endLaunch call
  | some probe =>
    if page.stale generation then page.endLaunch call
    else
      let page := page.applyStatus probe
      if !probe.available then (page.catchError generation cancelled).endLaunch call
      else if !probe.holeReady then
        { page with launches := page.launches.erase call ++ [⟨generation, .starting⟩] }
      else (page.schedulePoll generation page.launchDelay).endLaunch call

/-- A start that was not accepted, and has not met a session that runs. -/
def startRefused (started : LauncherResult) : Bool :=
  !started.accepted && started.state ≠ text "launching" && started.state ≠ text "starting" &&
    started.state ≠ text "ready"

def resumeStart (page : LauncherPage) (generation : ℕ) (answer : Option LauncherResult)
    (cancelled : ℕ → Bool) : LauncherPage :=
  let call : LaunchCall := ⟨generation, .starting⟩
  match answer with
  | none => (page.catchError generation cancelled).endLaunch call
  | some started =>
    if page.stale generation then page.endLaunch call
    else
      let page := page.applyStatus started
      if startRefused started then (page.catchError generation cancelled).endLaunch call
      else (page.schedulePoll generation page.launchDelay).endLaunch call

def pollDue (page : LauncherPage) (timer : PollTimer) : LauncherPage :=
  let page := page.stopPolling
  if page.stale timer.generation then page
  else { page with polls := page.polls ++ [timer.generation] }

def resumePoll (page : LauncherPage) (generation : ℕ) (answer : Option LauncherResult)
    (cancelled : ℕ → Bool) : LauncherPage :=
  let page := { page with polls := page.polls.erase generation }
  if page.stale generation then page
  else match answer with
    | none => page.showError cancelled
    | some status => (page.applyStatus status).schedulePoll generation
        (if status.holeReady then readyPollMs else startPollMs)

def onShow (page : LauncherPage) : LauncherPage := beginLaunch { page with pageActive := true }

def onHide (page : LauncherPage) (cancelled : ℕ → Bool) : LauncherPage :=
  { (page.cancelTouches cancelled).stopPolling with
    pageActive := false
    generation := page.generation + 1
    holeVisible := false
    inputReady := false }

def onUnload (page : LauncherPage) (cancelled : ℕ → Bool) : LauncherPage :=
  { page.onHide cancelled with requestActive := false }

def retry (page : LauncherPage) : LauncherPage := if page.requestActive then page else page.beginLaunch

def clampPoint (size raw : ℚ) : ℚ := max 0 (min (size - 1) (raw + 1 / 2).floor)

def pointFor (page : LauncherPage) (touch : Touch) : Option (ℚ × ℚ) :=
  match touch.pageX.getD touch.screenX, touch.pageY.getD touch.screenY with
  | some rawX, some rawY => some (clampPoint page.logicalWidth rawX, clampPoint page.logicalHeight rawY)
  | _, _ => none

/-- The rest of `emitTouch` for a touch that has a contact; an error leaves the page as it is. -/
def sendContact (page : LauncherPage) (phase : TouchPhase) (release answer : Bool) (touch : Touch)
    (key : Units) (contactId : ℕ) : Except LauncherPage LauncherPage :=
  match page.pointFor touch with
  | none => .error page
  | some (x, y) =>
    if !answer then .error page
    else .ok { page with
      sent := page.sent ++ [⟨phase, contactId, x, y⟩]
      contactSlots := if release then page.contactSlots.release key else page.contactSlots }

def place (page : LauncherPage) (key : Units) (contactId : ℕ) (slots : SlotTable Units maxContacts) :
    LauncherPage :=
  { page with
    contactSlots := slots
    placements := page.placements ++ [.placed key contactId page.down] }

def refuse (page : LauncherPage) (key : Units) : LauncherPage :=
  { page with placements := page.placements ++ [.refused key page.down] }

section

-- the keys under which an object finds something before any is set, such as `constructor`
variable (inherited : Units → Bool)

def emitTouch (page : LauncherPage) (phase : TouchPhase) (release answer : Bool) (touch : Touch)
    (index : ℕ) : Except LauncherPage LauncherPage :=
  let key := touchKey touch index
  -- what is found under such a key is not a number, and the module does not take it for a contact
  if inherited key then .error page
  else if phase = .start then
    match page.contactSlots.slot? key, page.contactSlots.allocate key with
    | some _, some (contactId, _) => page.sendContact phase release answer touch key contactId
    | none, some (contactId, slots) =>
      (page.place key contactId slots).sendContact phase release answer touch key contactId
    | _, none => .error (page.refuse key)
  else match page.contactSlots.slot? key with
    | none => .ok page
    | some contactId => page.sendContact phase release answer touch key contactId

def emitTouches (phase : TouchPhase) (release : Bool) (answers : ℕ → Bool) :
    LauncherPage → List Touch → ℕ → Except LauncherPage LauncherPage
  | page, [], _ => .ok page
  | page, touch :: touches, index =>
    match page.emitTouch inherited phase release (answers index) touch index with
    | .error page => .error page
    | .ok page => emitTouches phase release answers page touches (index + 1)

def forwardTouches (page : LauncherPage) (phase : TouchPhase) (value : Option (List Touch))
    (release : Bool) (answers : SendAnswers) : LauncherPage :=
  if !page.inputReady then page
  else match emitTouches inherited phase release answers.frame page (touchList value) 0 with
    | .ok page => page
    | .error page => cancelTouches { page with inputReady := false } answers.cancel

def onTouchStart (page : LauncherPage) (event : PageTouchEvent) (answers : SendAnswers) : LauncherPage :=
  page.forwardTouches inherited .start (event.changedTouches.or event.touches) false answers

def onTouchMove (page : LauncherPage) (event : PageTouchEvent) (answers : SendAnswers) : LauncherPage :=
  page.forwardTouches inherited .move event.touches false answers

def onTouchEnd (page : LauncherPage) (event : PageTouchEvent) (answers : SendAnswers) : LauncherPage :=
  page.forwardTouches inherited .end event.changedTouches true answers

end

end LauncherPage

def touchKeys (touches : List Touch) : Finset Units :=
  (touches.mapIdx fun index touch => touchKey touch index).toFinset

inductive PageEvent
  | show
  | hide (cancelled : ℕ → Bool)
  | unload (cancelled : ℕ → Bool)
  | retry
  | probed (generation : ℕ) (answer : Option LauncherResult) (cancelled : ℕ → Bool)
  | started (generation : ℕ) (answer : Option LauncherResult) (cancelled : ℕ → Bool)
  | pollDue
  | polled (generation : ℕ) (answer : Option LauncherResult) (cancelled : ℕ → Bool)
  | touchStart (event : PageTouchEvent) (answers : SendAnswers)
  | touchMove (event : PageTouchEvent) (answers : SendAnswers)
  | touchEnd (event : PageTouchEvent) (answers : SendAnswers)
  | touchCancel (event : PageTouchEvent) (cancelled : ℕ → Bool)

namespace LauncherPage

def step (inherited : Units → Bool) (page : LauncherPage) : PageEvent → Option LauncherPage
  | .show => some page.onShow
  | .hide cancelled => some (page.onHide cancelled)
  | .unload cancelled => some (page.onUnload cancelled)
  | .retry => some page.retry
  | .probed generation answer cancelled =>
    if ⟨generation, .probing⟩ ∈ page.launches then some (page.resumeProbe generation answer cancelled)
    else none
  | .started generation answer cancelled =>
    if ⟨generation, .starting⟩ ∈ page.launches then some (page.resumeStart generation answer cancelled)
    else none
  | .pollDue => page.pollTimer.map page.pollDue
  | .polled generation answer cancelled =>
    if generation ∈ page.polls then some (page.resumePoll generation answer cancelled) else none
  | .touchStart event answers =>
    let started := touchKeys (touchList (event.changedTouches.or event.touches))
    some (onTouchStart inherited { page with down := page.down ∪ started } event answers)
  | .touchMove event answers => some (page.onTouchMove inherited event answers)
  | .touchEnd event answers =>
    let ended := touchKeys (touchList event.changedTouches)
    some (onTouchEnd inherited { page with down := page.down \ ended } event answers)
  | .touchCancel event cancelled =>
    let ended := touchKeys (touchList event.changedTouches)
    some (cancelTouches { page with down := page.down \ ended } cancelled)

end LauncherPage

def launcherPageProcess (inherited : Units → Bool) : Process LauncherPage PageEvent where
  step := LauncherPage.step inherited

end LvglPlatform
