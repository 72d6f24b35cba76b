import LvglPlatform.Ipc.TouchProtocol
import LvglPlatform.Profile.Transform

namespace LvglPlatform

open Foundation

structure RuntimeProfile where
  drmDevice : Bytes
  physicalWidth : ℤ
  physicalHeight : ℤ
  logicalWidth : ℤ
  logicalHeight : ℤ
  touchCrossAxisOffset : ℤ

def rawTouchToLogical (raw : Point) (profile : RuntimeProfile) : Point :=
  ⟨clamp (profile.physicalHeight - 1 - raw.y) 0 (profile.logicalWidth - 1),
    clamp (raw.x - profile.touchCrossAxisOffset) 0 (profile.logicalHeight - 1)⟩

structure PointerState where
  point : Point := {}
  pressed : Bool := false
  changed : Bool := false
  rawX : ℤ := 0
  rawY : ℤ := 0
  deriving DecidableEq

inductive InputEvent
  | trackingId (value : ℤ)
  | positionX (value : ℤ)
  | positionY (value : ℤ)
  | touchKey (value : ℤ)
  | other

/-- The backend, with the datagrams and the events that wait for it. -/
structure InputBackend where
  profile : RuntimeProfile
  opened : Bool := false
  forwarded : Bool := false
  minX : ℤ := 0
  maxX : ℤ := 480
  minY : ℤ := 0
  maxY : ℤ := 960
  pointer : PointerState := {}
  datagrams : List Bytes := []
  events : List InputEvent := []

def PointerState.frame (_ : PointerState) (frame : TouchFrame) : PointerState where
  point := ⟨frame.x, frame.y⟩
  pressed := frame.phase = .start || frame.phase = .move
  changed := true
  rawX := frame.x
  rawY := frame.y

/-- The loop over the datagrams; those that are left wait for the next poll. -/
def pollForwarded (profile : RuntimeProfile) : PointerState → List Bytes → PointerState × List Bytes
  | pointer, [] => (pointer, [])
  | pointer, bytes :: datagrams =>
    -- an empty datagram ends the loop as an error does
    if bytes = [] then (pointer, datagrams)
    else match decodeTouchFrame bytes profile.logicalWidth profile.logicalHeight with
      | .error _ => pollForwarded profile pointer datagrams
      | .ok frame =>
        if frame.contactId ≠ 0 then pollForwarded profile pointer datagrams
        else pollForwarded profile (pointer.frame frame) datagrams

namespace InputBackend

/-- A raw coordinate in the range of an axis, scaled to a size. The `int32_t` arithmetic wraps as it does on
the target; the language leaves it open. -/
def scaleAxis (raw low high size : ℤ) : ℤ :=
  if low = high then raw
  else (((raw - low).bmod (2 ^ 32) * size).bmod (2 ^ 32)).tdiv ((high - low).bmod (2 ^ 32))

def mapRaw (backend : InputBackend) (rawX rawY : ℤ) : Point :=
  rawTouchToLogical
    ⟨scaleAxis rawX backend.minX backend.maxX backend.profile.physicalWidth,
      scaleAxis rawY backend.minY backend.maxY backend.profile.physicalHeight⟩ backend.profile

def event (backend : InputBackend) (pointer : PointerState) : InputEvent → PointerState
  | .trackingId value => { pointer with pressed := value ≥ 0, changed := true }
  | .positionX value =>
    { pointer with rawX := value, point := backend.mapRaw value pointer.rawY, changed := true }
  | .positionY value =>
    { pointer with rawY := value, point := backend.mapRaw pointer.rawX value, changed := true }
  | .touchKey value => { pointer with pressed := value ≠ 0, changed := true }
  | .other => pointer

def poll (backend : InputBackend) : InputBackend :=
  if !backend.opened then backend
  else
    let pointer := { backend.pointer with changed := false }
    if backend.forwarded then
      let (pointer, datagrams) := pollForwarded backend.profile pointer backend.datagrams
      { backend with pointer, datagrams }
    else { backend with pointer := backend.events.foldl backend.event pointer, events := [] }

end InputBackend

structure IndevData where
  point : Point
  pressed : Bool
  deriving DecidableEq

def inputRead (backend : InputBackend) : IndevData × InputBackend :=
  let backend := backend.poll
  (⟨backend.pointer.point, backend.pointer.pressed⟩, backend)

def inputReads : InputBackend → List (List Bytes) → List IndevData
  | _, [] => []
  | backend, arrived :: polls =>
    let (data, backend) := inputRead { backend with datagrams := backend.datagrams ++ arrived }
    data :: inputReads backend polls

structure FirstContact (profile : RuntimeProfile) (frame : TouchFrame) : Prop where
  valid : validTouchFrame frame profile.logicalWidth profile.logicalHeight = true
  contact : frame.contactId = 0

section

variable {profile : RuntimeProfile} {pointer : PointerState} {frames : List TouchFrame}
  (hwidth : profile.logicalWidth < 2 ^ 31) (hheight : profile.logicalHeight < 2 ^ 31)

include hwidth hheight

lemma pollForwarded_encode (h : ∀ frame ∈ frames, FirstContact profile frame) :
    pollForwarded profile pointer (frames.map encodeTouchFrame) = (frames.foldl PointerState.frame pointer, []) := by
  induction frames generalizing pointer with
  | nil => rfl
  | cons frame frames ih =>
    obtain ⟨⟨hvalid, hcontact⟩, hframes⟩ := List.forall_mem_cons.mp h
    have hlength : (encodeTouchFrame frame).length = touchFrameWireSize := by
      simp [encodeTouchFrame, touchFields, touchFrameWireSize]
    rw [List.map_cons, pollForwarded, if_neg (List.ne_nil_of_length_pos (by rw [hlength]; decide)),
      decodeTouchFrame_encode hvalid hwidth hheight]
    dsimp only
    rw [if_neg (not_not.mpr hcontact), ih hframes, List.foldl_cons]

end

lemma pressed_frames {active final : Bool} {pointer : PointerState} {frames : List TouchFrame}
    (hpointer : pointer.pressed = active)
    (h : strokeRun phaseMark active (frames.map TouchFrame.phase) = some final) :
    (frames.foldl PointerState.frame pointer).pressed = final := by
  induction frames generalizing active pointer with
  | nil => exact hpointer.trans (Option.some.inj h)
  | cons frame frames ih =>
    rw [List.map_cons, strokeRun] at h
    cases hstep : strokeStep phaseMark active frame.phase with
    | none => simp [hstep] at h
    | some next =>
      rw [hstep] at h
      refine ih ?_ h
      change (decide (frame.phase = .start) || decide (frame.phase = .move)) = next
      rw [strokeStep] at hstep
      cases hphase : frame.phase <;> cases active <;> simp [hphase, phaseMark] at hstep ⊢ <;> exact hstep

structure Forwarding (backend : InputBackend) : Prop where
  opened : backend.opened = true
  forwarded : backend.forwarded = true
  drained : backend.datagrams = []
  width : backend.profile.logicalWidth < 2 ^ 31
  height : backend.profile.logicalHeight < 2 ^ 31

lemma Forwarding.inputRead {backend : InputBackend} (h : Forwarding backend) {frames : List TouchFrame}
    (hframes : ∀ frame ∈ frames, FirstContact backend.profile frame) :
    inputRead { backend with datagrams := backend.datagrams ++ frames.map encodeTouchFrame } =
      let pointer := frames.foldl PointerState.frame { backend.pointer with changed := false }
      (⟨pointer.point, pointer.pressed⟩, { backend with pointer }) := by
  rw [LvglPlatform.inputRead, InputBackend.poll]
  dsimp only
  rw [h.opened, h.forwarded, h.drained, List.nil_append, if_neg (by decide), if_pos rfl,
    pollForwarded_encode h.width h.height hframes]

lemma inputReads_pressed {backend : InputBackend} (h : Forwarding backend) {polls : List (List TouchFrame)}
    (hframes : ∀ frame ∈ polls.flatten, FirstContact backend.profile frame)
    (hlegal : ∃ final, strokeRun phaseMark backend.pointer.pressed (polls.flatten.map TouchFrame.phase) =
      some final) :
    (inputReads backend (polls.map (List.map encodeTouchFrame))).map IndevData.pressed =
      statesAfter phaseMark backend.pointer.pressed (polls.map (List.map TouchFrame.phase)) := by
  induction polls generalizing backend with
  | nil => rfl
  | cons frames polls ih =>
    obtain ⟨final, hfinal⟩ := hlegal
    rw [List.flatten_cons, List.map_append, strokeRun_append] at hfinal
    obtain ⟨next, hnext, hrest⟩ := Option.bind_eq_some_iff.mp hfinal
    rw [List.flatten_cons] at hframes
    rw [List.map_cons, inputReads, h.inputRead fun frame hframe => hframes frame (List.mem_append_left _ hframe)]
    have hpressed := @pressed_frames _ _ { backend.pointer with changed := false } _ rfl hnext
    dsimp only
    rw [List.map_cons, List.map_cons, statesAfter, hnext, Option.getD_some]
    dsimp only
    rw [hpressed]
    refine congrArg (next :: ·) ?_
    rw [← hpressed] at hrest ⊢
    exact ih ⟨h.opened, h.forwarded, h.drained, h.width, h.height⟩
      (fun frame hframe => hframes frame (List.mem_append_right _ hframe)) ⟨final, hrest⟩

lemma openings_phases (frames : List TouchFrame) :
    openings phaseMark (frames.map TouchFrame.phase) = frames.countP (·.phase = .start) := by
  rw [openings, List.countP_map]
  refine List.countP_congr fun frame _ => ?_
  cases hphase : frame.phase <;> simp [hphase, phaseMark]

lemma bounds_phases (frames : List TouchFrame) :
    bounds phaseMark (frames.map TouchFrame.phase) = frames.countP (·.phase ≠ .move) := by
  rw [bounds, List.countP_map]
  refine List.countP_congr fun frame _ => ?_
  cases hphase : frame.phase <;> simp [hphase, phaseMark]

/-- LVGL sees the button go down once for every tap if and only if no poll finds two frames that start or end
one; otherwise it sees fewer taps than there were. -/
theorem polled_taps_iff (backend : InputBackend) (polls : List (List TouchFrame)) (h : Forwarding backend)
    (hreleased : backend.pointer.pressed = false)
    (hframes : ∀ frame ∈ polls.flatten, FirstContact backend.profile frame)
    (hlegal : StrokePrefix phaseMark (polls.flatten.map TouchFrame.phase)) :
    let reads := inputReads backend (polls.map (List.map encodeTouchFrame))
    let presses := seenOpenings false (reads.map IndevData.pressed)
    let starts := polls.flatten.countP (·.phase = .start)
    presses ≤ starts ∧ (presses = starts ↔ ∀ frames ∈ polls, frames.countP (·.phase ≠ .move) ≤ 1) := by
  have hrun := (strokePrefix_iff phaseMark_closing).mp hlegal
  have hflatten : (polls.map (List.map TouchFrame.phase)).flatten = polls.flatten.map TouchFrame.phase :=
    List.map_flatten.symm
  have hseen := @seenOpenings_eq_iff _ phaseMark false (polls.map (List.map TouchFrame.phase))
    (by rwa [hflatten])
  have hpressed := inputReads_pressed h hframes (by rwa [hreleased])
  dsimp only
  rw [hflatten, openings_phases] at hseen
  rw [hpressed, hreleased]
  refine ⟨hseen.1, hseen.2.trans ?_⟩
  simp only [List.forall_mem_map, bounds_phases]

section

def tapFrame (sequence : UInt64) (phase : TouchPhase) : TouchFrame where
  sessionNonce := 7
  sequence := sequence
  monotonicUs := 1
  phase := phase
  contactId := 0
  x := 10
  y := 20
  flags := 0

def penBackend : InputBackend where
  profile := ⟨text "/dev/dri/card0", 480, 960, 960, 266, 113⟩
  opened := true
  forwarded := true

lemma penBackend_forwarding : Forwarding penBackend := ⟨rfl, rfl, rfl, by decide, by decide⟩

theorem quick_tap_lost :
    let tap := [tapFrame 1 .start, tapFrame 2 .end]
    (inputReads penBackend [tap.map encodeTouchFrame]).map IndevData.pressed = [false] ∧
      tap.countP (·.phase = .start) = 1 := by
  decide

theorem slow_taps_seen :
    let polls := [[tapFrame 1 .start, tapFrame 2 .move], [], [tapFrame 3 .end], [tapFrame 4 .start]]
    seenOpenings false ((inputReads penBackend (polls.map (List.map encodeTouchFrame))).map IndevData.pressed) =
      2 := by
  refine (polled_taps_iff penBackend _ penBackend_forwarding rfl ?_ ?_).2.mpr (by decide)
  · have hvalid : ∀ sequence phase, sequence ≠ 0 → FirstContact penBackend.profile (tapFrame sequence phase) :=
      fun sequence phase h => ⟨by simp [validTouchFrame, tapFrame, penBackend, h, maxTouchContactId], rfl⟩
    intro frame hframe
    simp only [List.flatten_cons, List.flatten_nil, List.append_nil, List.nil_append, List.cons_append,
      List.mem_cons, List.not_mem_nil, or_false] at hframe
    rcases hframe with rfl | rfl | rfl | rfl <;> exact hvalid _ _ (by decide)
  · exact (strokePrefix_iff phaseMark_closing).mpr ⟨true, by decide⟩

end

end LvglPlatform
