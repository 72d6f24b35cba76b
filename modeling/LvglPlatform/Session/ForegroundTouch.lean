import LvglPlatform.Session.GracefulExit

/-! The touch frames of a session: one router serves every program that comes to the foreground. -/

namespace LvglPlatform

open Foundation

structure ForegroundTurn where
  program : ForegroundProgram
  events : List ForegroundEvent

structure TurnOutcome where
  router : TouchRouter
  final : Foreground
  deriving DecidableEq

/-- The turns of a session; a program comes to the foreground when the loop over the last is done. -/
def sessionRun : TouchRouter → List ForegroundTurn → Option (List TurnOutcome)
  | _, [] => some []
  | router, turn :: turns =>
    ((foregroundProcess turn.program).run (.start router) turn.events).bind fun final =>
      if turns = [] ∨ final.point = .done then
        (sessionRun final.router turns).map fun outcomes => ⟨router, final⟩ :: outcomes
      else none

/-- Steps in which a frame that the router has accepted does not reach the program. -/
def ForegroundEvent.losesFrame : ForegroundEvent → Bool
  | .touch _ false => true
  | _ => false

namespace Foreground

variable {program : ForegroundProgram} {s t : Foreground} {e : ForegroundEvent} {contact : UInt32}
  {router : TouchRouter}

/-- The frames a program has got continue the strokes in progress when it came to the foreground,
up to the strokes in progress now. -/
def Continues (router : TouchRouter) (contact : UInt32) (s : Foreground) : Prop :=
  strokeRun phaseMark (router.contacts.active contact) (contactPhases contact s.forwarded) =
    some (s.router.contacts.active contact)

lemma continues_start : Continues router contact (start router) := rfl

lemma forwarded_kept (hkept : t.forwarded = s.forwarded) (hrouter : t.router = s.router)
    (h : Continues router contact s) : Continues router contact t := by
  rw [Continues, hkept, hrouter]
  exact h

lemma Continues.step (hcontact : contact ≤ maxTouchContactId) (h : Continues router contact s)
    (hsent : e.losesFrame = false) (hstep : s.step program e = some t) :
    Continues router contact t := by
  cases step_moves hstep with
  | touchRejected datagram sent error hpoint hready hroute =>
    have hsame := route_strokes s.router datagram hcontact
    rw [hroute] at hsame
    rw [Continues, ← Option.some.inj hsame]
    exact h
  | touchForwarded datagram frame hpoint hready hroute =>
    have hnext := route_strokes s.router datagram hcontact
    rw [hroute] at hnext
    rw [Continues, contactPhases_append, strokeRun_append, h]
    exact hnext
  | touchBroken datagram frame => cases hsent
  | polled result => cases result <;> exact forwarded_kept rfl rfl h
  | _ => exact forwarded_kept rfl rfl h

lemma Continues.run (hcontact : contact ≤ maxTouchContactId) {events : List ForegroundEvent}
    (hsent : ∀ e ∈ events, e.losesFrame = false)
    (hrun : (foregroundProcess program).run (start router) events = some t) :
    Continues router contact t := by
  have hevents : (foregroundProcess program).Along (fun _ e => e.losesFrame = false)
      (start router) events := Process.along_of_forall fun e he _ => hsent e he
  have hinvariant : ∀ s e t, Continues router contact s → e.losesFrame = false →
      s.step program e = some t → Continues router contact t :=
    fun s e t h hsent hstep => h.step hcontact hsent hstep
  exact Process.run_invariant hinvariant continues_start hevents hrun

/-- A frame that does not reach the program is the last the loop looks at. -/
def Stroked (router : TouchRouter) (contact : UInt32) (s : Foreground) : Prop :=
  Continues router contact s ∨
    s.point = .done ∧ ∃ active, strokeRun phaseMark (router.contacts.active contact)
      (contactPhases contact s.forwarded) = some active

lemma Stroked.step (hcontact : contact ≤ maxTouchContactId) (h : Stroked router contact s)
    (hstep : s.step program e = some t) : Stroked router contact t := by
  rcases h with hcontinues | ⟨hdone, active, hactive⟩
  · by_cases hlost : e.losesFrame = true
    · cases step_moves hstep with
      | touchBroken datagram frame => exact Or.inr ⟨rfl, _, hcontinues⟩
      | touchQuiet datagram sent => exact Or.inl (forwarded_kept rfl rfl hcontinues)
      | touchRejected datagram sent error hpoint hready hroute =>
        have hsame := route_strokes s.router datagram hcontact
        rw [hroute] at hsame
        refine Or.inl ?_
        rw [Continues, ← Option.some.inj hsame]
        exact hcontinues
      | _ => cases hlost
    · exact Or.inl (hcontinues.step hcontact (by simpa using hlost) hstep)
  · obtain ⟨hpoint, -, -, hforwarded⟩ := step_done hdone hstep
    exact Or.inr ⟨hpoint, active, by rw [hforwarded]; exact hactive⟩

lemma Stroked.run (hcontact : contact ≤ maxTouchContactId) {events : List ForegroundEvent}
    (hrun : (foregroundProcess program).run (start router) events = some t) :
    ∃ active, strokeRun phaseMark (router.contacts.active contact)
      (contactPhases contact t.forwarded) = some active := by
  have hstroked : Stroked router contact t :=
    Process.run_keeps (fun s e t h hstep => h.step hcontact hstep) (Or.inl continues_start) hrun
  rcases hstroked with hcontinues | ⟨-, hactive⟩
  · exact ⟨_, hcontinues⟩
  · exact hactive

end Foreground

lemma sessionRun_cons {router : TouchRouter} {turn : ForegroundTurn} {turns : List ForegroundTurn}
    {outcomes : List TurnOutcome} (h : sessionRun router (turn :: turns) = some outcomes) :
    ∃ final rest, (foregroundProcess turn.program).run (.start router) turn.events = some final ∧
      sessionRun final.router turns = some rest ∧ outcomes = ⟨router, final⟩ :: rest := by
  rw [sessionRun] at h
  obtain ⟨final, hfinal, hnext⟩ := Option.bind_eq_some_iff.mp h
  obtain ⟨-, hmap⟩ := Option.ite_none_right_eq_some.mp hnext
  obtain ⟨rest, hrest, houtcomes⟩ := Option.map_eq_some_iff.mp hmap
  exact ⟨final, rest, hfinal, hrest, houtcomes.symm⟩

lemma turn_strokes {router : TouchRouter} {turns : List ForegroundTurn} {outcomes : List TurnOutcome}
    (hrun : sessionRun router turns = some outcomes) {contact : UInt32}
    (hcontact : contact ≤ maxTouchContactId) {outcome : TurnOutcome} (hmem : outcome ∈ outcomes) :
    ∃ active, strokeRun phaseMark (outcome.router.contacts.active contact)
      (contactPhases contact outcome.final.forwarded) = some active := by
  induction turns generalizing router outcomes with
  | nil =>
    obtain rfl := Option.some.inj hrun
    cases hmem
  | cons turn turns ih =>
    obtain ⟨final, rest, hfinal, hrest, rfl⟩ := sessionRun_cons hrun
    rcases List.mem_cons.mp hmem with rfl | hlater
    · exact Foreground.Stroked.run hcontact hfinal
    · exact ih hrest hlater

def sessionFrames (outcomes : List TurnOutcome) : List TouchFrame :=
  outcomes.flatMap fun outcome => outcome.final.forwarded

lemma session_strokes {router : TouchRouter} {turns : List ForegroundTurn}
    {outcomes : List TurnOutcome} (hrun : sessionRun router turns = some outcomes) {contact : UInt32}
    (hcontact : contact ≤ maxTouchContactId)
    (hsent : ∀ turn ∈ turns, ∀ e ∈ turn.events, e.losesFrame = false) :
    ∃ active, strokeRun phaseMark (router.contacts.active contact)
      (contactPhases contact (sessionFrames outcomes)) = some active := by
  induction turns generalizing router outcomes with
  | nil =>
    obtain rfl := Option.some.inj hrun
    exact ⟨_, rfl⟩
  | cons turn turns ih =>
    obtain ⟨final, rest, hfinal, hrest, rfl⟩ := sessionRun_cons hrun
    obtain ⟨hturn, hturns⟩ := List.forall_mem_cons.mp hsent
    have hcontinues := Foreground.Continues.run hcontact hturn hfinal
    obtain ⟨active, hactive⟩ := ih hrest hturns
    refine ⟨active, ?_⟩
    rw [sessionFrames, List.flatMap_cons, contactPhases_append, strokeRun_append, hcontinues]
    exact hactive

/-- The strokes of a contact belong to the session: a program gets the rest of a stroke in progress
when it came to the foreground and whole strokes of every other contact, and what all the programs
get together is again a sequence of strokes if no frame is lost. -/
theorem session_touch_strokes {nonce : UInt64} {width height : ℤ} {turns : List ForegroundTurn}
    {outcomes : List TurnOutcome} (hrun : sessionRun (.new nonce width height) turns = some outcomes)
    {contact : UInt32} (hcontact : contact ≤ maxTouchContactId) :
    (∀ outcome ∈ outcomes,
      if outcome.router.contacts.active contact then
        StrokePrefix phaseMark (.start :: contactPhases contact outcome.final.forwarded)
      else StrokePrefix phaseMark (contactPhases contact outcome.final.forwarded)) ∧
    ((∀ turn ∈ turns, ∀ e ∈ turn.events, e.losesFrame = false) →
      StrokePrefix phaseMark (contactPhases contact (sessionFrames outcomes))) := by
  refine ⟨?_, ?_⟩
  · intro outcome hmem
    obtain ⟨active, hactive⟩ := turn_strokes hrun hcontact hmem
    cases hopen : outcome.router.contacts.active contact with
    | false =>
      rw [hopen] at hactive
      exact (strokePrefix_iff phaseMark_closing).mpr ⟨active, hactive⟩
    | true =>
      rw [hopen] at hactive
      exact (strokePrefix_iff phaseMark_closing).mpr ⟨active, hactive⟩
  · intro hsent
    obtain ⟨active, hactive⟩ := session_strokes hrun hcontact hsent
    have hidle : (TouchRouter.new nonce width height).contacts.active contact = false := by
      simp [TouchRouter.new, TouchContactGuard.active]
    rw [hidle] at hactive
    exact (strokePrefix_iff phaseMark_closing).mpr ⟨active, hactive⟩

def touchTurn (datagram : TouchDatagram) : List ForegroundEvent :=
  [.poll (.returned true false), .control true, .touch datagram true, .storage true, .installer true,
    .deadline false]

def sampleTouch (sequence : UInt64) (phase : TouchPhase) : TouchDatagram where
  bytes := encodeTouchFrame
    { sessionNonce := 1, sequence, monotonicUs := 5, phase, contactId := 0, x := 3, y := 4, flags := 0 }
  nowMonotonicUs := 6

def touchedEvents (commands : List Bytes) (datagram : TouchDatagram) : List ForegroundEvent :=
  .sendControl (encodeSessionControl {}) :: idleTurn ++ commands.map .sendControl ++
    touchTurn datagram ++ [.reap]

def interruptedTouch : List ForegroundTurn :=
  [⟨sampleProgram, touchedEvents [homePacket] (sampleTouch 1 .start)⟩,
    ⟨{ desktop := true }, touchedEvents [] (sampleTouch 2 .move)⟩]

lemma interruptedTouch_phases :
    (sessionRun (.new 1 960 266) interruptedTouch).map (fun outcomes =>
      outcomes.map fun outcome => contactPhases 0 outcome.final.forwarded) =
      some [[.start], [.move]] := by
  decide +kernel

theorem move_reaches_later_program :
    ∃ (turns : List ForegroundTurn) (outcomes : List TurnOutcome) (outcome : TurnOutcome),
      sessionRun (.new 1 960 266) turns = some outcomes ∧ outcome ∈ outcomes ∧
        contactPhases 0 outcome.final.forwarded = [.move] ∧
        ¬ StrokePrefix phaseMark (contactPhases 0 outcome.final.forwarded) := by
  obtain ⟨outcomes, hrun, hphases⟩ := Option.map_eq_some_iff.mp interruptedTouch_phases
  have hmem : [TouchPhase.move] ∈
      outcomes.map fun outcome => contactPhases 0 outcome.final.forwarded := by
    rw [hphases]
    simp
  obtain ⟨outcome, houtcome, hmove⟩ := List.mem_map.mp hmem
  refine ⟨interruptedTouch, outcomes, outcome, hrun, houtcome, hmove, ?_⟩
  rw [hmove]
  intro hprefix
  have hopening := hprefix.head phaseMark_closing
  cases hopening

theorem interrupted_touch_strokes :
    ∃ outcomes, sessionRun (.new 1 960 266) interruptedTouch = some outcomes ∧
      (∀ outcome ∈ outcomes,
        if outcome.router.contacts.active 0 then
          StrokePrefix phaseMark (.start :: contactPhases 0 outcome.final.forwarded)
        else StrokePrefix phaseMark (contactPhases 0 outcome.final.forwarded)) ∧
      StrokePrefix phaseMark (contactPhases 0 (sessionFrames outcomes)) := by
  obtain ⟨outcomes, hrun, -⟩ := Option.map_eq_some_iff.mp interruptedTouch_phases
  obtain ⟨hturns, hsession⟩ := session_touch_strokes hrun (show (0 : UInt32) ≤ maxTouchContactId by decide)
  exact ⟨outcomes, hrun, hturns, hsession (by decide)⟩

end LvglPlatform
