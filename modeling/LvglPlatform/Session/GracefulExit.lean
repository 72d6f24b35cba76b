import LvglPlatform.Session.Foreground

/-! Programs that give one command and then end: when the loop of the session takes the command
and when it takes the end for a crash. -/

namespace LvglPlatform

open Foundation

/-- Steps in which something other than the program's own exit goes wrong, and the stop signal. -/
def ForegroundEvent.fails : ForegroundEvent → Bool
  | .stop => true
  | .poll .failed => true
  | .touch _ false => true
  | .storage false => true
  | .installer false => true
  | _ => false

/-- Events among which the program gives no further command and ends with status 0 if it ends. -/
def ForegroundEvent.calm : ForegroundEvent → Bool
  | .sendControl _ => false
  | .exit status => status = 0
  | event => !event.fails

def ForegroundEvent.exits : ForegroundEvent → Bool
  | .exit _ => true
  | _ => false

/-- Whether a poll follows before a `waitpid` that finds the program ended. -/
def commandPolled : Bool → List ForegroundEvent → Bool
  | _, [] => false
  | _, .poll (.returned _ _) :: _ => true
  | _, .exit _ :: events => commandPolled true events
  | true, .reap :: _ => false
  | ended, _ :: events => commandPolled ended events

namespace Foreground

structure Consistent (s : Foreground) : Prop where
  control : s.point = .control → s.polled.control = true → s.control ≠ [] ∨ s.child.isSome
  storage : s.point = .control ∨ s.point = .touch ∨ s.point = .storage →
    s.polled.storage = true → s.storage ≠ [] ∨ s.child.isSome
  action : s.requested = false → s.action = .failure
  exited : s.exited = true → s.child.isSome

variable {program : ForegroundProgram} {s t : Foreground} {e : ForegroundEvent}

lemma consistent_broken (h : Consistent s) (result : ℕ) : Consistent (s.broken result) :=
  ⟨by simp [broken], by simp [broken], h.action, h.exited⟩

lemma Consistent.step (h : Consistent s) (hstep : s.step program e = some t) : Consistent t := by
  cases step_moves hstep with
  | sendControl packet => exact { h with control := fun _ _ => Or.inl (by simp) }
  | sendStorage packet => exact { h with storage := fun _ _ => Or.inl (by simp) }
  | exit status => exact ⟨fun _ _ => Or.inr rfl, fun _ _ => Or.inr rfl, h.action, fun _ => rfl⟩
  | stop => exact { h with }
  | polled result =>
    cases result with
    | failed => exact consistent_broken h 78
    | interrupted => exact { h with control := by simp [pollStep], storage := by simp [pollStep] }
    | returned touch installer =>
      refine ⟨?_, ?_, h.action, h.exited⟩
      · intro _ hpolled
        simpa [pollStep] using hpolled
      · intro _ hpolled
        simp only [pollStep, Bool.and_eq_true, decide_eq_true_eq] at hpolled
        exact hpolled.2
  | controlQuiet written hpoint =>
    exact { h with control := by simp, storage := fun _ => h.storage (Or.inl hpoint) }
  | controlClosed written => exact consistent_broken h 79
  | controlBroken written packet control ready result =>
    exact { h with control := by simp [broken], storage := by simp [broken] }
  | readyAccepted packet control hpoint =>
    exact { h with control := by simp, storage := fun _ => h.storage (Or.inl hpoint) }
  | commandTaken written packet control message action hpoint =>
    exact { h with
      control := by simp, storage := fun _ => h.storage (Or.inl hpoint), action := by simp }
  | touchQuiet datagram sent hpoint =>
    exact { h with control := by simp, storage := fun _ => h.storage (Or.inr (Or.inl hpoint)) }
  | touchRejected datagram sent error hpoint =>
    exact { h with control := by simp, storage := fun _ => h.storage (Or.inr (Or.inl hpoint)) }
  | touchForwarded datagram frame hpoint =>
    exact { h with control := by simp, storage := fun _ => h.storage (Or.inr (Or.inl hpoint)) }
  | touchBroken datagram frame =>
    exact { h with control := by simp [broken], storage := by simp [broken] }
  | storageQuiet answered => exact { h with control := by simp, storage := by simp }
  | storageClosed answered => exact consistent_broken h 89
  | storageHandled packet storage => exact { h with control := by simp, storage := by simp }
  | storageBroken packet storage =>
    exact { h with control := by simp [broken], storage := by simp [broken] }
  | installerPassed answered => exact { h with control := by simp, storage := by simp }
  | installerBroken => exact consistent_broken h 91
  | deadlinePassed passed => exact { h with control := by simp, storage := by simp }
  | deadlineBroken => exact consistent_broken h 83
  | reapRunning =>
    refine { h with control := ?_, storage := ?_ }
    · dsimp only
      split <;> simp
    · dsimp only
      split <;> simp
  | reapEnded status hpoint hchild =>
    exact { h with control := by simp, storage := by simp, exited := fun _ => by simp [hchild] }

lemma consistent_start (router : TouchRouter) : Consistent (start router) :=
  ⟨by simp [start], by simp [start], fun _ => rfl, by simp [start]⟩

lemma Consistent.run {events : List ForegroundEvent} (h : Consistent s)
    (hrun : (foregroundProcess program).run s events = some t) : Consistent t :=
  Process.run_keeps (fun _ _ _ hs hstep => hs.step hstep) h hrun

/-- A ready program is in the foreground, and no poll has reported what it has sent. -/
structure Unseen (queue : List Bytes) (s : Foreground) : Prop where
  point : s.point ≠ .done
  ready : s.ready = true
  requested : s.requested = false
  exited : s.exited = false
  stopped : s.stopped = false
  action : s.action = .failure
  control : s.control = queue
  polled : s.point = .control → s.polled.control = false
  storage : s.point = .control ∨ s.point = .touch ∨ s.point = .storage →
    s.polled.storage = true → s.storage ≠ []
  child : ∀ status ∈ s.child, status = 0

structure Seen (packet : Bytes) (s : Foreground) : Prop where
  point : s.point = .control
  ready : s.ready = true
  polled : s.polled.control = true
  control : s.control = [packet]

def Missed (s : Foreground) : Prop := s.point = .done ∧ s.action = .failure

def Taken (action : ForegroundAction) (s : Foreground) : Prop :=
  s.requested = true ∧ s.action = action ∧ s.ready = true ∧ s.point ≠ .control ∧ s.point ≠ .poll

lemma Unseen.step {queue : List Bytes} (h : Unseen queue s) (hcalm : e.calm = true)
    (hstep : s.step program e = some t) :
    Unseen queue t ∨ (e = .reap ∧ s.child.isSome ∧ Missed t) ∨
      ∃ touch installer, e = .poll (.returned touch installer) ∧
        t = s.pollStep program (.returned touch installer) := by
  cases step_moves hstep with
  | sendControl packet => cases hcalm
  | stop => cases hcalm
  | touchBroken datagram frame => cases hcalm
  | storageBroken packet storage => cases hcalm
  | installerBroken => cases hcalm
  | sendStorage packet => exact Or.inl { h with storage := fun _ _ => by simp }
  | exit status =>
    refine Or.inl { h with child := ?_ }
    rintro _ ⟨⟩
    simpa [ForegroundEvent.calm] using hcalm
  | polled result =>
    cases result with
    | failed => cases hcalm
    | interrupted => exact Or.inl { h with
        point := by simp [pollStep], polled := fun _ => rfl, storage := by simp [pollStep] }
    | returned touch installer => exact Or.inr (Or.inr ⟨touch, installer, rfl, rfl⟩)
  | controlQuiet written hpoint => exact Or.inl { h with
      point := by simp, polled := by simp, storage := fun _ => h.storage (Or.inl hpoint) }
  | controlClosed written hpoint hpolled => simp [h.polled hpoint] at hpolled
  | controlBroken written packet control ready result hpoint hpolled =>
    simp [h.polled hpoint] at hpolled
  | readyAccepted packet control hpoint hpolled => simp [h.polled hpoint] at hpolled
  | commandTaken written packet control message action hpoint hpolled =>
    simp [h.polled hpoint] at hpolled
  | touchQuiet datagram sent hpoint => exact Or.inl { h with
      point := by simp, polled := by simp, storage := fun _ => h.storage (Or.inr (Or.inl hpoint)) }
  | touchRejected datagram sent error hpoint => exact Or.inl { h with
      point := by simp, polled := by simp, storage := fun _ => h.storage (Or.inr (Or.inl hpoint)) }
  | touchForwarded datagram frame hpoint => exact Or.inl { h with
      point := by simp, polled := by simp, storage := fun _ => h.storage (Or.inr (Or.inl hpoint)) }
  | storageQuiet answered =>
    exact Or.inl { h with point := by simp, polled := by simp, storage := by simp }
  | storageClosed answered hpoint hpolled hempty =>
    exact absurd hempty (h.storage (Or.inr (Or.inr hpoint)) hpolled)
  | storageHandled packet storage =>
    exact Or.inl { h with point := by simp, polled := by simp, storage := by simp }
  | installerPassed answered =>
    exact Or.inl { h with point := by simp, polled := by simp, storage := by simp }
  | deadlinePassed passed =>
    exact Or.inl { h with point := by simp, polled := by simp, storage := by simp }
  | deadlineBroken hpoint hready => simp [h.ready] at hready
  | reapRunning =>
    have hstay : ¬ (s.exited = true ∨ s.stopped = true ∨ s.requested = true) := by
      simp [h.exited, h.stopped, h.requested]
    refine Or.inl { h with point := ?_, polled := ?_, storage := ?_ }
    · simp [hstay]
    · simp [hstay]
    · simp [hstay]
  | reapEnded status hpoint hchild =>
    exact Or.inr (Or.inl ⟨rfl, by simp [hchild], rfl, h.action⟩)

lemma Seen.step {packet : Bytes} {message : SessionControlMessage} {action : ForegroundAction}
    (hpacket : decodeSessionControl packet = some message)
    (haction : commandAction program message = some action) (h : Seen packet s)
    (hcalm : e.calm = true) (hstep : s.step program e = some t) : Seen packet t ∨ Taken action t := by
  have hpoint := h.point
  cases e with
  | sendControl packet => cases hcalm
  | stop => cases hcalm
  | sendStorage packet =>
    cases step_moves hstep
    exact Or.inl { h with }
  | exit status =>
    cases step_moves hstep
    exact Or.inl { h with }
  | control written =>
    obtain rfl := Option.some.inj (hstep.symm.trans (if_pos hpoint))
    have hcommand : message.command ≠ .ready := by
      intro hready
      simp [commandAction, hready] at haction
    rw [controlStep, if_neg (by simp [h.polled]), h.control]
    simp only [hpacket]
    rw [messageStep, if_neg (by simp [hcommand]), if_neg (by simp [h.ready]), haction]
    exact Or.inr ⟨rfl, rfl, h.ready, by simp, by simp⟩
  | poll result => simp [Foreground.step, hpoint] at hstep
  | touch datagram sent => simp [Foreground.step, hpoint] at hstep
  | storage answered => simp [Foreground.step, hpoint] at hstep
  | installer answered => simp [Foreground.step, hpoint] at hstep
  | deadline passed => simp [Foreground.step, hpoint] at hstep
  | reap => simp [Foreground.step, hpoint] at hstep

lemma Taken.step {action : ForegroundAction} (h : Taken action s)
    (hstep : s.step program e = some t) : Taken action t := by
  obtain ⟨hrequested, haction, hready, hcontrol, hpoll⟩ := h
  have hmoved : ∀ u : Foreground, u.requested = s.requested → u.action = s.action →
      u.ready = s.ready → u.point ≠ .control → u.point ≠ .poll → Taken action u :=
    fun u hr ha hy hc hp => ⟨hr.trans hrequested, ha.trans haction, hy.trans hready, hc, hp⟩
  cases step_moves hstep with
  | polled result hpoint => exact absurd hpoint hpoll
  | controlQuiet written hpoint => exact absurd hpoint hcontrol
  | controlClosed written hpoint => exact absurd hpoint hcontrol
  | controlBroken written packet control ready result hpoint => exact absurd hpoint hcontrol
  | readyAccepted packet control hpoint => exact absurd hpoint hcontrol
  | commandTaken written packet control message action hpoint => exact absurd hpoint hcontrol
  | deadlineBroken hpoint hunready => simp [hready] at hunready
  | sendControl packet => exact hmoved _ rfl rfl rfl hcontrol hpoll
  | sendStorage packet => exact hmoved _ rfl rfl rfl hcontrol hpoll
  | exit status => exact hmoved _ rfl rfl rfl hcontrol hpoll
  | stop => exact hmoved _ rfl rfl rfl hcontrol hpoll
  | reapRunning => exact hmoved _ rfl rfl rfl (by simp [hrequested]) (by simp [hrequested])
  | _ => exact hmoved _ rfl rfl rfl (by simp [broken]) (by simp [broken])

lemma step_done (hpoint : s.point = .done) (hstep : s.step program e = some t) :
    t.point = .done ∧ t.action = s.action ∧ t.handled = s.handled ∧ t.forwarded = s.forwarded := by
  cases step_moves hstep with
  | sendControl packet => exact ⟨hpoint, rfl, rfl, rfl⟩
  | sendStorage packet => exact ⟨hpoint, rfl, rfl, rfl⟩
  | exit status => exact ⟨hpoint, rfl, rfl, rfl⟩
  | stop => exact ⟨hpoint, rfl, rfl, rfl⟩
  | _ => simp_all

lemma Missed.step (h : Missed s) (hstep : s.step program e = some t) : Missed t := by
  obtain ⟨hpoint, haction, -, -⟩ := step_done h.1 hstep
  exact ⟨hpoint, haction.trans h.2⟩

lemma Taken.run {action : ForegroundAction} {events : List ForegroundEvent} (h : Taken action s)
    (hrun : (foregroundProcess program).run s events = some t) : Taken action t :=
  Process.run_keeps (fun _ _ _ hs hstep => hs.step hstep) h hrun

lemma Missed.run {events : List ForegroundEvent} (h : Missed s)
    (hrun : (foregroundProcess program).run s events = some t) : Missed t :=
  Process.run_keeps (fun _ _ _ hs hstep => hs.step hstep) h hrun

lemma Seen.run {packet : Bytes} {message : SessionControlMessage} {action : ForegroundAction}
    (hpacket : decodeSessionControl packet = some message)
    (haction : commandAction program message = some action) {events : List ForegroundEvent}
    (hcalm : ∀ e ∈ events, e.calm = true) (h : Seen packet s)
    (hrun : (foregroundProcess program).run s events = some t) : Seen packet t ∨ Taken action t := by
  induction events generalizing s with
  | nil =>
    obtain rfl := Option.some.inj hrun
    exact Or.inl h
  | cons e events ih =>
    obtain ⟨u, hstep, hrest⟩ := (Process.run_cons _).mp hrun
    obtain ⟨he, hevents⟩ := List.forall_mem_cons.mp hcalm
    rcases h.step hpacket haction he hstep with hseen | htaken
    · exact ih hevents hseen hrest
    · exact Or.inr (htaken.run hrest)

lemma commandPolled_cons {ended : Bool} {events : List ForegroundEvent}
    (hpoll : ∀ touch installer, e ≠ .poll (.returned touch installer))
    (hreap : ended = true → e ≠ .reap) :
    commandPolled ended (e :: events) = commandPolled (ended || e.exits) events := by
  cases e with
  | poll result =>
    cases result with
    | returned touch installer => exact absurd rfl (hpoll touch installer)
    | failed => simp [commandPolled, ForegroundEvent.exits]
    | interrupted => simp [commandPolled, ForegroundEvent.exits]
  | reap =>
    cases ended with
    | true => exact absurd rfl (hreap rfl)
    | false => rfl
  | _ => cases ended <;> rfl

lemma step_child (hstep : s.step program e = some t) :
    t.child.isSome = (s.child.isSome || e.exits) := by
  cases step_moves hstep with
  | exit status => simp [ForegroundEvent.exits]
  | polled result => cases result <;> simp [pollStep, broken, ForegroundEvent.exits]
  | _ => simp [broken, ForegroundEvent.exits]

lemma Unseen.run {packet : Bytes} {message : SessionControlMessage} {action : ForegroundAction}
    (hpacket : decodeSessionControl packet = some message)
    (haction : commandAction program message = some action) {events : List ForegroundEvent}
    (hcalm : ∀ e ∈ events, e.calm = true) (h : Unseen [packet] s)
    (hrun : (foregroundProcess program).run s events = some t) :
    if commandPolled s.child.isSome events then Seen packet t ∨ Taken action t
    else Unseen [packet] t ∨ Missed t := by
  induction events generalizing s with
  | nil =>
    obtain rfl := Option.some.inj hrun
    simpa [commandPolled] using Or.inl h
  | cons e events ih =>
    obtain ⟨u, hstep, hrest⟩ := (Process.run_cons _).mp hrun
    obtain ⟨he, hevents⟩ := List.forall_mem_cons.mp hcalm
    have hchild := step_child hstep
    rcases h.step he hstep with hunseen | ⟨rfl, hended, hmissed⟩ | ⟨touch, installer, rfl, rfl⟩
    · have hnext := ih hevents hunseen hrest
      rw [commandPolled_cons, ← hchild]
      · exact hnext
      · rintro touch installer rfl
        -- a poll that returns would have reported the command
        simp only [foregroundProcess, Foreground.step, Option.ite_none_right_eq_some,
          Option.some.injEq] at hstep
        obtain ⟨-, rfl⟩ := hstep
        have hpolled := hunseen.polled rfl
        simp [pollStep, h.control] at hpolled
      · rintro hended rfl
        simp only [foregroundProcess, Foreground.step, Option.ite_none_right_eq_some,
          Option.some.injEq] at hstep
        obtain ⟨-, rfl⟩ := hstep
        obtain ⟨status, hstatus⟩ := Option.isSome_iff_exists.mp hended
        exact hunseen.point (by simp [reapStep, hstatus])
    · rw [hended, commandPolled, if_neg (by simp)]
      exact Or.inr (hmissed.run hrest)
    · rw [commandPolled, if_pos rfl]
      have hseen : Seen packet (s.pollStep program (.returned touch installer)) :=
        ⟨rfl, h.ready, by simp [pollStep, h.control], h.control⟩
      exact hseen.run hpacket haction hevents hrest

end Foreground

/-- The program in the foreground is ready, nothing it has sent waits, and the loop goes on. -/
structure AwaitsCommand (program : ForegroundProgram) (s : Foreground) : Prop where
  reached : ∃ router earlier, (foregroundProcess program).run (.start router) earlier = some s
  ready : s.ready = true
  requested : s.requested = false
  stopped : s.stopped = false
  point : s.point ≠ .done
  control : s.control = []
  child : s.child = none

lemma AwaitsCommand.unseen {program : ForegroundProgram} {s : Foreground} (h : AwaitsCommand program s)
    (packet : Bytes) : Foreground.Unseen [packet] { s with control := s.control ++ [packet] } := by
  obtain ⟨router, earlier, hrun⟩ := h.reached
  obtain ⟨hcontrol, hstorage, haction, hexited⟩ := (Foreground.consistent_start router).run hrun
  rw [h.child] at hexited
  refine ⟨h.point, h.ready, h.requested, by simpa using hexited, h.stopped, haction h.requested,
    by simp [h.control], ?_, ?_, by simp [h.child]⟩
  · intro hpoint
    by_contra hpolled
    simpa [h.control, h.child] using hcontrol hpoint (by simpa using hpolled)
  · intro hpoint hpolled
    simpa [h.child] using hstorage hpoint hpolled

/-- A program that gives one command and ends with status 0 is answered with its command exactly
when the loop polls before a `waitpid` finds it ended; otherwise the end counts as a failure. -/
theorem graceful_exit_taken_iff {program : ForegroundProgram} {s t : Foreground} {packet : Bytes}
    {message : SessionControlMessage} {action : ForegroundAction} {events : List ForegroundEvent}
    (hs : AwaitsCommand program s) (hpacket : decodeSessionControl packet = some message)
    (haction : commandAction program message = some action)
    (hcalm : ∀ e ∈ events, e.calm = true)
    (hrun : (foregroundProcess program).run s (.sendControl packet :: events) = some t)
    (hdone : t.point = .done) :
    (t.action = action ↔ commandPolled false events = true) ∧
      (t.action = action ∨ t.action = .failure) := by
  obtain ⟨u, hstep, hrest⟩ := (Process.run_cons _).mp hrun
  obtain rfl := Option.some.inj (hstep.symm.trans (if_pos hs.child))
  have houtcome := (hs.unseen packet).run hpacket haction hcalm hrest
  simp only [hs.child, Option.isSome_none] at houtcome
  have hne : action ≠ .failure := by
    rintro rfl
    rw [commandAction] at haction
    split at haction
    · cases haction
    · cases haction
    · split at haction <;> cases haction
    · split at haction <;> cases haction
  split at houtcome <;> rename_i hpolled
  · rcases houtcome with hseen | htaken
    · rw [hseen.point] at hdone
      cases hdone
    · exact ⟨iff_of_true htaken.2.1 hpolled, Or.inl htaken.2.1⟩
  · rcases houtcome with hunseen | hmissed
    · exact absurd hdone hunseen.point
    · refine ⟨iff_of_false ?_ hpolled, Or.inr hmissed.2⟩
      rw [hmissed.2]
      exact hne.symm

def sampleProgram : ForegroundProgram := { desktop := false }

def homePacket : Bytes := encodeSessionControl { command := .home }

def idleTurn : List ForegroundEvent :=
  [.poll (.returned false false), .control true, .touch ⟨[], 0⟩ true, .storage true, .installer true,
    .deadline false, .reap]

def readyForeground : Foreground :=
  { Foreground.start (.new 1 960 266) with ready := true, point := .control }

lemma readyForeground_awaits : AwaitsCommand sampleProgram readyForeground where
  reached := ⟨.new 1 960 266, .sendControl (encodeSessionControl {}) ::
    (idleTurn ++ [.poll (.returned false false)]), by decide +kernel⟩
  ready := rfl
  requested := rfl
  stopped := rfl
  point := by decide
  control := rfl
  child := rfl

lemma homePacket_decoded : decodeSessionControl homePacket = some { command := .home } := by
  decide +kernel

/-- The program gives its command and ends while the loop is between `poll` and `waitpid`. -/
def lateExit : List ForegroundEvent :=
  [.exit 0, .control true, .touch ⟨[], 0⟩ true, .storage true, .installer true, .deadline false, .reap]

def lateForeground : Foreground :=
  { readyForeground with
    point := .done, exited := true, result := 84, control := [homePacket], child := some 0 }

lemma lateForeground_reached : (foregroundProcess sampleProgram).run readyForeground
    (.sendControl homePacket :: lateExit) = some lateForeground := by
  decide

theorem graceful_exit_missed :
    ∃ (program : ForegroundProgram) (s t : Foreground) (packet : Bytes)
      (message : SessionControlMessage) (action : ForegroundAction) (events : List ForegroundEvent),
      AwaitsCommand program s ∧ decodeSessionControl packet = some message ∧
        commandAction program message = some action ∧ (∀ e ∈ events, e.calm = true) ∧
        (foregroundProcess program).run s (.sendControl packet :: events) = some t ∧
        t.point = .done ∧ t.action = .failure ∧ t.result = 84 :=
  ⟨sampleProgram, readyForeground, lateForeground, homePacket, _, .home, lateExit,
    readyForeground_awaits, homePacket_decoded, rfl, by decide, lateForeground_reached, rfl, rfl, rfl⟩

def timelyExit : List ForegroundEvent :=
  [.control true, .touch ⟨[], 0⟩ true, .storage true, .installer true, .deadline false, .reap,
    .poll (.returned false false), .exit 0, .control true, .touch ⟨[], 0⟩ true, .storage true, .installer true,
    .deadline false, .reap]

def timelyForeground : Foreground :=
  { readyForeground with
    point := .done, polled := { control := true }, requested := true, exited := true, action := .home
    result := 84, child := some 0 }

lemma timelyForeground_reached : (foregroundProcess sampleProgram).run readyForeground
    (.sendControl homePacket :: timelyExit) = some timelyForeground := by
  decide +kernel

theorem home_taken_when_polled : timelyForeground.action = .home ∧ lateForeground.action = .failure := by
  have htimely := graceful_exit_taken_iff readyForeground_awaits homePacket_decoded rfl (by decide)
    timelyForeground_reached rfl
  have hlate := graceful_exit_taken_iff readyForeground_awaits homePacket_decoded rfl (by decide)
    lateForeground_reached rfl
  refine ⟨htimely.1.mpr (by decide), hlate.2.resolve_left fun htaken => ?_⟩
  exact absurd (hlate.1.mp htaken) (by decide)

end LvglPlatform
