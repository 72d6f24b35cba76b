import LvglPlatform.Session.SessionDaemon

namespace LvglPlatform

open Foundation

def SessionRecord.isStart : SessionRecord → Bool
  | .started _ _ => true
  | _ => false

def SessionRecord.isOutcome : SessionRecord → Bool
  | .took _ => true
  | .failed _ => true
  | _ => false

def outcomes (log : List SessionRecord) : List SessionRecord := log.filter SessionRecord.isOutcome

/-- The action a program may end its turn with. -/
def Permitted (app : Bytes) : ForegroundAction → Prop
  | .failure => False
  | .exitSession => True
  | .launch target => app = desktopId ∧ target ≠ text "top.lvgl.platform" ∧ target ≠ desktopId
  | .home => app ≠ desktopId

def Ends (before : List SessionRecord) : EndCause → Prop
  | .stopSignal => .signalled ∈ before
  | .exitRequest => (outcomes before).getLast? = some (.took .exitSession)
  | .setupFailure result => result ∈ [74, 75, 85, 86]
  | .desktopFailures => ∃ earlier, outcomes before = earlier ++ List.replicate 3 (.failed desktopId)

/-- A document that no program can be ready under. -/
def SessionStatusDocument.Starting (document : SessionStatusDocument) : Prop :=
  document.state = .starting ∧ document.holeReady = false ∧ document.inputReady = false

def SessionRule (before : List SessionRecord) : SessionRecord → Prop
  | .started _ _ => ∃ document : SessionStatusDocument, document.Starting ∧
      .published document ∈ since SessionRecord.isOutcome before
  | .published document => document.holeReady = true ∨ document.inputReady = true →
      .ready ∈ since SessionRecord.isStart before ∧ (latest SessionRecord.isStart before).isSome
  | .took action => .ready ∈ since SessionRecord.isStart before ∧ ∃ app source,
      latest SessionRecord.isStart before = some (.started app source) ∧ Permitted app action
  | .ended cause => Ends before cause
  | _ => True

namespace Foreground

variable {program : ForegroundProgram} {s t : Foreground} {e : ForegroundEvent}

lemma messageStep_ready {message : SessionControlMessage} {written : Bool} (h : s.ready = true) :
    (messageStep program s message written).ready = true := by
  rw [messageStep]
  split
  · split
    · rfl
    · rfl
  split
  · exact h
  split
  · exact h
  · exact h

lemma controlStep_ready {written : Bool} (h : s.ready = true) :
    (controlStep program s written).ready = true := by
  rw [controlStep]
  split
  · exact h
  split
  · exact h
  dsimp only
  split
  · exact h
  · exact messageStep_ready h

lemma step_ready (h : s.ready = true) (hstep : s.step program e = some t) : t.ready = true := by
  cases step_moves hstep with
  | controlBroken written packet control ready result hpoint =>
    obtain ⟨-, ht⟩ := Option.ite_none_right_eq_some.mp hstep
    rw [← Option.some.inj ht]
    exact controlStep_ready h
  | polled result =>
    cases result <;> exact h
  | readyAccepted => rfl
  | _ => exact h

def Commanding (program : ForegroundProgram) (s : Foreground) : Prop :=
  s.action ≠ .failure → s.ready = true ∧ ∃ message, commandAction program message = some s.action

lemma Commanding.step (h : Commanding program s) (hstep : s.step program e = some t) :
    Commanding program t := by
  intro haction
  have hready : s.ready = true → t.ready = true := fun h => step_ready h hstep
  cases step_moves hstep with
  | commandTaken written packet control message action hpoint hpolled hcontrol hs hmessage hcommand =>
    exact ⟨hs, message, hcommand⟩
  | polled result =>
    cases result with
    | failed => exact (h haction).imp_left hready
    | interrupted => exact (h haction).imp_left hready
    | returned touch installer => exact (h haction).imp_left hready
  | _ => exact (h haction).imp_left hready

end Foreground

lemma commandAction_permitted {app : Bytes} {program : VerifiedProgram}
    {message : SessionControlMessage} {action : ForegroundAction}
    (h : commandAction (foregroundProgram app program) message = some action) :
    Permitted app action := by
  rw [commandAction] at h
  split at h
  · cases h
  · obtain rfl := Option.some.inj h
    trivial
  · obtain ⟨⟨hdesktop, hself, havailable⟩, haction⟩ := Option.ite_none_right_eq_some.mp h
    obtain rfl := Option.some.inj haction
    refine ⟨of_decide_eq_true hdesktop, ?_, hself⟩
    intro hplatform
    rw [hplatform] at havailable
    revert havailable
    decide
  · split at h
    · cases h
    · rename_i hdesktop
      obtain rfl := Option.some.inj h
      exact fun hsame => hdesktop (decide_eq_true hsame)

section

variable {log : List SessionRecord} {r : SessionRecord}

lemma mem_since {kind : SessionRecord → Bool} (hkind : kind r = false) {entry : SessionRecord}
    (h : entry ∈ since kind log) : entry ∈ since kind (log ++ [r]) := by
  rw [since_snoc hkind]
  exact List.mem_cons_of_mem _ h

lemma mem_since_self {kind : SessionRecord → Bool} (hkind : kind r = false) : r ∈ since kind (log ++ [r]) := by
  rw [since_snoc hkind]
  exact List.mem_cons_self

lemma outcomes_quiet (houtcome : r.isOutcome = false) : outcomes (log ++ [r]) = outcomes log := by
  rw [outcomes, List.filter_append, List.filter_singleton, houtcome]
  exact List.append_nil _

lemma outcomes_snoc (houtcome : r.isOutcome = true) : outcomes (log ++ [r]) = outcomes log ++ [r] := by
  rw [outcomes, List.filter_append, List.filter_singleton, houtcome]
  rfl

lemma Ends.quiet {cause : EndCause} (houtcome : r.isOutcome = false) (h : Ends log cause) :
    Ends (log ++ [r]) cause := by
  cases cause with
  | stopSignal => exact List.mem_append_left _ h
  | exitRequest =>
    change (outcomes (log ++ [r])).getLast? = _
    rw [outcomes_quiet houtcome]
    exact h
  | setupFailure result => exact h
  | desktopFailures =>
    change ∃ earlier, outcomes (log ++ [r]) = _
    rw [outcomes_quiet houtcome]
    exact h

/-- A document that announces the next program has been published since the last turn. -/
def Announced (log : List SessionRecord) : Prop :=
  ∃ document : SessionStatusDocument, document.Starting ∧ .published document ∈ since SessionRecord.isOutcome log

/-- The program of this turn has been started, and READY is recorded once the loop has seen it. -/
structure Executed (log : List SessionRecord) (app : Bytes) (source : ProgramSource) (loop : Foreground) :
    Prop where
  latest : latest SessionRecord.isStart log = some (.started app source)
  turn : .started app source ∈ since SessionRecord.isOutcome log
  ready : loop.ready = true → .ready ∈ since SessionRecord.isStart log

/-- A child that is not executed has sent nothing. -/
structure SettingUp (log : List SessionRecord) (loop : Foreground) : Prop where
  announced : Announced log
  control : loop.control = []
  ready : loop.ready = false

/-- What the records say about where the main loop stands. -/
def PointRule (s : DaemonState) : DaemonPoint → Prop
  | .head => True
  | .opening => s.exitRequested = false ∧ Announced s.log
  | .running program loop executed => s.exitRequested = false ∧
      loop.Commanding (foregroundProgram s.foreground program) ∧
      if executed then Executed s.log s.foreground program.source loop else SettingUp s.log loop
  | .leaving cause => Ends s.log cause
  | .ended => True

/-- The records keep the rules, and the failures of the desktop are counted since the last other
outcome. -/
structure Accounted (s : DaemonState) : Prop where
  clean : Clean SessionRule s.log
  stopped : s.stopped = true → .signalled ∈ s.log
  counted : s.exitRequested = false → ∃ earlier, outcomes s.log =
    earlier ++ List.replicate s.desktopFailures (.failed desktopId)
  application : s.foreground ≠ desktopId → s.desktopFailures = 0

structure Recorded (s : DaemonState) : Prop where
  accounted : Accounted s
  exit : s.exitRequested = true → Ends s.log .exitRequest
  point : PointRule s s.point

variable {s t : DaemonState}

lemma Announced.quiet (houtcome : r.isOutcome = false) (h : Announced log) : Announced (log ++ [r]) := by
  obtain ⟨document, hstarting, hpublished⟩ := h
  exact ⟨document, hstarting, mem_since houtcome hpublished⟩

lemma PointRule.quiet {point : DaemonPoint} (hstart : r.isStart = false)
    (houtcome : r.isOutcome = false) (h : PointRule s point) : PointRule (s.record r) point := by
  cases point with
  | head => trivial
  | opening => exact ⟨h.1, h.2.quiet houtcome⟩
  | running program loop executed =>
    obtain ⟨hexit, hcommanding, hrule⟩ := h
    refine ⟨hexit, hcommanding, ?_⟩
    cases executed with
    | true =>
      have hexecuted : Executed s.log s.foreground program.source loop := hrule
      exact ⟨(latest_snoc hstart s.log).trans hexecuted.latest, mem_since houtcome hexecuted.turn,
        fun hready => mem_since hstart (hexecuted.ready hready)⟩
    | false =>
      have hsetting : SettingUp s.log loop := hrule
      exact ⟨hsetting.announced.quiet houtcome, hsetting.control, hsetting.ready⟩
  | leaving cause => exact Ends.quiet houtcome h
  | ended => trivial

lemma Accounted.quiet (houtcome : r.isOutcome = false) (h : Accounted s)
    (hrule : SessionRule s.log r) : Accounted (s.record r) := by
  refine ⟨h.clean.snoc hrule, fun hstopped => List.mem_append_left _ (h.stopped hstopped), ?_,
    h.application⟩
  intro hexit
  obtain ⟨earlier, hcounted⟩ := h.counted hexit
  exact ⟨earlier, (outcomes_quiet houtcome).trans hcounted⟩

lemma Recorded.quiet (hstart : r.isStart = false) (houtcome : r.isOutcome = false) (h : Recorded s)
    (hrule : SessionRule s.log r) : Recorded (s.record r) :=
  ⟨h.accounted.quiet houtcome hrule, fun hexit => (h.exit hexit).quiet houtcome,
    h.point.quiet hstart houtcome⟩

lemma Accounted.outcome (houtcome : r.isOutcome = true) (h : Accounted s)
    (hrule : SessionRule s.log r) (foreground : Bytes) :
    Accounted { s.record r with foreground, desktopFailures := 0 } := by
  refine ⟨h.clean.snoc hrule, fun hstopped => List.mem_append_left _ (h.stopped hstopped), ?_,
    fun _ => rfl⟩
  exact fun _ => ⟨outcomes s.log ++ [r], (outcomes_snoc houtcome).trans (List.append_nil _).symm⟩

lemma no_exit (hexit : s.exitRequested = false) : s.exitRequested = true → Ends s.log .exitRequest :=
  fun hrequested => absurd (hexit.symm.trans hrequested) Bool.false_ne_true

lemma Recorded.head (h : Accounted s) (hexit : s.exitRequested = false) (hpoint : s.point = .head) :
    Recorded s := by
  refine ⟨h, no_exit hexit, ?_⟩
  rw [hpoint]
  trivial

lemma Recorded.leave {cause : EndCause} (h : Accounted s)
    (hexit : s.exitRequested = true → Ends s.log .exitRequest) (hends : Ends s.log cause) :
    Recorded (s.leave cause) :=
  ⟨⟨h.clean, h.stopped, h.counted, h.application⟩, hexit, hends⟩

lemma Recorded.fail {result : ℕ} (h : Accounted s) (hexit : s.exitRequested = false)
    (hresult : result ∈ [74, 75, 85, 86]) : Recorded (s.fail result) :=
  Recorded.leave ⟨h.clean, h.stopped, h.counted, h.application⟩ (no_exit hexit) hresult

variable {daemon : SessionDaemon} {randoms : SlotRandoms}

lemma rollBack_recorded {otherwise : Bytes} (h : Accounted s) (hexit : s.exitRequested = false)
    (hzero : s.desktopFailures = 0) (hstep : daemon.rollBack s randoms otherwise = some t) :
    Recorded t ∧ t.desktopFailures = 0 := by
  obtain ⟨rolledBack, -, hstep⟩ := Option.bind_eq_some_iff.mp hstep
  obtain ⟨⟨system, detail⟩, -, hstep⟩ := Option.bind_eq_some_iff.mp hstep
  obtain rfl := Option.some.inj hstep
  have hfailed : Accounted { s.record (.failed s.foreground) with
      foreground := desktopId, desktopFailures := 0 } :=
    h.outcome (r := .failed s.foreground) rfl trivial desktopId
  rw [← hzero] at hfailed
  refine ⟨Recorded.head ?_ ?_ rfl, ?_⟩
  · split
    · obtain ⟨hclean, hstopped, hcounted, happlication⟩ := hfailed.quiet
        (r := .rolledBack s.foreground
          (storedReleaseOf daemon.env s.system s.foreground).selected.state.currentRelease) rfl trivial
      exact ⟨hclean, hstopped, hcounted, happlication⟩
    · exact ⟨hfailed.clean, hfailed.stopped, hfailed.counted, hfailed.application⟩
  · split
    · exact hexit
    · exact hexit
  · split
    · exact hzero
    · exact hzero

lemma Accounted.desktop_failure (h : Accounted s) (hexit : s.exitRequested = false)
    (hdesktop : s.foreground = desktopId) :
    Accounted { s.record (.failed s.foreground) with desktopFailures := s.desktopFailures + 1 } := by
  obtain ⟨earlier, hcounted⟩ := h.counted hexit
  refine ⟨h.clean.snoc trivial, fun hstopped => List.mem_append_left _ (h.stopped hstopped),
    fun _ => ⟨earlier, ?_⟩, fun hother => absurd hdesktop hother⟩
  change outcomes (s.log ++ [.failed s.foreground]) = _
  rw [outcomes_snoc rfl, hcounted, hdesktop, List.append_assoc, ← List.replicate_succ']

lemma ends_of_failures {n : ℕ} (hn : 3 ≤ n)
    (h : ∃ earlier, outcomes log = earlier ++ List.replicate n (.failed desktopId)) :
    Ends log .desktopFailures := by
  obtain ⟨earlier, hlog⟩ := h
  obtain ⟨more, rfl⟩ := Nat.exists_eq_add_of_le' hn
  rw [List.replicate_add, ← List.append_assoc] at hlog
  exact ⟨_, hlog⟩

lemma settle_recorded {action : ForegroundAction} {result : ℕ} (h : Accounted s)
    (hexit : s.exitRequested = false)
    (haction : action ≠ .failure → SessionRule s.log (.took action))
    (hstep : daemon.settle s action result randoms = some t) : Recorded t := by
  rw [SessionDaemon.settle.eq_def] at hstep
  dsimp only at hstep
  split at hstep
  · rename_i hstopped
    obtain rfl := Option.some.inj hstep
    exact Recorded.leave ⟨h.clean, h.stopped, h.counted, h.application⟩ (no_exit hexit)
      (h.stopped hstopped)
  cases action with
  | exitSession =>
    obtain rfl := Option.some.inj hstep
    have hclean := h.clean.snoc (haction nofun)
    refine ⟨⟨hclean, fun hstopped => List.mem_append_left _ (h.stopped hstopped), nofun,
      h.application⟩, fun _ => ?_, trivial⟩
    change (outcomes (s.log ++ [.took .exitSession])).getLast? = _
    rw [outcomes_snoc rfl]
    exact List.getLast?_concat
  | launch app =>
    obtain rfl := Option.some.inj hstep
    have htook := h.outcome (r := .took (.launch app)) rfl (haction nofun) app
    exact Recorded.head ⟨htook.clean, htook.stopped, htook.counted, htook.application⟩ hexit rfl
  | home =>
    obtain rfl := Option.some.inj hstep
    have htook := h.outcome (r := .took .home) rfl (haction nofun) desktopId
    exact Recorded.head ⟨htook.clean, htook.stopped, htook.counted, htook.application⟩ hexit rfl
  | failure =>
    dsimp only at hstep
    split at hstep
    · rename_i happlication
      obtain ⟨u, hrollBack, hu⟩ := Option.map_eq_some_iff.mp hstep
      obtain rfl := hu
      have hzero := h.application happlication
      obtain ⟨hrecorded, hfailures⟩ := rollBack_recorded (s := { s with previousError := [] })
        ⟨h.clean, h.stopped, h.counted, h.application⟩ hexit hzero hrollBack
      rw [← hfailures]
      exact hrecorded
    · rename_i hdesktop
      generalize (if result = 0 then 84 else result) = code at hstep
      obtain ⟨hclean, hstopped, hcounted, happlication⟩ := h.desktop_failure hexit (not_not.mp hdesktop)
      split at hstep
      · rename_i hfailures
        obtain rfl := Option.some.inj hstep
        exact Recorded.leave ⟨hclean, hstopped, hcounted, happlication⟩ (no_exit hexit)
          (ends_of_failures hfailures (hcounted hexit))
      · obtain rfl := Option.some.inj hstep
        exact Recorded.head ⟨hclean, hstopped, hcounted, happlication⟩ hexit rfl

lemma publishStep_recorded {write : StatusWrite} (h : Recorded s) :
    Recorded (SessionDaemon.publishStep s write) := by
  rw [SessionDaemon.publishStep]
  split
  · rename_i hstopped
    exact Recorded.leave h.accounted h.exit (h.accounted.stopped hstopped)
  split
  · rename_i hexit
    exact Recorded.leave h.accounted h.exit (h.exit hexit)
  rename_i hexit
  have hexit : s.exitRequested = false := Bool.eq_false_iff.mpr hexit
  obtain ⟨hclean, hstopped, hcounted, happlication⟩ := h.accounted
  dsimp only
  set status : SessionStatusDocument := { s.status with
    state := .starting, result := 0, holeReady := false, inputReady := false }
  have hpublished : Accounted ({ s with status }.record (.published status)) := by
    refine Accounted.quiet rfl ⟨hclean, hstopped, hcounted, happlication⟩ ?_
    rintro (hready | hready)
    · cases hready
    · cases hready
  cases write with
  | kept => exact Recorded.fail ⟨hclean, hstopped, hcounted, happlication⟩ hexit (by decide)
  | renamed => exact Recorded.fail hpublished hexit (by decide)
  | written =>
    obtain ⟨hclean, hstopped, hcounted, happlication⟩ := hpublished
    exact ⟨⟨hclean, hstopped, hcounted, happlication⟩, no_exit hexit, hexit, status,
      ⟨rfl, rfl, rfl⟩, mem_since_self rfl⟩

lemma leaveStep_recorded {cause : EndCause} {written : Bool} (h : Recorded s)
    (hpoint : s.point = .leaving cause) : Recorded (SessionDaemon.leaveStep s cause written) := by
  have hends : Ends s.log cause := by
    have := h.point
    rw [hpoint] at this
    exact this
  obtain ⟨⟨hclean, hstopped, hcounted, happlication⟩, hexit, -⟩ := h
  rw [SessionDaemon.leaveStep]
  dsimp only
  set status : SessionStatusDocument := { s.status with
    state := if s.result = 0 then .stopped else .error
    result := Int32.ofNat s.result, holeReady := false, inputReady := false }
  have hended : Recorded { s with status, point := .ended } :=
    ⟨⟨hclean, hstopped, hcounted, happlication⟩, hexit, trivial⟩
  split
  · refine Recorded.quiet rfl rfl (hended.quiet rfl rfl ?_) (hends.quiet rfl)
    rintro (hready | hready)
    · cases hready
    · cases hready
  · exact hended.quiet rfl rfl hends

lemma stop_recorded (h : Recorded s) (hstep : daemon.step s .stop = some t) : Recorded t := by
  obtain ⟨⟨hclean, hstopped, hcounted, happlication⟩, hexit, hpoint⟩ := h
  have hsignalled : Accounted ({ s with stopped := true }.record .signalled) := by
    refine ⟨hclean.snoc trivial, fun _ => List.mem_append_right _ (List.mem_singleton_self _), ?_,
      happlication⟩
    intro hexit
    obtain ⟨earlier, hcounted⟩ := hcounted hexit
    exact ⟨earlier, (outcomes_quiet rfl).trans hcounted⟩
  have hrule : ∀ point, PointRule s point →
      PointRule ({ s with stopped := true }.record .signalled) point := by
    intro point hpoint
    refine PointRule.quiet rfl rfl ?_
    cases point with
    | _ => exact hpoint
  have hexit : s.exitRequested = true → Ends (s.log ++ [.signalled]) .exitRequest :=
    fun hrequested => (hexit hrequested).quiet rfl
  rw [SessionDaemon.step.eq_def] at hstep
  dsimp only at hstep
  split at hstep
  · rename_i program loop executed hrunning
    obtain rfl := Option.some.inj hstep
    rw [show s.point = .running program loop executed from hrunning] at hpoint
    obtain ⟨hclean, hstopped, hcounted, happlication⟩ := hsignalled
    have hstopping : PointRule s (.running program { loop with stopped := true } executed) := by
      cases executed with
      | true => exact ⟨hpoint.1, hpoint.2.1, hpoint.2.2.latest, hpoint.2.2.turn, hpoint.2.2.ready⟩
      | false => exact ⟨hpoint.1, hpoint.2.1, hpoint.2.2.announced, hpoint.2.2.control, hpoint.2.2.ready⟩
    exact ⟨⟨hclean, hstopped, hcounted, happlication⟩, hexit, hrule _ hstopping⟩
  · obtain rfl := Option.some.inj hstep
    exact ⟨hsignalled, hexit, hrule s.point hpoint⟩

lemma openStep_recorded {calls : OpeningCalls} (h : Recorded s) (hpoint : s.point = .opening)
    (hstep : daemon.openStep s calls = some t) : Recorded t := by
  have hrule := h.point
  rw [hpoint] at hrule
  obtain ⟨hexit, hannounced⟩ := hrule
  have haccounted := h.accounted
  obtain ⟨opened, -, hstep⟩ := Option.bind_eq_some_iff.mp hstep
  cases opened with
  | none =>
    dsimp only at hstep
    split at hstep
    · rename_i happlication
      exact (rollBack_recorded haccounted hexit (haccounted.application happlication) hstep).1
    · obtain rfl := Option.some.inj hstep
      exact Recorded.fail haccounted hexit (by decide)
  | some program =>
    dsimp only at hstep
    split at hstep
    · obtain rfl := Option.some.inj hstep
      exact Recorded.fail haccounted hexit (by decide)
    split at hstep
    · split at hstep
      · rename_i happlication
        obtain rfl := Option.some.inj hstep
        have hfailed := haccounted.outcome (r := .failed s.foreground) rfl trivial desktopId
        rw [← haccounted.application happlication] at hfailed
        exact Recorded.head ⟨hfailed.clean, hfailed.stopped, hfailed.counted, hfailed.application⟩
          hexit rfl
      · obtain rfl := Option.some.inj hstep
        exact Recorded.fail haccounted hexit (by decide)
    cases hsetup : calls.setup with
    | some failure =>
      rw [hsetup] at hstep
      exact settle_recorded haccounted hexit (fun hfailure => absurd rfl hfailure) hstep
    | none =>
      rw [hsetup] at hstep
      obtain rfl := Option.some.inj hstep
      exact ⟨⟨haccounted.clean, haccounted.stopped, haccounted.counted, haccounted.application⟩,
        no_exit hexit, hexit, fun haction => absurd rfl haction, hannounced, rfl, rfl⟩

lemma executeStep_recorded (h : Recorded s) (hstep : SessionDaemon.executeStep s = some t) : Recorded t := by
  rw [SessionDaemon.executeStep] at hstep
  split at hstep
  · rename_i program loop hrunning
    obtain ⟨-, ht⟩ := Option.ite_none_right_eq_some.mp hstep
    obtain rfl := Option.some.inj ht
    have hrule := h.point
    rw [hrunning] at hrule
    obtain ⟨hexit, hcommanding, hsetting⟩ := hrule
    have hsetting : SettingUp s.log loop := hsetting
    obtain ⟨hclean, hstopped, hcounted, happlication⟩ :=
      h.accounted.quiet (r := .started s.foreground program.source) rfl hsetting.announced
    refine ⟨⟨hclean, hstopped, hcounted, happlication⟩, no_exit hexit, hexit, hcommanding,
      latest_kind rfl s.log, mem_since_self rfl, fun hready => ?_⟩
    exact absurd (hsetting.ready.symm.trans hready) Bool.false_ne_true
  · cases hstep

lemma setsUp_step {program : ForegroundProgram} {loop next : Foreground} {event : ForegroundEvent}
    (hcontrol : loop.control = []) (hready : loop.ready = false) (hsets : event.setsUp = true)
    (hloop : loop.step program event = some next) : next.control = [] ∧ next.ready = false := by
  cases Foreground.step_moves hloop with
  | sendControl packet => cases hsets
  | sendStorage packet => cases hsets
  | polled result =>
    cases result with
    | failed => exact ⟨hcontrol, hready⟩
    | interrupted => exact ⟨hcontrol, hready⟩
    | returned touch installer => exact ⟨hcontrol, hready⟩
  | controlBroken written packet control ready result hpoint hpolled hqueue =>
    cases hcontrol.symm.trans hqueue
  | readyAccepted packet control hpoint hpolled hqueue => cases hcontrol.symm.trans hqueue
  | commandTaken written packet control message action hpoint hpolled hqueue =>
    cases hcontrol.symm.trans hqueue
  | _ => exact ⟨hcontrol, hready⟩

lemma foregroundStep_recorded {program : VerifiedProgram} {loop : Foreground} {executed : Bool}
    {event : ForegroundEvent} {renamed : Bool} (h : Recorded s)
    (hpoint : s.point = .running program loop executed) (hsets : (executed || event.setsUp) = true)
    (hstep : SessionDaemon.foregroundStep s program loop executed event renamed = some t) : Recorded t := by
  obtain ⟨next, hloop, hnext⟩ := Option.map_eq_some_iff.mp hstep
  obtain ⟨⟨hclean, hstopped, hcounted, happlication⟩, -, hrule⟩ := h
  rw [hpoint] at hrule
  obtain ⟨hexit, hcommanding, hrule⟩ := hrule
  have hcommanding := hcommanding.step hloop
  dsimp only at hnext
  cases executed with
  | false =>
    have hsetting : SettingUp s.log loop := hrule
    obtain ⟨hcontrol, hready⟩ := setsUp_step hsetting.control hsetting.ready hsets hloop
    rw [if_neg (by simp [hready])] at hnext
    rw [← hnext]
    exact ⟨⟨hclean, hstopped, hcounted, happlication⟩, no_exit hexit, hexit, hcommanding,
      hsetting.announced, hcontrol, hready⟩
  | true =>
  have hexecuted : Executed s.log s.foreground program.source loop := hrule
  obtain ⟨hlatest, hturn, hready⟩ := hexecuted
  set status : SessionStatusDocument :=
    { s.status with state := .ready, holeReady := true, inputReady := true }
  split at hnext
  · have hsince : .ready ∈ since SessionRecord.isStart (s.log ++ [.ready]) := mem_since_self rfl
    have hlatest : latest SessionRecord.isStart (s.log ++ [.ready]) =
        some (.started s.foreground program.source) := (latest_snoc rfl s.log).trans hlatest
    have hrecorded : Recorded
        ({ s with point := .running program next true, status }.record .ready) := by
      have haccounted := Accounted.quiet (r := .ready)
        (s := { s with point := .running program next true, status }) rfl
        ⟨hclean, hstopped, hcounted, happlication⟩ trivial
      exact ⟨haccounted, no_exit hexit, hexit, hcommanding, hlatest, mem_since rfl hturn, fun _ => hsince⟩
    split at hnext
    · rw [← hnext]
      exact hrecorded.quiet rfl rfl fun _ => ⟨hsince, Option.isSome_of_eq_some hlatest⟩
    · rw [← hnext]
      exact hrecorded
  · rename_i hbefore
    rw [← hnext]
    refine ⟨⟨hclean, hstopped, hcounted, happlication⟩, no_exit hexit, hexit, hcommanding, hlatest, hturn,
      fun hready' => ?_⟩
    refine hready (Bool.not_eq_false _ ▸ fun hloop => hbefore ⟨hready', ?_⟩)
    rw [hloop]
    rfl

lemma step_recorded {e : DaemonEvent} (h : Recorded s) (hstep : daemon.step s e = some t) :
    Recorded t := by
  cases e with
  | outside system =>
    obtain ⟨-, ht⟩ := Option.ite_none_right_eq_some.mp hstep
    rw [← Option.some.inj ht]
    exact ⟨⟨h.accounted.clean, h.accounted.stopped, h.accounted.counted, h.accounted.application⟩,
      h.exit, h.point⟩
  | stop => exact stop_recorded h hstep
  | publish write =>
    obtain ⟨-, ht⟩ := Option.ite_none_right_eq_some.mp hstep
    rw [← Option.some.inj ht]
    exact publishStep_recorded h
  | openProgram calls =>
    obtain ⟨hpoint, hopen⟩ := Option.ite_none_right_eq_some.mp hstep
    exact openStep_recorded h hpoint hopen
  | execute => exact executeStep_recorded h hstep
  | foreground event renamed =>
    rw [SessionDaemon.step.eq_def] at hstep
    dsimp only at hstep
    split at hstep
    · cases hstep
    · rename_i hpoint _
      obtain ⟨hsets, hforeground⟩ := Option.ite_none_right_eq_some.mp hstep
      exact foregroundStep_recorded h hpoint hsets hforeground
    · cases hstep
  | close waited randoms =>
    rw [SessionDaemon.step.eq_def] at hstep
    dsimp only at hstep
    split at hstep
    · rename_i program loop executed hpoint
      obtain ⟨-, hsettle⟩ := Option.ite_none_right_eq_some.mp hstep
      obtain ⟨⟨hclean, hstopped, hcounted, happlication⟩, -, hrule⟩ := h
      rw [hpoint] at hrule
      obtain ⟨hexit, hcommanding, hrule⟩ := hrule
      refine settle_recorded (s := { s with router := loop.router })
        ⟨hclean, hstopped, hcounted, happlication⟩ hexit (fun haction => ?_) hsettle
      obtain ⟨hcommanded, message, hmessage⟩ := hcommanding haction
      cases executed with
      | true =>
        have hexecuted : Executed s.log s.foreground program.source loop := hrule
        exact ⟨hexecuted.ready hcommanded, s.foreground, program.source, hexecuted.latest,
          commandAction_permitted hmessage⟩
      | false =>
        have hsetting : SettingUp s.log loop := hrule
        exact absurd (hsetting.ready.symm.trans hcommanded) Bool.false_ne_true
    · cases hstep
  | leave written =>
    rw [SessionDaemon.step.eq_def] at hstep
    dsimp only at hstep
    split at hstep
    · rename_i cause hpoint
      rw [← Option.some.inj hstep]
      exact leaveStep_recorded h hpoint
    · cases hstep

lemma start_recorded (daemon : SessionDaemon) (system : Node) : Recorded (daemon.start system) :=
  ⟨⟨clean_nil, nofun, fun _ => ⟨[], rfl⟩, fun hother => absurd rfl hother⟩, nofun, trivial⟩

end

/-- The records of every run keep the rules. -/
theorem session_records_clean (daemon : SessionDaemon) (system : Node) (events : List DaemonEvent)
    (s : DaemonState) (hrun : (sessionProcess daemon).run (daemon.start system) events = some s) :
    Clean SessionRule s.log := by
  have hrecorded : Recorded s := Process.run_keeps (P := sessionProcess daemon)
    (fun s e t h hstep => step_recorded h hstep) (start_recorded daemon system) hrun
  exact hrecorded.accounted.clean

def desktopPlatform : VerifiedRelease where
  directory := privateDirectory [(text "bin",
    privateDirectory [(text "lvgl-desktop", .file { mode := 0o755 } (text "hi"))])]
  verification := { manifest := { files := [
    { path := text "bin/lvgl-desktop", role := text "executable", mode := 0o755, size := 2 }] } }

def penDaemon : SessionDaemon where
  env := installEnvironment
  profile := penProfile
  personalUnbound := false
  platform := desktopPlatform
  document := { sessionPid := 7, sessionNonce := 9, logicalWidth := 240, logicalHeight := 320 }

def openedCalls : OpeningCalls where
  enumerates := true
  registry := true
  storage := true
  setup := none
  randoms := installRandoms.slots

def turnOf (message : SessionControlMessage) : List DaemonEvent :=
  [.sendControl (encodeSessionControl message), .poll (.returned false false), .control true,
    .touch ⟨[], 0⟩ true, .storage true, .installer true, .deadline false, .reap].map
    fun event => .foreground event true

theorem exited_session_clean :
    ∃ s, (sessionProcess penDaemon).run (penDaemon.start (privateDirectory []))
        ([.publish .written, .openProgram openedCalls, .execute] ++ turnOf { command := .ready } ++
          turnOf { command := .exitSession } ++
          [.close 0 installRandoms.slots, .publish .written, .leave true]) = some s ∧
      s.log.getLast? = some (.ended .exitRequest) ∧ Clean SessionRule s.log := by
  have hrun : ((sessionProcess penDaemon).run (penDaemon.start (privateDirectory []))
      ([.publish .written, .openProgram openedCalls, .execute] ++ turnOf { command := .ready } ++
        turnOf { command := .exitSession } ++
        [.close 0 installRandoms.slots, .publish .written, .leave true])).map
      (fun s => s.log.getLast?) = some (some (.ended .exitRequest)) := by decide +kernel
  obtain ⟨s, hrun, hlast⟩ := Option.map_eq_some_iff.mp hrun
  exact ⟨s, hrun, hlast, session_records_clean penDaemon _ _ s hrun⟩

end LvglPlatform
