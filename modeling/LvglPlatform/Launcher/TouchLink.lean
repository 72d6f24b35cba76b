import LvglPlatform.Launcher.SessionProcess
import LvglPlatform.Session.TouchRouter
import LvglPlatform.Foundation.Process

/-! The touch frames that one launcher after another sends to a session, and the router that accepts
them. -/

namespace LvglPlatform

open Foundation

structure RunningSession where
  nonce : UInt64
  width : Int32
  height : Int32

structure Publication where
  sessionPid : Int32
  state : SessionState
  result : Int32 := 0
  holeReady : Bool
  inputReady : Bool

namespace RunningSession

variable (session : RunningSession)

def document (publication : Publication) : SessionStatusDocument where
  sessionPid := publication.sessionPid
  sessionNonce := session.nonce
  state := publication.state
  result := publication.result
  holeReady := publication.holeReady
  inputReady := publication.inputReady
  logicalWidth := session.width
  logicalHeight := session.height

/-- What a launcher reads: a document of the session, or nothing. -/
def statusText : Option Publication → Bytes
  | none => []
  | some publication => encodeSessionStatus (session.document publication)

def answers (calls : LauncherCalls) (published : Option Publication) : LauncherCalls :=
  { calls with statusFile := session.statusText published }

end RunningSession

structure TouchLink where
  router : TouchRouter
  launcher : Launcher := {}
  queue : List Bytes := []
  deriving DecidableEq

inductive LinkEvent
  | attach
  | probe (calls : LauncherCalls) (published : Option Publication)
  | status (calls : LauncherCalls) (published : Option Publication)
  | start (calls : LauncherCalls) (published : Option Publication)
  | sendTouch (calls : LauncherCalls) (published : Option Publication) (request : TouchRequest)
  | deliver (now : UInt64)

def RunningSession.link (session : RunningSession) : Process TouchLink LinkEvent where
  step s
    | .attach => some { s with launcher := {} }
    | .probe calls published =>
      some { s with launcher := (s.launcher.probe (session.answers calls published)).2 }
    | .status calls published =>
      some { s with launcher := (s.launcher.status (session.answers calls published)).2 }
    | .start calls published =>
      some { s with launcher := (s.launcher.start (session.answers calls published)).2 }
    | .sendTouch calls published request =>
      let sent := s.launcher.sendTouch (session.answers calls published) request
      some { s with launcher := sent.2, queue := s.queue ++ sent.1.toOption.toList }
    | .deliver now =>
      match s.queue with
      | [] => none
      | bytes :: queue => some { s with router := (s.router.route ⟨bytes, now⟩).2, queue }

def RunningSession.attached (session : RunningSession) : TouchLink where
  router := .new session.nonce session.width.toInt session.height.toInt

/-- The next datagram of the link is a frame of the session, and if it is fresh and in place when it is
delivered, the router accepts it. -/
def RunningSession.Accepts (session : RunningSession) (s : TouchLink) : Prop :=
  ∀ bytes queue, s.queue = bytes :: queue →
    ∃ frame, decodeTouchFrame bytes session.width.toInt session.height.toInt = .ok frame ∧
      ∀ now, touchTimestampFresh frame now maximumTouchAgeUs maximumTouchFutureUs = true →
        (∃ contacts, s.router.contacts.accept frame = .ok contacts) →
        (s.router.route ⟨bytes, now⟩).1 = .ok frame

/-- A start that gets as far as to fork a session. -/
def Launcher.forks (launcher : Launcher) (calls : LauncherCalls) : Bool :=
  let (error, launcher) := launcher.validateRelease calls
  error = none && calls.reopened = .safe && !showsSession (launcher.readStatus calls).1 &&
    calls.fork.toOption.isSome

def TouchLink.Unused (s : TouchLink) : Prop := s.router.sequence.lastSequence = 0 ∧ s.queue = []

/-- A launcher begins to count only where the session has not been used. -/
def RunningSession.Undisturbed (session : RunningSession) (s : TouchLink) : LinkEvent → Prop
  | .attach => s.Unused
  | .start calls published => s.launcher.forks (session.answers calls published) = true → s.Unused
  | _ => True

structure SessionProcess where
  pid : Int32
  executable : Bytes
  current : Bytes
  resolved : (resolveSelfRelease (some executable) (some current)).isSome

namespace SessionProcess

def ofRelease (pid : Int32) (counter : UInt64) (hcounter : counter ≠ 0) : SessionProcess where
  pid
  executable := releasePrefix ++ decimal counter.toNat ++ sessiondSuffix
  current := activeLink counter
  resolved := Option.isSome_of_eq_some (resolveSelfRelease_counter hcounter)

variable (process : SessionProcess)

/-- A launcher that asks for the process of the session finds the executable of the session; what it finds
of other processes is open. -/
def finds (calls : LauncherCalls) : LauncherCalls :=
  { calls with
    runsSessiond := Function.update calls.runsSessiond process.pid.toInt
      (runsSessiond (fun _ => some process.executable) process.pid.toInt) }

def publishes (published : Option Publication) : Option Publication :=
  published.map fun publication => { publication with sessionPid := process.pid }

def event : LinkEvent → LinkEvent
  | .attach => .attach
  | .probe calls published => .probe (process.finds calls) (process.publishes published)
  | .status calls published => .status (process.finds calls) (process.publishes published)
  | .start calls published => .start (process.finds calls) (process.publishes published)
  | .sendTouch calls published request =>
    .sendTouch (process.finds calls) (process.publishes published) request
  | .deliver now => .deliver now

def link (session : RunningSession) : Process TouchLink LinkEvent where
  step s e := session.link.step s (process.event e)

end SessionProcess

/-- The sequence number from which a launcher goes on in a session. -/
def Launcher.counted (launcher : Launcher) (nonce : UInt64) : UInt64 :=
  if launcher.touchNonce = nonce then launcher.touchSequence else 0

section

variable {session : RunningSession} {launcher : Launcher} {calls : LauncherCalls}
  {published : Option Publication}

lemma statusText_reads (session : RunningSession) (published : Option Publication) :
    parseStatus (session.statusText published) = [] ∨ ∃ publication,
      ReadsDocument (parseStatus (session.statusText published)) (session.document publication) := by
  cases published with
  | none => exact Or.inl rfl
  | some publication => exact (parseStatus_encode _).imp_right fun h => ⟨publication, h⟩

structure ReadsSession (session : RunningSession) (launcher : Launcher)
    (read : LauncherStatus × Launcher) : Prop where
  counted : read.2.counted session.nonce = launcher.counted session.nonce
  ready : read.1.inputReady = true → read.2.touchNonce = session.nonce ∧
    read.2.touchWidth = session.width.toInt ∧ read.2.touchHeight = session.height.toInt

lemma readStatus_session (launcher : Launcher) (calls : LauncherCalls)
    (published : Option Publication) :
    ReadsSession session launcher (launcher.readStatus (session.answers calls published)) := by
  rw [Launcher.readStatus]
  simp only
  split
  · split
    · exact ⟨rfl, by rintro ⟨⟩⟩
    · split
      · exact ⟨rfl, by rintro ⟨⟩⟩
      · exact ⟨rfl, by rintro ⟨⟩⟩
  · rename_i hvalid
    rcases statusText_reads session published with hnone | ⟨publication, hreads⟩
    · refine absurd (Or.inr (Or.inl ?_)) hvalid
      rw [RunningSession.answers, hnone]
      rfl
    · have hnonce : parseUnsigned (parseStatus (session.answers calls published).statusFile)
          (text "SESSION_NONCE") = session.nonce := hreads.nonce
      have hwidth := hreads.width
      have hheight := hreads.height
      rw [hnonce]
      constructor
      · simp only [Launcher.counted]
        by_cases hsame : launcher.touchNonce = session.nonce
        · simp [hsame]
        · simp [hsame]
      · intro hready
        simp only [Bool.and_eq_true, decide_eq_true_eq] at hready
        refine ⟨?_, ?_, ?_⟩
        · split
          · rfl
          · rename_i hsame
            exact not_not.mp hsame
        · rw [apply_ite Launcher.touchWidth, ite_self]
          exact hready.1.2.1.1.1.symm.trans hwidth
        · rw [apply_ite Launcher.touchHeight, ite_self]
          exact hready.1.2.1.1.2.symm.trans hheight

lemma validateRelease_counted (launcher : Launcher) (calls : LauncherCalls) (nonce : UInt64) :
    (launcher.validateRelease calls).2.counted nonce = launcher.counted nonce := by
  rw [Launcher.validateRelease]
  simp only
  split
  · split
    · rfl
    · rfl
  · rfl

lemma probe_counted (launcher : Launcher) (calls : LauncherCalls) (published : Option Publication) :
    (launcher.probe (session.answers calls published)).2.counted session.nonce =
      launcher.counted session.nonce := by
  have hvalidated := validateRelease_counted launcher (session.answers calls published) session.nonce
  rw [Launcher.probe]
  split
  · rename_i h
    rw [h] at hvalidated
    exact hvalidated
  · rename_i validated h
    rw [h] at hvalidated
    exact (readStatus_session validated calls published).counted.trans hvalidated

lemma start_counted (launcher : Launcher) (calls : LauncherCalls) (published : Option Publication) :
    (launcher.start (session.answers calls published)).2.counted session.nonce =
        launcher.counted session.nonce ∨
      launcher.forks (session.answers calls published) = true := by
  have hvalidated := validateRelease_counted launcher (session.answers calls published) session.nonce
  rw [Launcher.start, Launcher.forks]
  generalize launcher.validateRelease (session.answers calls published) = validation at hvalidated ⊢
  obtain ⟨error, validated⟩ := validation
  have hread := (@readStatus_session session validated calls published).counted
  cases error with
  | some error => exact Or.inl hvalidated
  | none =>
    simp only
    generalize validated.readStatus (session.answers calls published) = read at hread ⊢
    obtain ⟨result, launcher⟩ := read
    have hkept : launcher.counted session.nonce = _ := hread.trans hvalidated
    cases hreopened : (session.answers calls published).reopened with
    | unavailable => exact Or.inl hkept
    | exposed => exact Or.inl hkept
    | safe =>
      simp only
      split
      · exact Or.inl hkept
      · rename_i hshows
        cases hfork : (session.answers calls published).fork with
        | error reason => exact Or.inl hkept
        | ok child =>
          refine Or.inr ?_
          have hidle : Launcher.showsSession result = false := Bool.eq_false_iff.mpr hshows
          simp [hidle, Except.toOption]

lemma phaseValue_code {phase : Bytes} (h : phaseValue phase ≠ 0) :
    ∃ mark : TouchPhase, phaseValue phase = mark.code := by
  rw [phaseValue] at h ⊢
  split
  · exact ⟨.start, rfl⟩
  split
  · exact ⟨.move, rfl⟩
  split
  · exact ⟨.end, rfl⟩
  split
  · exact ⟨.cancel, rfl⟩
  · simp_all

lemma frameFields_flatten (launcher : Launcher) (monotonicUs : UInt64) (phase : TouchPhase)
    (request : TouchRequest) :
    (launcher.frameFields monotonicUs phase.code request).flatten = encodeTouchFrame {
      sessionNonce := launcher.touchNonce, sequence := launcher.touchSequence, monotonicUs, phase
      contactId := request.contactId, x := request.x, y := request.y, flags := 0 } := by
  simp only [Launcher.frameFields, encodeTouchFrame, touchFields, List.flatten_cons, List.flatten_nil]
  rfl

structure SendsNext (session : RunningSession) (launcher next : Launcher) (frame : TouchFrame) :
    Prop where
  valid : validTouchFrame frame session.width.toInt session.height.toInt = true
  nonce : frame.sessionNonce = session.nonce
  after : launcher.counted session.nonce < frame.sequence
  counted : next.counted session.nonce = frame.sequence

lemma sendTouch_session (launcher : Launcher) (calls : LauncherCalls)
    (published : Option Publication) (request : TouchRequest) :
    let sent := launcher.sendTouch (session.answers calls published) request
    (sent.1.toOption = none ∧ launcher.counted session.nonce ≤ sent.2.counted session.nonce) ∨
      ∃ frame, sent.1.toOption = some (encodeTouchFrame frame) ∧
        SendsNext session launcher sent.2 frame := by
  have hread := @readStatus_session session launcher calls published
  rw [Launcher.sendTouch]
  generalize launcher.readStatus (session.answers calls published) = read at hread ⊢
  obtain ⟨status, next⟩ := read
  obtain ⟨hcounted, hready⟩ := hread
  simp only at hcounted hready ⊢
  have hsame : launcher.counted session.nonce ≤ next.counted session.nonce := by
    rw [hcounted]
    exact UInt64.le_refl _
  split
  · exact Or.inl ⟨rfl, hsame⟩
  rename_i hinput
  simp only [Bool.not_eq_true', not_or, Bool.not_eq_false] at hinput
  obtain ⟨hnonce, hwidth, hheight⟩ := hready hinput.1
  split
  · exact Or.inl ⟨rfl, hsame⟩
  rename_i hvalid
  simp only [not_or] at hvalid
  obtain ⟨hphase, hcontact, hwidthPositive, hheightPositive, hx, hxWidth, hy, hyHeight, hlast⟩ := hvalid
  obtain ⟨phase, hcode⟩ := phaseValue_code hphase
  split
  · exact Or.inl ⟨rfl, hsame⟩
  split
  · exact Or.inl ⟨rfl, hsame⟩
  rename_i htime
  split
  · exact Or.inl ⟨rfl, hsame⟩
  split
  · exact Or.inl ⟨rfl, hsame⟩
  split
  · exact Or.inl ⟨rfl, hsame⟩
  have hnow : next.counted session.nonce = next.touchSequence := by rw [Launcher.counted, if_pos hnonce]
  have hincrease : next.touchSequence < next.touchSequence + 1 := by
    have hne : next.touchSequence.toNat ≠ 2 ^ 64 - 1 := fun h => hlast (by rw [← h, UInt64.ofNat_toNat])
    have hlt := next.touchSequence.toNat_lt
    rw [UInt64.lt_iff_toNat_lt, UInt64.toNat_add, UInt64.toNat_one]
    omega
  have hlater : Launcher.counted { next with touchSequence := next.touchSequence + 1 } session.nonce =
      next.touchSequence + 1 := by
    rw [Launcher.counted, if_pos hnonce]
  split
  · refine Or.inl ⟨rfl, ?_⟩
    rw [hlater, ← hcounted, hnow]
    exact UInt64.le_of_lt hincrease
  · refine Or.inr ⟨_, by rw [hcode, frameFields_flatten]; rfl, ?_, hnonce, ?_, hlater⟩
    · have hzero : next.touchSequence + 1 ≠ 0 := by
        intro h
        rw [h] at hincrease
        exact absurd hincrease (UInt64.not_lt.mpr (UInt64.zero_le))
      rw [hwidth] at hxWidth
      rw [hheight] at hyHeight
      simp only [validTouchFrame, Bool.and_eq_true, decide_eq_true_eq]
      refine ⟨⟨⟨⟨⟨⟨⟨⟨⟨⟨hinput.2, hzero⟩, htime⟩, ?_⟩, ?_⟩, ?_⟩, ?_⟩, ?_⟩, ?_⟩, ?_⟩, trivial⟩
      all_goals first | omega | exact UInt32.not_lt.mp hcontact
    · rw [← hcounted, hnow]
      exact hincrease

structure FollowsOn (session : RunningSession) (s : TouchLink) (frames : List TouchFrame) : Prop where
  nonce : s.router.sequence.sessionNonce = session.nonce
  size : s.router.width = session.width.toInt ∧ s.router.height = session.height.toInt
  queue : s.queue = frames.map encodeTouchFrame
  valid : ∀ frame ∈ frames, validTouchFrame frame session.width.toInt session.height.toInt = true ∧
    frame.sessionNonce = session.nonce
  order : (s.router.sequence.lastSequence :: frames.map TouchFrame.sequence).Pairwise (· < ·)
  counted : ∀ n ∈ s.router.sequence.lastSequence :: frames.map TouchFrame.sequence,
    n ≤ s.launcher.counted session.nonce

variable {s t : TouchLink} {frames : List TouchFrame}

lemma follows_attached (session : RunningSession) : FollowsOn session session.attached [] where
  nonce := rfl
  size := ⟨rfl, rfl⟩
  queue := rfl
  valid := nofun
  order := List.pairwise_singleton _ _
  counted n hn := by
    rw [List.map_nil, List.mem_singleton] at hn
    rw [hn]
    exact UInt64.zero_le

lemma FollowsOn.replaced (h : FollowsOn session s frames)
    (hcounted : s.launcher.counted session.nonce ≤ launcher.counted session.nonce) :
    FollowsOn session { s with launcher } frames :=
  ⟨h.nonce, h.size, h.queue, h.valid, h.order, fun n hn => UInt64.le_trans (h.counted n hn) hcounted⟩

lemma FollowsOn.unused (h : FollowsOn session s frames) (hunused : s.Unused) (launcher : Launcher) :
    FollowsOn session { s with launcher } [] := by
  refine ⟨h.nonce, h.size, hunused.2, nofun, List.pairwise_singleton _ _, ?_⟩
  intro n hn
  rw [List.map_nil, List.mem_singleton] at hn
  change s.router.sequence.lastSequence = 0 ∧ _ at hunused
  rw [hn, hunused.1]
  exact UInt64.zero_le

lemma FollowsOn.sent (h : FollowsOn session s frames) {frame : TouchFrame}
    (hsent : SendsNext session s.launcher launcher frame) :
    FollowsOn session { s with launcher, queue := s.queue ++ [encodeTouchFrame frame] }
      (frames ++ [frame]) := by
  have hlast : ∀ n ∈ s.router.sequence.lastSequence :: frames.map TouchFrame.sequence,
      n < frame.sequence := fun n hn => UInt64.lt_of_le_of_lt (h.counted n hn) hsent.after
  refine ⟨h.nonce, h.size, ?_, ?_, ?_, ?_⟩
  · change s.queue ++ _ = _
    rw [h.queue, List.map_append, List.map_singleton]
  · intro other hother
    rcases List.mem_append.mp hother with hother | hother
    · exact h.valid other hother
    · obtain rfl := List.mem_singleton.mp hother
      exact ⟨hsent.valid, hsent.nonce⟩
  · rw [List.map_append, List.map_singleton, ← List.cons_append, List.pairwise_append]
    refine ⟨h.order, List.pairwise_singleton _ _, ?_⟩
    intro n hn m hm
    rw [List.mem_singleton.mp hm]
    exact hlast n hn
  · intro n hn
    rw [List.map_append, List.map_singleton, ← List.cons_append] at hn
    change n ≤ launcher.counted session.nonce
    rw [hsent.counted]
    rcases List.mem_append.mp hn with hn | hn
    · exact UInt64.le_of_lt (hlast n hn)
    · rw [List.mem_singleton.mp hn]
      exact UInt64.le_refl _

lemma FollowsOn.decoded (h : FollowsOn session s frames) {frame : TouchFrame} (hframe : frame ∈ frames) :
    decodeTouchFrame (encodeTouchFrame frame) session.width.toInt session.height.toInt = .ok frame :=
  decodeTouchFrame_encode (h.valid frame hframe).1 session.width.toInt_lt session.height.toInt_lt

lemma FollowsOn.passes {frame : TouchFrame} (h : FollowsOn session s (frame :: frames)) :
    s.router.sequence.accept frame =
      .ok { s.router.sequence with lastSequence := frame.sequence } := by
  obtain ⟨hvalid, hnonce⟩ := h.valid frame List.mem_cons_self
  have hafter := (List.pairwise_cons.mp h.order).1 frame.sequence List.mem_cons_self
  have hzero : frame.sessionNonce ≠ 0 := by
    simp only [validTouchFrame, Bool.and_eq_true, decide_eq_true_eq] at hvalid
    grind
  rw [TouchSequenceGuard.accept, if_neg, if_neg (UInt64.not_le.mpr hafter)]
  rw [h.nonce, hnonce]
  rintro (hnone | hother)
  · exact hzero (hnonce.trans hnone)
  · exact hother rfl

lemma FollowsOn.accepts (h : FollowsOn session s frames) : session.Accepts s := by
  intro bytes queue hqueue
  cases frames with
  | nil =>
    rw [h.queue] at hqueue
    cases hqueue
  | cons frame frames =>
    rw [h.queue, List.map_cons] at hqueue
    obtain ⟨rfl, -⟩ := List.cons.inj hqueue
    have hdecoded := h.decoded List.mem_cons_self
    refine ⟨frame, hdecoded, ?_⟩
    rintro now hfresh ⟨contacts, hcontacts⟩
    rw [TouchRouter.route, h.size.1, h.size.2, hdecoded]
    simp only [hfresh, Bool.not_true, Bool.false_eq_true, if_false, h.passes, hcontacts]

lemma FollowsOn.delivered {frame : TouchFrame} (h : FollowsOn session s (frame :: frames)) (now : UInt64) :
    FollowsOn session { s with
      router := (s.router.route ⟨encodeTouchFrame frame, now⟩).2
      queue := frames.map encodeTouchFrame } frames := by
  obtain ⟨hnonce, hwidth, hheight⟩ := route_constants s.router ⟨encodeTouchFrame frame, now⟩
  have hrest := (List.pairwise_cons.mp h.order).2
  have hlast : ∀ n ∈ frames.map TouchFrame.sequence, s.router.sequence.lastSequence < n :=
    fun n hn => (List.pairwise_cons.mp h.order).1 n (List.mem_cons_of_mem _ hn)
  -- the number of a frame counts as seen even when its contact is out of place
  have hseen : (s.router.route ⟨encodeTouchFrame frame, now⟩).2.sequence.lastSequence =
      s.router.sequence.lastSequence ∨
      (s.router.route ⟨encodeTouchFrame frame, now⟩).2.sequence.lastSequence = frame.sequence := by
    rw [TouchRouter.route, h.size.1, h.size.2, h.decoded List.mem_cons_self]
    simp only [h.passes]
    split
    · exact Or.inl rfl
    split
    · exact Or.inr rfl
    · exact Or.inr rfl
  refine ⟨hnonce.trans h.nonce, ⟨hwidth.trans h.size.1, hheight.trans h.size.2⟩, rfl,
    fun other hother => h.valid other (List.mem_cons_of_mem _ hother), ?_, ?_⟩
  · refine List.pairwise_cons.mpr ⟨?_, (List.pairwise_cons.mp hrest).2⟩
    intro n hn
    rcases hseen with hseen | hseen
    · rw [hseen]
      exact hlast n hn
    · rw [hseen]
      exact (List.pairwise_cons.mp hrest).1 n hn
  · intro n hn
    rcases List.mem_cons.mp hn with rfl | hn
    · rcases hseen with hseen | hseen
      · rw [hseen]
        exact h.counted _ List.mem_cons_self
      · rw [hseen]
        exact h.counted _ (List.mem_cons_of_mem _ List.mem_cons_self)
    · exact h.counted n (List.mem_cons_of_mem _ (List.mem_cons_of_mem _ hn))

lemma follows_step {e : LinkEvent} (h : ∃ frames, FollowsOn session s frames)
    (hundisturbed : session.Undisturbed s e) (hstep : session.link.step s e = some t) :
    ∃ frames, FollowsOn session t frames := by
  obtain ⟨frames, h⟩ := h
  cases e with
  | attach =>
    obtain rfl := Option.some.inj hstep
    exact ⟨[], h.unused hundisturbed _⟩
  | probe calls published =>
    obtain rfl := Option.some.inj hstep
    exact ⟨frames, h.replaced (UInt64.le_of_eq (probe_counted _ _ _).symm)⟩
  | status calls published =>
    obtain rfl := Option.some.inj hstep
    exact ⟨frames, h.replaced (UInt64.le_of_eq (probe_counted _ _ _).symm)⟩
  | start calls published =>
    obtain rfl := Option.some.inj hstep
    rcases start_counted s.launcher calls published with hkept | hforks
    · exact ⟨frames, h.replaced (UInt64.le_of_eq hkept.symm)⟩
    · exact ⟨[], h.unused (hundisturbed hforks) _⟩
  | sendTouch calls published request =>
    obtain rfl := Option.some.inj hstep
    rcases sendTouch_session s.launcher calls published request with ⟨hnone, hcounted⟩ |
      ⟨frame, hframe, hsent⟩
    · rw [hnone, Option.toList_none, List.append_nil]
      exact ⟨frames, h.replaced hcounted⟩
    · rw [hframe, Option.toList_some]
      exact ⟨frames ++ [frame], h.sent hsent⟩
  | deliver now =>
    cases frames with
    | nil =>
      simp only [RunningSession.link, h.queue, List.map_nil, reduceCtorEq] at hstep
    | cons frame frames =>
      simp only [RunningSession.link, h.queue, List.map_cons] at hstep
      obtain rfl := Option.some.inj hstep
      exact ⟨frames, h.delivered now⟩

/-- Where each launcher begins to count in an unused session, every frame that is sent is accepted. -/
lemma undisturbed_frames_accepted {events : List LinkEvent}
    (hrun : session.link.run session.attached events = some s)
    (hundisturbed : session.link.Along session.Undisturbed session.attached events) :
    session.Accepts s := by
  have hfollows : ∃ frames, FollowsOn session s frames :=
    Process.run_invariant (fun _ _ _ h hcondition hstep => follows_step h hcondition hstep)
      ⟨[], follows_attached session⟩ hundisturbed hrun
  obtain ⟨frames, hfollows⟩ := hfollows
  exact hfollows.accepts

lemma sendTouch_refused {request : TouchRequest} (hinput : (launcher.readStatus calls).1.inputReady = false) :
    (launcher.sendTouch calls request).1.toOption = none := by
  rw [Launcher.sendTouch]
  generalize launcher.readStatus calls = read at hinput ⊢
  obtain ⟨status, next⟩ := read
  simp only at hinput ⊢
  rw [if_pos (.inl (by rw [hinput, Bool.not_false]))]
  rfl

variable {process : SessionProcess}

lemma readStatus_refused (launcher : Launcher) (calls : LauncherCalls) (published : Option Publication) :
    (launcher.readStatus (session.answers (process.finds calls) (process.publishes published))).1.inputReady =
      false := by
  obtain ⟨release, hresolved⟩ := Option.isSome_iff_exists.mp process.resolved
  have hruns : (process.finds calls).runsSessiond process.pid.toInt = false := by
    change Function.update calls.runsSessiond process.pid.toInt _ process.pid.toInt = false
    rw [Function.update_self]
    exact runsSessiond_release hresolved
  cases published with
  | none => exact (readStatus_unknown (by rintro ⟨⟩)).2.2
  | some publication => exact (readStatus_unrecognised rfl hruns).2.2

lemma unused_step {e : LinkEvent} (h : s.Unused) (hstep : (process.link session).step s e = some t) :
    t.Unused := by
  obtain ⟨hlast, hqueue⟩ := h
  cases e with
  | attach | probe calls published | status calls published | start calls published =>
    obtain rfl := Option.some.inj hstep
    exact ⟨hlast, hqueue⟩
  | sendTouch calls published request =>
    obtain rfl := Option.some.inj hstep
    refine ⟨hlast, ?_⟩
    dsimp only
    rw [sendTouch_refused (readStatus_refused s.launcher calls published), hqueue]
    rfl
  | deliver now =>
    simp only [SessionProcess.link, RunningSession.link, SessionProcess.event, hqueue, reduceCtorEq] at hstep

end

def demoRunning : RunningSession where
  nonce := 7
  width := 480
  height := 320

def demoLauncherCalls : LauncherCalls where
  statusFile := []
  profileFile := text "LOGICAL_WIDTH=480\nLOGICAL_HEIGHT=320\nPERSONAL_UNBOUND=1\n"
  executable := .safe
  reopened := .safe
  runsSessiond _ := true
  fork := .ok 43
  clock := some (1, 0)
  socketTrusted := true
  socketOpened := true
  connected := true
  sent := true

def demoPublication : Publication where
  sessionPid := 42
  state := .ready
  holeReady := true
  inputReady := true

lemma seven_ne_zero : (7 : UInt64) ≠ 0 := by decide

def demoProcess : SessionProcess := .ofRelease 42 7 seven_ne_zero

def demoTouches : List LinkEvent :=
  [.attach, .probe demoLauncherCalls (some demoPublication),
    .sendTouch demoLauncherCalls (some demoPublication) { phase := text "start", contactId := 0, x := 5, y := 5 },
    .attach, .probe demoLauncherCalls (some demoPublication),
    .sendTouch demoLauncherCalls (some demoPublication) { phase := text "start", contactId := 1, x := 5, y := 5 }]

end LvglPlatform
