import LvglPlatform.Launcher.TouchLink

/-! The touch frame on the wire is written twice and read once: the encoder of the protocol, the one of
the launcher and the decoder agree. -/

namespace LvglPlatform

open Foundation

lemma unsigned32_signed32 {n : ℕ} (h : n < 2 ^ 32) : unsigned32 (signed32 n) = n := by
  rw [signed32, unsigned32]
  split
  · rw [Int.emod_eq_of_lt (by omega) (by omega), Int.toNat_natCast]
  · omega

lemma TouchPhase.code_of_ofCode {n : ℕ} {phase : TouchPhase} (h : TouchPhase.ofCode n = some phase) :
    n = phase.code := by
  rw [TouchPhase.ofCode.eq_def] at h
  split at h
  · cases h
    rfl
  · cases h
    rfl
  · cases h
    rfl
  · cases h
    rfl
  · cases h

section

variable {bytes : Bytes} {offset : ℕ}

lemma readI32_field (h : offset + 4 ≤ bytes.length) :
    slice bytes offset 4 = littleEndian 4 (unsigned32 (readI32 bytes offset)) := by
  have hlt := value_lt (slice bytes offset 4)
  rw [slice_length h] at hlt
  rw [readI32, unsigned32_signed32 hlt]
  exact littleEndian_of_value (slice_length h) rfl

end

lemma decodeTouchFrame_fields {bytes : Bytes} {width height : ℤ} {frame : TouchFrame}
    (h : decodeTouchFrame bytes width height = .ok frame) :
    bytes.length = touchFrameWireSize ∧ FieldsAt bytes 0 (touchFields frame) := by
  rw [decodeTouchFrame] at h
  split at h <;> rename_i hheader
  · cases h
  simp only [not_or, not_not] at hheader
  obtain ⟨hlength, hmagic, hversion, hsize, hzero⟩ := hheader
  split at h
  · cases h
  rename_i phase hphase
  dsimp only at h
  split at h
  · obtain rfl := Except.ok.inj h
    refine ⟨hlength, ?_⟩
    rw [touchFrameWireSize] at hlength
    simp only [touchFields, FieldsAt, littleEndian_length, Nat.reduceAdd, and_true]
    refine ⟨?_, ?_, ?_, slice_readU64 (by omega), slice_readU64 (by omega), slice_readU64 (by omega),
      ?_, slice_readU32 (by omega), readI32_field (by omega), readI32_field (by omega),
      slice_readU32 (by omega), ?_⟩
    · exact littleEndian_of_value (slice_length (by omega)) hmagic
    · exact littleEndian_of_value (slice_length (by omega)) hversion
    · exact littleEndian_of_value (slice_length (by omega)) hsize
    · exact littleEndian_of_value (slice_length (by omega)) (TouchPhase.code_of_ofCode hphase)
    · exact littleEndian_of_value (slice_length (by omega)) hzero
  · cases h

lemma encodeTouchFrame_length (frame : TouchFrame) :
    (encodeTouchFrame frame).length = touchFrameWireSize := by
  simp [encodeTouchFrame, touchFields, touchFrameWireSize]

lemma encode_of_decodeTouchFrame {bytes : Bytes} {width height : ℤ} {frame : TouchFrame}
    (h : decodeTouchFrame bytes width height = .ok frame) : bytes = encodeTouchFrame frame := by
  obtain ⟨hlength, hfields⟩ := decodeTouchFrame_fields h
  exact eq_flatten_of_fieldsAt (hlength.trans (encodeTouchFrame_length frame).symm) hfields

/-- The frame that a request asks for, from a launcher that has counted it. -/
structure Requested (launcher : Launcher) (calls : LauncherCalls) (request : TouchRequest)
    (frame : TouchFrame) : Prop where
  nonce : frame.sessionNonce = launcher.touchNonce
  sequence : frame.sequence = launcher.touchSequence
  clock : ∃ seconds nanoseconds, calls.clock = some (seconds, nanoseconds) ∧
    frame.monotonicUs = seconds * 1000000 + nanoseconds / 1000
  phase : frame.phase.code = phaseValue request.phase
  contact : frame.contactId = request.contactId
  position : frame.x = request.x ∧ frame.y = request.y
  flags : frame.flags = 0

lemma readStatus_size (launcher : Launcher) (calls : LauncherCalls) :
    (launcher.readStatus calls).2.touchWidth = launcher.touchWidth ∧
      (launcher.readStatus calls).2.touchHeight = launcher.touchHeight := by
  rw [Launcher.readStatus]
  dsimp only
  split
  · split
    · exact ⟨rfl, rfl⟩
    · split
      · exact ⟨rfl, rfl⟩
      · exact ⟨rfl, rfl⟩
  · split
    · exact ⟨rfl, rfl⟩
    · exact ⟨rfl, rfl⟩

lemma sendTouch_frame {launcher : Launcher} {calls : LauncherCalls} {request : TouchRequest}
    {bytes : Bytes} (h : (launcher.sendTouch calls request).1 = .ok bytes) :
    ∃ frame, bytes = encodeTouchFrame frame ∧
      validTouchFrame frame launcher.touchWidth launcher.touchHeight = true ∧
      Requested (launcher.sendTouch calls request).2 calls request frame := by
  have hsize := readStatus_size launcher calls
  rw [Launcher.sendTouch] at h ⊢
  generalize launcher.readStatus calls = read at hsize h ⊢
  obtain ⟨status, next⟩ := read
  obtain ⟨hwidth, hheight⟩ := hsize
  dsimp only at hwidth hheight h ⊢
  rw [← hwidth, ← hheight]
  split at h <;> rename_i hinput
  · cases h
  split at h <;> rename_i hvalid
  · cases h
  rw [if_neg hinput, if_neg hvalid]
  simp only [not_or] at hinput hvalid
  obtain ⟨hphase, hcontact, hwidthPositive, hheightPositive, hx, hxWidth, hy, hyHeight, hlast⟩ := hvalid
  obtain ⟨phase, hcode⟩ := phaseValue_code hphase
  cases hclock : calls.clock with
  | none =>
    rw [hclock] at h
    cases h
  | some time =>
    obtain ⟨seconds, nanoseconds⟩ := time
    rw [hclock] at h
    dsimp only at h ⊢
    split at h <;> rename_i htime
    · cases h
    split at h <;> rename_i htrusted
    · cases h
    split at h <;> rename_i hopened
    · cases h
    split at h <;> rename_i hconnected
    · cases h
    split at h <;> rename_i hsent
    · cases h
    rw [if_neg htime, if_neg htrusted, if_neg hopened, if_neg hconnected, if_neg hsent]
    rw [hcode, frameFields_flatten] at h
    have hbytes := (Except.ok.inj h).symm
    refine ⟨_, hbytes, ?_, rfl, rfl, ⟨seconds, nanoseconds, hclock, rfl⟩, hcode.symm, rfl, ⟨rfl, rfl⟩, rfl⟩
    have hzero : next.touchSequence + 1 ≠ 0 := by
      intro he
      apply hlast
      have hnat := congrArg UInt64.toNat he
      have hlt := next.touchSequence.toNat_lt
      rw [UInt64.toNat_add, UInt64.toNat_one, UInt64.toNat_zero] at hnat
      rw [← UInt64.toNat_inj, UInt64.toNat_ofNat']
      omega
    simp only [validTouchFrame, Bool.and_eq_true, decide_eq_true_eq]
    refine ⟨⟨⟨⟨⟨⟨⟨⟨⟨⟨hinput.2, hzero⟩, htime⟩, UInt32.not_lt.mp hcontact⟩, ?_⟩, ?_⟩, ?_⟩, ?_⟩, ?_⟩, ?_⟩,
      trivial⟩
    all_goals omega

/-- The checks that a request has to pass to be sent. -/
structure Launcher.Permits (launcher : Launcher) (calls : LauncherCalls) (request : TouchRequest) : Prop where
  input : (launcher.readStatus calls).1.inputReady = true
  nonce : (launcher.readStatus calls).2.touchNonce ≠ 0
  sequence : (launcher.readStatus calls).2.touchSequence ≠ UInt64.ofNat (2 ^ 64 - 1)
  phase : phaseValue request.phase ≠ 0
  contact : request.contactId ≤ 31
  across : 0 ≤ request.x ∧ request.x < launcher.touchWidth
  down : 0 ≤ request.y ∧ request.y < launcher.touchHeight
  clock : ∃ seconds nanoseconds, calls.clock = some (seconds, nanoseconds) ∧
    seconds * 1000000 + nanoseconds / 1000 ≠ 0
  socket : calls.socketTrusted = true ∧ calls.socketOpened = true ∧ calls.connected = true
  sent : calls.sent = true

lemma Launcher.Permits.sent_bytes {launcher : Launcher} {calls : LauncherCalls} {request : TouchRequest}
    (h : launcher.Permits calls request) : ∃ bytes, (launcher.sendTouch calls request).1 = .ok bytes := by
  obtain ⟨hwidth, hheight⟩ := readStatus_size launcher calls
  obtain ⟨hinput, hnonce, hsequence, hphase, hcontact, hacross, hdown, ⟨seconds, nanoseconds, hclock, htime⟩,
    ⟨htrusted, hopened, hconnected⟩, hsent⟩ := h
  rw [Launcher.sendTouch]
  generalize launcher.readStatus calls = read at hinput hnonce hsequence hwidth hheight ⊢
  obtain ⟨status, next⟩ := read
  dsimp only at hinput hnonce hsequence hwidth hheight ⊢
  have hcontact : ¬request.contactId > 31 := UInt32.not_lt.mpr hcontact
  rw [← hwidth] at hacross
  rw [← hheight] at hdown
  rw [if_neg (by simp [hinput, hnonce]), if_neg (by
    simp only [not_or]
    exact ⟨hphase, hcontact, by omega, by omega, by omega, by omega, by omega, by omega, hsequence⟩), hclock]
  dsimp only
  rw [if_neg htime, htrusted, hopened, hconnected, hsent]
  exact ⟨_, rfl⟩

theorem touch_wire_format_agrees :
    (∀ (frame : TouchFrame) (width height : Int32),
      validTouchFrame frame width.toInt height.toInt = true →
      decodeTouchFrame (encodeTouchFrame frame) width.toInt height.toInt = .ok frame) ∧
    (∀ (bytes : Bytes) (width height : Int32) (frame : TouchFrame), bytes.length = 56 →
      decodeTouchFrame bytes width.toInt height.toInt = .ok frame → bytes = encodeTouchFrame frame) ∧
    (∀ (launcher : Launcher) (width height : Int32) (calls : LauncherCalls) (request : TouchRequest),
      launcher.touchWidth = width.toInt → launcher.touchHeight = height.toInt →
      (launcher.Permits calls request → ∃ bytes, (launcher.sendTouch calls request).1 = .ok bytes) ∧
      ∀ bytes, (launcher.sendTouch calls request).1 = .ok bytes →
        bytes.length = 56 ∧ ∃ frame, Requested (launcher.sendTouch calls request).2 calls request frame ∧
          bytes = encodeTouchFrame frame ∧
          decodeTouchFrame bytes width.toInt height.toInt = .ok frame) := by
  have hround : ∀ (frame : TouchFrame) (width height : Int32),
      validTouchFrame frame width.toInt height.toInt = true →
      decodeTouchFrame (encodeTouchFrame frame) width.toInt height.toInt = .ok frame :=
    fun frame width height h => decodeTouchFrame_encode h width.toInt_lt height.toInt_lt
  refine ⟨hround, fun bytes width height frame _ h => encode_of_decodeTouchFrame h, ?_⟩
  intro launcher width height calls request hwidth hheight
  refine ⟨fun h => h.sent_bytes, ?_⟩
  intro bytes h
  obtain ⟨frame, rfl, hvalid, hrequested⟩ := sendTouch_frame h
  rw [hwidth, hheight] at hvalid
  exact ⟨encodeTouchFrame_length frame, frame, hrequested, rfl, hround frame width height hvalid⟩

def demoTouchRequest : TouchRequest := { phase := text "start", contactId := 0, x := 5, y := 5 }

theorem demo_touch_is_the_frame_it_asks_for :
    let sent := ({ touchWidth := 480, touchHeight := 320 } : Launcher).sendTouch
      (demoRunning.answers demoLauncherCalls (some demoPublication)) demoTouchRequest
    ∃ bytes frame, sent.1 = .ok bytes ∧ bytes = encodeTouchFrame frame ∧ frame.sequence = 1 ∧
      frame.sessionNonce = demoRunning.nonce ∧ decodeTouchFrame bytes 480 320 = .ok frame := by
  let launcher : Launcher := { touchWidth := 480, touchHeight := 320 }
  let calls := demoRunning.answers demoLauncherCalls (some demoPublication)
  have hpermits : launcher.Permits calls demoTouchRequest :=
    ⟨by decide, by decide, by decide, by decide, by decide, by decide, by decide,
      ⟨1, 0, rfl, by decide⟩, by decide, rfl⟩
  have hagrees := touch_wire_format_agrees.2.2 launcher 480 320 calls demoTouchRequest rfl rfl
  obtain ⟨bytes, hbytes⟩ := hagrees.1 hpermits
  obtain ⟨-, frame, hrequested, hencoded, hdecoded⟩ := hagrees.2 bytes hbytes
  have hcounted : (launcher.sendTouch calls demoTouchRequest).2.touchNonce = 7 ∧
      (launcher.sendTouch calls demoTouchRequest).2.touchSequence = 1 := by decide
  exact ⟨bytes, frame, hbytes, hencoded, hrequested.sequence.trans hcounted.2,
    hrequested.nonce.trans hcounted.1, hdecoded⟩

end LvglPlatform
