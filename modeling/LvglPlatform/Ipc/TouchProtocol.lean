import LvglPlatform.Foundation.Strokes
import LvglPlatform.Platform.Primitives

namespace LvglPlatform

open Foundation

inductive TouchPhase
  | start
  | move
  | end
  | cancel
  deriving DecidableEq, Repr

def TouchPhase.code : TouchPhase → ℕ
  | .start => 1
  | .move => 2
  | .end => 3
  | .cancel => 4

def TouchPhase.ofCode : ℕ → Option TouchPhase
  | 1 => some .start
  | 2 => some .move
  | 3 => some .end
  | 4 => some .cancel
  | _ => none

inductive TouchError
  | frameInvalid
  | sessionMismatch
  | sequenceReplayed
  | timestampStale
  | contactInvalid
  deriving DecidableEq, Repr

structure TouchFrame where
  sessionNonce : UInt64
  sequence : UInt64
  monotonicUs : UInt64
  phase : TouchPhase
  contactId : UInt32
  x : ℤ
  y : ℤ
  flags : UInt32
  deriving DecidableEq

def touchFrameMagic : ℕ := 0x4C565450

def touchFrameWireSize : ℕ := 56

def maxTouchContactId : UInt32 := 31

def signed32 (n : ℕ) : ℤ := if n < 2 ^ 31 then n else n - 2 ^ 32

def unsigned32 (n : ℤ) : ℕ := (n % 2 ^ 32).toNat

def readI32 (bytes : Bytes) (offset : ℕ) : ℤ := signed32 (value (slice bytes offset 4))

def validTouchFrame (frame : TouchFrame) (width height : ℤ) : Bool :=
  frame.sessionNonce ≠ 0 && frame.sequence ≠ 0 && frame.monotonicUs ≠ 0 &&
    frame.contactId ≤ maxTouchContactId && 0 < width && 0 < height && 0 ≤ frame.x &&
    0 ≤ frame.y && frame.x < width && frame.y < height && frame.flags = 0

def touchTimestampFresh (frame : TouchFrame) (nowMonotonicUs : UInt64)
    (maximumAgeUs maximumFutureUs : UInt64) : Bool :=
  if frame.monotonicUs = 0 ∨ nowMonotonicUs = 0 then false
  else if frame.monotonicUs > nowMonotonicUs then
    frame.monotonicUs - nowMonotonicUs ≤ maximumFutureUs
  else nowMonotonicUs - frame.monotonicUs ≤ maximumAgeUs

def touchFields (frame : TouchFrame) : List Bytes :=
  [littleEndian 4 touchFrameMagic,
    littleEndian 2 1,
    littleEndian 2 touchFrameWireSize,
    littleEndian 8 frame.sessionNonce.toNat,
    littleEndian 8 frame.sequence.toNat,
    littleEndian 8 frame.monotonicUs.toNat,
    littleEndian 4 frame.phase.code,
    littleEndian 4 frame.contactId.toNat,
    littleEndian 4 (unsigned32 frame.x),
    littleEndian 4 (unsigned32 frame.y),
    littleEndian 4 frame.flags.toNat,
    littleEndian 4 0]

def encodeTouchFrame (frame : TouchFrame) : Bytes := (touchFields frame).flatten

def decodeTouchFrame (bytes : Bytes) (width height : ℤ) : Except TouchError TouchFrame :=
  if bytes.length ≠ touchFrameWireSize ∨ value (slice bytes 0 4) ≠ touchFrameMagic ∨
      value (slice bytes 4 2) ≠ 1 ∨ value (slice bytes 6 2) ≠ touchFrameWireSize ∨
      value (slice bytes 52 4) ≠ 0 then .error .frameInvalid
  else match TouchPhase.ofCode (value (slice bytes 32 4)) with
    | none => .error .frameInvalid
    | some phase =>
      let frame : TouchFrame := {
        sessionNonce := readU64 bytes 8
        sequence := readU64 bytes 16
        monotonicUs := readU64 bytes 24
        phase
        contactId := readU32 bytes 36
        x := readI32 bytes 40
        y := readI32 bytes 44
        flags := readU32 bytes 48 }
      if validTouchFrame frame width height then .ok frame else .error .frameInvalid

lemma signed32_unsigned32 {n : ℤ} (h : 0 ≤ n) (hlt : n < 2 ^ 31) : signed32 (unsigned32 n) = n := by
  have hmod : unsigned32 n = n.toNat := by
    rw [unsigned32, Int.emod_eq_of_lt h (by omega)]
  rw [hmod, signed32, if_pos (by omega), Int.toNat_of_nonneg h]

lemma TouchPhase.ofCode_code (phase : TouchPhase) : TouchPhase.ofCode phase.code = some phase := by
  cases phase <;> rfl

lemma decodeTouchFrame_encode {frame : TouchFrame} {width height : ℤ}
    (hvalid : validTouchFrame frame width height = true) (hwidth : width < 2 ^ 31)
    (hheight : height < 2 ^ 31) :
    decodeTouchFrame (encodeTouchFrame frame) width height = .ok frame := by
  have hlength : (encodeTouchFrame frame).length = touchFrameWireSize := by
    simp [encodeTouchFrame, touchFields, touchFrameWireSize]
  have hfield : ∀ (offset length k : ℕ) (field : Bytes), (touchFields frame)[k]? = some field →
      offset = offsetOf (touchFields frame) k → length = field.length →
      slice (encodeTouchFrame frame) offset length = field :=
    fun _ _ k _ hget hoffset hl => slice_field k hget hoffset hl
  have hcoordinates : 0 ≤ frame.x ∧ frame.x < width ∧ 0 ≤ frame.y ∧ frame.y < height := by
    simp only [validTouchFrame, Bool.and_eq_true, decide_eq_true_eq] at hvalid
    grind
  have hu64 : ∀ n : UInt64, UInt64.ofNat (value (littleEndian 8 n.toNat)) = n := by
    intro n
    rw [value_littleEndian_of_lt n.toNat_lt, UInt64.ofNat_toNat]
  have hu32 : ∀ n : UInt32, UInt32.ofNat (value (littleEndian 4 n.toNat)) = n := by
    intro n
    rw [value_littleEndian_of_lt n.toNat_lt, UInt32.ofNat_toNat]
  have hi32 : ∀ n : ℤ, 0 ≤ n → n < 2 ^ 31 →
      signed32 (value (littleEndian 4 (unsigned32 n))) = n := by
    intro n hn hlt
    have hsmall : unsigned32 n < 256 ^ 4 := by
      rw [unsigned32]
      omega
    rw [value_littleEndian_of_lt hsmall, signed32_unsigned32 hn hlt]
  have hphase : frame.phase.code < 256 ^ 4 := by cases frame.phase <;> decide
  have hheader : ¬((encodeTouchFrame frame).length ≠ touchFrameWireSize ∨
      value (slice (encodeTouchFrame frame) 0 4) ≠ touchFrameMagic ∨
      value (slice (encodeTouchFrame frame) 4 2) ≠ 1 ∨
      value (slice (encodeTouchFrame frame) 6 2) ≠ touchFrameWireSize ∨
      value (slice (encodeTouchFrame frame) 52 4) ≠ 0) := by
    rw [hlength, hfield 0 4 0 _ rfl rfl rfl, hfield 4 2 1 _ rfl rfl rfl, hfield 6 2 2 _ rfl rfl rfl,
      hfield 52 4 11 _ rfl rfl rfl]
    decide
  rw [decodeTouchFrame, if_neg hheader, hfield 32 4 6 _ rfl rfl rfl, value_littleEndian_of_lt hphase,
    TouchPhase.ofCode_code]
  simp only [readU64, readU32, readI32, hfield 8 8 3 _ rfl rfl rfl, hfield 16 8 4 _ rfl rfl rfl,
    hfield 24 8 5 _ rfl rfl rfl, hfield 36 4 7 _ rfl rfl rfl, hfield 40 4 8 _ rfl rfl rfl,
    hfield 44 4 9 _ rfl rfl rfl, hfield 48 4 10 _ rfl rfl rfl, hu64, hu32,
    hi32 frame.x hcoordinates.1 (by omega), hi32 frame.y hcoordinates.2.2.1 (by omega), hvalid, if_true]

structure TouchSequenceGuard where
  sessionNonce : UInt64 := 0
  lastSequence : UInt64 := 0
  deriving DecidableEq

def TouchSequenceGuard.accept (guard : TouchSequenceGuard) (frame : TouchFrame) :
    Except TouchError TouchSequenceGuard :=
  if guard.sessionNonce = 0 ∨ frame.sessionNonce ≠ guard.sessionNonce then .error .sessionMismatch
  else if frame.sequence ≤ guard.lastSequence then .error .sequenceReplayed
  else .ok { guard with lastSequence := frame.sequence }

def TouchSequenceGuard.reset (sessionNonce : UInt64) : TouchSequenceGuard := { sessionNonce }

/-- The contacts that are down, one bit each. -/
structure TouchContactGuard where
  activeContacts : BitVec 32 := 0
  deriving DecidableEq

def contactMask (contact : UInt32) : BitVec 32 := 1 <<< contact.toNat

def TouchContactGuard.active (guard : TouchContactGuard) (contact : UInt32) : Bool :=
  guard.activeContacts &&& contactMask contact ≠ 0

def TouchContactGuard.accept (guard : TouchContactGuard) (frame : TouchFrame) :
    Except TouchError TouchContactGuard :=
  if frame.contactId > maxTouchContactId then .error .contactInvalid
  else
    let mask := contactMask frame.contactId
    match frame.phase with
    | .start =>
      if guard.active frame.contactId then .error .contactInvalid
      else .ok ⟨guard.activeContacts ||| mask⟩
    | .move => if guard.active frame.contactId then .ok guard else .error .contactInvalid
    | .end | .cancel =>
      if guard.active frame.contactId then .ok ⟨guard.activeContacts &&& ~~~mask⟩
      else .error .contactInvalid

/-- What a phase is to the stroke of its contact. -/
def phaseMark : TouchPhase → Mark
  | .start => .opening
  | .move => .inner
  | .end => .closing
  | .cancel => .closing

lemma phaseMark_closing : ∃ phase, phaseMark phase = .closing := ⟨.end, rfl⟩

section

variable {guard guard' : TouchContactGuard} {frame : TouchFrame}

lemma contactMask_eq (contact : UInt32) : contactMask contact = BitVec.twoPow 32 contact.toNat := rfl

lemma active_eq_getLsbD {contact : UInt32} (h : contact ≤ maxTouchContactId) :
    guard.active contact = guard.activeContacts.getLsbD contact.toNat := by
  have hlt : contact.toNat < 32 := by
    have := UInt32.le_iff_toNat_le.mp h
    change contact.toNat ≤ 31 at this
    omega
  rw [TouchContactGuard.active, contactMask_eq, BitVec.and_twoPow]
  cases hbit : guard.activeContacts.getLsbD contact.toNat with
  | false => simp
  | true =>
    have hne : BitVec.twoPow 32 contact.toNat ≠ 0 := by
      intro hzero
      have := congrArg (BitVec.getLsbD · contact.toNat) hzero
      simp [hlt] at this
    simpa using hne

lemma accept_contact (h : guard.accept frame = .ok guard') : frame.contactId ≤ maxTouchContactId := by
  by_contra hc
  rw [TouchContactGuard.accept, if_pos (by grind)] at h
  cases h

/-- An accepted frame is the next letter of its contact's strokes. -/
lemma accept_step (h : guard.accept frame = .ok guard') :
    strokeStep phaseMark (guard.active frame.contactId) frame.phase =
      some (guard'.active frame.contactId) := by
  have hcontact := accept_contact h
  have hlt : frame.contactId.toNat < 32 := by
    have := UInt32.le_iff_toNat_le.mp hcontact
    change frame.contactId.toNat ≤ 31 at this
    omega
  rw [TouchContactGuard.accept, if_neg (by grind)] at h
  rw [strokeStep, active_eq_getLsbD hcontact, active_eq_getLsbD hcontact]
  rw [active_eq_getLsbD hcontact] at h
  cases hbit : guard.activeContacts.getLsbD frame.contactId.toNat <;>
    cases hphase : frame.phase <;> simp [hbit, hphase, phaseMark] at h ⊢ <;> subst h <;>
    simp [contactMask_eq, hbit, hlt]

lemma accept_other (h : guard.accept frame = .ok guard') {contact : UInt32}
    (hcontact : contact ≤ maxTouchContactId) (hne : contact ≠ frame.contactId) :
    guard'.active contact = guard.active contact := by
  have hframe := accept_contact h
  have hdistinct : contact.toNat ≠ frame.contactId.toNat := fun he => hne (UInt32.toNat_inj.mp he)
  have hlt : contact.toNat < 32 := by
    have := UInt32.le_iff_toNat_le.mp hcontact
    change contact.toNat ≤ 31 at this
    omega
  rw [TouchContactGuard.accept, if_neg (by grind)] at h
  rw [active_eq_getLsbD hcontact, active_eq_getLsbD hcontact]
  cases hphase : frame.phase <;> simp only [hphase] at h <;> split at h <;> cases h <;>
    simp [contactMask_eq, hdistinct, hlt]

end

end LvglPlatform
