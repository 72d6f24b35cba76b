import LvglPlatform.Package.Types

/-! The stored release state of an application, and the transitions that replace it. -/

namespace LvglPlatform

open Foundation

structure ApplicationReleaseState where
  appId : Bytes := []
  signingKeyId : Bytes := []
  generation : UInt64 := 0
  currentRelease : UInt64 := 0
  previousRelease : UInt64 := 0
  highRelease : UInt64 := 0
  quarantinedRelease : UInt64 := 0
  highSecurityEpoch : UInt32 := 0
  consecutiveLaunchFailures : UInt16 := 0
  currentDigest : Sha512Digest := zeroes 64
  previousDigest : Sha512Digest := zeroes 64
  highDigest : Sha512Digest := zeroes 64
  deriving DecidableEq

def keyId (value : Bytes) : Bool := lowercaseHex value 32

def zeroDigest (digest : Sha512Digest) : Bool := allZero digest.toList

def validState (state : ApplicationReleaseState) : Bool :=
  if !appId state.appId || !keyId state.signingKeyId || state.generation = 0 ||
      state.currentRelease = 0 || state.highRelease < state.currentRelease ||
      state.previousRelease > state.highRelease || state.quarantinedRelease > state.highRelease ||
      state.consecutiveLaunchFailures > 3 || zeroDigest state.currentDigest ||
      zeroDigest state.highDigest then false
  else if decide (state.previousRelease = 0) ≠ zeroDigest state.previousDigest then false
  else if state.highRelease = state.currentRelease ∧ state.highDigest ≠ state.currentDigest then false
  else if state.previousRelease = state.currentRelease ∨
      state.quarantinedRelease = state.currentRelease then false
  else true

structure Wellformed (state : ApplicationReleaseState) : Prop where
  appId : appId state.appId = true
  keyId : keyId state.signingKeyId = true
  generation : state.generation ≠ 0
  current : state.currentRelease ≠ 0
  current_le : state.currentRelease ≤ state.highRelease
  previous_le : state.previousRelease ≤ state.highRelease
  quarantined_le : state.quarantinedRelease ≤ state.highRelease
  failures : state.consecutiveLaunchFailures ≤ 3
  currentDigest : zeroDigest state.currentDigest = false
  highDigest : zeroDigest state.highDigest = false
  previousDigest : state.previousRelease = 0 ↔ zeroDigest state.previousDigest = true
  highDigest_eq : state.highRelease = state.currentRelease → state.highDigest = state.currentDigest
  previous_ne : state.previousRelease ≠ state.currentRelease
  quarantined_ne : state.quarantinedRelease ≠ state.currentRelease

lemma validState_iff (state : ApplicationReleaseState) :
    validState state = true ↔ Wellformed state := by
  constructor
  · intro h
    unfold validState at h
    split at h <;> rename_i hfields
    · simp at h
    split at h <;> rename_i hprevious
    · simp at h
    split at h <;> rename_i hhigh
    · simp at h
    split at h <;> rename_i hdistinct
    · simp at h
    simp only [Bool.or_eq_true, not_or, Bool.not_eq_true', decide_eq_true_eq,
      Bool.not_eq_false, Bool.not_eq_true] at hfields
    obtain ⟨⟨⟨⟨⟨⟨⟨⟨⟨happ, hkey⟩, hgen⟩, hcur⟩, hle⟩, hprev⟩, hquar⟩, hfail⟩, hcd⟩, hhd⟩ := hfields
    simp only [not_or] at hdistinct
    refine ⟨happ, hkey, hgen, hcur, by grind, by grind, by grind, by grind, hcd, hhd, ?_,
      by grind, hdistinct.1, hdistinct.2⟩
    have hdecide : decide (state.previousRelease = 0) = zeroDigest state.previousDigest :=
      not_not.mp hprevious
    rw [← hdecide, decide_eq_true_eq]
  · intro h
    have hprevious : decide (state.previousRelease = 0) = zeroDigest state.previousDigest := by
      by_cases hz : state.previousRelease = 0
      · simp [hz, h.previousDigest.mp hz]
      · have hd : zeroDigest state.previousDigest = false := by
          rw [← Bool.not_eq_true]
          exact fun hd => hz (h.previousDigest.mpr hd)
        simp [hz, hd]
    unfold validState
    rw [if_neg, if_neg (by simp [hprevious]), if_neg (by have := h.highDigest_eq; grind),
      if_neg (by simp [h.previous_ne, h.quarantined_ne])]
    simp only [h.appId, h.keyId, h.generation, h.current, h.currentDigest, h.highDigest]
    have := h.current_le
    have := h.previous_le
    have := h.quarantined_le
    have := h.failures
    grind

/-- The state an accepted candidate leads to, before `validState` has been asked about it. -/
def nextState (candidate : PackageVerification) (packageDigest : Sha512Digest)
    (current : Option ApplicationReleaseState) : ApplicationReleaseState :=
  let next : ApplicationReleaseState := {
    appId := candidate.manifest.appId
    signingKeyId := candidate.manifest.signingKeyId
    generation := match current with
      | some state => state.generation + 1
      | none => 1
    currentRelease := candidate.manifest.releaseCounter
    currentDigest := packageDigest
    highRelease := candidate.manifest.releaseCounter
    highSecurityEpoch := candidate.manifest.securityEpoch
    highDigest := packageDigest }
  let next := match current with
    | none => next
    | some state =>
      let high := max next.highRelease state.highRelease
      { next with
        previousRelease := state.currentRelease
        previousDigest := state.currentDigest
        highRelease := high
        highSecurityEpoch := max next.highSecurityEpoch state.highSecurityEpoch
        highDigest := if high = state.highRelease then state.highDigest else next.highDigest
        quarantinedRelease := state.quarantinedRelease }
  let next := if next.previousRelease = next.currentRelease then
      { next with previousRelease := 0, previousDigest := zeroes 64 }
    else next
  if next.quarantinedRelease = next.currentRelease then { next with quarantinedRelease := 0 } else next

def refused (candidate : PackageVerification) (packageDigest : Sha512Digest)
    (state : ApplicationReleaseState) : Bool :=
  !validState state || state.appId ≠ candidate.manifest.appId ||
    state.signingKeyId ≠ candidate.manifest.signingKeyId ||
    candidate.manifest.releaseCounter < state.highRelease ||
    candidate.manifest.securityEpoch < state.highSecurityEpoch ||
    candidate.manifest.releaseCounter = state.quarantinedRelease ||
    (candidate.manifest.releaseCounter = state.highRelease && packageDigest ≠ state.highDigest)

def committed (next : ApplicationReleaseState) : Option ApplicationReleaseState :=
  if next.generation = 0 then none else if validState next then some next else none

def activationStateFor (candidate : PackageVerification) (packageDigest : Sha512Digest)
    (current : Option ApplicationReleaseState) : Option ApplicationReleaseState :=
  if !candidate.ok || candidate.development || !candidate.signatureVerified ||
      candidate.manifest.releaseCounter = 0 || zeroDigest packageDigest then none
  else match current with
    | none => committed (nextState candidate packageDigest none)
    | some state =>
      if refused candidate packageDigest state then none
      else if candidate.manifest.releaseCounter = state.currentRelease ∧
          packageDigest = state.currentDigest then some state
      else committed (nextState candidate packageDigest (some state))

def retreatState (current : ApplicationReleaseState) (recordLaunchFailure : Bool) :
    ApplicationReleaseState :=
  { current with
    generation := current.generation + 1
    quarantinedRelease := current.currentRelease
    currentRelease := current.previousRelease
    currentDigest := current.previousDigest
    previousRelease := 0
    previousDigest := zeroes 64
    consecutiveLaunchFailures :=
      if recordLaunchFailure then
        UInt16.ofNat (min 3 (current.consecutiveLaunchFailures.toNat + 1))
      else 0 }

def rollbackRelease (current : ApplicationReleaseState) (recordLaunchFailure : Bool) :
    Option ApplicationReleaseState :=
  if !validState current || current.previousRelease = 0 ||
      current.generation = UInt64.ofNat (2 ^ 64 - 1) then none
  else if validState (retreatState current recordLaunchFailure) then
    some (retreatState current recordLaunchFailure)
  else none

def rollbackFailedRelease (current : ApplicationReleaseState) : Option ApplicationReleaseState :=
  rollbackRelease current true

end LvglPlatform
