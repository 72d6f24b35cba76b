import LvglPlatform.Services.PackageInstaller

/-! The two rules against older releases: the mark the policy compares with and the transition of the
stored state. -/

namespace LvglPlatform

open Foundation

section

variable {candidate : PackageVerification} {packageDigest : Sha512Digest}
  {state next : ApplicationReleaseState}

lemma Candidate.of_above
    (hauthenticated : candidate.ok = true ∧ candidate.development = false ∧
      candidate.signatureVerified = true)
    (hcounter : candidate.manifest.releaseCounter ≠ 0) (hw : Wellformed state)
    (h : AboveMark candidate packageDigest (highWaterMark state)) :
    Candidate candidate (some state) packageDigest := by
  have happ : state.appId = candidate.manifest.appId := h.appId
  have hsigner : state.signingKeyId = candidate.manifest.signingKeyId := h.signer
  refine ⟨hauthenticated, hcounter, happ ▸ hw.appId, hsigner ▸ hw.keyId, ?_⟩
  rintro _ ⟨⟩ hquarantined
  exact ⟨hw, happ, hsigner, h.counter, h.epoch, hquarantined, h.digest⟩

lemma Admits.aboveMark (h : Admits candidate packageDigest state) :
    AboveMark candidate packageDigest (highWaterMark state) :=
  ⟨h.appId, h.signer, h.epoch, h.counter, h.digest⟩

lemma activation_quarantined
    (h : candidate.manifest.releaseCounter = state.quarantinedRelease) :
    activationStateFor candidate packageDigest (some state) = none := by
  rw [Option.eq_none_iff_forall_ne_some]
  intro next hnext
  have hadmits := (activation_cases hnext).1 state rfl
  exact hadmits.quarantined h

lemma activation_isSome_iff
    (hauthenticated : candidate.ok = true ∧ candidate.development = false ∧
      candidate.signatureVerified = true)
    (hcounter : candidate.manifest.releaseCounter ≠ 0) (hw : Wellformed state)
    (hdigest : zeroDigest packageDigest = false) (hgeneration : state.generation + 1 ≠ 0)
    (hquarantined : candidate.manifest.releaseCounter ≠ state.quarantinedRelease) :
    (activationStateFor candidate packageDigest (some state)).isSome = true ↔
      AboveMark candidate packageDigest (highWaterMark state) := by
  constructor
  · intro h
    obtain ⟨next, hnext⟩ := Option.isSome_iff_exists.mp h
    have hadmits := (activation_cases hnext).1 state rfl
    exact hadmits.aboveMark
  · intro h
    have hcandidate := Candidate.of_above hauthenticated hcounter hw h
    rw [Option.isSome_iff_ne_none, ne_eq, activation_eq_none hcandidate]
    rintro (hzero | ⟨other, hother, hrefused⟩)
    · rw [hdigest] at hzero
      cases hzero
    · obtain rfl := Option.some.inj hother
      rcases hrefused with he | ⟨he, -⟩
      · exact hquarantined he
      · exact hgeneration he

end

lemma generation_lt_max {generation : UInt64} (h : generation.toNat < 2 ^ 64 - 1) :
    generation + 1 ≠ 0 := by
  intro he
  have hzero := congrArg UInt64.toNat he
  rw [UInt64.toNat_add, UInt64.toNat_one, UInt64.toNat_zero] at hzero
  omega

theorem activation_agrees_with_policy (state : ApplicationReleaseState)
    (candidate : PackageVerification) (packageDigest : Sha512Digest)
    (hvalid : validState state = true) (hgeneration : state.generation.toNat < 2 ^ 64 - 1)
    (hauthenticated : candidate.ok = true ∧ candidate.development = false ∧
      candidate.signatureVerified = true)
    (hcounter : candidate.manifest.releaseCounter ≠ 0)
    (hdigest : zeroDigest packageDigest = false) :
    (candidate.manifest.releaseCounter ≠ state.quarantinedRelease →
      ((highWaterDecision candidate packageDigest (highWaterMark state)).allowed = true ↔
        (activationStateFor candidate packageDigest (some state)).isSome = true)) ∧
    (candidate.manifest.releaseCounter = state.quarantinedRelease →
      activationStateFor candidate packageDigest (some state) = none) := by
  have hw := (validState_iff state).mp hvalid
  refine ⟨fun hquarantined => ?_, activation_quarantined⟩
  rw [highWaterDecision_allowed]
  exact (activation_isSome_iff hauthenticated hcounter hw hdigest (generation_lt_max hgeneration)
    hquarantined).symm

theorem update_passes_both_rules :
    (highWaterDecision (sampleCandidate 3) (sampleDigest 3) (highWaterMark sampleUpdated)).allowed =
        true ∧
      (activationStateFor (sampleCandidate 3) (sampleDigest 3) (some sampleUpdated)).isSome = true := by
  have hallowed : (highWaterDecision (sampleCandidate 3) (sampleDigest 3)
      (highWaterMark sampleUpdated)).allowed = true := by decide
  have hagree := (activation_agrees_with_policy sampleUpdated (sampleCandidate 3) (sampleDigest 3)
    (by decide) (by decide) (by decide) (by decide)
    (by decide)).1 (by decide)
  exact ⟨hallowed, hagree.mp hallowed⟩

section

variable {candidate : PackageVerification} {packageDigest : Sha512Digest}
  {state : ApplicationReleaseState}

lemma advanceHighWaterMark_above (h : Admits candidate packageDigest state)
    (habove : state.highRelease < candidate.manifest.releaseCounter) :
    advanceHighWaterMark candidate packageDigest (some (highWaterMark state)) =
      advanceHighWaterMark candidate packageDigest none := by
  have hepoch := h.epoch
  dsimp only [advanceHighWaterMark, highWaterMark]
  rw [if_neg]
  rintro (happ | hsigner | hcounter | hlower)
  · exact happ h.appId.symm
  · exact hsigner h.signer.symm
  · exact absurd habove (UInt64.not_lt.mpr hcounter)
  · exact absurd hlower (UInt32.not_lt.mpr hepoch)

lemma advanceHighWaterMark_running (h : Admits candidate packageDigest state)
    (hrunning : candidate.manifest.releaseCounter = state.currentRelease) :
    advanceHighWaterMark candidate packageDigest (some (highWaterMark state)) =
      highWaterMark state := by
  have hle := h.wellformed.current_le
  have hcounter : candidate.manifest.releaseCounter ≤ state.highRelease := hrunning ▸ hle
  dsimp only [advanceHighWaterMark]
  exact if_pos (Or.inr (Or.inr (Or.inl hcounter)))

lemma activation_mark {current : Option ApplicationReleaseState} {next : ApplicationReleaseState}
    (hs : SoundHistory current)
    (h : activationStateFor candidate packageDigest current = some next) :
    highWaterMark next =
      advanceHighWaterMark candidate packageDigest (current.map highWaterMark) := by
  obtain ⟨hadmits, rfl | ⟨hnew, hnext, -, -⟩⟩ := activation_cases h
  · have hadmitted := hadmits next rfl
    exact (advanceHighWaterMark_running hadmitted (activation_activated h).current.symm).symm
  · cases current with
    | none =>
      have hcounter : candidate.manifest.releaseCounter ≠ 0 := by
        intro hzero
        simp [activationStateFor, hzero] at h
      rw [hnext, nextState_none candidate packageDigest hcounter]
      rfl
    | some state =>
      have hadmitted := hadmits state rfl
      -- the history puts a release that is new above everything activated before it
      have habove := hadmitted.above (hs state rfl).tracked (hnew state rfl)
      rw [Option.map_some, advanceHighWaterMark_above hadmitted habove, hnext,
        nextState_admitted hadmitted (hadmitted.current_ne (hnew state rfl))]
      rfl

end

theorem activation_advances_mark (inputs : List ReleaseInput) (candidate : PackageVerification)
    (packageDigest : Sha512Digest) (next : ApplicationReleaseState)
    (h : activationStateFor candidate packageDigest (releaseMachine.run inputs) = some next) :
    highWaterMark next =
      advanceHighWaterMark candidate packageDigest ((releaseMachine.run inputs).map highWaterMark) :=
  activation_mark (soundHistory_run inputs) h

theorem update_advances_mark :
    ∃ next, activationStateFor (sampleCandidate 2) (sampleDigest 2)
        (releaseMachine.run [.activate (sampleCandidate 1) (sampleDigest 1)]) = some next ∧
      highWaterMark next = advanceHighWaterMark (sampleCandidate 2) (sampleDigest 2)
        ((releaseMachine.run [.activate (sampleCandidate 1) (sampleDigest 1)]).map highWaterMark) := by
  have h : activationStateFor (sampleCandidate 2) (sampleDigest 2)
      (releaseMachine.run [.activate (sampleCandidate 1) (sampleDigest 1)]) =
        some sampleUpdated := by decide
  exact ⟨sampleUpdated, h, activation_advances_mark [.activate (sampleCandidate 1) (sampleDigest 1)]
    (sampleCandidate 2) (sampleDigest 2) sampleUpdated h⟩

end LvglPlatform
