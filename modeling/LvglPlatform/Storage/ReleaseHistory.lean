import LvglPlatform.Foundation.HighWater
import LvglPlatform.Foundation.Machine
import LvglPlatform.Storage.ReleaseState

/-! Histories of activations and rollbacks of one application, from no state at all. -/

namespace LvglPlatform

open Foundation

inductive ReleaseInput
  | activate (candidate : PackageVerification) (packageDigest : Sha512Digest)
  | rollback (recordLaunchFailure : Bool)

/-- A returned state is adopted; a refused transition leaves the state as it is. -/
def applyRelease (state : Option ApplicationReleaseState) :
    ReleaseInput → Option ApplicationReleaseState
  | .activate candidate packageDigest => (activationStateFor candidate packageDigest state).or state
  | .rollback recordLaunchFailure => (state.bind (rollbackRelease · recordLaunchFailure)).or state

def releaseMachine : Machine (Option ApplicationReleaseState) ReleaseInput where
  initial := none
  step := applyRelease

structure Admits (candidate : PackageVerification) (packageDigest : Sha512Digest)
    (state : ApplicationReleaseState) : Prop where
  wellformed : Wellformed state
  appId : state.appId = candidate.manifest.appId
  signer : state.signingKeyId = candidate.manifest.signingKeyId
  counter : state.highRelease ≤ candidate.manifest.releaseCounter
  epoch : state.highSecurityEpoch ≤ candidate.manifest.securityEpoch
  quarantined : candidate.manifest.releaseCounter ≠ state.quarantinedRelease
  digest : candidate.manifest.releaseCounter = state.highRelease → packageDigest = state.highDigest

lemma Admits.of_not_refused {candidate : PackageVerification} {packageDigest : Sha512Digest}
    {state : ApplicationReleaseState} (h : ¬ refused candidate packageDigest state = true) :
    Admits candidate packageDigest state := by
  simp only [refused, Bool.or_eq_true, not_or, Bool.not_eq_true', Bool.not_eq_false,
    decide_eq_true_eq, Bool.and_eq_true, not_and, not_not, ne_eq] at h
  obtain ⟨⟨⟨⟨⟨⟨hvalid, happ⟩, hkey⟩, hcounter⟩, hepoch⟩, hquar⟩, hdigest⟩ := h
  exact ⟨(validState_iff state).mp hvalid, happ, hkey, by grind, by grind, hquar, hdigest⟩

lemma committed_cases {next result : ApplicationReleaseState} (h : committed next = some result) :
    result = next ∧ next.generation ≠ 0 ∧ Wellformed next := by
  unfold committed at h
  split at h <;> rename_i hgeneration
  · simp at h
  split at h <;> rename_i hvalid
  · exact ⟨(Option.some.inj h).symm, hgeneration, (validState_iff _).mp hvalid⟩
  · simp at h

lemma activation_cases {candidate : PackageVerification} {packageDigest : Sha512Digest}
    {current : Option ApplicationReleaseState} {next : ApplicationReleaseState}
    (h : activationStateFor candidate packageDigest current = some next) :
    (∀ state, current = some state → Admits candidate packageDigest state) ∧
      (current = some next ∨
        (∀ state, current = some state → ¬ (candidate.manifest.releaseCounter = state.currentRelease ∧
          packageDigest = state.currentDigest)) ∧
        next = nextState candidate packageDigest current ∧ next.generation ≠ 0 ∧ Wellformed next) := by
  unfold activationStateFor at h
  split at h
  · simp at h
  cases current with
  | none =>
    obtain ⟨rfl, hgeneration, hwell⟩ := committed_cases h
    exact ⟨by simp, Or.inr ⟨by simp, rfl, hgeneration, hwell⟩⟩
  | some state =>
    simp only at h
    split at h <;> rename_i hrefused
    · simp at h
    have hadmits : ∀ s, some state = some s → Admits candidate packageDigest s := by
      rintro s ⟨⟩
      exact .of_not_refused hrefused
    refine ⟨hadmits, ?_⟩
    split at h <;> rename_i hreinstall
    · exact Or.inl h
    · obtain ⟨rfl, hgeneration, hwell⟩ := committed_cases h
      refine Or.inr ⟨?_, rfl, hgeneration, hwell⟩
      rintro s ⟨⟩
      exact hreinstall

/-- The running release is the highest one ever activated, or that one was rolled back. -/
def Tracked (state : ApplicationReleaseState) : Prop :=
  state.currentRelease = state.highRelease ∨
    (state.previousRelease = 0 ∧ state.quarantinedRelease = state.highRelease)

lemma Admits.above {candidate : PackageVerification} {packageDigest : Sha512Digest}
    {state : ApplicationReleaseState} (h : Admits candidate packageDigest state)
    (ht : Tracked state) (hnew : ¬ (candidate.manifest.releaseCounter = state.currentRelease ∧
      packageDigest = state.currentDigest)) :
    state.highRelease < candidate.manifest.releaseCounter := by
  have hne : candidate.manifest.releaseCounter ≠ state.highRelease := by
    intro he
    rcases ht with hcurrent | ⟨-, hquarantined⟩
    · have hd := h.wellformed.highDigest_eq hcurrent.symm
      exact hnew ⟨he.trans hcurrent.symm, (h.digest he).trans hd⟩
    · exact h.quarantined (he.trans hquarantined.symm)
  have := h.counter
  grind

lemma nextState_none (candidate : PackageVerification) (packageDigest : Sha512Digest)
    (hcounter : candidate.manifest.releaseCounter ≠ 0) :
    nextState candidate packageDigest none = {
      appId := candidate.manifest.appId
      signingKeyId := candidate.manifest.signingKeyId
      generation := 1
      currentRelease := candidate.manifest.releaseCounter
      highRelease := candidate.manifest.releaseCounter
      highSecurityEpoch := candidate.manifest.securityEpoch
      currentDigest := packageDigest
      highDigest := packageDigest } := by
  simp [nextState, hcounter.symm]

lemma Admits.current_ne {candidate : PackageVerification} {packageDigest : Sha512Digest}
    {state : ApplicationReleaseState} (h : Admits candidate packageDigest state)
    (hnew : ¬ (candidate.manifest.releaseCounter = state.currentRelease ∧
      packageDigest = state.currentDigest)) :
    state.currentRelease ≠ candidate.manifest.releaseCounter := by
  intro he
  have hhigh : state.highRelease = state.currentRelease := by
    have hle := h.wellformed.current_le
    have hcounter := h.counter
    grind
  have hdigest := h.digest (he.symm.trans hhigh.symm)
  exact hnew ⟨he.symm, hdigest.trans (h.wellformed.highDigest_eq hhigh)⟩

lemma nextState_admitted {candidate : PackageVerification} {packageDigest : Sha512Digest}
    {state : ApplicationReleaseState} (h : Admits candidate packageDigest state)
    (hcurrent : state.currentRelease ≠ candidate.manifest.releaseCounter) :
    nextState candidate packageDigest (some state) = {
      appId := candidate.manifest.appId
      signingKeyId := candidate.manifest.signingKeyId
      generation := state.generation + 1
      currentRelease := candidate.manifest.releaseCounter
      previousRelease := state.currentRelease
      highRelease := candidate.manifest.releaseCounter
      quarantinedRelease := state.quarantinedRelease
      highSecurityEpoch := candidate.manifest.securityEpoch
      currentDigest := packageDigest
      previousDigest := state.currentDigest
      highDigest := packageDigest } := by
  have hcounter := h.counter
  have hepoch := h.epoch
  have hhigh : max candidate.manifest.releaseCounter state.highRelease =
      candidate.manifest.releaseCounter := by
    change (if _ ≤ _ then _ else _) = _
    grind
  have hepoch : max candidate.manifest.securityEpoch state.highSecurityEpoch =
      candidate.manifest.securityEpoch := by
    change (if _ ≤ _ then _ else _) = _
    grind
  have hdigest : (if candidate.manifest.releaseCounter = state.highRelease then state.highDigest
      else packageDigest) = packageDigest := by
    split <;> rename_i he
    · exact (h.digest he).symm
    · rfl
  simp [nextState, hhigh, hepoch, hdigest, hcurrent, h.quarantined.symm]

lemma committed_eq_none {next : ApplicationReleaseState} (h : next.generation ≠ 0 → Wellformed next) :
    committed next = none ↔ next.generation = 0 := by
  unfold committed
  by_cases hg : next.generation = 0
  · simp [hg]
  · simp [hg, (validState_iff next).mpr (h hg)]

/-- A candidate that the release history admits, apart from the quarantine. -/
structure Candidate (candidate : PackageVerification) (current : Option ApplicationReleaseState)
    (packageDigest : Sha512Digest) : Prop where
  authenticated : candidate.ok = true ∧ candidate.development = false ∧
    candidate.signatureVerified = true
  counter : candidate.manifest.releaseCounter ≠ 0
  appId : appId candidate.manifest.appId = true
  keyId : keyId candidate.manifest.signingKeyId = true
  admitted : ∀ state, current = some state →
    candidate.manifest.releaseCounter ≠ state.quarantinedRelease →
    Admits candidate packageDigest state

abbrev Runs (candidate : PackageVerification) (packageDigest : Sha512Digest)
    (state : ApplicationReleaseState) : Prop :=
  candidate.manifest.releaseCounter = state.currentRelease ∧ packageDigest = state.currentDigest

/-- The reasons the transition has to refuse a candidate that the policy allows. -/
def Unactivatable (candidate : PackageVerification) (packageDigest : Sha512Digest)
    (current : Option ApplicationReleaseState) : Prop :=
  zeroDigest packageDigest = true ∨ ∃ state, current = some state ∧
    (candidate.manifest.releaseCounter = state.quarantinedRelease ∨
      (state.generation + 1 = 0 ∧ ¬ Runs candidate packageDigest state))

section

variable {candidate : PackageVerification} {packageDigest : Sha512Digest}
  {current : Option ApplicationReleaseState}

lemma first_wellformed (h : Candidate candidate current packageDigest)
    (hdigest : zeroDigest packageDigest = false) : Wellformed (nextState candidate packageDigest none) := by
  rw [nextState_none candidate packageDigest h.counter]
  have hzero : zeroDigest (zeroes 64) = true := by decide
  exact ⟨h.appId, h.keyId, by simp, h.counter, by simp, by simp, by simp, by simp, hdigest, hdigest,
    by simp [hzero], fun _ => rfl, h.counter.symm, h.counter.symm⟩

lemma advance_wellformed {state : ApplicationReleaseState} (h : Candidate candidate current packageDigest)
    (ha : Admits candidate packageDigest state) (hnew : ¬ Runs candidate packageDigest state)
    (hdigest : zeroDigest packageDigest = false) (hgeneration : state.generation + 1 ≠ 0) :
    Wellformed (nextState candidate packageDigest (some state)) := by
  have hne := ha.current_ne hnew
  have hw := ha.wellformed
  have hle := hw.current_le
  have hquarantined := hw.quarantined_le
  have hcounter := ha.counter
  rw [nextState_admitted ha hne]
  refine ⟨h.appId, h.keyId, hgeneration, h.counter, by simp, ?_, ?_, by simp, hdigest, hdigest, ?_,
    fun _ => rfl, hne, ha.quarantined.symm⟩
  · exact UInt64.le_trans hle hcounter
  · exact UInt64.le_trans hquarantined hcounter
  · simp [hw.current, hw.currentDigest]

lemma activation_eq_none (h : Candidate candidate current packageDigest) :
    activationStateFor candidate packageDigest current = none ↔
      Unactivatable candidate packageDigest current := by
  obtain ⟨hok, hdevelopment, hsigned⟩ := h.authenticated
  by_cases hdigest : zeroDigest packageDigest = true
  · simp [activationStateFor, hdigest, Unactivatable]
  have hnonzero : zeroDigest packageDigest = false := by simpa using hdigest
  unfold activationStateFor
  rw [if_neg (by simp [hok, hdevelopment, hsigned, h.counter, hnonzero])]
  cases hcurrent : current with
  | none =>
    have hwell := first_wellformed h hnonzero
    rw [committed_eq_none fun _ => hwell]
    simp [hwell.generation, Unactivatable, hnonzero]
  | some state =>
    simp only [Unactivatable, hnonzero, Bool.false_eq_true, false_or, Option.some.injEq,
      exists_eq_left']
    by_cases hquarantined : candidate.manifest.releaseCounter = state.quarantinedRelease
    · simp [refused, hquarantined]
    have ha := h.admitted state hcurrent hquarantined
    have hrefused : ¬ refused candidate packageDigest state = true := by
      have hcounter := ha.counter
      have hepoch := ha.epoch
      have hdigest := ha.digest
      simp only [refused, (validState_iff state).mpr ha.wellformed, ha.appId, ha.signer, hquarantined]
      grind
    rw [if_neg hrefused]
    by_cases hruns : Runs candidate packageDigest state
    · rw [if_pos hruns]
      refine iff_of_false (by simp) ?_
      rintro (hq | ⟨-, hnot⟩)
      · exact hquarantined hq
      · exact hnot hruns
    · have hgeneration : (nextState candidate packageDigest (some state)).generation =
          state.generation + 1 := by rw [nextState_admitted ha (ha.current_ne hruns)]
      rw [if_neg hruns, committed_eq_none, hgeneration]
      · simp [hquarantined, hruns]
      · intro hne
        exact advance_wellformed h ha hruns hnonzero (hgeneration ▸ hne)

structure Activated (candidate : PackageVerification) (packageDigest : Sha512Digest)
    (next : ApplicationReleaseState) : Prop where
  appId : next.appId = candidate.manifest.appId
  signer : next.signingKeyId = candidate.manifest.signingKeyId
  current : next.currentRelease = candidate.manifest.releaseCounter
  digest : next.currentDigest = packageDigest
  wellformed : Wellformed next

lemma nextState_running (candidate : PackageVerification) (packageDigest : Sha512Digest)
    (current : Option ApplicationReleaseState) :
    (nextState candidate packageDigest current).appId = candidate.manifest.appId ∧
      (nextState candidate packageDigest current).signingKeyId = candidate.manifest.signingKeyId ∧
      (nextState candidate packageDigest current).currentRelease = candidate.manifest.releaseCounter ∧
      (nextState candidate packageDigest current).currentDigest = packageDigest := by
  unfold nextState
  cases current with
  | none =>
    dsimp only
    split_ifs <;> exact ⟨rfl, rfl, rfl, rfl⟩
  | some state =>
    dsimp only
    split_ifs <;> exact ⟨rfl, rfl, rfl, rfl⟩

lemma committed_activated {next : ApplicationReleaseState}
    (h : committed (nextState candidate packageDigest current) = some next) :
    Activated candidate packageDigest next := by
  obtain ⟨rfl, -, hwell⟩ := committed_cases h
  obtain ⟨happ, hsigner, hcurrent, hdigest⟩ := nextState_running candidate packageDigest current
  exact ⟨happ, hsigner, hcurrent, hdigest, hwell⟩

lemma activation_activated {next : ApplicationReleaseState}
    (h : activationStateFor candidate packageDigest current = some next) :
    Activated candidate packageDigest next := by
  unfold activationStateFor at h
  split at h
  · cases h
  cases current with
  | none => exact committed_activated h
  | some state =>
    dsimp only at h
    split at h <;> rename_i hrefused
    · cases h
    split at h <;> rename_i hruns
    · obtain rfl := Option.some.inj h
      have hadmits := Admits.of_not_refused hrefused
      exact ⟨hadmits.appId, hadmits.signer, hruns.1.symm, hruns.2.symm, hadmits.wellformed⟩
    · exact committed_activated h

end

inductive ReleaseStep : Option ApplicationReleaseState → Option ApplicationReleaseState → Prop
  | stay (state : Option ApplicationReleaseState) : ReleaseStep state state
  | first (next : ApplicationReleaseState) : Wellformed next →
      next.currentRelease = next.highRelease → next.previousRelease = 0 →
      ReleaseStep none (some next)
  | advance (state next : ApplicationReleaseState) : Wellformed next →
      next.generation.toNat = state.generation.toNat + 1 →
      state.highRelease < next.highRelease → next.currentRelease = next.highRelease →
      next.previousRelease = state.currentRelease →
      state.highSecurityEpoch ≤ next.highSecurityEpoch → ReleaseStep (some state) (some next)
  | retreat (state next : ApplicationReleaseState) : Wellformed next →
      next.generation.toNat = state.generation.toNat + 1 → next.highRelease = state.highRelease →
      next.highDigest = state.highDigest → next.highSecurityEpoch = state.highSecurityEpoch →
      next.currentRelease = state.previousRelease → next.previousRelease = 0 →
      next.quarantinedRelease = state.currentRelease → ReleaseStep (some state) (some next)

structure Sound (state : ApplicationReleaseState) : Prop where
  wellformed : Wellformed state
  tracked : Tracked state

def SoundHistory (state : Option ApplicationReleaseState) : Prop := ∀ s ∈ state, Sound s

lemma generation_succ {generation : UInt64} (h : generation + 1 ≠ 0) :
    (generation + 1).toNat = generation.toNat + 1 := by
  have hlt := generation.toNat_lt
  have hne : generation.toNat + 1 ≠ 2 ^ 64 := by
    intro he
    apply h
    rw [← UInt64.toNat_inj, UInt64.toNat_add]
    simp [he]
  rw [UInt64.toNat_add, UInt64.toNat_one]
  omega

lemma activation_step {candidate : PackageVerification} {packageDigest : Sha512Digest}
    {current : Option ApplicationReleaseState} {next : ApplicationReleaseState}
    (hs : SoundHistory current)
    (h : activationStateFor candidate packageDigest current = some next) :
    ReleaseStep current (some next) := by
  obtain ⟨hadmits, rfl | ⟨hnew, hnext, hgeneration, hwell⟩⟩ := activation_cases h
  · exact .stay _
  · cases current with
    | none =>
      have hcounter : candidate.manifest.releaseCounter ≠ 0 := by
        intro hzero
        simp [activationStateFor, hzero] at h
      have he := hnext.trans (nextState_none candidate packageDigest hcounter)
      exact .first next hwell (by rw [he]) (by rw [he])
    | some state =>
      have ha := hadmits state rfl
      have habove := ha.above (hs state rfl).tracked (hnew state rfl)
      have he := hnext.trans (nextState_admitted ha (ha.current_ne (hnew state rfl)))
      have hg : next.generation = state.generation + 1 := by rw [he]
      refine .advance state next hwell ?_ (by rw [he]; exact habove) (by rw [he]) (by rw [he])
        (by rw [he]; exact ha.epoch)
      rw [hg, generation_succ (hg ▸ hgeneration)]

lemma activation_generation {candidate : PackageVerification} {packageDigest : Sha512Digest}
    {state next : ApplicationReleaseState}
    (h : activationStateFor candidate packageDigest (some state) = some next) :
    next = state ∨ state.generation < next.generation := by
  obtain ⟨hadmits, hsame | ⟨hnew, hnext, hgeneration, -⟩⟩ := activation_cases h
  · exact Or.inl (Option.some.inj hsame).symm
  · right
    have hadmitted := hadmits state rfl
    have he := hnext.trans (nextState_admitted hadmitted (hadmitted.current_ne (hnew state rfl)))
    have hg : next.generation = state.generation + 1 := by rw [he]
    have hsucc := generation_succ (hg ▸ hgeneration)
    rw [UInt64.lt_iff_toNat_lt, hg]
    omega

lemma rollback_cases {state next : ApplicationReleaseState} {recordLaunchFailure : Bool}
    (h : rollbackRelease state recordLaunchFailure = some next) :
    Wellformed state ∧ state.previousRelease ≠ 0 ∧ ReleaseStep (some state) (some next) ∧
      next.quarantinedRelease = state.currentRelease := by
  unfold rollbackRelease at h
  split at h <;> rename_i hguard
  · simp at h
  split at h <;> rename_i hvalid
  · obtain rfl := Option.some.inj h
    simp only [Bool.or_eq_true, not_or, Bool.not_eq_true', Bool.not_eq_false,
      decide_eq_true_eq] at hguard
    obtain ⟨⟨hstate, hprevious⟩, hmax⟩ := hguard
    refine ⟨(validState_iff _).mp hstate, hprevious, ?_, rfl⟩
    refine .retreat _ _ ((validState_iff _).mp hvalid) (generation_succ ?_) rfl rfl rfl rfl rfl rfl
    intro hzero
    apply hmax
    rw [← UInt64.toNat_inj] at hzero ⊢
    have hlt := state.generation.toNat_lt
    simp only [UInt64.toNat_add, UInt64.toNat_one, UInt64.toNat_zero, UInt64.toNat_ofNat'] at hzero ⊢
    omega
  · simp at h

lemma retreat_fields {state next : ApplicationReleaseState} {recordLaunchFailure : Bool}
    (h : rollbackRelease state recordLaunchFailure = some next) :
    next.currentRelease = state.previousRelease ∧ next.previousRelease = 0 ∧
      next.highRelease = state.highRelease := by
  unfold rollbackRelease at h
  split at h
  · simp at h
  split at h
  · obtain rfl := Option.some.inj h
    exact ⟨rfl, rfl, rfl⟩
  · simp at h

lemma release_step {current : Option ApplicationReleaseState} (hs : SoundHistory current)
    (input : ReleaseInput) : ReleaseStep current (applyRelease current input) := by
  cases input with
  | activate candidate packageDigest =>
    cases h : activationStateFor candidate packageDigest current with
    | none =>
      simp only [applyRelease, h, Option.none_or]
      exact .stay _
    | some next =>
      simp only [applyRelease, h, Option.some_or]
      exact activation_step hs h
  | rollback recordLaunchFailure =>
    cases current with
    | none => exact .stay _
    | some state =>
      cases h : rollbackRelease state recordLaunchFailure with
      | none =>
        simp only [applyRelease, Option.bind_some, h, Option.none_or]
        exact .stay _
      | some next =>
        simp only [applyRelease, Option.bind_some, h, Option.some_or]
        exact (rollback_cases h).2.2.1

lemma ReleaseStep.sound {current next : Option ApplicationReleaseState}
    (h : ReleaseStep current next) (hs : SoundHistory current) : SoundHistory next := by
  cases h with
  | stay => exact hs
  | first next hw hc hp =>
    rintro s ⟨⟩
    exact ⟨hw, Or.inl hc⟩
  | advance state next hw hg hh hc hp he =>
    rintro s ⟨⟩
    exact ⟨hw, Or.inl hc⟩
  | retreat state next hw hg hh hd he hc hp hq =>
    rintro s ⟨⟩
    obtain ⟨hwell, htracked⟩ := hs state rfl
    -- a state with a previous release runs its highest one: the other case of `Tracked` has none
    rcases htracked with htop | ⟨hzero, -⟩
    · exact ⟨hw, Or.inr ⟨hp, by rw [hq, hh, htop]⟩⟩
    · exact absurd (hc.trans hzero) hw.current

lemma soundHistory_preserved : releaseMachine.Preserves SoundHistory :=
  fun _ input hs => (release_step hs input).sound hs

lemma soundHistory_run (inputs : List ReleaseInput) : SoundHistory (releaseMachine.run inputs) :=
  soundHistory_preserved.run (by rintro s ⟨⟩) inputs

structure Progress (state next : ApplicationReleaseState) : Prop where
  generation : next ≠ state → state.generation < next.generation
  highRelease : state.highRelease ≤ next.highRelease
  highSecurityEpoch : state.highSecurityEpoch ≤ next.highSecurityEpoch
  highDigest : next.highDigest ≠ state.highDigest → state.highRelease < next.highRelease

lemma ReleaseStep.progress {state next : ApplicationReleaseState}
    (h : ReleaseStep (some state) (some next)) : Progress state next := by
  cases h with
  | stay => exact ⟨fun hne => absurd rfl hne, by grind, by grind, fun hne => absurd rfl hne⟩
  | advance _ _ hw hg hh hc hp he =>
    have hlt : state.generation < next.generation := by
      rw [UInt64.lt_iff_toNat_lt]
      omega
    exact ⟨fun _ => hlt, by grind, he, fun _ => hh⟩
  | retreat _ _ hw hg hh hd he hc hp hq =>
    have hlt : state.generation < next.generation := by
      rw [UInt64.lt_iff_toNat_lt]
      omega
    exact ⟨fun _ => hlt, by grind, by grind, fun hne => absurd hd hne⟩

lemma ReleaseStep.kept {state : ApplicationReleaseState} {next : Option ApplicationReleaseState}
    (h : ReleaseStep (some state) next) : ∃ s, next = some s := by
  cases h with
  | stay => exact ⟨_, rfl⟩
  | advance _ next => exact ⟨next, rfl⟩
  | retreat _ next => exact ⟨next, rfl⟩

theorem release_history_invariant (inputs : List ReleaseInput) :
    (∀ state ∈ releaseMachine.run inputs, validState state = true ∧
      (state.currentRelease = state.highRelease ∨
        (state.previousRelease = 0 ∧ state.quarantinedRelease = state.highRelease))) ∧
    (∀ state ∈ releaseMachine.run inputs, ∀ input,
      ∃ next, releaseMachine.step (some state) input = some next ∧
        (next ≠ state → state.generation < next.generation) ∧
        state.highRelease ≤ next.highRelease ∧
        state.highSecurityEpoch ≤ next.highSecurityEpoch ∧
        (next.highDigest ≠ state.highDigest → state.highRelease < next.highRelease)) := by
  have hsound := soundHistory_run inputs
  constructor
  · intro state hstate
    obtain ⟨hwell, htracked⟩ := hsound state hstate
    exact ⟨(validState_iff state).mpr hwell, htracked⟩
  · intro state hstate input
    have hs : SoundHistory (some state) := by
      rintro s ⟨⟩
      exact hsound state hstate
    have hstep := release_step hs input
    obtain ⟨next, hnext⟩ := hstep.kept
    rw [hnext] at hstep
    obtain ⟨hg, hh, he, hd⟩ := hstep.progress
    exact ⟨next, hnext, hg, hh, he, hd⟩

/-- The high-water view of a state, with the releases its history has quarantined. -/
def highWaterView (state : ApplicationReleaseState) (banned : Set ℕ) : HighWater ℕ where
  high := state.highRelease.toNat
  current := state.currentRelease.toNat
  previous := if state.previousRelease = 0 then none else some state.previousRelease.toNat
  banned := banned

lemma highWaterView_previous {state : ApplicationReleaseState} {banned : Set ℕ}
    (h : state.previousRelease ≠ 0) :
    (highWaterView state banned).previous = some state.previousRelease.toNat := if_neg h

lemma ReleaseStep.refines {state next : ApplicationReleaseState}
    (h : ReleaseStep (some state) (some next)) (hs : Sound state) (banned : Set ℕ) :
    HighWater.Step (highWaterView state banned) (highWaterView next banned) ∨
      HighWater.Step (highWaterView state banned)
        (highWaterView next (insert state.currentRelease.toNat banned)) := by
  cases h with
  | stay => exact Or.inl (.stay _)
  | advance _ _ hw hg hh hc hp he =>
    left
    have hstep := HighWater.Step.advance (highWaterView state banned) next.highRelease.toNat
      (UInt64.lt_iff_toNat_lt.mp hh)
    have hprevious : next.previousRelease ≠ 0 := hp ▸ hs.wellformed.current
    convert hstep using 1
    simp [highWaterView, hp, hc, hs.wellformed.current]
  | retreat _ _ hw hg hh hd he hc hp hq =>
    right
    have hprevious : state.previousRelease ≠ 0 := hc ▸ hw.current
    have hstep := HighWater.Step.retreat (highWaterView state banned) state.previousRelease.toNat
      (highWaterView_previous hprevious)
    convert hstep using 1
    simp [highWaterView, hp, hc, hh]

/-- Safety of a state whose history has quarantined the counters in `banned`. -/
def SafeFrom (banned : Set ℕ) (state : ApplicationReleaseState) : Prop :=
  Sound state ∧ ∃ all, banned ⊆ all ∧ HighWater.Safe (highWaterView state all)

lemma Sound.safe {state : ApplicationReleaseState} (h : Sound state) :
    HighWater.Safe (highWaterView state ∅) := by
  have hle := h.wellformed.current_le
  refine ⟨UInt64.le_iff_toNat_le.mp hle, ?_, by simp [highWaterView], by simp [highWaterView],
    by simp [highWaterView]⟩
  intro p hp
  by_cases hzero : state.previousRelease = 0
  · simp [highWaterView, hzero] at hp
  · rw [highWaterView_previous hzero] at hp
    obtain rfl := Option.some.inj hp
    change state.previousRelease.toNat < state.currentRelease.toNat
    rw [← UInt64.lt_iff_toNat_lt]
    have hprevious := h.wellformed.previous_le
    have hne := h.wellformed.previous_ne
    rcases h.tracked with htop | ⟨hz, -⟩
    · grind
    · exact absurd hz hzero

lemma ReleaseStep.safe {state next : ApplicationReleaseState}
    (h : ReleaseStep (some state) (some next)) {banned : Set ℕ} (hs : SafeFrom banned state) :
    SafeFrom banned next := by
  obtain ⟨hsound, all, hsub, hsafe⟩ := hs
  have hnext : SoundHistory (some next) := h.sound (by rintro s ⟨⟩; exact hsound)
  refine ⟨hnext next rfl, ?_⟩
  rcases h.refines hsound all with hr | hr
  · exact ⟨all, hsub, hsafe.step hr⟩
  · exact ⟨_, hsub.trans (Set.subset_insert _ _), hsafe.step hr⟩

lemma safeFrom_rollback {state next : ApplicationReleaseState} {recordLaunchFailure : Bool}
    (hs : Sound state) (h : rollbackRelease state recordLaunchFailure = some next) :
    SafeFrom {next.quarantinedRelease.toNat} next := by
  obtain ⟨-, hprevious, hstep, hquarantined⟩ := rollback_cases h
  have hnext : SoundHistory (some next) := hstep.sound (by rintro s ⟨⟩; exact hs)
  obtain ⟨hcurrent, hzero, hhigh⟩ := retreat_fields h
  refine ⟨hnext next rfl, {next.quarantinedRelease.toNat}, subset_rfl, ?_⟩
  have hretreat := HighWater.Step.retreat (highWaterView state ∅) state.previousRelease.toNat
    (highWaterView_previous hprevious)
  have hsafe := hs.safe.step hretreat
  convert hsafe using 1
  simp [highWaterView, hquarantined, hcurrent, hzero, hhigh]

lemma safeFrom_preserved (banned : Set ℕ) :
    releaseMachine.Preserves fun state => ∃ s, state = some s ∧ SafeFrom banned s := by
  rintro _ input ⟨state, rfl, hs⟩
  have hstep := release_step (by rintro s ⟨⟩; exact hs.1 : SoundHistory (some state)) input
  obtain ⟨next, hnext⟩ := hstep.kept
  exact ⟨next, hnext, (hnext ▸ hstep).safe hs⟩

lemma SafeFrom.avoids {state : ApplicationReleaseState} {counter : UInt64}
    (h : SafeFrom {counter.toNat} state) (hne : counter ≠ 0) :
    state.currentRelease ≠ counter ∧ state.previousRelease ≠ counter := by
  obtain ⟨-, all, hsub, hsafe⟩ := h
  obtain ⟨hcurrent, hprevious⟩ := hsafe.avoids (hsub rfl)
  constructor
  · rintro rfl
    exact hcurrent rfl
  · rintro rfl
    exact hprevious (highWaterView_previous hne)

theorem quarantined_release_never_returns (before after : List ReleaseInput)
    (recordLaunchFailure : Bool) (state next : ApplicationReleaseState)
    (hreached : releaseMachine.run before = some state)
    (hrollback : rollbackRelease state recordLaunchFailure = some next) :
    ∀ later ∈ releaseMachine.run (before ++ .rollback recordLaunchFailure :: after),
      later.currentRelease ≠ next.quarantinedRelease ∧
        later.previousRelease ≠ next.quarantinedRelease := by
  intro later hlater
  have hsound := soundHistory_run before state hreached
  have hsafe := safeFrom_rollback hsound hrollback
  have hstep : releaseMachine.step (some state) (.rollback recordLaunchFailure) = some next := by
    change ((some state).bind (rollbackRelease · recordLaunchFailure)).or (some state) = some next
    rw [Option.bind_some, hrollback, Option.some_or]
  rw [Machine.run_append, hreached, Machine.runFrom_cons, hstep] at hlater
  have hrun := (safeFrom_preserved {next.quarantinedRelease.toNat}).runFrom ⟨next, rfl, hsafe⟩ after
  obtain ⟨last, hlast, hlastSafe⟩ := hrun
  obtain rfl := Option.some.inj (hlast.symm.trans hlater)
  have hne : next.quarantinedRelease ≠ 0 := by
    rw [(rollback_cases hrollback).2.2.2]
    exact hsound.wellformed.current
  exact hlastSafe.avoids hne

def sampleCandidate (release : UInt64) : PackageVerification where
  status := .verified
  signatureVerified := true
  manifest := {
    appId := text "org.pen.demo"
    signingKeyId := text "00112233445566778899aabbccddeeff"
    releaseCounter := release
    securityEpoch := 1 }

def sampleDigest (b : UInt8) : Sha512Digest := List.Vector.replicate 64 b

def sampleUpdate : List ReleaseInput :=
  [.activate (sampleCandidate 1) (sampleDigest 1), .activate (sampleCandidate 2) (sampleDigest 2)]

def sampleUpdated : ApplicationReleaseState where
  appId := text "org.pen.demo"
  signingKeyId := text "00112233445566778899aabbccddeeff"
  generation := 2
  currentRelease := 2
  previousRelease := 1
  highRelease := 2
  highSecurityEpoch := 1
  currentDigest := sampleDigest 2
  previousDigest := sampleDigest 1
  highDigest := sampleDigest 2

theorem second_release_never_returns :
    ∃ later, releaseMachine.run (sampleUpdate ++ .rollback true ::
        [.activate (sampleCandidate 2) (sampleDigest 2), .activate (sampleCandidate 3) (sampleDigest 3)]) =
        some later ∧ later.currentRelease ≠ 2 ∧ later.previousRelease ≠ 2 := by
  have hrun : (releaseMachine.run (sampleUpdate ++ .rollback true ::
      [.activate (sampleCandidate 2) (sampleDigest 2),
        .activate (sampleCandidate 3) (sampleDigest 3)])).isSome = true := by decide
  obtain ⟨later, hlater⟩ := Option.isSome_iff_exists.mp hrun
  refine ⟨later, hlater, ?_⟩
  exact quarantined_release_never_returns sampleUpdate
    [.activate (sampleCandidate 2) (sampleDigest 2), .activate (sampleCandidate 3) (sampleDigest 3)]
    true sampleUpdated (retreatState sampleUpdated true) (by decide) (by decide) later hlater

end LvglPlatform
