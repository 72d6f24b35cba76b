import LvglPlatform.Session.SystemRuns

/-! Installing an update again after it was cut off: unlike a first installation, it can be repeated
wherever it stopped. -/

namespace LvglPlatform

open Foundation

structure Provided (env : Environment) (randoms : InstallRandoms) (stores : Stores)
    (manifest : VerifiedPackageManifest) : Prop where
  stage : ∃ random, randoms.stage = some random ∧
    ∀ releases ∈ releasesDirectory env.euid stores.payload manifest.appId,
      releases.child (stageName manifest.releaseCounter random) = none
  slot : ∃ random, randoms.slots.first = some random ∧
    ∀ directory ∈ slotsDirectory env.euid stores.policy manifest.appId, ∀ side,
      directory.child (temporarySlot (slotName side) random) = none

def Updates (env : Environment) (stores : Stores) (bytes : Bytes) (verification : PackageVerification)
    (digest : Sha512Digest) (current : Option ApplicationReleaseState) : Prop :=
  absolute stores.payloadPath = true ∧ Takes env.euid stores.payload bytes verification.manifest digest ∧
    ∃ next, activationStateFor verification digest current = some next ∧
      (encodeReleaseState next env.crypto).ok = true

section

variable {env : Environment} {randoms : InstallRandoms} {stores after : Stores} {bytes : Bytes}
  {context : InstallPolicyContext} {verification : PackageVerification} {digest : Sha512Digest}
  {current : Option ApplicationReleaseState} {slots : PolicySlots} {state next : ApplicationReleaseState}

lemma HoldsSlots.file {euid : ℕ} {directory : Node} (h : HoldsSlots euid slots directory) (side : Side) :
    ((directory.child (slotName side)).map Node.isDirectory).getD false = false := by
  rw [h.files side]
  cases slots.get side <;> rfl

lemma Provided.persists (h : Provided env randoms stores verification.manifest)
    (hslots : StoresSlots env.euid stores.policy verification.manifest.appId slots)
    (hwell : Wellformed next) (happ : next.appId = verification.manifest.appId) :
    (persistReleaseStateTo env.euid randoms.slots stores.policy next env.crypto).2.ok = true ↔
      (encodeReleaseState next env.crypto).ok = true := by
  obtain ⟨random, hrandom, hfresh⟩ := h.slot
  rw [← happ] at hfresh hslots
  have htrusted : openStore env.euid stores.policy next.appId ≠ .untrusted := by
    rcases hslots with ⟨hmissing, -⟩ | ⟨directory, hopened, -⟩
    · simp [hmissing]
    · simp [hopened]
  obtain ⟨directory, hdirectory⟩ := slotsDirectory_some htrusted
  have hname : firstSlot next.generation = slotName (Side.home next.generation.toNat) := firstSlot_name
  rw [persist_ok_iff hwell.appId hdirectory, hname]
  refine and_iff_left ⟨random, hrandom, hfresh directory hdirectory _, ?_⟩
  obtain ⟨node, hnode, hat⟩ := Option.bind_eq_some_iff.mp hdirectory
  obtain ⟨ht, hd⟩ := Option.ite_none_right_eq_some.mp hat
  rcases directoryAt_slots ht hd with hopened | hempty
  · rcases hslots with ⟨hmissing, -⟩ | ⟨other, hother, hholds⟩
    · rw [hnode, hopened] at hmissing
      cases hmissing
    · rw [hnode, hopened] at hother
      cases hother
      exact hholds.file _
  · rw [hempty]
    rfl

lemma Reaches.updates (h : Reaches env stores bytes context verification digest current)
    (hslots : StoresSlots env.euid stores.policy verification.manifest.appId slots)
    (hprovided : Provided env randoms stores verification.manifest) :
    ∃ outcome, installOfficialPackageWithStateRoot env randoms stores bytes context = some outcome ∧
      (outcome.2.ok = true ↔ Updates env stores bytes verification digest current) := by
  have hofficial := h.official
  obtain ⟨outcome, hrun, -, hok, -⟩ := install_outcome randoms h
  refine ⟨outcome, hrun, ?_⟩
  rw [hok]
  have hstages : absolute stores.payloadPath = true →
      ((stageVerifiedRelease (stagingContext env randoms) stores.payloadPath stores.payload bytes verification
        digest).2.ok = true ↔ Takes env.euid stores.payload bytes verification.manifest digest) :=
    fun hstore => stage_takes hofficial.extractable hstore hofficial.nonempty hprovided.stage
  have hpersists : ∀ next, activationStateFor verification digest current = some next →
      ((persistReleaseStateTo env.euid randoms.slots stores.policy next env.crypto).2.ok = true ↔
        (encodeReleaseState next env.crypto).ok = true) := by
    intro next hnext
    have hactivated := activation_activated hnext
    exact hprovided.persists hslots hactivated.wellformed hactivated.appId
  constructor
  · rintro ⟨hstaged, next, hnext, hpersisted⟩
    have hstore := stage_ok_absolute hofficial hstaged
    exact ⟨hstore, (hstages hstore).mp hstaged, next, hnext, (hpersists next hnext).mp hpersisted⟩
  · rintro ⟨hstore, htakes, next, hnext, hencodes⟩
    exact ⟨(hstages hstore).mpr htakes, next, hnext, (hpersists next hnext).mpr hencodes⟩

/-- A package is allowed over the state that runs it, and activating it again changes nothing. -/
lemma activation_again (hcandidate : Candidate verification (some state) digest)
    (habove : AboveMark verification digest (highWaterMark state))
    (hnext : activationStateFor verification digest (some state) = some next) :
    AboveMark verification digest (highWaterMark next) ∧
      activationStateFor verification digest (some next) = some next := by
  obtain ⟨hadmits, hsame | ⟨hnew, hstate, -, hwell⟩⟩ := activation_cases hnext
  · obtain rfl := Option.some.inj hsame
    exact ⟨habove, hnext⟩
  have ha := hadmits state rfl
  rw [nextState_admitted ha (ha.current_ne (hnew state rfl))] at hstate
  have hmark : AboveMark verification digest (highWaterMark next) := by
    rw [hstate]
    exact ⟨rfl, rfl, UInt32.le_refl _, UInt64.le_refl _, fun _ => rfl⟩
  refine ⟨hmark, ?_⟩
  have hadmitted : Admits verification digest next := by
    refine ⟨hwell, hmark.appId, hmark.signer, hmark.counter, hmark.epoch, ?_, hmark.digest⟩
    rw [hstate]
    exact ha.quarantined
  have hagain : Candidate verification (some next) digest := by
    refine ⟨hcandidate.authenticated, hcandidate.counter, hcandidate.appId, hcandidate.keyId, ?_⟩
    rintro _ ⟨⟩ -
    exact hadmitted
  have hruns : Runs verification digest next := by
    rw [hstate]
    exact ⟨rfl, rfl⟩
  cases he : activationStateFor verification digest (some next) with
  | none =>
    rcases (activation_eq_none hagain).mp he with hzero | ⟨other, hother, hquarantined | ⟨-, hnot⟩⟩
    · have hnone := (activation_eq_none hcandidate).mpr (Or.inl hzero)
      rw [hnext] at hnone
      cases hnone
    · obtain rfl := Option.some.inj hother
      exact absurd hquarantined hadmitted.quarantined
    · obtain rfl := Option.some.inj hother
      exact absurd hruns hnot
  | some other =>
    obtain ⟨-, hsame | ⟨hdiffers, -⟩⟩ := activation_cases he
    · exact hsame.symm
    · exact absurd hruns (hdiffers next rfl)

/-- After an update was cut off, the package gets as far as the payload store again, and would record
the same state. -/
lemma Installs.again (h : Installs env stores after bytes context verification digest (some state) slots)
    (hrep : Represents verification.manifest.appId env.crypto slots (some state)) :
    ∃ current, Reaches env after bytes context verification digest current ∧
      activationStateFor verification digest current =
        activationStateFor verification digest (some state) := by
  have hreaches := h.reaches
  have hstate : recordedState env stores verification.manifest.appId = some state := hreaches.state.symm
  have hagain : ∀ other, recordedState env after verification.manifest.appId = some other →
      AboveMark verification digest (highWaterMark other) →
      Reaches env after bytes context verification digest (some other) := by
    intro other hother habove
    refine ⟨hreaches.verified, hreaches.ok, hreaches.digested, Or.inl (loadedState_some hother).1, hother.symm,
      policy_allowed_iff.mpr ⟨(policy_allowed_iff.mp hreaches.allowed).1, ?_⟩⟩
    rintro _ ⟨⟩
    exact habove
  have habove : AboveMark verification digest (highWaterMark state) :=
    (policy_allowed_iff.mp hreaches.allowed).2 _ rfl
  rcases h.policy with hkept | hactivates
  · have hrecorded : recordedState env after verification.manifest.appId = some state :=
      (recordedState_congr (by rw [hkept])).trans hstate
    exact ⟨some state, hagain state hrecorded habove, rfl⟩
  obtain ⟨next, hnext, replacements, hle, hleaves⟩ := hactivates.state
  have hactivated := activation_activated hnext
  have hpersisted : Persisted env stores after next := by
    refine hleaves.persisted ?_ hactivated.wellformed hle ?_
    · rw [hactivated.appId, hstate]
      exact hrep
    · rw [hactivated.appId, hstate]
      exact activation_continues hnext
  have hrecorded := hpersisted.recorded
  rw [hactivated.appId] at hrecorded
  rcases hrecorded with hkept | hadvanced
  · exact ⟨some state, hagain state (hkept.trans hstate) habove, rfl⟩
  · obtain ⟨hmark, hsame⟩ := activation_again hreaches.candidate habove hnext
    exact ⟨some next, hagain next hadvanced hmark, hsame.trans hnext.symm⟩

end

/-- An update that was cut off anywhere can be installed again, without a failing call, exactly when it
could have been installed at first. -/
theorem interrupted_update_repeatable (env : Environment) (randoms fresh again : InstallRandoms)
    (stores : Stores) (bytes : Bytes) (context : InstallPolicyContext)
    (verification : PackageVerification) (digest : Sha512Digest) (state : ApplicationReleaseState)
    (steps : Steps Stores InstallerResult) (cut : Option ℕ) (hhealthy : Healthy env context stores)
    (hreaches : Reaches env stores bytes context verification digest (some state))
    (hsteps : installOfficialPackageSteps env randoms bytes context = some steps)
    (hfresh : Provided env fresh stores verification.manifest)
    (hagain : Provided env again (steps.stop stores cut) verification.manifest) :
    ∃ first second, installOfficialPackageWithStateRoot env fresh stores bytes context = some first ∧
      installOfficialPackageWithStateRoot env again (steps.stop stores cut) bytes context = some second ∧
      (second.2.ok = true ↔ first.2.ok = true) := by
  have happ := hreaches.official.appId
  obtain ⟨slots, hslots, -⟩ := (hhealthy.consistent _ happ).slots
  obtain ⟨first, hfirst, hfirstOk⟩ := hreaches.updates hslots hfresh
  have hstep : StoreStep env context ∅ stores (steps.stop stores cut) :=
    .install stores randoms bytes steps cut hsteps
  obtain ⟨later, hlater, -⟩ := ((hstep.healthy hhealthy).consistent _ happ).slots
  have hrepeats : ∃ current, Reaches env (steps.stop stores cut) bytes context verification digest current ∧
      (Updates env (steps.stop stores cut) bytes verification digest current ↔
        Updates env stores bytes verification digest (some state)) := by
    rcases install_cut hhealthy hsteps cut with hself | ⟨other, packed, current, held, hinstalls, hrep⟩
    · rw [hself]
      exact ⟨some state, hreaches, Iff.rfl⟩
    · obtain rfl := Option.some.inj (hreaches.verified.symm.trans hinstalls.reaches.verified)
      obtain rfl := Option.some.inj (hreaches.digested.symm.trans hinstalls.reaches.digested)
      obtain rfl : current = some state := hinstalls.reaches.state.trans hreaches.state.symm
      have hstate : recordedState env stores verification.manifest.appId = some state := hreaches.state.symm
      obtain ⟨resumed, hresumed, hactivation⟩ := hinstalls.again (hstate ▸ hrep)
      refine ⟨resumed, hresumed, ?_⟩
      rw [Updates, Updates, hactivation, hinstalls.path, hinstalls.takes]
  obtain ⟨current, hcurrent, hupdates⟩ := hrepeats
  obtain ⟨second, hsecond, hsecondOk⟩ := hcurrent.updates hlater hagain
  exact ⟨first, second, hfirst, hsecond, hsecondOk.trans (hupdates.trans hfirstOk.symm)⟩

def firstInstalled : Stores := storesOf (installedSystem freshSystem firstRelease)

lemma secondRelease_reaches : Reaches installEnvironment firstInstalled secondRelease.package.bytes
    (launchContext penProfile) secondRelease.package.verification secondRelease.packageDigest
    (some firstState) := by
  refine ⟨secondRelease_verified, ?_, ?_, Or.inl (loadedState_some installedSystem_recorded).1,
    installedSystem_recorded.symm, ?_⟩
  · decide
  · decide +kernel
  · decide

lemma provided_of_all {randoms : InstallRandoms} {stores : Stores} {manifest : VerifiedPackageManifest}
    {stage slot : ByteArr 16} (hstage : randoms.stage = some stage) (hslot : randoms.slots.first = some slot)
    (hreleases : (releasesDirectory 0 stores.payload manifest.appId).all (fun releases =>
      (releases.child (stageName manifest.releaseCounter stage)).isNone) = true)
    (hslots : (slotsDirectory 0 stores.policy manifest.appId).all (fun directory =>
      (directory.child (temporarySlot slotA slot)).isNone &&
        (directory.child (temporarySlot slotB slot)).isNone) = true) :
    Provided installEnvironment randoms stores manifest := by
  refine ⟨⟨stage, hstage, ?_⟩, ⟨slot, hslot, ?_⟩⟩
  · intro releases hdirectory
    exact Option.isNone_iff_eq_none.mp ((Option.all_eq_true _ _).mp hreleases releases hdirectory)
  · intro directory hdirectory side
    have hnone := (Bool.and_eq_true _ _).mp ((Option.all_eq_true _ _).mp hslots directory hdirectory)
    cases side with
    | a => exact Option.isNone_iff_eq_none.mp hnone.1
    | b => exact Option.isNone_iff_eq_none.mp hnone.2

theorem update_repeated_after_stage_created :
    ∃ first second, installOfficialPackageWithStateRoot installEnvironment repeatRandoms firstInstalled
        secondRelease.package.bytes (launchContext penProfile) = some first ∧
      installOfficialPackageWithStateRoot installEnvironment repeatRandoms
        ((installVerifiedSteps installEnvironment installRandoms secondRelease.package.bytes
          (launchContext penProfile) secondRelease.package.verification).stop firstInstalled (some 5))
        secondRelease.package.bytes (launchContext penProfile) = some second ∧
      (second.2.ok = true ↔ first.2.ok = true) := by
  refine interrupted_update_repeatable installEnvironment installRandoms repeatRandoms repeatRandoms
    firstInstalled secondRelease.package.bytes (launchContext penProfile)
    secondRelease.package.verification secondRelease.packageDigest firstState _ (some 5)
    installedSystem_healthy secondRelease_reaches ?_ ?_ ?_
  · exact installSteps_verified secondRelease_verified installRandoms
  · exact provided_of_all rfl rfl (by decide +kernel) (by decide +kernel)
  · exact provided_of_all rfl rfl (by decide +kernel) (by decide +kernel)

end LvglPlatform
