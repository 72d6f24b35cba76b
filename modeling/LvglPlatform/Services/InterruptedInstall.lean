import LvglPlatform.Services.PackageInstaller
import LvglPlatform.Storage.InterruptedStore

/-! `install_official_package_with_state_root` one system call at a time, and installing the same package
again after a first installation that was interrupted. -/

namespace LvglPlatform

open Foundation

def stageStoreSteps (env : Environment) (randoms : InstallRandoms) (bytes : Bytes)
    (verification : PackageVerification) (digest : Sha512Digest) : Steps Stores StorageResult := do
  let stores ← Steps.current
  Steps.zoom Stores.payload (fun payload stores => { stores with payload })
    (stageVerifiedReleaseSteps (stagingContext env randoms) stores.payloadPath bytes verification digest)

def persistStoreSteps (env : Environment) (randoms : InstallRandoms) (next : ApplicationReleaseState) :
    Steps Stores StateStoreResult :=
  Steps.zoom Stores.policy (fun policy stores => { stores with policy })
    (persistReleaseStateSteps env.euid randoms.slots next env.crypto)

def activateReleaseSteps (env : Environment) (randoms : InstallRandoms) (digest : Sha512Digest)
    (current : Option ApplicationReleaseState) (result : InstallerResult) : Steps Stores InstallerResult :=
  match activationStateFor result.verification digest current with
  | none => pure (result.finish .transitionFailed (text "INSTALLER_STATE_TRANSITION_REJECTED"))
  | some next => do
    let persisted ← persistStoreSteps env randoms next
    let result := { result with activeState := next, stateStore := persisted }
    if !persisted.ok then pure (result.finish .stateCommitFailed persisted.detail)
    else if persisted.status = .writtenDegraded then
      pure (result.finish .installedStateDegraded (text "INSTALLER_INSTALLED_STATE_DEGRADED"))
    else if result.storage.status = .alreadyPresent ∧
        current.map ApplicationReleaseState.generation = some next.generation then
      pure (result.finish .alreadyInstalled (text "INSTALLER_ALREADY_INSTALLED"))
    else pure (result.finish .installed (text "INSTALLER_INSTALLED"))

def installReleaseSteps (env : Environment) (randoms : InstallRandoms) (bytes : Bytes)
    (context : InstallPolicyContext) (digest : Sha512Digest)
    (current : Option ApplicationReleaseState) (result : InstallerResult) : Steps Stores InstallerResult :=
  let policy := evaluateInstallPolicy result.verification digest context (current.map highWaterMark)
  let result := { result with policy }
  if !policy.allowed then pure (result.finish .policyRejected policy.detail)
  else do
    let storage ← stageStoreSteps env randoms bytes result.verification digest
    let result := { result with storage }
    if !storage.ok then pure (result.finish .storageFailed storage.detail)
    else activateReleaseSteps env randoms digest current result

def installVerifiedSteps (env : Environment) (randoms : InstallRandoms) (bytes : Bytes)
    (context : InstallPolicyContext) (verification : PackageVerification) : Steps Stores InstallerResult :=
  let result : InstallerResult := { verification }
  if !verification.ok then pure (result.finish .trustRejected verification.detail)
  else match env.crypto.sha512 bytes with
    | none => pure (result.finish .digestFailed (text "INSTALLER_DIGEST_FAILED"))
    | some digest => do
      let stores ← Steps.current
      let loaded := loadReleaseStateFrom env.euid stores.policy verification.manifest.appId env.crypto
      let result := { result with stateStore := loaded }
      if !loaded.isLoaded ∧ loaded.status ≠ .notFound then
        pure (result.finish .stateUnavailable
          (if loaded.status = .uninitialized then text "INSTALLER_REPAIR_REQUIRED" else loaded.detail))
      else installReleaseSteps env randoms bytes context digest (loadedState loaded) result

def installOfficialPackageSteps (env : Environment) (randoms : InstallRandoms) (bytes : Bytes)
    (context : InstallPolicyContext) : Option (Steps Stores InstallerResult) :=
  ((env.trust.verify bytes env.crypto).answer).map (installVerifiedSteps env randoms bytes context)

section

variable {env : Environment} {randoms : InstallRandoms} {stores : Stores} {bytes : Bytes}
  {context : InstallPolicyContext} {verification : PackageVerification} {digest : Sha512Digest}
  {current : Option ApplicationReleaseState} {result : InstallerResult}

lemma run_stageStoreSteps : (stageStoreSteps env randoms bytes verification digest).run stores =
    ({ stores with payload := (stageVerifiedRelease (stagingContext env randoms) stores.payloadPath
      stores.payload bytes verification digest).1 },
      (stageVerifiedRelease (stagingContext env randoms) stores.payloadPath stores.payload bytes
        verification digest).2) := by
  rw [stageStoreSteps, Steps.run_bind, Steps.run_current, Steps.run_zoom, run_stageVerifiedReleaseSteps]

lemma run_persistStoreSteps {next : ApplicationReleaseState} : (persistStoreSteps env randoms next).run stores =
    ({ stores with policy := (persistReleaseStateTo env.euid randoms.slots stores.policy next env.crypto).1 },
      (persistReleaseStateTo env.euid randoms.slots stores.policy next env.crypto).2) := by
  rw [persistStoreSteps, Steps.run_zoom, run_persistReleaseStateSteps]

lemma run_activateReleaseSteps : (activateReleaseSteps env randoms digest current result).run stores =
    activateRelease env randoms stores digest current result := by
  rw [activateReleaseSteps, activateRelease]
  cases activationStateFor result.verification digest current with
  | none => rfl
  | some next =>
    dsimp only
    rw [Steps.run_bind, run_persistStoreSteps]
    rcases persistReleaseStateTo env.euid randoms.slots stores.policy next env.crypto with ⟨policy, persisted⟩
    dsimp only
    split_ifs <;> rfl

lemma run_installReleaseSteps :
    (installReleaseSteps env randoms bytes context digest current result).run stores =
      installRelease env randoms stores bytes context digest current result := by
  unfold installReleaseSteps installRelease
  dsimp only
  split
  · rfl
  · rw [Steps.run_bind, run_stageStoreSteps]
    dsimp only
    split
    · rfl
    · exact run_activateReleaseSteps

lemma run_installVerifiedSteps : (installVerifiedSteps env randoms bytes context verification).run stores =
    installVerified env randoms stores bytes context verification := by
  unfold installVerifiedSteps installVerified
  dsimp only
  split
  · rfl
  cases env.crypto.sha512 bytes with
  | none => rfl
  | some digest =>
    dsimp only
    rw [Steps.run_bind, Steps.run_current]
    dsimp only
    split
    · rfl
    · exact run_installReleaseSteps

end

/-- An official package that the policy allows where its application has no state. -/
structure FirstInstall (env : Environment) (stores : Stores) (bytes : Bytes)
    (context : InstallPolicyContext) (verification : PackageVerification) (digest : Sha512Digest) :
    Prop where
  verified : (env.trust.verify bytes env.crypto).answer = some verification
  ok : verification.ok = true
  digested : env.crypto.sha512 bytes = some digest
  stateless : (loadReleaseStateFrom env.euid stores.policy verification.manifest.appId
      env.crypto).status = .notFound ∨
    (loadReleaseStateFrom env.euid stores.policy verification.manifest.appId env.crypto).status =
      .uninitialized
  allowed : (evaluateInstallPolicy verification digest context none).allowed = true

/-- The stores an installation leaves that stops after any of its steps. -/
def InterruptedInstall (env : Environment) (randoms : InstallRandoms) (stores : Stores) (bytes : Bytes)
    (context : InstallPolicyContext) (after : Stores) : Prop :=
  ∃ steps cut, installOfficialPackageSteps env randoms bytes context = some steps ∧
    after = steps.stop stores cut

/-- The random bytes and the fresh names an installation needs are at hand. -/
structure Unhindered (env : Environment) (randoms : InstallRandoms) (stores : Stores)
    (manifest : VerifiedPackageManifest) : Prop where
  stage : ∃ random, randoms.stage = some random ∧
    ∀ releases ∈ releasesDirectory env.euid stores.payload manifest.appId,
      releases.child (stageName manifest.releaseCounter random) = none
  slot : ∃ random, randoms.slots.first = some random ∧
    ∀ directory ∈ slotsDirectory env.euid stores.policy manifest.appId,
      directory.child (temporarySlot slotA random) = none

/-- What installing the package again needs of the stores before and after the interruption. -/
structure Resumable (env : Environment) (before after : Stores) (bytes : Bytes)
    (verification : PackageVerification) (digest : Sha512Digest) : Prop where
  path : absolute before.payloadPath = true
  takes : Takes env.euid before.payload bytes verification.manifest digest
  nonzero : zeroDigest digest = false
  recorded : ∀ next ∈ activationStateFor verification digest none,
    (env.crypto.sha256 (releaseFields next).flatten).isSome = true
  initialized : ¬ Uninitialized env.euid after.policy verification.manifest.appId

/-- What every step of a first installation keeps. -/
structure Left (env : Environment) (verification : PackageVerification) (bytes : Bytes)
    (digest : Sha512Digest) (before after : Stores) : Prop where
  path : after.payloadPath = before.payloadPath
  payload : Takes env.euid after.payload bytes verification.manifest digest ↔
    Takes env.euid before.payload bytes verification.manifest digest
  policy : openStore env.euid after.policy verification.manifest.appId = .missing ∨
    ∃ next, activationStateFor verification digest none = some next ∧
      StoreHolds env.euid next env.crypto after.policy

section

variable {env : Environment} {randoms again : InstallRandoms} {stores after : Stores} {bytes : Bytes}
  {context : InstallPolicyContext} {verification : PackageVerification} {digest : Sha512Digest}
  {result : InstallerResult}

lemma FirstInstall.official (h : FirstInstall env stores bytes context verification digest) :
    Official bytes verification := by
  obtain ⟨key, -, haccepts⟩ := trust_verified h.verified h.ok
  exact official_of_accepts haccepts

lemma activateReleaseSteps_spec (hinstalled : result.verification = verification)
    (hmissing : openStore env.euid after.policy verification.manifest.appId = .missing)
    (hleft : Left env verification bytes digest stores after) :
    Steps.Spec after (activateReleaseSteps env randoms digest none result)
      (Left env verification bytes digest stores) fun _ => Left env verification bytes digest stores := by
  rw [activateReleaseSteps, hinstalled]
  cases hnext : activationStateFor verification digest none with
  | none => exact Steps.spec_pure hleft
  | some next =>
    have happ : next.appId = verification.manifest.appId := (activation_activated hnext).appId
    have hpersisted : ∀ policy, StoreHolds env.euid next env.crypto policy →
        Left env verification bytes digest stores { after with policy } :=
      fun policy hholds => ⟨hleft.path, hleft.payload, Or.inr ⟨next, hnext, hholds⟩⟩
    refine Steps.spec_bind (Steps.spec_zoom ((persistReleaseStateSteps_spec (happ ▸ hmissing)).weaken
      hpersisted ?_))
    intro persisted policy hholds
    dsimp only
    split_ifs <;> exact Steps.spec_pure (hpersisted policy hholds)

lemma installReleaseSteps_spec (h : Official bytes verification)
    (hinstalled : result.verification = verification)
    (hmissing : openStore env.euid stores.policy verification.manifest.appId = .missing) :
    Steps.Spec stores (installReleaseSteps env randoms bytes context digest none result)
      (Left env verification bytes digest stores) fun _ => Left env verification bytes digest stores := by
  have hself : Left env verification bytes digest stores stores := ⟨rfl, Iff.rfl, Or.inl hmissing⟩
  unfold installReleaseSteps
  dsimp only
  split
  · exact Steps.spec_pure hself
  have hstaged : ∀ payload, (Takes env.euid payload bytes verification.manifest digest ↔
      Takes env.euid stores.payload bytes verification.manifest digest) →
      Left env verification bytes digest stores { stores with payload } :=
    fun payload htakes => ⟨rfl, htakes, Or.inl hmissing⟩
  rw [hinstalled]
  refine Steps.spec_bind (Steps.spec_bind (Steps.spec_current (Steps.spec_zoom
    ((stageVerifiedReleaseSteps_spec h.extractable).weaken hstaged ?_))))
  intro storage payload htakes
  split
  · exact Steps.spec_pure (hstaged payload htakes)
  · exact activateReleaseSteps_spec rfl hmissing (hstaged payload htakes)

lemma FirstInstall.unloaded (h : FirstInstall env stores bytes context verification digest)
    (hmissing : openStore env.euid stores.policy verification.manifest.appId = .missing) :
    (loadReleaseStateFrom env.euid stores.policy verification.manifest.appId env.crypto).status =
        .notFound ∧
      loadedState (loadReleaseStateFrom env.euid stores.policy verification.manifest.appId
        env.crypto) = none := by
  have hstatus : (loadReleaseStateFrom env.euid stores.policy verification.manifest.appId
    env.crypto).status = .notFound := (load_notFound h.official.appId).mpr hmissing
  exact ⟨hstatus, by simp [loadedState, StateStoreResult.isLoaded, hstatus]⟩

lemma FirstInstall.left (h : FirstInstall env stores bytes context verification digest)
    (hmissing : openStore env.euid stores.policy verification.manifest.appId = .missing)
    (hinterrupted : InterruptedInstall env randoms stores bytes context after) :
    Left env verification bytes digest stores after := by
  obtain ⟨steps, cut, hsteps, rfl⟩ := hinterrupted
  have hself : Left env verification bytes digest stores stores := ⟨rfl, Iff.rfl, Or.inl hmissing⟩
  rw [installOfficialPackageSteps, h.verified] at hsteps
  obtain rfl := Option.some.inj hsteps
  refine Steps.Spec.stop ?_ hself cut
  obtain ⟨hstatus, hloaded⟩ := h.unloaded hmissing
  unfold installVerifiedSteps
  dsimp only
  rw [if_neg (by simp [h.ok]), h.digested]
  refine Steps.spec_bind (Steps.spec_current ?_)
  rw [if_neg (by simp [hstatus]), hloaded]
  exact installReleaseSteps_spec h.official rfl hmissing

lemma FirstInstall.refused (h : FirstInstall env stores bytes context verification digest)
    (huninitialized : Uninitialized env.euid stores.policy verification.manifest.appId)
    (hinterrupted : InterruptedInstall env randoms stores bytes context after) : after = stores := by
  obtain ⟨steps, cut, hsteps, rfl⟩ := hinterrupted
  have hstatus : (loadReleaseStateFrom env.euid stores.policy verification.manifest.appId
    env.crypto).status = .uninitialized := (load_uninitialized h.official.appId).mpr huninitialized
  rw [installOfficialPackageSteps, h.verified] at hsteps
  obtain rfl := Option.some.inj hsteps
  refine @Steps.Spec.stop Stores InstallerResult stores (fun after => after = stores) _ ?_ rfl cut
  unfold installVerifiedSteps
  dsimp only
  rw [if_neg (by simp [h.ok]), h.digested]
  refine Steps.spec_bind (Steps.spec_current ?_)
  rw [if_pos (by simp [StateStoreResult.isLoaded, hstatus])]
  exact Steps.spec_pure rfl

lemma first_activation {next : ApplicationReleaseState} (hcounter : verification.manifest.releaseCounter ≠ 0)
    (h : activationStateFor verification digest none = some next) :
    next = nextState verification digest none ∧ next.generation = 1 ∧ next.quarantinedRelease = 0 ∧
      AboveMark verification digest (highWaterMark next) := by
  obtain ⟨-, hsame | ⟨-, hnext, -, -⟩⟩ := activation_cases h
  · cases hsame
  · refine ⟨hnext, ?_⟩
    rw [hnext, nextState_none verification digest hcounter]
    exact ⟨rfl, rfl, rfl, rfl, UInt32.le_refl _, UInt64.le_refl _, fun _ => rfl⟩

lemma StoreHolds.persists {next : ApplicationReleaseState} {policy : Option Node}
    (h : StoreHolds env.euid next env.crypto policy) (happ : appId next.appId = true)
    (hgeneration : next.generation = 1) (hslot : ∃ random, randoms.slots.first = some random ∧
      ∀ directory ∈ slotsDirectory env.euid policy next.appId,
        directory.child (temporarySlot slotA random) = none) :
    (persistReleaseStateTo env.euid randoms.slots policy next env.crypto).2.ok = true ↔
      (encodeReleaseState next env.crypto).ok = true := by
  have htrusted : openStore env.euid policy next.appId ≠ .untrusted := by
    rcases h with hmissing | ⟨-, directory, hopened, -⟩
    · simp [hmissing]
    · simp [hopened]
  obtain ⟨directory, hdirectory⟩ := slotsDirectory_some htrusted
  obtain ⟨random, hrandom, hfresh⟩ := hslot
  have hslotA : firstSlot next.generation = slotA := by
    rw [hgeneration]
    rfl
  rw [persist_ok_iff happ hdirectory, hslotA]
  refine and_iff_left ⟨random, hrandom, hfresh directory hdirectory, ?_⟩
  obtain ⟨node, rfl, hnode⟩ := Option.bind_eq_some_iff.mp hdirectory
  obtain ⟨ht, hd⟩ := Option.ite_none_right_eq_some.mp hnode
  rcases directoryAt_slots ht hd with hopened | hempty
  · rcases h with hmissing | ⟨-, other, hother, hholds⟩
    · rw [hopened] at hmissing
      cases hmissing
    · rw [hopened] at hother
      cases hother
      rcases hholds.slots slotA (Or.inl rfl) with hnone | hfile
      · rw [hnone]
        rfl
      · rw [hfile]
        rfl
  · rw [hempty]
    rfl

lemma StoreHolds.loads {next : ApplicationReleaseState} {policy : Option Node}
    (h : StoreHolds env.euid next env.crypto policy) (happ : appId next.appId = true)
    (hopened : openStore env.euid policy next.appId ≠ .missing)
    (hinitialized : ¬ Uninitialized env.euid policy next.appId) :
    (loadReleaseStateFrom env.euid policy next.appId env.crypto).isLoaded = true ∧
      (loadReleaseStateFrom env.euid policy next.appId env.crypto).selected.state = next := by
  obtain hmissing | ⟨hencodes, directory, hdirectory, hholds⟩ := h
  · exact absurd hmissing hopened
  have hsize := stateBytes_size hencodes
  have hread : ∀ slot, slot = slotA ∨ slot = slotB →
      directory.child slot = none ∧ readSlot env.euid directory slot = { status := .missing } ∨
        readSlot env.euid directory slot = { status := .read, bytes := stateBytes env.crypto next } := by
    intro slot hslot
    rcases hholds.slots slot hslot with hnone | hfile
    · left
      rw [readSlot, hnone]
      exact ⟨rfl, rfl⟩
    · exact Or.inr (readSlot_file hfile hsize)
  have hnewest : ∀ slot, slot = slotA ∨ slot = slotB →
      Newest env.crypto next (readSlot env.euid directory slot).bytes := by
    intro slot hslot
    rcases hread slot hslot with ⟨-, hnone⟩ | hfile
    · rw [hnone]
      exact newest_empty next
    · rw [hfile]
      exact fun _ => Or.inr rfl
  rw [loadReleaseStateFrom, if_neg (by simp [happ]), hdirectory]
  apply loadSlots_newest hencodes
  rcases hread slotA (Or.inl rfl) with ⟨hfreeA, -⟩ | hA
  · rcases hread slotB (Or.inr rfl) with ⟨hfreeB, -⟩ | hB
    · exact absurd ⟨directory, hdirectory, hfreeA, hfreeB⟩ hinitialized
    · exact Or.inr ⟨hB, hnewest slotA (Or.inl rfl)⟩
  · exact Or.inl ⟨hA, hnewest slotB (Or.inr rfl)⟩

lemma FirstInstall.candidate (h : FirstInstall env stores bytes context verification digest) :
    Candidate verification none digest := by
  have hofficial := h.official
  exact ⟨hofficial.extractable.authenticated, hofficial.extractable.counter, hofficial.appId,
    hofficial.keyId, nofun⟩

lemma Left.holds (h : Left env verification bytes digest stores after)
    {next : ApplicationReleaseState} (hnext : activationStateFor verification digest none = some next) :
    StoreHolds env.euid next env.crypto after.policy := by
  rcases h.policy with hmissing | ⟨other, hother, hholds⟩
  · left
    rw [(activation_activated hnext).appId]
    exact hmissing
  · obtain rfl := Option.some.inj (hnext.symm.trans hother)
    exact hholds

lemma Left.reaches (h : Left env verification bytes digest stores after)
    (hfirst : FirstInstall env stores bytes context verification digest)
    (hinitialized : ¬ Uninitialized env.euid after.policy verification.manifest.appId) :
    ∃ current, Reaches env after bytes context verification digest current ∧
      activationStateFor verification digest current = activationStateFor verification digest none := by
  have hofficial := hfirst.official
  by_cases hmissing : openStore env.euid after.policy verification.manifest.appId = .missing
  · have hstatus : (loadReleaseStateFrom env.euid after.policy verification.manifest.appId
      env.crypto).status = .notFound := (load_notFound hofficial.appId).mpr hmissing
    refine ⟨none, ⟨hfirst.verified, hfirst.ok, hfirst.digested, Or.inr hstatus, ?_, hfirst.allowed⟩, rfl⟩
    simp [loadedState, StateStoreResult.isLoaded, hstatus]
  · obtain ⟨next, hnext, hholds⟩ := h.policy.resolve_left hmissing
    have happ : next.appId = verification.manifest.appId := (activation_activated hnext).appId
    obtain ⟨-, hgeneration, hquarantined, habove⟩ :=
      first_activation hofficial.extractable.counter hnext
    obtain ⟨hloaded, hselected⟩ := hholds.loads (happ ▸ hofficial.appId) (happ ▸ hmissing)
      (happ ▸ hinitialized)
    rw [happ] at hloaded hselected
    have hreaches : Reaches env after bytes context verification digest (some next) := by
      refine ⟨hfirst.verified, hfirst.ok, hfirst.digested, Or.inl hloaded, ?_, ?_⟩
      · rw [loadedState, if_pos hloaded, hselected]
      · refine policy_allowed_iff.mpr ⟨hfirst.allowed, ?_⟩
        intro mark hmark
        obtain rfl := Option.some.inj hmark
        exact habove
    refine ⟨some next, hreaches, ?_⟩
    have hactivatable : ¬ Unactivatable verification digest (some next) := by
      rintro (hzero | ⟨state, hstate, hcounter | ⟨hlast, -⟩⟩)
      · exact absurd ((activation_eq_none hfirst.candidate).mpr (Or.inl hzero)) (by simp [hnext])
      · obtain rfl := Option.some.inj hstate
        exact hofficial.extractable.counter (hcounter.trans hquarantined)
      · obtain rfl := Option.some.inj hstate
        rw [hgeneration] at hlast
        exact absurd hlast (by decide)
    cases hagain : activationStateFor verification digest (some next) with
    | none => exact absurd ((activation_eq_none hreaches.candidate).mp hagain) hactivatable
    | some other =>
      rw [hnext]
      obtain ⟨-, hsame | ⟨hnew, -⟩⟩ := activation_cases hagain
      · exact hsame.symm
      · have hactivated := activation_activated hnext
        exact absurd ⟨hactivated.current.symm, hactivated.digest.symm⟩ (hnew next rfl)

lemma FirstInstall.missing (h : FirstInstall env stores bytes context verification digest)
    (hinitialized : ¬ Uninitialized env.euid stores.policy verification.manifest.appId) :
    openStore env.euid stores.policy verification.manifest.appId = .missing := by
  rcases h.stateless with hstatus | hstatus
  · exact (load_notFound h.official.appId).mp hstatus
  · exact absurd ((load_uninitialized h.official.appId).mp hstatus) hinitialized

/-- The package cannot be installed on a store with the directory, but without its slots. -/
lemma FirstInstall.blocked (h : FirstInstall env stores bytes context verification digest)
    (again : InstallRandoms)
    (huninitialized : Uninitialized env.euid after.policy verification.manifest.appId) :
    ∃ outcome, installOfficialPackageWithStateRoot env again after bytes context = some outcome ∧
      outcome.2.ok = false := by
  have hstatus : (loadReleaseStateFrom env.euid after.policy verification.manifest.appId
    env.crypto).status = .uninitialized := (load_uninitialized h.official.appId).mpr huninitialized
  obtain ⟨⟨final, result⟩, hrun⟩ : ∃ outcome,
      installOfficialPackageWithStateRoot env again after bytes context = some outcome := by
    rw [installOfficialPackageWithStateRoot, h.verified]
    exact ⟨_, rfl⟩
  refine ⟨_, hrun, (install_stops hrun ?_).2.1⟩
  rintro other digest current ⟨hverified, -, -, hloads, -, -⟩
  obtain rfl := Option.some.inj (h.verified.symm.trans hverified)
  simp [StateStoreResult.isLoaded, hstatus] at hloads

lemma activateReleaseSteps_visits (hinstalled : result.verification = verification)
    {next : ApplicationReleaseState} (hnext : activationStateFor verification digest none = some next)
    {policy : Option Node} (hvisits : Steps.Visits
      (persistReleaseStateSteps env.euid randoms.slots next env.crypto) stores.policy policy) :
    Steps.Visits (activateReleaseSteps env randoms digest none result) stores { stores with policy } := by
  have hpersist : Steps.Visits (persistStoreSteps env randoms next) stores { stores with policy } :=
    Steps.Visits.zoom hvisits
  rw [activateReleaseSteps, hinstalled, hnext]
  exact hpersist.bind _

lemma FirstInstall.visits (h : FirstInstall env stores bytes context verification digest)
    (hmissing : openStore env.euid stores.policy verification.manifest.appId = .missing)
    (hstaged : (stageVerifiedRelease (stagingContext env randoms) stores.payloadPath stores.payload bytes
      verification digest).2.ok = true)
    {next : ApplicationReleaseState} (hnext : activationStateFor verification digest none = some next)
    {policy : Option Node} (hvisits : Steps.Visits
      (persistReleaseStateSteps env.euid randoms.slots next env.crypto) stores.policy policy) :
    ∃ after, Steps.Visits (installVerifiedSteps env randoms bytes context verification) stores after ∧
      after.policy = policy := by
  obtain ⟨hstatus, hloaded⟩ := h.unloaded hmissing
  refine ⟨{ ((stageStoreSteps env randoms bytes verification digest).run stores).1 with policy }, ?_, rfl⟩
  unfold installVerifiedSteps
  dsimp only
  rw [if_neg (by simp [h.ok]), h.digested]
  refine Steps.Visits.rest ?_
  rw [Steps.run_current, if_neg (by simp [hstatus]), hloaded]
  unfold installReleaseSteps
  dsimp only
  rw [if_neg (by simp [h.allowed])]
  refine Steps.Visits.rest ?_
  rw [run_stageStoreSteps, if_neg (by simp [hstaged])]
  exact activateReleaseSteps_visits rfl hnext hvisits

lemma stage_ok_absolute (h : Official bytes verification) {staging : StagingContext} {root : Option Node}
    {storeRoot : Bytes}
    (hok : (stageVerifiedRelease staging storeRoot root bytes verification digest).2.ok = true) :
    absolute storeRoot = true := by
  by_contra hnot
  obtain ⟨failed, he, hfailed⟩ := stage_relative h (by simpa using hnot)
  rw [he, hfailed] at hok
  cases hok

end

/-- After a first installation was interrupted, installing the same package again without a failing call
succeeds exactly when the store can take it and the interruption left no directory without its slots. -/
theorem repeated_install_ok_iff (env : Environment) (randoms again : InstallRandoms)
    (stores after : Stores) (bytes : Bytes) (context : InstallPolicyContext)
    (verification : PackageVerification) (digest : Sha512Digest)
    (hfirst : FirstInstall env stores bytes context verification digest)
    (hinterrupted : InterruptedInstall env randoms stores bytes context after)
    (hcalls : Unhindered env again after verification.manifest) :
    ∃ outcome, installOfficialPackageWithStateRoot env again after bytes context = some outcome ∧
      (outcome.2.ok = true ↔ Resumable env stores after bytes verification digest) := by
  have hofficial := hfirst.official
  by_cases huninitialized : Uninitialized env.euid after.policy verification.manifest.appId
  · obtain ⟨outcome, hrun, hfailed⟩ := hfirst.blocked again huninitialized
    refine ⟨outcome, hrun, iff_of_false ?_ fun h => h.initialized huninitialized⟩
    simp [hfailed]
  · have hmissing : openStore env.euid stores.policy verification.manifest.appId = .missing := by
      refine hfirst.missing fun hrefused => huninitialized ?_
      rw [hfirst.refused hrefused hinterrupted]
      exact hrefused
    have hleft := hfirst.left hmissing hinterrupted
    obtain ⟨current, hreaches, hactivation⟩ := hleft.reaches hfirst huninitialized
    obtain ⟨outcome, hrun, -, hok, -⟩ := install_outcome again hreaches
    refine ⟨outcome, hrun, ?_⟩
    rw [hok, hactivation]
    have hstages : absolute after.payloadPath = true →
        ((stageVerifiedRelease (stagingContext env again) after.payloadPath after.payload bytes verification
          digest).2.ok = true ↔ Takes env.euid stores.payload bytes verification.manifest digest) := by
      intro hstore
      rw [← hleft.payload]
      exact stage_takes hofficial.extractable hstore hofficial.nonempty hcalls.stage
    have hpersists : ∀ next, activationStateFor verification digest none = some next →
        ((persistReleaseStateTo env.euid again.slots after.policy next env.crypto).2.ok = true ↔
          (env.crypto.sha256 (releaseFields next).flatten).isSome = true) := by
      intro next hnext
      have hactivated := activation_activated hnext
      rw [← encode_ok_iff hactivated.wellformed]
      refine (hleft.holds hnext).persists hactivated.wellformed.appId
        (first_activation hofficial.extractable.counter hnext).2.1 ?_
      rw [hactivated.appId]
      exact hcalls.slot
    constructor
    · rintro ⟨hstaged, next, hnext, hpersisted⟩
      have hstore := stage_ok_absolute hofficial hstaged
      refine ⟨hleft.path ▸ hstore, (hstages hstore).mp hstaged, ?_, ?_, huninitialized⟩
      · by_contra hzero
        have hnone := (activation_eq_none hfirst.candidate).mpr (Or.inl (by simpa using hzero))
        rw [hnext] at hnone
        cases hnone
      · intro other hother
        obtain rfl := Option.some.inj (hnext.symm.trans hother)
        exact (hpersists next hnext).mp hpersisted
    · intro hresumable
      refine ⟨(hstages (hleft.path.symm ▸ hresumable.path)).mpr hresumable.takes, ?_⟩
      cases hnext : activationStateFor verification digest none with
      | none =>
        rcases (activation_eq_none hfirst.candidate).mp hnext with hzero | ⟨state, hstate, -⟩
        · rw [hresumable.nonzero] at hzero
          cases hzero
        · cases hstate
      | some next => exact ⟨next, rfl, (hpersists next hnext).mpr (hresumable.recorded next hnext)⟩

def freshStores : Stores where
  payloadPath := text "/userdisk/apps/lvgl-apps"
  payload := some (privateDirectory [])
  policy := some (privateDirectory [])

def repeatRandoms : InstallRandoms where
  stage := some (List.Vector.replicate 16 4)
  slots := ⟨some (List.Vector.replicate 16 5), some (List.Vector.replicate 16 6)⟩

def cutOff (steps : ℕ) : Stores :=
  (installVerifiedSteps installEnvironment installRandoms firstRelease.package.bytes installContext
    firstRelease.package.verification).stop freshStores (some steps)

lemma firstRelease_first : FirstInstall installEnvironment freshStores firstRelease.package.bytes
    installContext firstRelease.package.verification firstRelease.packageDigest := by
  refine ⟨?_, ?_, ?_, ?_, ?_⟩
  · decide +kernel
  · decide
  · decide +kernel
  · exact Or.inl (by decide)
  · decide

lemma cutOff_interrupted (steps : ℕ) : InterruptedInstall installEnvironment installRandoms freshStores
    firstRelease.package.bytes installContext (cutOff steps) := by
  refine ⟨_, some steps, ?_, rfl⟩
  rw [installOfficialPackageSteps, firstRelease_first.verified]
  rfl

lemma cutOff_unhindered {steps : ℕ}
    (hreleases : (releasesDirectory 0 (cutOff steps).payload (text "org.pen.demo")).all (fun releases =>
      (releases.child (stageName 1 (List.Vector.replicate 16 4))).isNone) = true)
    (hslots : (slotsDirectory 0 (cutOff steps).policy (text "org.pen.demo")).all (fun directory =>
      (directory.child (temporarySlot slotA (List.Vector.replicate 16 5))).isNone) = true) :
    Unhindered installEnvironment repeatRandoms (cutOff steps)
      firstRelease.package.verification.manifest := by
  refine ⟨⟨_, rfl, ?_⟩, ⟨_, rfl, ?_⟩⟩
  · intro releases hdirectory
    exact Option.isNone_iff_eq_none.mp ((Option.all_eq_true _ _).mp hreleases releases hdirectory)
  · intro directory hdirectory
    exact Option.isNone_iff_eq_none.mp ((Option.all_eq_true _ _).mp hslots directory hdirectory)

theorem release_repeated_after_partial_stage :
    ∃ outcome, installOfficialPackageWithStateRoot installEnvironment repeatRandoms (cutOff 400)
        firstRelease.package.bytes installContext = some outcome ∧
      (outcome.2.ok = true ↔ Resumable installEnvironment freshStores (cutOff 400)
        firstRelease.package.bytes firstRelease.package.verification firstRelease.packageDigest) :=
  repeated_install_ok_iff installEnvironment installRandoms repeatRandoms freshStores (cutOff 400)
    firstRelease.package.bytes installContext firstRelease.package.verification firstRelease.packageDigest
    firstRelease_first (cutOff_interrupted 400)
    (cutOff_unhindered (by decide +kernel) (by decide +kernel))

/-- The directory for the slots was created, and none of the slots. -/
theorem interrupted_install_not_repeated :
    ¬ ∀ (env : Environment) (randoms again : InstallRandoms) (stores after : Stores) (bytes : Bytes)
        (context : InstallPolicyContext) (verification : PackageVerification) (digest : Sha512Digest),
      FirstInstall env stores bytes context verification digest →
      InterruptedInstall env randoms stores bytes context after →
      Unhindered env again after verification.manifest →
      ∃ outcome, installOfficialPackageWithStateRoot env again after bytes context = some outcome ∧
        outcome.2.ok = true := by
  intro hrepeats
  obtain ⟨outcome, hrun, hok⟩ := hrepeats installEnvironment installRandoms repeatRandoms freshStores
    (cutOff 838) firstRelease.package.bytes installContext firstRelease.package.verification
    firstRelease.packageDigest firstRelease_first (cutOff_interrupted 838)
    (cutOff_unhindered (by decide +kernel) (by decide +kernel))
  have hstatus : (loadReleaseStateFrom 0 (cutOff 838).policy
      firstRelease.package.verification.manifest.appId installCrypto).status = .uninitialized := by
    decide +kernel
  obtain ⟨other, hagain, hfailed⟩ := firstRelease_first.blocked repeatRandoms
    ((load_uninitialized firstRelease_first.official.appId).mp hstatus)
  obtain rfl := Option.some.inj (hrun.symm.trans hagain)
  rw [hok] at hfailed
  cases hfailed

/-- An installation that would succeed can be interrupted where it cannot be repeated. -/
theorem first_install_can_block (env : Environment) (randoms : InstallRandoms) (stores : Stores)
    (bytes : Bytes) (context : InstallPolicyContext) (verification : PackageVerification)
    (digest : Sha512Digest) (hfirst : FirstInstall env stores bytes context verification digest)
    (hcalls : Unhindered env randoms stores verification.manifest)
    (hresumable : Resumable env stores stores bytes verification digest) :
    ∃ after, InterruptedInstall env randoms stores bytes context after ∧ ∀ again, ∃ outcome,
      installOfficialPackageWithStateRoot env again after bytes context = some outcome ∧
        outcome.2.ok = false := by
  have hofficial := hfirst.official
  have hmissing := hfirst.missing hresumable.initialized
  have hstaged : (stageVerifiedRelease (stagingContext env randoms) stores.payloadPath stores.payload bytes
      verification digest).2.ok = true :=
    (stage_takes hofficial.extractable hresumable.path hofficial.nonempty hcalls.stage).mpr hresumable.takes
  obtain ⟨next, hnext⟩ : ∃ next, activationStateFor verification digest none = some next := by
    refine Option.ne_none_iff_exists'.mp fun hnone => ?_
    rcases (activation_eq_none hfirst.candidate).mp hnone with hzero | ⟨state, hstate, -⟩
    · rw [hresumable.nonzero] at hzero
      cases hzero
    · cases hstate
  have hactivated := activation_activated hnext
  obtain ⟨policy, hvisits, huninitialized⟩ := persistReleaseStateSteps_creates
    (hactivated.appId ▸ hmissing) hactivated.wellformed.appId
    ((encode_ok_iff hactivated.wellformed).mpr (hresumable.recorded next hnext))
  rw [hactivated.appId] at huninitialized
  obtain ⟨after, hafter, hpolicy⟩ := hfirst.visits hmissing hstaged hnext hvisits
  obtain ⟨cut, hstop⟩ := hafter.stop
  refine ⟨after, ⟨_, cut, ?_, hstop.symm⟩, fun again => hfirst.blocked again ?_⟩
  · rw [installOfficialPackageSteps, hfirst.verified]
    rfl
  · rw [hpolicy]
    exact huninitialized

lemma freshStores_resumable : Resumable installEnvironment freshStores freshStores
    firstRelease.package.bytes firstRelease.package.verification firstRelease.packageDigest := by
  refine ⟨by decide, ⟨.directory { mode := 0o700 } [], ?_, Or.inl ⟨rfl, ?_⟩⟩, ?_, ?_, ?_⟩
  · have hnamed : firstRelease.package.verification.manifest.appId = text "org.pen.demo" := by
      decide
    rw [hnamed]
    rfl
  · have hpaths : stagedPaths firstRelease.package.verification.manifest =
        [[text "demo"], [packageCopyName], [packageMarkerName]] := by decide
    rw [hpaths]
    refine List.pairwise_cons.mpr ⟨?_, List.pairwise_pair.mpr (Node.apart_of_ne (by decide))⟩
    intro path hpath
    rcases List.mem_cons.mp hpath with rfl | hpath
    · exact Node.apart_of_ne (by decide)
    · rw [List.mem_singleton.mp hpath]
      exact Node.apart_of_ne (by decide)
  · decide
  · intro next _
    rfl
  · have hstatus : (loadReleaseStateFrom 0 freshStores.policy
        firstRelease.package.verification.manifest.appId installCrypto).status = .notFound := by
      decide
    intro huninitialized
    have hother : (loadReleaseStateFrom 0 freshStores.policy
        firstRelease.package.verification.manifest.appId installCrypto).status = .uninitialized :=
      (load_uninitialized firstRelease_first.official.appId).mpr huninitialized
    rw [hstatus] at hother
    cases hother

theorem first_release_can_block :
    ∃ after, InterruptedInstall installEnvironment installRandoms freshStores firstRelease.package.bytes
        installContext after ∧ ∀ again, ∃ outcome,
      installOfficialPackageWithStateRoot installEnvironment again after firstRelease.package.bytes
        installContext = some outcome ∧ outcome.2.ok = false := by
  refine first_install_can_block installEnvironment installRandoms freshStores firstRelease.package.bytes
    installContext firstRelease.package.verification firstRelease.packageDigest firstRelease_first ?_
    freshStores_resumable
  refine ⟨⟨_, rfl, ?_⟩, ⟨_, rfl, ?_⟩⟩
  · have hfresh : (releasesDirectory 0 freshStores.payload (text "org.pen.demo")).all (fun releases =>
        (releases.child (stageName 1 (List.Vector.replicate 16 1))).isNone) = true := by decide
    intro releases hdirectory
    exact Option.isNone_iff_eq_none.mp ((Option.all_eq_true _ _).mp hfresh releases hdirectory)
  · have hfresh : (slotsDirectory 0 freshStores.policy (text "org.pen.demo")).all (fun directory =>
        (directory.child (temporarySlot slotA (List.Vector.replicate 16 2))).isNone) = true := by
      decide
    intro directory hdirectory
    exact Option.isNone_iff_eq_none.mp ((Option.all_eq_true _ _).mp hfresh directory hdirectory)

end LvglPlatform
