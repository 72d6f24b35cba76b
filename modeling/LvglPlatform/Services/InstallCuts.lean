import LvglPlatform.Services.InterruptedInstall
import LvglPlatform.Storage.ReleaseCommits
import LvglPlatform.Storage.SlotFiles

/-! What an installation leaves in both stores wherever it stops: the release is in place before the
state that names it is. -/

namespace LvglPlatform

open Foundation

/-- The state that the policy store records for an application, if it can be loaded. -/
def recordedState (env : Environment) (stores : Stores) (appId : Bytes) :
    Option ApplicationReleaseState :=
  loadedState (loadReleaseStateFrom env.euid stores.policy appId env.crypto)

structure Activates (env : Environment) (stores after : Stores) (bytes : Bytes)
    (verification : PackageVerification) (digest : Sha512Digest)
    (current : Option ApplicationReleaseState) (slots : PolicySlots) : Prop where
  release : ∃ release, committedRelease after.payload verification.manifest.appId
      verification.manifest.releaseCounter = some release ∧
    Staged env.euid bytes verification digest (committedRelease stores.payload
      verification.manifest.appId verification.manifest.releaseCounter) release
  state : ∃ next, activationStateFor verification digest current = some next ∧
    ∃ replacements ≤ 2, PersistLeaves env.euid stores.policy next env.crypto slots replacements after.policy

structure Installs (env : Environment) (stores after : Stores) (bytes : Bytes)
    (context : InstallPolicyContext) (verification : PackageVerification) (digest : Sha512Digest)
    (current : Option ApplicationReleaseState) (slots : PolicySlots) : Prop where
  reaches : Reaches env stores bytes context verification digest current
  path : after.payloadPath = stores.payloadPath
  payload : Commits env.euid bytes verification digest stores.payload after.payload
  takes : Takes env.euid after.payload bytes verification.manifest digest ↔
    Takes env.euid stores.payload bytes verification.manifest digest
  policy : after.policy = stores.policy ∨
    Activates env stores after bytes verification digest current slots

def InstallLeaves (env : Environment) (stores : Stores) (bytes : Bytes) (context : InstallPolicyContext)
    (verification : PackageVerification) (slots : PolicySlots) (after : Stores) : Prop :=
  after = stores ∨ ∃ digest current, Installs env stores after bytes context verification digest current slots

section

variable {env : Environment} {randoms : InstallRandoms} {stores after : Stores} {bytes : Bytes}
  {context : InstallPolicyContext} {verification : PackageVerification} {digest : Sha512Digest}
  {current : Option ApplicationReleaseState} {result : InstallerResult} {slots : PolicySlots}

structure Stages (env : Environment) (bytes : Bytes) (verification : PackageVerification)
    (digest : Sha512Digest) (before after : Option Node) : Prop where
  commits : Commits env.euid bytes verification digest before after
  takes : Takes env.euid after bytes verification.manifest digest ↔
    Takes env.euid before bytes verification.manifest digest

lemma stageStoreSteps_leaves (h : Official bytes verification) :
    Steps.Spec stores (stageStoreSteps env randoms bytes verification digest)
      (fun after => ∃ payload, after = { stores with payload } ∧
        Stages env bytes verification digest stores.payload payload)
      fun storage after => ∃ payload, after = { stores with payload } ∧
        Stages env bytes verification digest stores.payload payload ∧
        (storage.ok = true → ∃ release, committedRelease payload verification.manifest.appId
            verification.manifest.releaseCounter = some release ∧
          Staged env.euid bytes verification digest (committedRelease stores.payload
            verification.manifest.appId verification.manifest.releaseCounter) release) := by
  have hcommits : Steps.Spec stores.payload (stageVerifiedReleaseSteps (stagingContext env randoms)
      stores.payloadPath bytes verification digest) _ _ := stageVerifiedReleaseSteps_commits h.extractable
  have htakes : Steps.Spec stores.payload (stageVerifiedReleaseSteps (stagingContext env randoms)
      stores.payloadPath bytes verification digest) _ _ := stageVerifiedReleaseSteps_spec h.extractable
  have hstages : Steps.Spec stores.payload (stageVerifiedReleaseSteps (stagingContext env randoms)
      stores.payloadPath bytes verification digest) (Stages env bytes verification digest stores.payload)
      fun _ => Stages env bytes verification digest stores.payload :=
    (hcommits.and htakes).weaken (fun _ h => ⟨h.1, h.2⟩) fun _ _ h => ⟨h.1, h.2⟩
  refine Steps.spec_bind (Steps.spec_current (Steps.spec_zoom ?_))
  refine Steps.Spec.run (hstages.weaken (fun payload hpayload => ⟨payload, rfl, hpayload⟩)
    fun _ _ => id) ⟨_, rfl, hstages.2, ?_⟩
  rw [run_stageVerifiedReleaseSteps]
  intro hok
  obtain ⟨-, payload, release, -, -, hpayload, -, hopened, hstaged⟩ := stage_leaves h.extractable
    (stage_ok_absolute h hok) h.nonempty hok
  refine ⟨release, ?_, hstaged⟩
  rw [hpayload]
  exact Node.openTrusted_lookup hopened

lemma activateReleaseSteps_leaves {start : Stores} {payload : Option Node}
    (hslots : StoresSlots env.euid start.policy verification.manifest.appId slots)
    (hinstalled : result.verification = verification)
    (hreaches : Reaches env start bytes context verification digest current)
    (hstages : Stages env bytes verification digest start.payload payload)
    (hrelease : ∃ release, committedRelease payload verification.manifest.appId
        verification.manifest.releaseCounter = some release ∧
      Staged env.euid bytes verification digest (committedRelease start.payload
        verification.manifest.appId verification.manifest.releaseCounter) release) :
    Steps.Spec { start with payload } (activateReleaseSteps env randoms digest current result)
      (fun after => Installs env start after bytes context verification digest current slots)
      fun _ after => Installs env start after bytes context verification digest current slots := by
  have hkept : Installs env start { start with payload } bytes context verification digest current slots :=
    ⟨hreaches, rfl, hstages.commits, hstages.takes, Or.inl rfl⟩
  rw [activateReleaseSteps, hinstalled]
  cases hnext : activationStateFor verification digest current with
  | none => exact Steps.spec_pure hkept
  | some next =>
    have happ : next.appId = verification.manifest.appId := (activation_activated hnext).appId
    have hactivates : ∀ policy, (∃ replacements ≤ 2,
        PersistLeaves env.euid start.policy next env.crypto slots replacements policy) →
        Installs env start { start with payload, policy } bytes context verification digest current slots :=
      fun policy hpolicy =>
        ⟨hreaches, rfl, hstages.commits, hstages.takes, Or.inr ⟨hrelease, next, hnext, hpolicy⟩⟩
    refine Steps.spec_bind (Steps.spec_zoom ((persistReleaseStateSteps_slots (happ ▸ hslots)).weaken
      hactivates ?_))
    rintro persisted policy ⟨replacements, hle, hleaves, -⟩
    have hinstalls := hactivates policy ⟨replacements, hle, hleaves⟩
    dsimp only
    split_ifs <;> exact Steps.spec_pure hinstalls

lemma installVerifiedSteps_leaves
    (hverified : (env.trust.verify bytes env.crypto).answer = some verification)
    (hslots : StoresSlots env.euid stores.policy verification.manifest.appId slots) :
    Steps.Spec stores (installVerifiedSteps env randoms bytes context verification)
      (InstallLeaves env stores bytes context verification slots)
      fun _ => InstallLeaves env stores bytes context verification slots := by
  have hself : InstallLeaves env stores bytes context verification slots stores := Or.inl rfl
  unfold installVerifiedSteps
  dsimp only
  split <;> rename_i hok
  · exact Steps.spec_pure hself
  cases hdigest : env.crypto.sha512 bytes with
  | none => exact Steps.spec_pure hself
  | some digest =>
    refine Steps.spec_bind (Steps.spec_current ?_)
    split <;> rename_i hloads
    · exact Steps.spec_pure hself
    unfold installReleaseSteps
    dsimp only
    split <;> rename_i hallowed
    · exact Steps.spec_pure hself
    have hreaches : Reaches env stores bytes context verification digest
        (recordedState env stores verification.manifest.appId) :=
      ⟨hverified, by simpa using hok, hdigest, by grind, rfl, by simpa [recordedState] using hallowed⟩
    have hstops : ∀ after, (∃ payload, after = { stores with payload } ∧
        Stages env bytes verification digest stores.payload payload) →
        InstallLeaves env stores bytes context verification slots after := by
      rintro after ⟨payload, rfl, hstages⟩
      exact Or.inr ⟨digest, _, hreaches, rfl, hstages.commits, hstages.takes, Or.inl rfl⟩
    refine Steps.spec_bind ((stageStoreSteps_leaves hreaches.official).weaken hstops ?_)
    rintro storage after ⟨payload, rfl, hstages, hrelease⟩
    split <;> rename_i hstored
    · exact Steps.spec_pure (hstops _ ⟨payload, rfl, hstages⟩)
    · have hinstalls : ∀ after, Installs env stores after bytes context verification digest
          (recordedState env stores verification.manifest.appId) slots →
          InstallLeaves env stores bytes context verification slots after := fun after h => Or.inr ⟨_, _, h⟩
      exact (activateReleaseSteps_leaves hslots rfl hreaches hstages
        (hrelease (by simpa using hstored))).weaken hinstalls fun _ => hinstalls

end

/-- Staging a package that the compiled key verifies is atomic: wherever it stops, every release of every
application is what it was, but for the package's own, which is not there or there as a whole. -/
theorem interrupted_stage_commits (env : Environment) (context : StagingContext) (storeRoot bytes : Bytes)
    (verification : PackageVerification) (digest : Sha512Digest) (root : Option Node) (cut : Option ℕ)
    (hverified : (env.trust.verify bytes env.crypto).answer = some verification)
    (hok : verification.ok = true) :
    Commits context.euid bytes verification digest root
      ((stageVerifiedReleaseSteps context storeRoot bytes verification digest).stop root cut) := by
  obtain ⟨key, -, haccepts⟩ := trust_verified hverified hok
  exact (stageVerifiedReleaseSteps_commits (official_of_accepts haccepts).extractable).stop commits_self cut

theorem first_stage_cut_off :
    Commits 0 firstRelease.package.bytes firstRelease.package.verification firstRelease.packageDigest
      freshStores.payload
      ((stageVerifiedReleaseSteps (stagingContext installEnvironment installRandoms)
        freshStores.payloadPath firstRelease.package.bytes firstRelease.package.verification
        firstRelease.packageDigest).stop freshStores.payload (some 6)) :=
  interrupted_stage_commits installEnvironment (stagingContext installEnvironment installRandoms) _ _ _ _ _ _
    (by decide +kernel) (by decide +kernel)

end LvglPlatform
