import LvglPlatform.Services.InboxService
import LvglPlatform.Storage.StageRelease
import LvglPlatform.Storage.StoreWrite

/-! `install_official_package_with_state_root`: verify, ask the policy, stage the release, then switch
the stored release state to it. -/

namespace LvglPlatform

open Foundation

inductive InstallerStatus
  | installed
  | alreadyInstalled
  | installedStateDegraded
  | trustRejected
  | digestFailed
  | stateUnavailable
  | policyRejected
  | storageFailed
  | transitionFailed
  | stateCommitFailed
  deriving DecidableEq, Repr

structure InstallerResult where
  status : InstallerStatus := .trustRejected
  detail : Bytes := []
  verification : PackageVerification := {}
  policy : InstallPolicyDecision := {}
  storage : StorageResult := {}
  stateStore : StateStoreResult := {}
  activeState : ApplicationReleaseState := {}
  deriving DecidableEq

def InstallerResult.ok (result : InstallerResult) : Bool :=
  result.status = .installed || result.status = .alreadyInstalled ||
    result.status = .installedStateDegraded

def InstallerResult.finish (result : InstallerResult) (status : InstallerStatus) (detail : Bytes) :
    InstallerResult :=
  { result with status, detail }

structure Stores where
  payloadPath : Bytes
  payload : Option Node
  policy : Option Node

structure InstallRandoms where
  stage : Option (ByteArr 16)
  slots : SlotRandoms

def stagingContext (env : Environment) (randoms : InstallRandoms) : StagingContext where
  euid := env.euid
  random := randoms.stage

/-- The end of an installation, once the release is in the payload store. -/
def activateRelease (env : Environment) (randoms : InstallRandoms) (stores : Stores)
    (digest : Sha512Digest) (current : Option ApplicationReleaseState) (result : InstallerResult) :
    Stores × InstallerResult :=
  match activationStateFor result.verification digest current with
  | none => (stores, result.finish .transitionFailed (text "INSTALLER_STATE_TRANSITION_REJECTED"))
  | some next =>
    let (policy, persisted) :=
      persistReleaseStateTo env.euid randoms.slots stores.policy next env.crypto
    let stores := { stores with policy }
    let result := { result with activeState := next, stateStore := persisted }
    if !persisted.ok then (stores, result.finish .stateCommitFailed persisted.detail)
    else if persisted.status = .writtenDegraded then
      (stores, result.finish .installedStateDegraded (text "INSTALLER_INSTALLED_STATE_DEGRADED"))
    else if result.storage.status = .alreadyPresent ∧
        current.map ApplicationReleaseState.generation = some next.generation then
      (stores, result.finish .alreadyInstalled (text "INSTALLER_ALREADY_INSTALLED"))
    else (stores, result.finish .installed (text "INSTALLER_INSTALLED"))

/-- The middle of an installation, for a package and the state of its application. -/
def installRelease (env : Environment) (randoms : InstallRandoms) (stores : Stores) (bytes : Bytes)
    (context : InstallPolicyContext) (digest : Sha512Digest)
    (current : Option ApplicationReleaseState) (result : InstallerResult) : Stores × InstallerResult :=
  let policy := evaluateInstallPolicy result.verification digest context (current.map highWaterMark)
  let result := { result with policy }
  if !policy.allowed then (stores, result.finish .policyRejected policy.detail)
  else
    let (payload, storage) := stageVerifiedRelease (stagingContext env randoms) stores.payloadPath
      stores.payload bytes result.verification digest
    let stores := { stores with payload }
    let result := { result with storage }
    if !storage.ok then (stores, result.finish .storageFailed storage.detail)
    else activateRelease env randoms stores digest current result

def loadedState (loaded : StateStoreResult) : Option ApplicationReleaseState :=
  if loaded.isLoaded then some loaded.selected.state else none

def installVerified (env : Environment) (randoms : InstallRandoms) (stores : Stores) (bytes : Bytes)
    (context : InstallPolicyContext) (verification : PackageVerification) : Stores × InstallerResult :=
  let result : InstallerResult := { verification }
  if !verification.ok then (stores, result.finish .trustRejected verification.detail)
  else match env.crypto.sha512 bytes with
    | none => (stores, result.finish .digestFailed (text "INSTALLER_DIGEST_FAILED"))
    | some digest =>
      let loaded := loadReleaseStateFrom env.euid stores.policy verification.manifest.appId env.crypto
      let result := { result with stateStore := loaded }
      if !loaded.isLoaded ∧ loaded.status ≠ .notFound then
        (stores, result.finish .stateUnavailable
          (if loaded.status = .uninitialized then text "INSTALLER_REPAIR_REQUIRED" else loaded.detail))
      else installRelease env randoms stores bytes context digest (loadedState loaded) result

/-- `none` is an installation whose behaviour is undefined. -/
def installOfficialPackageWithStateRoot (env : Environment) (randoms : InstallRandoms)
    (stores : Stores) (bytes : Bytes) (context : InstallPolicyContext) :
    Option (Stores × InstallerResult) :=
  ((env.trust.verify bytes env.crypto).answer).map
    (installVerified env randoms stores bytes context)

lemma scanIdentifier_all {counts : UInt8 → Bool} {separator found : Bool} {cs : Bytes}
    (h : scanIdentifier counts separator found cs = true) :
    ∀ c ∈ cs, (isLower c || isDigit c || c = chr '.' || c = chr '-') = true := by
  induction cs generalizing separator found with
  | nil => simp
  | cons c cs ih =>
    simp only [scanIdentifier] at h
    rw [List.forall_mem_cons]
    split at h <;> rename_i hc
    · split at h
      · cases h
      · refine ⟨?_, ih h⟩
        rcases hc with hc | hc
        · simp [hc]
        · simp [hc]
    · split at h <;> rename_i hletter
      · exact ⟨by simp [hletter], ih h⟩
      · cases h

lemma safeComponent_of_appId {value : Bytes} (h : appId value = true) : safeComponent value = true := by
  have hlength := identifier_length h
  have hdot : value.head? ≠ some (chr '.') := by
    intro hhead
    simp [appId, identifier, hhead] at h
  rw [appId, identifier] at h
  split at h
  · cases h
  rw [safeComponent, if_neg]
  · exact List.all_eq_true.mpr (scanIdentifier_all h)
  · rintro (rfl | hlong | rfl | rfl)
    · simp at hlength
    · omega
    · exact hdot rfl
    · exact hdot rfl

lemma trust_verified {trust : OfficialTrustStore} {bytes : Bytes} {crypto : CryptoProvider}
    {verification : PackageVerification}
    (h : (trust.verify bytes crypto).answer = some verification) (hok : verification.ok = true) :
    ∃ key, trust.publicKey = some key ∧
      Accepts bytes crypto [{ key, production := true }] false verification := by
  unfold OfficialTrustStore.verify at h
  cases hkey : trust.publicKey with
  | none =>
    rw [hkey] at h
    obtain rfl := Option.some.inj h
    cases hok
  | some key =>
    rw [hkey] at h
    exact ⟨key, rfl, h, hok⟩

/-- What an installation relies on about a package the compiled key verifies. -/
structure Official (bytes : Bytes) (verification : PackageVerification) : Prop where
  extractable : Extractable bytes verification
  nonempty : bytes ≠ []
  appId : appId verification.manifest.appId = true
  keyId : keyId verification.manifest.signingKeyId = true
  modes : ∀ file ∈ verification.manifest.files, file.mode = 0o644 ∨ file.mode = 0o755
  size : bytes.length ≤ maximumPackageSize + signatureSize

lemma official_of_accepts {bytes : Bytes} {crypto : CryptoProvider} {trustedKeys : List TrustedPublicKey}
    {verification : PackageVerification} (h : Accepts bytes crypto trustedKeys false verification) :
    Official bytes verification := by
  obtain ⟨package, rfl, hsound, hallow, rfl⟩ := accepts_iff.mp h
  have hdevelopment : package.development = false := by
    by_contra hd
    exact absurd (hallow (by simpa using hd)) (by decide)
  have htexts := hsound.manifest.texts
  simp only [checkTexts, Bool.and_eq_true] at htexts
  obtain ⟨⟨⟨⟨⟨happ, -⟩, -⟩, -⟩, -⟩, hkey⟩ := htexts
  have hlength := serialize_length package.development package.manifest package.contents
  have htotal := totalSize_contents (hsound.contents.imp fun _ _ h => h.1)
  have hbytes : package.bytes.length = package.unsigned.length + package.envelope.length :=
    List.length_append
  have hunsigned : package.unsigned.length = headerSize + (manifestText package.manifest).length +
      (fileTable 0 package.manifest.files).length + totalSize package.manifest.files := by
    rw [htotal]
    exact hlength
  have hpayload : package.verification.payloadStart + totalSize package.manifest.files ≤
      package.bytes.length := by
    change headerSize + (manifestText package.manifest).length +
      (fileTable 0 package.manifest.files).length + totalSize package.manifest.files ≤ _
    omega
  have hvalid : ∀ file ∈ package.manifest.files, ValidFile file :=
    fun file hfile => (hsound.manifest.files.valid file hfile).1
  refine ⟨⟨safeComponent_of_appId happ, ?_, ⟨rfl, hdevelopment, ?_⟩, by omega, ?_, ?_⟩, ?_, happ, hkey,
    ?_, hsound.size⟩
  · intro hzero
    exact hsound.manifest.counter (congrArg UInt64.toNat hzero)
  · simp [Package.verification, hdevelopment]
  · intro file hfile
    have hbound := placed_bounds file hfile
    omega
  · exact placed_forall (fun _ _ h => h) fun file hfile => (hvalid file hfile).path
  · intro hempty
    have hzero : package.bytes.length = 0 := congrArg List.length hempty
    simp only [headerSize] at hunsigned
    omega
  · exact placed_forall (fun _ _ h => h) fun file hfile => (hvalid file hfile).mode

section

variable {verification : PackageVerification} {digest : Sha512Digest} {context : InstallPolicyContext}

/-- What the high-water mark asks of a candidate. -/
structure AboveMark (verification : PackageVerification) (digest : Sha512Digest)
    (mark : ApplicationHighWaterMark) : Prop where
  appId : mark.appId = verification.manifest.appId
  signer : mark.signingKeyId = verification.manifest.signingKeyId
  epoch : mark.securityEpoch ≤ verification.manifest.securityEpoch
  counter : mark.releaseCounter ≤ verification.manifest.releaseCounter
  digest : verification.manifest.releaseCounter = mark.releaseCounter → digest = mark.packageDigest

lemma highWaterDecision_allowed {mark : ApplicationHighWaterMark} :
    (highWaterDecision verification digest mark).allowed = true ↔ AboveMark verification digest mark := by
  unfold highWaterDecision
  dsimp only
  split <;> rename_i happ
  · exact iff_of_false (by decide) fun h => happ h.appId
  split <;> rename_i hsigner
  · exact iff_of_false (by decide) fun h => hsigner h.signer
  split <;> rename_i hepoch
  · exact iff_of_false (by decide) fun h => by have := h.epoch; grind
  split <;> rename_i hcounter
  · exact iff_of_false (by decide) fun h => by have := h.counter; grind
  split <;> rename_i hcollision
  · exact iff_of_false (by decide) fun h => hcollision.2 (h.digest hcollision.1)
  · refine iff_of_true rfl ⟨not_not.mp happ, not_not.mp hsigner, by grind, by grind, ?_⟩
    intro he
    by_contra hne
    exact hcollision ⟨he, hne⟩

lemma policy_allowed_iff {mark : Option ApplicationHighWaterMark} :
    (evaluateInstallPolicy verification digest context mark).allowed = true ↔
      (evaluateInstallPolicy verification digest context none).allowed = true ∧
        ∀ installed, mark = some installed → AboveMark verification digest installed := by
  cases mark with
  | none => simp
  | some installed =>
    unfold evaluateInstallPolicy
    dsimp only
    -- the checks before the mark refuse with and without it
    split_ifs <;> try exact iff_of_false (by decide) fun h => absurd h.1 (by decide)
    rw [highWaterDecision_allowed]
    simp [decision, InstallPolicyDecision.allowed]

end

/-- The package gets as far as the payload store. -/
structure Reaches (env : Environment) (stores : Stores) (bytes : Bytes)
    (context : InstallPolicyContext) (verification : PackageVerification) (digest : Sha512Digest)
    (current : Option ApplicationReleaseState) : Prop where
  verified : (env.trust.verify bytes env.crypto).answer = some verification
  ok : verification.ok = true
  digested : env.crypto.sha512 bytes = some digest
  loads : (loadReleaseStateFrom env.euid stores.policy verification.manifest.appId
      env.crypto).isLoaded = true ∨
    (loadReleaseStateFrom env.euid stores.policy verification.manifest.appId env.crypto).status =
      .notFound
  state : current = loadedState
    (loadReleaseStateFrom env.euid stores.policy verification.manifest.appId env.crypto)
  allowed : (evaluateInstallPolicy verification digest context (current.map highWaterMark)).allowed = true

section

variable {env : Environment} {randoms : InstallRandoms} {stores after : Stores} {bytes : Bytes}
  {context : InstallPolicyContext} {verification : PackageVerification} {digest : Sha512Digest}
  {current : Option ApplicationReleaseState} {result : InstallerResult}

lemma Reaches.official (h : Reaches env stores bytes context verification digest current) :
    Official bytes verification := by
  obtain ⟨key, -, haccepts⟩ := trust_verified h.verified h.ok
  exact official_of_accepts haccepts

lemma loadedState_some {loaded : StateStoreResult} {state : ApplicationReleaseState}
    (h : loadedState loaded = some state) : loaded.isLoaded = true ∧ loaded.selected.state = state := by
  obtain ⟨hloaded, he⟩ := Option.ite_none_right_eq_some.mp h
  exact ⟨hloaded, Option.some.inj he⟩

lemma Reaches.candidate (h : Reaches env stores bytes context verification digest current) :
    Candidate verification current digest := by
  have hofficial := h.official
  refine ⟨hofficial.extractable.authenticated, hofficial.extractable.counter, hofficial.appId,
    hofficial.keyId, ?_⟩
  intro state hstate hquarantined
  obtain ⟨-, habove⟩ := policy_allowed_iff.mp h.allowed
  obtain ⟨happ, hsigner, hepoch, hcounter, hdigest⟩ := habove (highWaterMark state) (by rw [hstate]; rfl)
  obtain ⟨hloaded, hselected⟩ := loadedState_some (h.state.symm.trans hstate)
  have hvalid := (loadReleaseStateFrom_valid hloaded).1
  rw [hselected] at hvalid
  exact ⟨(validState_iff state).mp hvalid, happ, hsigner, hcounter, hepoch, hquarantined, hdigest⟩

lemma install_stops
    (h : installOfficialPackageWithStateRoot env randoms stores bytes context = some (after, result))
    (hstops : ∀ verification digest current,
      ¬ Reaches env stores bytes context verification digest current) :
    after = stores ∧ result.ok = false ∧ result.status ≠ .stateCommitFailed := by
  obtain ⟨verification, hverified, he⟩ := Option.map_eq_some_iff.mp h
  unfold installVerified at he
  dsimp only at he
  split at he <;> rename_i hok
  · obtain ⟨rfl, rfl⟩ := Prod.mk.inj he
    exact ⟨rfl, rfl, by simp [InstallerResult.finish]⟩
  split at he <;> rename_i hdigest
  · obtain ⟨rfl, rfl⟩ := Prod.mk.inj he
    exact ⟨rfl, rfl, by simp [InstallerResult.finish]⟩
  rename_i digest
  split at he <;> rename_i hstate
  · obtain ⟨rfl, rfl⟩ := Prod.mk.inj he
    exact ⟨rfl, rfl, by simp [InstallerResult.finish]⟩
  unfold installRelease at he
  dsimp only at he
  split at he <;> rename_i hallowed
  · obtain ⟨rfl, rfl⟩ := Prod.mk.inj he
    exact ⟨rfl, rfl, by simp [InstallerResult.finish]⟩
  · exact absurd ⟨hverified, by simpa using hok, hdigest, by grind, rfl, by simpa using hallowed⟩
      (hstops verification digest _)

lemma reaches_of_ok
    (h : installOfficialPackageWithStateRoot env randoms stores bytes context = some (after, result))
    (hok : result.ok = true)
    (hverified : (env.trust.verify bytes env.crypto).answer = some verification) :
    ∃ digest current, Reaches env stores bytes context verification digest current := by
  by_contra hnot
  have hstops : ∀ other digest current, ¬ Reaches env stores bytes context other digest current := by
    intro other digest current hreaches
    obtain rfl := Option.some.inj (hverified.symm.trans hreaches.verified)
    exact hnot ⟨digest, current, hreaches⟩
  have hfailed := (install_stops h hstops).2.1
  rw [hok] at hfailed
  cases hfailed

lemma install_reaches (h : Reaches env stores bytes context verification digest current) :
    ∃ result : InstallerResult, result.verification = verification ∧
      result.storage = (stageVerifiedRelease (stagingContext env randoms) stores.payloadPath
        stores.payload bytes verification digest).2 ∧
      installOfficialPackageWithStateRoot env randoms stores bytes context = some
        (if !result.storage.ok then
          ({ stores with payload := (stageVerifiedRelease (stagingContext env randoms)
            stores.payloadPath stores.payload bytes verification digest).1 },
            result.finish .storageFailed result.storage.detail)
        else activateRelease env randoms
          { stores with payload := (stageVerifiedRelease (stagingContext env randoms)
            stores.payloadPath stores.payload bytes verification digest).1 } digest current result) := by
  obtain ⟨hverified, hok, hdigest, hstate, hcurrent, hallowed⟩ := h
  subst hcurrent
  have hload : ¬ ((!(loadReleaseStateFrom env.euid stores.policy verification.manifest.appId
      env.crypto).isLoaded) = true ∧ (loadReleaseStateFrom env.euid stores.policy
      verification.manifest.appId env.crypto).status ≠ .notFound) := by
    rintro ⟨hnot, hmissing⟩
    exact hstate.elim (by simpa using hnot) hmissing
  refine ⟨{
    verification
    policy := evaluateInstallPolicy verification digest context
      ((loadedState (loadReleaseStateFrom env.euid stores.policy verification.manifest.appId
        env.crypto)).map highWaterMark)
    storage := (stageVerifiedRelease (stagingContext env randoms) stores.payloadPath stores.payload
      bytes verification digest).2
    stateStore := loadReleaseStateFrom env.euid stores.policy verification.manifest.appId env.crypto },
    rfl, rfl, ?_⟩
  rw [installOfficialPackageWithStateRoot, hverified, Option.map_some, installVerified]
  simp only [hok, Bool.not_true, Bool.false_eq_true, if_false, hdigest, if_neg hload, installRelease,
    hallowed]

lemma activateRelease_cases (hinstalled : result.verification = verification) :
    ((activationStateFor verification digest current = none ∧
        activateRelease env randoms stores digest current result =
          (stores, result.finish .transitionFailed (text "INSTALLER_STATE_TRANSITION_REJECTED"))) ∨
      ∃ next, activationStateFor verification digest current = some next ∧
        (activateRelease env randoms stores digest current result).1 =
          { stores with
            policy := (persistReleaseStateTo env.euid randoms.slots stores.policy next env.crypto).1 } ∧
        if (persistReleaseStateTo env.euid randoms.slots stores.policy next env.crypto).2.ok then
          (activateRelease env randoms stores digest current result).2.ok = true
        else (activateRelease env randoms stores digest current result).2.status =
          .stateCommitFailed) := by
  unfold activateRelease
  rw [hinstalled]
  cases hnext : activationStateFor verification digest current with
  | none => exact Or.inl ⟨rfl, rfl⟩
  | some next =>
    refine Or.inr ⟨next, rfl, ?_⟩
    dsimp only
    by_cases hok : (persistReleaseStateTo env.euid randoms.slots stores.policy next env.crypto).2.ok = true
    · simp only [hok, Bool.not_true, Bool.false_eq_true, if_false]
      split_ifs <;> exact ⟨rfl, rfl⟩
    · simp [hok, InstallerResult.finish]

lemma install_outcome (randoms : InstallRandoms)
    (h : Reaches env stores bytes context verification digest current) :
    ∃ outcome, installOfficialPackageWithStateRoot env randoms stores bytes context = some outcome ∧
      outcome.1.payload = (stageVerifiedRelease (stagingContext env randoms) stores.payloadPath
        stores.payload bytes verification digest).1 ∧
      (outcome.2.ok = true ↔ (stageVerifiedRelease (stagingContext env randoms) stores.payloadPath
          stores.payload bytes verification digest).2.ok = true ∧
        ∃ next, activationStateFor verification digest current = some next ∧
          (persistReleaseStateTo env.euid randoms.slots stores.policy next env.crypto).2.ok = true) ∧
      (outcome.2.ok = true → ∀ next, activationStateFor verification digest current = some next →
        outcome.1.policy =
          (persistReleaseStateTo env.euid randoms.slots stores.policy next env.crypto).1) := by
  obtain ⟨staged, hverification, hstorage, hinstall⟩ := install_reaches h
  rw [← hstorage]
  by_cases hstored : staged.storage.ok = true
  · rw [if_neg (by simp [hstored])] at hinstall
    refine ⟨_, hinstall, ?_⟩
    rcases activateRelease_cases hverification with ⟨hnone, he⟩ | ⟨next, hnext, hafter, hpersisted⟩
    · rw [he]
      refine ⟨rfl, ?_, ?_⟩
      · simp [InstallerResult.finish, InstallerResult.ok, hnone]
      · simp [hnone]
    · rw [hafter]
      refine ⟨rfl, ?_, ?_⟩
      · simp only [hstored, hnext, Option.some.injEq, exists_eq_left', true_and]
        split at hpersisted <;> rename_i hok
        · exact iff_of_true hpersisted hok
        · refine iff_of_false ?_ hok
          simp [InstallerResult.ok, hpersisted]
      · rintro - other hother
        obtain rfl := Option.some.inj (hnext.symm.trans hother)
        rfl
  · rw [if_pos (by simp [hstored])] at hinstall
    refine ⟨_, hinstall, rfl, ?_, ?_⟩
    · simp [InstallerResult.finish, InstallerResult.ok, hstored]
    · simp [InstallerResult.finish, InstallerResult.ok]

lemma newest_successor {store : Option Node} {appId : Bytes} {crypto : CryptoProvider} {euid : ℕ}
    {next : ApplicationReleaseState}
    (hloads : (loadReleaseStateFrom euid store appId crypto).isLoaded = true ∨
      (loadReleaseStateFrom euid store appId crypto).status = .notFound)
    (hnext : ∀ state, loadedState (loadReleaseStateFrom euid store appId crypto) = some state →
      next = state ∨ state.generation < next.generation) :
    ∀ directory, openStore euid store appId = .opened directory →
      Newest crypto next (readSlot euid directory slotA).bytes ∧
        Newest crypto next (readSlot euid directory slotB).bytes := by
  intro directory hopen
  have hload : (loadReleaseStateFrom euid store appId crypto).status = .invalidArgument ∨
      loadReleaseStateFrom euid store appId crypto =
        loadSlots (readSlot euid directory slotA) (readSlot euid directory slotB) appId crypto := by
    rw [loadReleaseStateFrom, hopen]
    split
    · exact Or.inl rfl
    · exact Or.inr rfl
  rcases hload with hinvalid | hload
  · rcases hloads with hloaded | hmissing
    · simp [StateStoreResult.isLoaded, hinvalid] at hloaded
    · simp [hinvalid] at hmissing
  rw [hload] at hloads hnext
  have hloaded : (loadSlots (readSlot euid directory slotA) (readSlot euid directory slotB) appId
      crypto).isLoaded = true := by
    refine hloads.resolve_right ?_
    unfold loadSlots
    dsimp only
    split_ifs <;> simp
  obtain ⟨hencodes, hA, hB⟩ := loadSlots_loaded hloaded
  rcases hnext _ (if_pos hloaded) with rfl | hlt
  · exact ⟨hA, hB⟩
  · exact ⟨hA.succ hencodes hlt, hB.succ hencodes hlt⟩

lemma install_loads {after : Stores} {result : InstallerResult}
    (h : Reaches env stores bytes context verification digest current)
    (hrun : installOfficialPackageWithStateRoot env randoms stores bytes context = some (after, result))
    (hok : result.ok = true) :
    ∃ next, activationStateFor verification digest current = some next ∧
      (persistReleaseStateTo env.euid randoms.slots stores.policy next env.crypto).2.ok = true ∧
      (loadReleaseStateFrom env.euid after.policy verification.manifest.appId env.crypto).isLoaded = true ∧
      (loadReleaseStateFrom env.euid after.policy verification.manifest.appId
        env.crypto).selected.state = next := by
  obtain ⟨outcome, houtcome, -, hinstalled, hpolicy⟩ := install_outcome randoms h
  obtain rfl := Option.some.inj (hrun.symm.trans houtcome)
  obtain ⟨-, next, hnext, hpersisted⟩ := hinstalled.mp hok
  refine ⟨next, hnext, hpersisted, ?_⟩
  have happ := (activation_activated hnext).appId
  rw [hpolicy hok next hnext, ← happ]
  refine load_persisted (newest_successor ?_ ?_) hpersisted
  · rw [happ]
    exact h.loads
  · intro state hstate
    rw [happ, ← h.state] at hstate
    rw [hstate] at hnext
    exact activation_generation hnext

/-- What an installation must not change when it is turned down. -/
def Untouched (env : Environment) (before after : Stores) : Prop :=
  (∀ appId counter, committedRelease after.payload appId counter =
    committedRelease before.payload appId counter) ∧
  ∀ appId, loadReleaseStateFrom env.euid after.policy appId env.crypto =
    loadReleaseStateFrom env.euid before.policy appId env.crypto

/-- The package gets into the payload store although the stored state refuses to activate it. -/
def Strands (env : Environment) (randoms : InstallRandoms) (stores : Stores) (bytes : Bytes)
    (context : InstallPolicyContext) : Prop :=
  ∃ verification digest current, Reaches env stores bytes context verification digest current ∧
    absolute stores.payloadPath = true ∧
    HasRoom (stagingContext env randoms) stores.payload verification.manifest ∧
    Unactivatable verification digest current

lemma stage_relative {staging : StagingContext} {storeRoot : Bytes} {root : Option Node}
    (h : Official bytes verification) (hstore : absolute storeRoot = false) :
    ∃ failed, stageVerifiedRelease staging storeRoot root bytes verification digest = (root, failed) ∧
      failed.ok = false := by
  obtain ⟨hok, hdevelopment, hsigned⟩ := h.extractable.authenticated
  have hhead : storeRoot.head? ≠ some (chr '/') := by simpa [absolute] using hstore
  have hpayload : ¬ verification.payloadStart > bytes.length := not_lt.mpr h.extractable.payload
  unfold stageVerifiedRelease
  by_cases hempty : storeRoot = []
  · rw [if_pos (Or.inl hempty)]
    exact ⟨_, rfl, rfl⟩
  · rw [if_neg (by simp [hempty, h.nonempty, h.extractable.appId, h.extractable.counter]),
      if_neg (by simp [hok, hdevelopment, hsigned]), if_neg hpayload, if_pos hhead]
    exact ⟨_, rfl, rfl⟩

lemma stage_keeps {staging : StagingContext} {storeRoot : Bytes} {root : Option Node}
    (h : Official bytes verification)
    (hnot : ¬ (absolute storeRoot = true ∧ HasRoom staging root verification.manifest)) :
    (∀ appId counter,
        committedRelease (stageVerifiedRelease staging storeRoot root bytes verification digest).1
          appId counter = committedRelease root appId counter) ∧
      (stageVerifiedRelease staging storeRoot root bytes verification digest).2.status ≠ .committed := by
  cases hstore : absolute storeRoot with
  | false =>
    obtain ⟨failed, he, hfailed⟩ := stage_relative h hstore
    rw [he]
    refine ⟨fun _ _ => rfl, ?_⟩
    intro hcommitted
    have hstatus : failed.status = .committed := hcommitted
    simp [StorageResult.ok, hstatus] at hfailed
  | true =>
    have hroom : ¬ HasRoom staging root verification.manifest := fun hroom => hnot ⟨hstore, hroom⟩
    obtain ⟨hkept, hstatus, -⟩ := stage_no_room h.extractable hstore h.nonempty hroom
    exact ⟨hkept, hstatus⟩

lemma install_reaches_untouched (h : Reaches env stores bytes context verification digest current)
    (hnot : ¬ Strands env randoms stores bytes context)
    (hrun : installOfficialPackageWithStateRoot env randoms stores bytes context = some (after, result))
    (hfailed : result.ok = false) (hcommit : result.status ≠ .stateCommitFailed) :
    Untouched env stores after := by
  obtain ⟨staged, hverification, hstorage, hinstall⟩ := install_reaches h
  rw [hinstall] at hrun
  have hend := Option.some.inj hrun
  have hpayload : after.payload = (stageVerifiedRelease (stagingContext env randoms)
      stores.payloadPath stores.payload bytes verification digest).1 ∧ after.policy = stores.policy ∧
      (staged.storage.status = .committed → activationStateFor verification digest current = none) := by
    split at hend <;> rename_i hstored
    · obtain ⟨rfl, rfl⟩ := Prod.mk.inj hend
      refine ⟨rfl, rfl, ?_⟩
      intro hcommitted
      simp [StorageResult.ok, hcommitted] at hstored
    · rcases activateRelease_cases hverification with ⟨hnone, he⟩ | ⟨next, -, -, hpersisted⟩
      · rw [he] at hend
        obtain ⟨rfl, rfl⟩ := Prod.mk.inj hend
        exact ⟨rfl, rfl, fun _ => hnone⟩
      · rw [hend] at hpersisted
        split at hpersisted
        · exact absurd hpersisted (by simp [hfailed])
        · exact absurd hpersisted hcommit
  obtain ⟨hpayload, hpolicy, hactivation⟩ := hpayload
  refine ⟨?_, fun _ => by rw [hpolicy]⟩
  intro appId counter
  rw [hpayload]
  have hofficial := h.official
  by_cases htakes : absolute stores.payloadPath = true ∧
      HasRoom (stagingContext env randoms) stores.payload verification.manifest
  · have hcommitted : (stageVerifiedRelease (stagingContext env randoms) stores.payloadPath
        stores.payload bytes verification digest).2.status = .committed :=
      (stage_room hofficial.extractable htakes.1 hofficial.nonempty htakes.2).1
    have hnone := hactivation (hstorage ▸ hcommitted)
    exact absurd ⟨verification, digest, current, h, htakes.1, htakes.2,
      (activation_eq_none h.candidate).mp hnone⟩ hnot
  · exact (stage_keeps hofficial htakes).1 appId counter

lemma install_strands (h : Strands env randoms stores bytes context) :
    ∃ after result, installOfficialPackageWithStateRoot env randoms stores bytes context =
        some (after, result) ∧
      result.status = .transitionFailed ∧ ¬ Untouched env stores after := by
  obtain ⟨verification, digest, current, hreaches, hstore, hroom, hrefused⟩ := h
  have hofficial := hreaches.official
  obtain ⟨staged, hverification, hstorage, hinstall⟩ := install_reaches hreaches
  obtain ⟨hcommitted, hbefore, hafter⟩ :=
    stage_room hofficial.extractable hstore hofficial.nonempty hroom
  have hstored : staged.storage.ok = true := by
    rw [hstorage, StorageResult.ok, hcommitted]
    rfl
  have hnone := (activation_eq_none hreaches.candidate).mpr hrefused
  rw [if_neg (by simp [hstored])] at hinstall
  rcases activateRelease_cases hverification with ⟨-, he⟩ | ⟨next, hnext, -⟩
  · rw [he] at hinstall
    refine ⟨_, _, hinstall, rfl, ?_⟩
    rintro ⟨hreleases, -⟩
    have hsame := hreleases verification.manifest.appId verification.manifest.releaseCounter
    rw [hbefore, hafter] at hsame
    cases hsame
  · rw [hnone] at hnext
    cases hnext

end

/-- A rejected installation leaves releases and states alone exactly when it does not strand. -/
theorem rejected_install_untouched_iff (env : Environment) (randoms : InstallRandoms) (stores : Stores)
    (bytes : Bytes) (context : InstallPolicyContext) :
    (∀ after result,
        installOfficialPackageWithStateRoot env randoms stores bytes context = some (after, result) →
        result.ok = false → result.status ≠ .stateCommitFailed → Untouched env stores after) ↔
      ¬ Strands env randoms stores bytes context := by
  constructor
  · intro huntouched hstrands
    obtain ⟨after, result, hrun, hstatus, hchanged⟩ := install_strands hstrands
    have hfailed : result.ok = false := by simp [InstallerResult.ok, hstatus]
    exact hchanged (huntouched after result hrun hfailed (by simp [hstatus]))
  · intro hnot after result hrun hfailed hcommit
    by_cases hreaches : ∃ verification digest current,
        Reaches env stores bytes context verification digest current
    · obtain ⟨verification, digest, current, hreaches⟩ := hreaches
      exact install_reaches_untouched hreaches hnot hrun hfailed hcommit
    · simp only [not_exists] at hreaches
      obtain ⟨rfl, -, -⟩ := install_stops hrun hreaches
      exact ⟨fun _ _ => rfl, fun _ => rfl⟩

structure SignedRelease where
  counter : UInt64
  epoch : UInt32
  unsignedDigest : Sha512Digest
  signature : Ed25519Signature
  packageDigest : Sha512Digest

def firstRelease : SignedRelease where
  counter := 1
  epoch := 1
  unsignedDigest := bigEndian 64
    0x69596cc33d981f8d8631e8a43833a05d70a7a1240f3c8e45d09c5c47949bb89b417d1c84e1e7456ce60fbccc32a9873337cd695028cdb11d8531ec5e2155101d
  signature := bigEndian 64
    0x94062cc47c229b077b729dfd3d5df8cec4476cc01fbb29e382964f30bc49911f7ad2356eab6d92f8f217868e18c1ce93380730e52465c320d003e57f9b883002
  packageDigest := bigEndian 64
    0x0c212ab6be19b7f832cdf6f3adcba4759d149430b145971889c09d552ede273ee64864945d1841bba3781cf211545e461701ba9b1c11db3ea730c108018a92cd

def secondRelease : SignedRelease where
  counter := 2
  epoch := 2
  unsignedDigest := bigEndian 64
    0x6de3b228f169331d313ce83a458cc3e27e4681f7cee770e0852379e44f9dc599d18f288d2236213e95f41bbd85cc22ed94f6d3eb46d3435c4faab65d73766488
  signature := bigEndian 64
    0x49b3aed5a74b27c6976df5253a056fbf68d4e0866c1277bf036e6e61e9fcac56d2b05f18397b4a3b9b0f848c31898bf9e5dd9f0229d64302204a17d167bf9f0f
  packageDigest := bigEndian 64
    0xe8395e7d67b06478afbfb54f27beafbd4524877d4342bb03d3058e23f22b39d838709fe64cae430892a5267718eb04367ec3e6c05c606fe32d18f302b11e6884

def officialKey : Ed25519PublicKey := bigEndian 32
  0xd75a980182b10ab7d54bfed3c964073a0ee172f3daa62325af021a68f707511a

def officialKeyHash : Sha256Digest := bigEndian 32
  0x06e3fd8fda29bb60ab59557de61edb0aecdb231134be30e75b455f8e1b792fa9

def SignedRelease.package (release : SignedRelease) : Package where
  development := false
  manifest := { sampleManifest with
    signingKeyId := hexText (officialKeyHash.toList.take 16)
    releaseCounter := release.counter
    securityEpoch := release.epoch }
  contents := [text "hi"]
  envelope := SignatureEnvelope.bytes ⟨officialKeyHash.toList.take 16, release.signature⟩

def firstState : ApplicationReleaseState :=
  nextState firstRelease.package.verification firstRelease.packageDigest none

def secondState : ApplicationReleaseState :=
  nextState secondRelease.package.verification secondRelease.packageDigest (some firstState)

def rolledBackState : ApplicationReleaseState := retreatState secondState false

def installCrypto : CryptoProvider where
  sha256 bytes := some <|
    if bytes = text "hi" then sampleFile.sha256
    else if bytes = ed25519SpkiPrefix ++ officialKey.toList then officialKeyHash
    else if bytes = (releaseFields firstState).flatten then
      bigEndian 32 0x9dd7f9588b349eaceccd0e4d180ea01708f5a92d6da8ae909c38fc230655a414
    else if bytes = (releaseFields secondState).flatten then
      bigEndian 32 0x558768512fbca67fda393989c03c4d89f6d84f5a7f7c8673eebf95fb5afd894d
    else if bytes = (releaseFields rolledBackState).flatten then
      bigEndian 32 0x4a3d6806ebcb463403530219a2dd90dba2eaa38725aad657b2e60922fa780ab2
    else zeroes 32
  sha512 bytes := some <|
    if bytes = firstRelease.package.unsigned then firstRelease.unsignedDigest
    else if bytes = secondRelease.package.unsigned then secondRelease.unsignedDigest
    else if bytes = firstRelease.package.bytes then firstRelease.packageDigest
    else if bytes = secondRelease.package.bytes then secondRelease.packageDigest
    else zeroes 64
  verifyEd25519 key message signature :=
    key = officialKey && [firstRelease, secondRelease].any fun release =>
      message = signatureDomain ++ release.unsignedDigest.toList && signature = release.signature

def installEnvironment : Environment where
  euid := 0
  trust := ⟨some officialKey⟩
  crypto := installCrypto

def installRandoms : InstallRandoms where
  stage := some (List.Vector.replicate 16 1)
  slots := ⟨some (List.Vector.replicate 16 2), some (List.Vector.replicate 16 3)⟩

def installContext : InstallPolicyContext where
  platformVersion := text "1.0.0"
  sdkAbi := text "1.0"
  profileId := text "pen"
  machine := text "m1"
  allowedCapabilities := [text "storage.private"]

def privateDirectory (entries : List (Bytes × Node)) : Node := .directory { mode := 0o700 } entries

def policyWith (state : ApplicationReleaseState) : Node :=
  let record : Node := .file { mode := 0o400 } (stateBytes installCrypto state)
  privateDirectory [(text "apps", privateDirectory [(text "org.pen.demo",
    privateDirectory [(slotA, record), (slotB, record)])])]

def removedStores : Stores where
  payloadPath := text "/userdisk/apps/lvgl-apps"
  payload := some (privateDirectory [])
  policy := some (policyWith rolledBackState)

/-- Installing the quarantined release again is rejected after its directory was committed. -/
theorem rejected_install_commits_quarantined_release :
    ¬ ∀ (env : Environment) (randoms : InstallRandoms) (stores : Stores) (bytes : Bytes)
        (context : InstallPolicyContext) (after : Stores) (result : InstallerResult),
      installOfficialPackageWithStateRoot env randoms stores bytes context = some (after, result) →
        result.ok = false → result.status ≠ .stateCommitFailed → Untouched env stores after := by
  intro huntouched
  have hrun : (installOfficialPackageWithStateRoot installEnvironment installRandoms removedStores
      secondRelease.package.bytes installContext).map (fun outcome => (outcome.2.status,
        (committedRelease outcome.1.payload (text "org.pen.demo") 2).isSome)) =
      some (.transitionFailed, true) := by decide +kernel
  obtain ⟨⟨after, result⟩, hinstall, houtcome⟩ := Option.map_eq_some_iff.mp hrun
  obtain ⟨hstatus, hcommitted⟩ := Prod.mk.inj houtcome
  have hstatus : result.status = .transitionFailed := hstatus
  obtain ⟨hreleases, -⟩ := huntouched _ _ _ _ _ after result hinstall
    (by simp [InstallerResult.ok, hstatus]) (by simp [hstatus])
  have hbefore : committedRelease removedStores.payload (text "org.pen.demo") 2 = none := by
    decide
  rw [hreleases, hbefore] at hcommitted
  cases hcommitted

end LvglPlatform
