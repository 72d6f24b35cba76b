import LvglPlatform.Services.PackageInstaller

/-! `install_official_inbox_candidate`: what the scan shows as installable, against what the installer
does with it. -/

namespace LvglPlatform

open Foundation

structure InboxInstallResult where
  status : InboxStatus := .rootUntrusted
  detail : Bytes := []
  installer : InstallerResult := {}
  deriving DecidableEq

def Inbox.validToken (token : Bytes) : Bool := lowercaseHex token 128

def storesOf (root : Node) : Stores where
  payloadPath := text "/userdisk/apps/lvgl-apps"
  payload := root.lookup applicationPayloadRoot
  policy := root.lookup applicationPolicyRoot

def replaceStore (root : Node) (path : Path) : Option Node → Node
  | none => root
  | some store => root.update path fun _ => store

def withStores (root : Node) (stores : Stores) : Node :=
  replaceStore (replaceStore root applicationPayloadRoot stores.payload) applicationPolicyRoot
    stores.policy

def installCandidate (env : Environment) (randoms : InstallRandoms) (root : Node)
    (context : InstallPolicyContext) (candidate : RawCandidate) : Option (Node × InboxInstallResult) :=
  if !candidate.publicValue.installable || !candidate.verification.ok ||
      reservedApplicationId candidate.verification.manifest.appId then
    some (root, { status := .candidateRejected, detail := candidate.publicValue.detail })
  else
    (installOfficialPackageWithStateRoot env randoms (storesOf root) candidate.bytes context).map
      fun (stores, installer) => (withStores root stores, {
        status := if installer.ok then .ready else .candidateRejected
        detail := installer.detail
        installer })

/-- `none` is a call whose behaviour is undefined. -/
def installOfficialInboxCandidate (env : Environment) (randoms : InstallRandoms) (root : Node)
    (token : Bytes) (context : InstallPolicyContext) : Option (Node × InboxInstallResult) :=
  if !Inbox.validToken token then
    some (root, { status := .invalidToken, detail := text "INBOX_TOKEN_INVALID" })
  else do
    let (scan, candidates) ← rawCandidates env root context
    if scan ≠ .ready then
      some (root, {
        status := if scan = .empty then .candidateNotFound else scan
        detail := if scan = .rootUntrusted then text "INBOX_ROOT_UNTRUSTED"
          else text "INBOX_CANDIDATE_NOT_FOUND" })
    else match candidates.find? fun candidate => candidate.publicValue.token = token with
      | none => some (root, {
          status := .candidateNotFound, detail := text "INBOX_CANDIDATE_NOT_FOUND" })
      | some candidate => installCandidate env randoms root context candidate

lemma byteLe_linear : LinearKeys byteLe := by
  refine ⟨?_, ?_, ?_⟩
  · intro a b c hab hbc
    simp only [byteLe, decide_eq_true_eq] at hab hbc ⊢
    exact List.le_trans hab hbc
  · intro a b
    simpa [byteLe] using List.le_total a b
  · intro a b hab hba
    simp only [byteLe, decide_eq_true_eq] at hab hba
    exact List.le_antisymm hab hba

def Shown (env : Environment) (root : Node) (context : InstallPolicyContext)
    (candidate : RawCandidate) : Prop :=
  ∃ candidates, rawCandidates env root context = some (.ready, candidates) ∧ candidate ∈ candidates

def storedRelease (env : Environment) (root : Node) (candidate : RawCandidate) : StateStoreResult :=
  loadReleaseStateFrom env.euid (storesOf root).policy candidate.verification.manifest.appId env.crypto

def storedState (env : Environment) (root : Node) (candidate : RawCandidate) :
    Option ApplicationReleaseState :=
  loadedState (storedRelease env root candidate)

/-- No random byte and no name that an installation needs is missing. -/
structure CallsSucceed (env : Environment) (randoms : InstallRandoms) (root : Node)
    (candidate : RawCandidate) : Prop where
  stage : ∃ random, randoms.stage = some random ∧
    ∀ releases ∈ releasesDirectory env.euid (storesOf root).payload
        candidate.verification.manifest.appId,
      releases.child (stageName candidate.verification.manifest.releaseCounter random) = none
  slot : ∀ next ∈ activationStateFor candidate.verification candidate.digest
        (storedState env root candidate),
    ∀ directory ∈ slotsDirectory env.euid (storesOf root).policy
        candidate.verification.manifest.appId,
      Writable randoms.slots.first directory (firstSlot next.generation)

/-- The payload store has nothing in the way of the release, or holds the package already. -/
def Placeable (env : Environment) (root : Node) (candidate : RawCandidate) : Prop :=
  ∃ releases ∈ releasesDirectory env.euid (storesOf root).payload
      candidate.verification.manifest.appId,
    (releases.child (decimal candidate.verification.manifest.releaseCounter.toNat) = none ∧
      (stagedPaths candidate.verification.manifest).Pairwise Node.Apart) ∨
    ReleasePresent env.euid releases candidate.bytes candidate.verification.manifest candidate.digest

/-- What the installer asks of a candidate beyond the scan. -/
structure InstallReady (env : Environment) (root : Node) (candidate : RawCandidate) : Prop where
  initialized : (storedRelease env root candidate).status ≠ .uninitialized
  activatable : ¬ Unactivatable candidate.verification candidate.digest (storedState env root candidate)
  placeable : Placeable env root candidate
  recorded : ∀ next ∈ activationStateFor candidate.verification candidate.digest
      (storedState env root candidate),
    (env.crypto.sha256 (releaseFields next).flatten).isSome = true

section

variable {env : Environment} {randoms : InstallRandoms} {root : Node} {context : InstallPolicyContext}
  {candidate : RawCandidate}

lemma verifyCandidates_mem {packages : List InboxPackage} {candidates : List RawCandidate}
    (h : verifyCandidates env root context packages = some candidates) (hmem : candidate ∈ candidates) :
    ∃ package ∈ packages, ∃ verification, package.verification env = some verification ∧
      candidate = rawCandidate env root context package verification := by
  induction packages generalizing candidates with
  | nil =>
    obtain rfl := Option.some.inj h
    cases hmem
  | cons package packages ih =>
    obtain ⟨verification, hverification, hrest⟩ := Option.bind_eq_some_iff.mp h
    obtain ⟨others, hothers, hcandidates⟩ := Option.bind_eq_some_iff.mp hrest
    obtain rfl := Option.some.inj hcandidates
    rcases List.mem_cons.mp hmem with rfl | hmem
    · exact ⟨package, List.mem_cons_self, verification, hverification, rfl⟩
    · obtain ⟨found, hfound, rest⟩ := ih hothers hmem
      exact ⟨found, List.mem_cons_of_mem _ hfound, rest⟩

lemma inboxPackages_digest {crypto : CryptoProvider} {inbox : Node} {package : InboxPackage}
    (h : package ∈ inboxPackages crypto inbox) : crypto.sha512 package.bytes = some package.digest := by
  obtain ⟨name, -, hpackage⟩ := List.mem_filterMap.mp h
  obtain ⟨bytes, -, hdigest⟩ := Option.bind_eq_some_iff.mp hpackage
  obtain ⟨digest, hsha, he⟩ := Option.bind_eq_some_iff.mp hdigest
  obtain rfl := Option.some.inj he
  exact hsha

lemma rawCandidates_cases {status : InboxStatus} {candidates : List RawCandidate}
    (h : rawCandidates env root context = some (status, candidates)) :
    (status ≠ .ready → candidates = []) ∧
      (candidates = [] ∨ ∃ inbox verified,
        verifyCandidates env root context (inboxPackages env.crypto inbox) = some verified ∧
        candidates = sortUnique (fun candidate => candidate.publicValue.token) byteLe verified) := by
  unfold rawCandidates at h
  split at h
  · obtain ⟨-, rfl⟩ := Prod.mk.inj (Option.some.inj h)
    exact ⟨fun _ => rfl, Or.inl rfl⟩
  split at h
  · obtain ⟨-, rfl⟩ := Prod.mk.inj (Option.some.inj h)
    exact ⟨fun _ => rfl, Or.inl rfl⟩
  · rename_i inbox _ _
    obtain ⟨verified, hverified, he⟩ := Option.bind_eq_some_iff.mp h
    obtain ⟨hstatus, rfl⟩ := Prod.mk.inj (Option.some.inj he)
    refine ⟨?_, Or.inr ⟨inbox, verified, hverified, rfl⟩⟩
    intro hne
    by_contra hnil
    exact hne (by simpa [hnil] using hstatus.symm)

lemma scan_shown {scan : InboxScanResult} (h : scanOfficialInbox env root context = some scan)
    (shown : InboxCandidate) :
    shown ∈ scan.candidates ↔
      ∃ candidate, Shown env root context candidate ∧ candidate.publicValue = shown := by
  obtain ⟨⟨status, candidates⟩, hraw, hscan⟩ := Option.bind_eq_some_iff.mp h
  have hempty := (rawCandidates_cases hraw).1
  have hshown : ∀ candidate, Shown env root context candidate ↔
      status = .ready ∧ candidate ∈ candidates := by
    intro candidate
    simp only [Shown, hraw, Option.some.injEq, Prod.mk.injEq]
    exact ⟨fun ⟨_, ⟨hs, rfl⟩, hmem⟩ => ⟨hs, hmem⟩, fun ⟨hs, hmem⟩ => ⟨_, ⟨hs, rfl⟩, hmem⟩⟩
  have hcandidates : scan.candidates = candidates.map RawCandidate.publicValue := by
    dsimp only at hscan
    split at hscan <;> rename_i hroot
    · obtain rfl := Option.some.inj hscan
      simp [hempty (by simp [hroot])]
    split at hscan <;> rename_i hfailed
    · obtain rfl := Option.some.inj hscan
      simp [hempty hfailed.1]
    · obtain rfl := Option.some.inj hscan
      rfl
  simp only [hcandidates, List.mem_map, hshown]
  by_cases hready : status = .ready
  · simp [hready]
  · simp [hready, hempty hready]

lemma shown_cases (h : Shown env root context candidate) :
    (env.trust.verify candidate.bytes env.crypto).answer = some candidate.verification ∧
      env.crypto.sha512 candidate.bytes = some candidate.digest ∧
      candidate = rawCandidate env root context ⟨candidate.bytes, candidate.digest⟩
        candidate.verification := by
  obtain ⟨candidates, hraw, hmem⟩ := h
  rcases (rawCandidates_cases hraw).2 with rfl | ⟨inbox, verified, hverified, rfl⟩
  · cases hmem
  have hfind := (mem_sortUnique byteLe_linear).mp hmem
  obtain ⟨package, hpackage, verification, hverification, rfl⟩ :=
    verifyCandidates_mem hverified (List.mem_of_find?_eq_some hfind)
  exact ⟨hverification, inboxPackages_digest hpackage, rfl⟩

lemma shown_found (h : Shown env root context candidate) :
    ∃ candidates, rawCandidates env root context = some (.ready, candidates) ∧
      candidates.find? (fun other => other.publicValue.token = candidate.publicValue.token) =
        some candidate := by
  obtain ⟨candidates, hraw, hmem⟩ := h
  refine ⟨candidates, hraw, ?_⟩
  rcases (rawCandidates_cases hraw).2 with rfl | ⟨inbox, verified, hverified, rfl⟩
  · cases hmem
  cases hfind : (sortUnique (fun candidate : RawCandidate => candidate.publicValue.token) byteLe
      verified).find? (fun other => other.publicValue.token = candidate.publicValue.token) with
  | none =>
    have hnone := List.find?_eq_none.mp hfind candidate hmem
    simp at hnone
  | some other =>
    have htoken : other.publicValue.token = candidate.publicValue.token := by
      simpa using List.find?_some hfind
    have hother := (mem_sortUnique byteLe_linear).mp (List.mem_of_find?_eq_some hfind)
    have hself := (mem_sortUnique byteLe_linear).mp hmem
    rw [htoken] at hother
    exact hother.symm.trans hself

lemma loadedState_highWater (loaded : StateStoreResult) :
    (loadedState loaded).map highWaterMark =
      if loaded.isLoaded then some (highWaterMark loaded.selected.state) else none := by
  unfold loadedState
  split <;> rfl

lemma installable_cases (h : Shown env root context candidate)
    (hinstallable : candidate.publicValue.installable = true) :
    candidate.verification.ok = true ∧
      reservedApplicationId candidate.verification.manifest.appId = false ∧
      ((storedRelease env root candidate).isLoaded = true ∨
        (storedRelease env root candidate).status = .notFound ∨
        (storedRelease env root candidate).status = .uninitialized) ∧
      (evaluateInstallPolicy candidate.verification candidate.digest context
        ((storedState env root candidate).map highWaterMark)).allowed = true := by
  obtain ⟨-, -, heq⟩ := shown_cases h
  rw [heq, rawCandidate] at hinstallable
  dsimp only at hinstallable
  split at hinstallable <;> rename_i hok
  · refine ⟨hok, ?_⟩
    unfold candidateDecision at hinstallable
    dsimp only at hinstallable
    split at hinstallable <;> rename_i hreserved
    · cases hinstallable
    refine ⟨by simpa using hreserved, ?_⟩
    split at hinstallable <;> rename_i hstate
    · cases hinstallable
    rw [storedState, loadedState_highWater]
    refine ⟨?_, hinstallable⟩
    simp only [Bool.not_eq_true', not_and, not_not] at hstate
    by_cases hloaded : (storedRelease env root candidate).isLoaded = true
    · exact Or.inl hloaded
    by_cases hmissing : (storedRelease env root candidate).status = .notFound
    · exact Or.inr (Or.inl hmissing)
    · have hnot : (storedRelease env root candidate).isLoaded = false := by simpa using hloaded
      exact Or.inr (Or.inr (hstate hnot hmissing))
  · cases hinstallable

lemma installable_reaches (h : Shown env root context candidate)
    (hinstallable : candidate.publicValue.installable = true)
    (hinitialized : (storedRelease env root candidate).status ≠ .uninitialized) :
    Reaches env (storesOf root) candidate.bytes context candidate.verification candidate.digest
      (storedState env root candidate) := by
  obtain ⟨hverified, hdigest, -⟩ := shown_cases h
  obtain ⟨hok, -, hstate, hallowed⟩ := installable_cases h hinstallable
  refine ⟨hverified, hok, hdigest, ?_, rfl, hallowed⟩
  rcases hstate with hloaded | hmissing | huninitialized
  · exact Or.inl hloaded
  · exact Or.inr hmissing
  · exact absurd huninitialized hinitialized

lemma install_shown (h : Shown env root context candidate)
    (hinstallable : candidate.publicValue.installable = true) {outcome : Stores × InstallerResult}
    (hrun : installOfficialPackageWithStateRoot env randoms (storesOf root) candidate.bytes context =
      some outcome) :
    ∃ result, installOfficialInboxCandidate env randoms root candidate.publicValue.token context =
        some (withStores root outcome.1, result) ∧ result.installer = outcome.2 := by
  obtain ⟨candidates, hraw, hfind⟩ := shown_found h
  obtain ⟨hok, hreserved, -, -⟩ := installable_cases h hinstallable
  have htoken : Inbox.validToken candidate.publicValue.token = true := by
    have hhex : candidate.publicValue.token = hexDigest candidate.digest := by
      rw [(shown_cases h).2.2, rawCandidate]
      dsimp only
      split <;> rfl
    rw [hhex]
    exact hexText_lowercaseHex candidate.digest.toList (by simp)
  refine ⟨{
    status := if outcome.2.ok then .ready else .candidateRejected
    detail := outcome.2.detail
    installer := outcome.2 }, ?_, rfl⟩
  rw [installOfficialInboxCandidate, if_neg (by simp [htoken]), hraw]
  simp only [Option.bind_eq_bind, Option.bind_some, ne_eq, not_true_eq_false, if_false, hfind]
  rw [installCandidate, if_neg (by simp [hinstallable, hok, hreserved]), hrun]
  rfl

lemma CallsSucceed.stages (h : CallsSucceed env randoms root candidate)
    (hofficial : Official candidate.bytes candidate.verification) :
    (stageVerifiedRelease (stagingContext env randoms) (storesOf root).payloadPath
        (storesOf root).payload candidate.bytes candidate.verification candidate.digest).2.ok = true ↔
      Placeable env root candidate := by
  have hstore : absolute (storesOf root).payloadPath = true :=
    (by decide : absolute (text "/userdisk/apps/lvgl-apps") = true)
  exact stage_takes hofficial.extractable hstore hofficial.nonempty h.stage

lemma CallsSucceed.persists (h : CallsSucceed env randoms root candidate)
    (htrusted : openStore env.euid (storesOf root).policy candidate.verification.manifest.appId ≠
      .untrusted) {next : ApplicationReleaseState}
    (hnext : activationStateFor candidate.verification candidate.digest (storedState env root candidate) =
      some next) :
    (persistReleaseStateTo env.euid randoms.slots (storesOf root).policy next env.crypto).2.ok = true ↔
      (env.crypto.sha256 (releaseFields next).flatten).isSome = true := by
  have hactivated := activation_activated hnext
  obtain ⟨directory, hdirectory⟩ := slotsDirectory_some htrusted
  have hwritable := h.slot next hnext directory hdirectory
  rw [persist_ok_iff hactivated.wellformed.appId (hactivated.appId ▸ hdirectory),
    encode_ok_iff hactivated.wellformed]
  exact and_iff_left hwritable

lemma loads_trusted {euid : ℕ} {store : Option Node} {appId : Bytes} {crypto : CryptoProvider}
    (h : (loadReleaseStateFrom euid store appId crypto).isLoaded = true ∨
      (loadReleaseStateFrom euid store appId crypto).status = .notFound) :
    openStore euid store appId ≠ .untrusted := by
  intro huntrusted
  rw [loadReleaseStateFrom, huntrusted] at h
  split at h
  · simp [StateStoreResult.isLoaded] at h
  · simp [StateStoreResult.isLoaded] at h

end

/-- With no call failing, an installable candidate is installed exactly when it is ready for it. -/
theorem installable_candidate_installs_iff (env : Environment) (randoms : InstallRandoms) (root : Node)
    (context : InstallPolicyContext) (candidate : RawCandidate)
    (hshown : Shown env root context candidate)
    (hinstallable : candidate.publicValue.installable = true)
    (hcalls : CallsSucceed env randoms root candidate) :
    ∃ after result, installOfficialInboxCandidate env randoms root candidate.publicValue.token context =
        some (after, result) ∧
      (result.installer.ok = true ↔ InstallReady env root candidate) := by
  by_cases hinitialized : (storedRelease env root candidate).status = .uninitialized
  · obtain ⟨hverified, -, -⟩ := shown_cases hshown
    obtain ⟨⟨after, installer⟩, hrun⟩ : ∃ outcome, installOfficialPackageWithStateRoot env randoms
        (storesOf root) candidate.bytes context = some outcome := by
      rw [installOfficialPackageWithStateRoot, hverified]
      exact ⟨_, rfl⟩
    obtain ⟨result, hinstall, hresult⟩ := install_shown hshown hinstallable hrun
    have hstops : ∀ verification digest current, ¬ Reaches env (storesOf root) candidate.bytes context
        verification digest current := by
      rintro verification digest current ⟨hverification, -, -, hloads, -, -⟩
      obtain rfl := Option.some.inj (hverified.symm.trans hverification)
      have hstatus : (loadReleaseStateFrom env.euid (storesOf root).policy
        candidate.verification.manifest.appId env.crypto).status = .uninitialized := hinitialized
      rcases hloads with hloaded | hmissing
      · simp [StateStoreResult.isLoaded, hstatus] at hloaded
      · simp [hstatus] at hmissing
    have hfailed := (install_stops hrun hstops).2.1
    refine ⟨_, result, hinstall, iff_of_false ?_ fun h => h.initialized hinitialized⟩
    simp [hresult, hfailed]
  · have hreaches := installable_reaches hshown hinstallable hinitialized
    obtain ⟨outcome, hrun, -, hok, -⟩ := install_outcome randoms hreaches
    obtain ⟨result, hinstall, hresult⟩ := install_shown hshown hinstallable hrun
    refine ⟨_, result, hinstall, ?_⟩
    rw [hresult, hok, hcalls.stages hreaches.official]
    have htrusted := loads_trusted hreaches.loads
    have hactivation := activation_eq_none hreaches.candidate
    constructor
    · rintro ⟨hplaceable, next, hnext, hpersisted⟩
      refine ⟨hinitialized, ?_, hplaceable, ?_⟩
      · intro hrefused
        rw [hactivation.mpr hrefused] at hnext
        cases hnext
      · intro other hother
        obtain rfl := Option.some.inj (hnext.symm.trans hother)
        exact (hcalls.persists htrusted hnext).mp hpersisted
    · intro hready
      refine ⟨hready.placeable, ?_⟩
      cases hnext : activationStateFor candidate.verification candidate.digest
          (storedState env root candidate) with
      | none => exact absurd (hactivation.mp hnext) hready.activatable
      | some next => exact ⟨next, rfl, (hcalls.persists htrusted hnext).mpr (hready.recorded next hnext)⟩

def systemWith (payload policy : Node) (release : SignedRelease) : Node :=
  let package : Node := .file { mode := 0o600 } release.package.bytes
  privateDirectory [(text "userdisk", privateDirectory [(text "apps", privateDirectory [
    (text "lvgl-apps", payload), (text "lvgl-app-policy", policy),
    (text "lvgl-inbox", privateDirectory [(text "demo.lvapp", package)])])])]

def freshSystem : Node := systemWith (privateDirectory []) (privateDirectory []) firstRelease

def rolledBackSystem : Node :=
  systemWith (privateDirectory []) (policyWith rolledBackState) secondRelease

def candidateOf (root : Node) (release : SignedRelease) : RawCandidate :=
  rawCandidate installEnvironment root installContext ⟨release.package.bytes, release.packageDigest⟩
    release.package.verification

lemma freshSystem_shown :
    Shown installEnvironment freshSystem installContext (candidateOf freshSystem firstRelease) := by
  have hraw : rawCandidates installEnvironment freshSystem installContext =
      some (.ready, [candidateOf freshSystem firstRelease]) := by decide +kernel
  exact ⟨_, hraw, List.mem_singleton_self _⟩

lemma rolledBackSystem_shown :
    Shown installEnvironment rolledBackSystem installContext
      (candidateOf rolledBackSystem secondRelease) := by
  have hraw : rawCandidates installEnvironment rolledBackSystem installContext =
      some (.ready, [candidateOf rolledBackSystem secondRelease]) := by decide +kernel
  exact ⟨_, hraw, List.mem_singleton_self _⟩

lemma freshSystem_calls :
    CallsSucceed installEnvironment installRandoms freshSystem (candidateOf freshSystem firstRelease) := by
  have hreleases : (releasesDirectory 0 (storesOf freshSystem).payload (text "org.pen.demo")).all
      (fun releases => releases.entries.isEmpty) = true := by decide
  have hslots : (slotsDirectory 0 (storesOf freshSystem).policy (text "org.pen.demo")).all
      (fun directory => directory.entries.isEmpty) = true := by decide
  refine ⟨⟨_, rfl, ?_⟩, ?_⟩
  · intro releases hdirectory
    exact Node.child_of_empty ((Option.all_eq_true _ _).mp hreleases releases hdirectory) _
  · intro next _ directory hdirectory
    have hnil := (Option.all_eq_true _ _).mp hslots directory hdirectory
    refine ⟨_, rfl, Node.child_of_empty hnil _, ?_⟩
    rw [Node.child_of_empty hnil]
    rfl

theorem fresh_candidate_installs :
    ∃ after result, installOfficialInboxCandidate installEnvironment installRandoms freshSystem
        (candidateOf freshSystem firstRelease).publicValue.token installContext = some (after, result) ∧
      (result.installer.ok = true ↔
        InstallReady installEnvironment freshSystem (candidateOf freshSystem firstRelease)) :=
  installable_candidate_installs_iff installEnvironment installRandoms freshSystem installContext
    (candidateOf freshSystem firstRelease) freshSystem_shown (by decide) freshSystem_calls

/-- The scan offers the quarantined release, the installer refuses it. -/
theorem quarantined_candidate_not_installed :
    ¬ ∀ (env : Environment) (randoms : InstallRandoms) (root : Node) (context : InstallPolicyContext)
        (candidate : RawCandidate), Shown env root context candidate →
      candidate.publicValue.installable = true → CallsSucceed env randoms root candidate →
      ∃ after result, installOfficialInboxCandidate env randoms root candidate.publicValue.token context =
        some (after, result) ∧ result.installer.ok = true := by
  intro hagree
  have hnone : activationStateFor (candidateOf rolledBackSystem secondRelease).verification
      (candidateOf rolledBackSystem secondRelease).digest
      (storedState installEnvironment rolledBackSystem (candidateOf rolledBackSystem secondRelease)) =
      none := by decide +kernel
  have hreleases : (releasesDirectory 0 (storesOf rolledBackSystem).payload (text "org.pen.demo")).all
      (fun releases => releases.entries.isEmpty) = true := by decide
  have hcalls : CallsSucceed installEnvironment installRandoms rolledBackSystem
      (candidateOf rolledBackSystem secondRelease) := by
    refine ⟨⟨_, rfl, ?_⟩, by simp [hnone]⟩
    intro releases hdirectory
    exact Node.child_of_empty ((Option.all_eq_true _ _).mp hreleases releases hdirectory) _
  obtain ⟨after, result, hrun, hok⟩ := hagree installEnvironment installRandoms rolledBackSystem
    installContext (candidateOf rolledBackSystem secondRelease) rolledBackSystem_shown
    (by decide +kernel) hcalls
  have hstatus : (installOfficialInboxCandidate installEnvironment installRandoms rolledBackSystem
      (candidateOf rolledBackSystem secondRelease).publicValue.token installContext).map
      (fun outcome => outcome.2.installer.ok) = some false := by decide +kernel
  rw [hrun] at hstatus
  exact absurd (Option.some.inj hstatus) (by simp [hok])

end LvglPlatform
