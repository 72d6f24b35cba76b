import LvglPlatform.Session.FailureRollback
import LvglPlatform.Session.InstallerBroker

namespace LvglPlatform

open Foundation

structure InstalledPackage where
  verification : PackageVerification
  digest : Sha512Digest
  state : ApplicationReleaseState

def installPackage (env : Environment) (appId : Bytes) (context : InstallPolicyContext) (bytes : Bytes)
    (current : Option ApplicationReleaseState) : Option InstalledPackage := do
  let verification ← (env.trust.verify bytes env.crypto).answer
  let digest ← env.crypto.sha512 bytes
  if !verification.ok || verification.manifest.appId ≠ appId ||
      !(evaluateInstallPolicy verification digest context (current.map highWaterMark)).allowed then none
  else (activationStateFor verification digest current).map fun state => ⟨verification, digest, state⟩

structure RolledBack where
  previous : VerifiedApplication
  state : ApplicationReleaseState

def rollBackRelease (env : Environment) (appId : Bytes) (profile : CertifiedSessionProfile) (root : Node)
    (recordLaunchFailure : Bool) (active : ApplicationReleaseState) : Option RolledBack :=
  match verifyApplicationRelease env root (previousRecord active appId) profile with
  | some (some previous) => (rollbackRelease active recordLaunchFailure).map fun state => ⟨previous, state⟩
  | _ => none

/-- A rollback: the epoch of the release it made current, and the mark of the state. -/
structure Retreat where
  epoch : UInt32
  mark : UInt32
  deriving DecidableEq

/-- The state of an application, with the packages it was installed from. -/
structure EpochHistory where
  state : Option ApplicationReleaseState := none
  packages : List Bytes := []
  raised : Bool := false
  retreats : List Retreat := []

/-- Installations and rollbacks that succeed, whatever lies in the payload store at the time. -/
inductive EpochEvent
  | install (context : InstallPolicyContext) (bytes : Bytes)
  | rollback (profile : CertifiedSessionProfile) (root : Node) (recordLaunchFailure : Bool)

def raises (current : Option ApplicationReleaseState) (verification : PackageVerification) : Bool :=
  match current with
  | none => false
  | some state => state.highSecurityEpoch < verification.manifest.securityEpoch

def EpochHistory.step (env : Environment) (appId : Bytes) (s : EpochHistory) :
    EpochEvent → Option EpochHistory
  | .install context bytes => (installPackage env appId context bytes s.state).map fun installed =>
    { s with
      state := some installed.state
      packages := s.packages ++ [bytes]
      raised := if s.state = some installed.state then s.raised else raises s.state installed.verification }
  | .rollback profile root recordLaunchFailure => s.state.bind fun active =>
    (rollBackRelease env appId profile root recordLaunchFailure active).map fun rolledBack =>
      { s with
        state := some rolledBack.state
        raised := false
        retreats := s.retreats ++
          [⟨rolledBack.previous.verification.manifest.securityEpoch, active.highSecurityEpoch⟩] }

def epochProcess (env : Environment) (appId : Bytes) : Process EpochHistory EpochEvent where
  step := EpochHistory.step env appId

/-- A rollback does not go back behind an installation that raised the mark, and the package it measures
has the digest of no other one that was installed. -/
def KeepsEpoch (env : Environment) (appId : Bytes) (s : EpochHistory) : EpochEvent → Prop
  | .install _ _ => True
  | .rollback profile root recordLaunchFailure => ∀ active ∈ s.state, ∀ rolledBack,
    rollBackRelease env appId profile root recordLaunchFailure active = some rolledBack →
      s.raised = false ∧ ∀ bytes ∈ s.packages,
        env.crypto.sha512 bytes = env.crypto.sha512 rolledBack.previous.package →
          bytes = rolledBack.previous.package

def OfEpoch (env : Environment) (packages : List Bytes) (digest : Sha512Digest) (epoch : UInt32) : Prop :=
  ∃ bytes ∈ packages, ∃ verification, (env.trust.verify bytes env.crypto).answer = some verification ∧
    env.crypto.sha512 bytes = some digest ∧ verification.manifest.securityEpoch = epoch

/-- The running release is of the epoch of the mark, and so is the previous one unless the running one
has raised it. -/
structure Marked (env : Environment) (s : EpochHistory) : Prop where
  current : ∀ state ∈ s.state, OfEpoch env s.packages state.currentDigest state.highSecurityEpoch
  previous : ∀ state ∈ s.state, state.previousRelease ≠ 0 → s.raised = false →
    OfEpoch env s.packages state.previousDigest state.highSecurityEpoch
  retreats : ∀ retreat ∈ s.retreats, retreat.mark ≤ retreat.epoch

section

variable {env : Environment} {appId bytes : Bytes} {context : InstallPolicyContext}
  {current : Option ApplicationReleaseState} {installed : InstalledPackage} {s t : EpochHistory}
  {profile : CertifiedSessionProfile} {root : Node} {recordLaunchFailure : Bool}
  {active : ApplicationReleaseState} {rolledBack : RolledBack} {packages : List Bytes}
  {digest : Sha512Digest} {epoch : UInt32}

lemma OfEpoch.snoc (h : OfEpoch env packages digest epoch) : OfEpoch env (packages ++ [bytes]) digest epoch := by
  obtain ⟨package, hpackage, hverified⟩ := h
  exact ⟨package, List.mem_append_left _ hpackage, hverified⟩

lemma installPackage_of (h : installPackage env appId context bytes current = some installed) :
    (env.trust.verify bytes env.crypto).answer = some installed.verification ∧
      env.crypto.sha512 bytes = some installed.digest ∧
      activationStateFor installed.verification installed.digest current = some installed.state := by
  obtain ⟨verification, hverified, h⟩ := Option.bind_eq_some_iff.mp h
  obtain ⟨digest, hdigest, h⟩ := Option.bind_eq_some_iff.mp h
  obtain ⟨-, h⟩ := Option.ite_none_left_eq_some.mp h
  obtain ⟨state, hstate, rfl⟩ := Option.map_eq_some_iff.mp h
  exact ⟨hverified, hdigest, hstate⟩

lemma activation_counter {verification : PackageVerification} {next : ApplicationReleaseState}
    (h : activationStateFor verification digest current = some next) :
    verification.manifest.releaseCounter ≠ 0 := by
  intro hzero
  rw [activationStateFor.eq_def, if_pos (by simp [hzero])] at h
  cases h

/-- What an activation says about epochs: nothing changes, or the candidate sets the mark. -/
lemma activation_epoch {verification : PackageVerification} {next : ApplicationReleaseState}
    (h : activationStateFor verification digest current = some next) :
    current = some next ∨
      next.currentDigest = digest ∧ next.highSecurityEpoch = verification.manifest.securityEpoch ∧
      (next.previousRelease ≠ 0 → ∃ before, current = some before ∧
        next.previousDigest = before.currentDigest ∧
        before.highSecurityEpoch ≤ verification.manifest.securityEpoch) := by
  obtain ⟨hadmits, hsame | ⟨hnew, hnext, -, -⟩⟩ := activation_cases h
  · exact .inl hsame
  right
  cases current with
  | none =>
    rw [nextState_none _ _ (activation_counter h)] at hnext
    rw [hnext]
    exact ⟨rfl, rfl, fun hprevious => absurd rfl hprevious⟩
  | some before =>
    have hbefore := hadmits before rfl
    rw [nextState_admitted hbefore (hbefore.current_ne (hnew before rfl))] at hnext
    rw [hnext]
    exact ⟨rfl, rfl, fun _ => ⟨before, rfl, rfl, hbefore.epoch⟩⟩

lemma rollBackRelease_of
    (h : rollBackRelease env appId profile root recordLaunchFailure active = some rolledBack) :
    Measured env root (previousRecord active appId) profile rolledBack.previous ∧
      rollbackRelease active recordLaunchFailure = some rolledBack.state := by
  rw [rollBackRelease] at h
  split at h
  · rename_i previous hmeasured
    obtain ⟨state, hstate, rfl⟩ := Option.map_eq_some_iff.mp h
    exact ⟨verifyApplicationRelease_iff.mp hmeasured, hstate⟩
  · cases h

lemma retreat_epoch {next : ApplicationReleaseState} (h : rollbackRelease active recordLaunchFailure = some next) :
    next.currentDigest = active.previousDigest ∧ next.highSecurityEpoch = active.highSecurityEpoch := by
  unfold rollbackRelease at h
  split at h
  · cases h
  split at h
  · obtain rfl := Option.some.inj h
    exact ⟨rfl, rfl⟩
  · cases h

lemma Marked.install (h : Marked env s) (hinstalled : installPackage env appId context bytes s.state =
    some installed) : Marked env { s with
      state := some installed.state
      packages := s.packages ++ [bytes]
      raised := if s.state = some installed.state then s.raised
        else raises s.state installed.verification } := by
  obtain ⟨hverified, hdigest, hactivated⟩ := installPackage_of hinstalled
  rcases activation_epoch hactivated with hsame | ⟨hcurrent, hmark, hprevious⟩
  · refine ⟨?_, ?_, h.retreats⟩
    · rintro state ⟨⟩
      exact (h.current _ hsame).snoc
    · rintro state ⟨⟩ hrelease hraised
      rw [if_pos hsame] at hraised
      exact (h.previous _ hsame hrelease hraised).snoc
  · refine ⟨?_, ?_, h.retreats⟩
    · rintro state ⟨⟩
      rw [hcurrent, hmark]
      exact ⟨bytes, List.mem_append_right _ (List.mem_singleton_self _), installed.verification,
        hverified, hdigest, rfl⟩
    · rintro state ⟨⟩ hrelease hraised
      split at hraised
      · rename_i hsame
        exact (h.previous _ hsame hrelease hraised).snoc
      obtain ⟨before, hbefore, hdigests, hle⟩ := hprevious hrelease
      rw [hbefore] at hraised
      have heq : before.highSecurityEpoch = installed.verification.manifest.securityEpoch :=
        UInt32.le_antisymm hle (UInt32.not_lt.mp (of_decide_eq_false hraised))
      rw [hdigests, hmark, ← heq]
      exact (h.current before hbefore).snoc

lemma Marked.measured (h : Marked env s) (hactive : s.state = some active)
    (hkeeps : KeepsEpoch env appId s (.rollback profile root recordLaunchFailure))
    (hrolledBack : rollBackRelease env appId profile root recordLaunchFailure active = some rolledBack) :
    OfEpoch env s.packages active.previousDigest active.highSecurityEpoch ∧
      rolledBack.previous.verification.manifest.securityEpoch = active.highSecurityEpoch := by
  obtain ⟨hmeasured, hstate⟩ := rollBackRelease_of hrolledBack
  obtain ⟨hraised, hdistinct⟩ := hkeeps active hactive rolledBack hrolledBack
  have hepoch := h.previous active hactive (rollback_cases hstate).2.1 hraised
  refine ⟨hepoch, ?_⟩
  obtain ⟨bytes, hbytes, verification, hverified, hdigest, hmark⟩ := hepoch
  have hpackage := (measureRelease_iff.mp hmeasured.measured).2.1
  obtain rfl := hdistinct bytes hbytes (hdigest.trans hpackage.symm)
  obtain rfl := Option.some.inj (hverified.symm.trans hmeasured.verified)
  exact hmark

lemma Marked.step {event : EpochEvent} (h : Marked env s) (hkeeps : KeepsEpoch env appId s event)
    (hstep : s.step env appId event = some t) : Marked env t := by
  cases event with
  | install context bytes =>
    obtain ⟨installed, hinstalled, rfl⟩ := Option.map_eq_some_iff.mp hstep
    exact h.install hinstalled
  | rollback profile root recordLaunchFailure =>
    obtain ⟨active, hactive, hstep⟩ := Option.bind_eq_some_iff.mp hstep
    obtain ⟨rolledBack, hrolledBack, rfl⟩ := Option.map_eq_some_iff.mp hstep
    obtain ⟨hinstalled, hepoch⟩ := h.measured hactive hkeeps hrolledBack
    have hstate := (rollBackRelease_of hrolledBack).2
    obtain ⟨hdigest, hmark⟩ := retreat_epoch hstate
    refine ⟨?_, ?_, ?_⟩
    · rintro state ⟨⟩
      rw [hdigest, hmark]
      exact hinstalled
    · rintro state ⟨⟩ hprevious
      exact absurd (retreat_fields hstate).2.1 hprevious
    · intro retreat hretreat
      rcases List.mem_append.mp hretreat with hretreat | hretreat
      · exact h.retreats retreat hretreat
      · obtain rfl := List.mem_singleton.mp hretreat
        rw [hepoch]
        exact UInt32.le_refl _

lemma marked_start : Marked env {} := ⟨nofun, nofun, nofun⟩

lemma installOfficialPackage_installs {randoms : InstallRandoms} {stores after : Stores}
    {result : InstallerResult} {verification : PackageVerification}
    (hrun : installOfficialPackageWithStateRoot env randoms stores bytes context = some (after, result))
    (hok : result.ok = true) (hverified : (env.trust.verify bytes env.crypto).answer = some verification) :
    ∃ installed, installPackage env verification.manifest.appId context bytes (loadedState
        (loadReleaseStateFrom env.euid stores.policy verification.manifest.appId env.crypto)) =
          some installed ∧
      loadedState (loadReleaseStateFrom env.euid after.policy verification.manifest.appId env.crypto) =
        some installed.state := by
  obtain ⟨digest, current, hreaches⟩ := reaches_of_ok hrun hok hverified
  obtain ⟨next, hnext, -, hloaded, hselected⟩ := install_loads hreaches hrun hok
  refine ⟨⟨verification, digest, next⟩, ?_, ?_⟩
  · rw [← hreaches.state, installPackage, hverified]
    simp [hreaches.digested, hreaches.ok, hreaches.allowed, hnext]
  · rw [loadedState, if_pos hloaded, hselected]

lemma rollbackInstalledApplication_rollsBack {calls : BrokerCalls} {after : Node}
    {snapshot : InstalledApplicationSnapshot} {detail : Bytes}
    (h : rollbackInstalledApplication env profile calls root snapshot = some (after, some detail)) :
    ∃ rolledBack, rollBackRelease env snapshot.publicValue.appId profile root false
      (storedReleaseOf env root snapshot.publicValue.appId).selected.state = some rolledBack := by
  rw [rollbackInstalledApplication] at h
  dsimp only at h
  split at h
  · cases h
  obtain ⟨previous, hprevious, h⟩ := Option.bind_eq_some_iff.mp h
  split at h
  · rename_i previous state hstate
    exact ⟨⟨previous, state⟩, by rw [rollBackRelease, hprevious]; simp [hstate]⟩
  · cases h

lemma failureRollback_rollsBack {state : ApplicationReleaseState}
    (h : failureRollback env profile root appId = some (some state)) :
    ∃ rolledBack, rollBackRelease env appId profile root true
      (storedReleaseOf env root appId).selected.state = some rolledBack ∧ rolledBack.state = state := by
  rw [failureRollback] at h
  split at h
  · cases h
  dsimp only at h
  split at h
  · cases h
  obtain ⟨previous, hprevious, h⟩ := Option.map_eq_some_iff.mp h
  obtain ⟨application, rfl, hstate⟩ := Option.bind_eq_some_iff.mp h
  refine ⟨⟨application, state⟩, ?_, rfl⟩
  rw [rollBackRelease, hprevious]
  change ((rollbackFailedRelease _).map _) = _
  rw [hstate]
  rfl

end

/-- When no rollback goes back behind an installation that raised the mark, none makes a release current
whose epoch is below it. -/
theorem rollbacks_keep_epoch (env : Environment) (appId : Bytes) (events : List EpochEvent)
    (s : EpochHistory) (hkeeps : (epochProcess env appId).Along (KeepsEpoch env appId) {} events)
    (hrun : (epochProcess env appId).run {} events = some s) :
    ∀ retreat ∈ s.retreats, retreat.mark ≤ retreat.epoch := by
  have hmarked : Marked env s := Process.run_invariant (P := epochProcess env appId)
    (fun s event t h hkeeps hstep => h.step hkeeps hstep) marked_start hkeeps hrun
  exact hmarked.retreats

def patchRelease : SignedRelease where
  counter := 2
  epoch := 1
  unsignedDigest := bigEndian 64
    0x7865bbda823d901099a77d543ac3e90fc3ceb85b731cbf7f8036f46dc59880f3d017e5d996220a2e9898e429fa76f254225e3d53904ad56c8b32d4efb09bb145
  signature := bigEndian 64
    0x08683fd0139f35ea3e288461185970ba376a791c55894cc5e1595c601dadc5b54a7b1e9331e59067298240cefa3a45a05e9f7d62405eeefde7b6b0faa902a80a
  packageDigest := bigEndian 64
    0x1d9f1a34fe06b1ac1a08fe42ebec4820d03989cc453325fa22e27d3f8af32ab0d22f006444ac3c645642f57deace97f60db0f8f5d3d082212005e0f65bf7f934

def patchEnvironment : Environment :=
  { installEnvironment with
    crypto := { installCrypto with
      sha512 := fun bytes =>
        if bytes = patchRelease.package.unsigned then some patchRelease.unsignedDigest
        else if bytes = patchRelease.package.bytes then some patchRelease.packageDigest
        else installCrypto.sha512 bytes
      verifyEd25519 := fun key message signature =>
        installCrypto.verifyEd25519 key message signature || key = officialKey &&
          message = signatureDomain ++ patchRelease.unsignedDigest.toList &&
            signature = patchRelease.signature } }

def retreatEvents (update : SignedRelease) : List EpochEvent :=
  [.install installContext firstRelease.package.bytes, .install installContext update.package.bytes,
    .rollback penProfile updatedSystem false]

def keepsEpochCheck (env : Environment) (appId : Bytes) (s : EpochHistory) : EpochEvent → Bool
  | .install _ _ => true
  | .rollback profile root recordLaunchFailure =>
    match s.state.bind (rollBackRelease env appId profile root recordLaunchFailure) with
    | none => true
    | some rolledBack => !s.raised && s.packages.all fun bytes =>
        env.crypto.sha512 bytes ≠ env.crypto.sha512 rolledBack.previous.package ||
          bytes = rolledBack.previous.package

lemma keepsEpoch_of_check (env : Environment) (appId : Bytes) (s : EpochHistory) (event : EpochEvent)
    (h : keepsEpochCheck env appId s event = true) : KeepsEpoch env appId s event := by
  cases event with
  | install => trivial
  | rollback profile root recordLaunchFailure =>
    intro active hactive rolledBack hrolledBack
    have hbind : s.state.bind (rollBackRelease env appId profile root recordLaunchFailure) =
        some rolledBack := by
      rw [Option.mem_def.mp hactive]
      exact hrolledBack
    rw [keepsEpochCheck, hbind] at h
    obtain ⟨hraised, hdistinct⟩ := (Bool.and_eq_true _ _).mp h
    refine ⟨by simpa using hraised, fun bytes hbytes hdigest => ?_⟩
    have hpackage := List.all_eq_true.mp hdistinct bytes hbytes
    simpa [hdigest] using hpackage

theorem patch_rolled_back : ∃ s, (epochProcess patchEnvironment (text "org.pen.demo")).run {}
      (retreatEvents patchRelease) = some s ∧ s.retreats = [⟨1, 1⟩] ∧
      ∀ retreat ∈ s.retreats, retreat.mark ≤ retreat.epoch := by
  have hrun : ((epochProcess patchEnvironment (text "org.pen.demo")).run {}
      (retreatEvents patchRelease)).map (·.retreats) = some [⟨1, 1⟩] := by decide +kernel
  obtain ⟨s, hrun, hretreats⟩ := Option.map_eq_some_iff.mp hrun
  have hkeeps : (epochProcess patchEnvironment (text "org.pen.demo")).allAlong
      (keepsEpochCheck patchEnvironment (text "org.pen.demo")) {} (retreatEvents patchRelease) = true := by
    decide +kernel
  exact ⟨s, hrun, hretreats, rollbacks_keep_epoch patchEnvironment (text "org.pen.demo")
    (retreatEvents patchRelease) s (Process.along_of_all (keepsEpoch_of_check _ _) hkeeps) hrun⟩

/-- A rollback makes the release current again that an update had made obsolete. -/
theorem obsolete_release_runs_again :
    ¬ ∀ (env : Environment) (appId : Bytes) (events : List EpochEvent) (s : EpochHistory),
      (epochProcess env appId).run {} events = some s →
        ∀ retreat ∈ s.retreats, retreat.mark ≤ retreat.epoch := by
  intro hkept
  have hrun : ((epochProcess installEnvironment (text "org.pen.demo")).run {}
      (retreatEvents secondRelease)).map (·.retreats) = some [⟨1, 2⟩] := by decide +kernel
  obtain ⟨s, hrun, hretreats⟩ := Option.map_eq_some_iff.mp hrun
  have hle := hkept installEnvironment (text "org.pen.demo") (retreatEvents secondRelease) s hrun ⟨1, 2⟩
    (by rw [hretreats]; exact List.mem_singleton_self _)
  exact absurd hle (by decide)

end LvglPlatform
