import LvglPlatform.Services.InstallCuts
import LvglPlatform.Session.InstallerBroker

/-! Runs of the services that change the application stores, each of them cut off anywhere: what the
recorded states and the releases they name are after any such run. -/

namespace LvglPlatform

open Foundation

structure PackageOf (env : Environment) (context : InstallPolicyContext) (record : ReleaseRecord)
    (bytes : Bytes) (verification : PackageVerification) : Prop where
  verified : (env.trust.verify bytes env.crypto).answer = some verification
  ok : verification.ok = true
  digest : env.crypto.sha512 bytes = some record.digest
  appId : verification.manifest.appId = record.appId
  counter : verification.manifest.releaseCounter = record.counter
  signer : verification.manifest.signingKeyId = record.signingKeyId
  apart : (stagedPaths verification.manifest).Pairwise Node.Apart
  allowed : (evaluateInstallPolicy verification record.digest context none).allowed = true

/-- A release directory with everything of an official package, and nothing else. -/
def Genuine (env : Environment) (context : InstallPolicyContext) (record : ReleaseRecord)
    (release : Node) : Prop :=
  ∃ bytes verification, PackageOf env context record bytes verification ∧
    release = extracted env.euid bytes verification record.digest

def InPlace (env : Environment) (context : InstallPolicyContext) (stores : Stores)
    (record : ReleaseRecord) : Prop :=
  ∃ release, committedRelease stores.payload record.appId record.counter = some release ∧
    Genuine env context record release

/-- The releases that a recorded state runs and can go back to are in the payload store. -/
structure Names (env : Environment) (context : InstallPolicyContext) (stores : Stores) (appId : Bytes)
    (state : ApplicationReleaseState) : Prop where
  current : InPlace env context stores (currentRecord state appId)
  previous : state.previousRelease ≠ 0 → InPlace env context stores (previousRecord state appId)

def packageRecord (verification : PackageVerification) (digest : Sha512Digest) : ReleaseRecord where
  appId := verification.manifest.appId
  counter := verification.manifest.releaseCounter
  digest
  signingKeyId := verification.manifest.signingKeyId

/-- What the stores hold of an application: genuine releases, and slots with the recorded state. -/
structure Coherent (env : Environment) (context : InstallPolicyContext) (stores : Stores)
    (appId : Bytes) : Prop where
  passable : Passable env.euid stores.payload appId
  genuine : ∀ counter release, committedRelease stores.payload appId counter = some release →
    ∃ digest signer, Genuine env context ⟨appId, counter, digest, signer⟩ release
  slots : ∃ slots, StoresSlots env.euid stores.policy appId slots ∧
    Represents appId env.crypto slots (recordedState env stores appId)
  sound : SoundHistory (recordedState env stores appId)

structure Healthy (env : Environment) (context : InstallPolicyContext) (stores : Stores) : Prop where
  listed : ListedOnce stores.payload
  consistent : ∀ appId, LvglPlatform.appId appId = true → Coherent env context stores appId

structure Discards (euid : ℕ) (gone : Set Bytes) (before after : Option Node) : Prop where
  releases : ∀ appId, LvglPlatform.appId appId = true → ∀ counter,
    committedRelease after appId counter = committedRelease before appId counter ∨
      appId ∈ gone ∧ committedRelease after appId counter = none
  passable : ∀ appId, LvglPlatform.appId appId = true → Passable euid before appId →
    Passable euid after appId
  listed : ListedOnce before → ListedOnce after

/-- The changes of the two stores. An installation and a rollback may stop after any of their calls, and
only the applications of `gone` lose their releases. -/
inductive StoreStep (env : Environment) (context : InstallPolicyContext) (gone : Set Bytes) :
    Stores → Stores → Prop
  | install (stores : Stores) (randoms : InstallRandoms) (bytes : Bytes)
      (steps : Steps Stores InstallerResult) (cut : Option ℕ) :
      installOfficialPackageSteps env randoms bytes context = some steps →
      StoreStep env context gone stores (steps.stop stores cut)
  | rollBack (stores : Stores) (appId : Bytes) (active next : ApplicationReleaseState)
      (recordLaunchFailure : Bool) (randoms : SlotRandoms) (cut : Option ℕ) :
      recordedState env stores appId = some active →
      rollbackRelease active recordLaunchFailure = some next →
      StoreStep env context gone stores { stores with
        policy := (persistReleaseStateSteps env.euid randoms next env.crypto).stop stores.policy cut }
  | discard (stores : Stores) (payload : Option Node) : Discards env.euid gone stores.payload payload →
      StoreStep env context gone stores { stores with payload }

abbrev StoreRun (env : Environment) (context : InstallPolicyContext) (gone : Set Bytes) :
    Stores → Stores → Prop :=
  Relation.ReflTransGen (StoreStep env context gone)

def OfficialInput (env : Environment) (context : InstallPolicyContext) (appId : Bytes) :
    ReleaseInput → Prop
  | .activate candidate packageDigest => ∃ bytes,
      (env.trust.verify bytes env.crypto).answer = some candidate ∧ candidate.ok = true ∧
        env.crypto.sha512 bytes = some packageDigest ∧ candidate.manifest.appId = appId ∧
        (evaluateInstallPolicy candidate packageDigest context none).allowed = true
  | .rollback _ => True

/-- The state that is recorded afterwards comes from the one before by transitions of the history. -/
def Evolves (env : Environment) (context : InstallPolicyContext) (appId : Bytes)
    (before after : Option ApplicationReleaseState) : Prop :=
  ∃ inputs, after = releaseMachine.runFrom before inputs ∧
    ∀ input ∈ inputs, OfficialInput env context appId input

def Named (env : Environment) (context : InstallPolicyContext) (stores : Stores) (appId : Bytes) : Prop :=
  ∀ state ∈ recordedState env stores appId, Names env context stores appId state

/-- What a change of the stores keeps of an application. -/
structure Upheld (env : Environment) (context : InstallPolicyContext) (gone : Set Bytes)
    (stores after : Stores) (appId : Bytes) : Prop where
  consistent : Coherent env context after appId
  evolves : Evolves env context appId (recordedState env stores appId) (recordedState env after appId)
  named : appId ∉ gone → Named env context stores appId → Named env context after appId

/-- A state continues what is recorded: it is that state, its successor, or a first one. -/
def Continues (next : ApplicationReleaseState) : Option ApplicationReleaseState → Prop
  | none => next.generation = 1
  | some state => next = state ∨ next.generation = state.generation + 1

section

variable {env : Environment} {context : InstallPolicyContext} {stores after : Stores} {bytes : Bytes}
  {verification : PackageVerification} {digest : Sha512Digest} {appId : Bytes} {slots : PolicySlots}
  {last : Option ApplicationReleaseState} {next state : ApplicationReleaseState} {replacements : ℕ}
  {policy : Option Node} {crypto : CryptoProvider} {euid : ℕ}

lemma StoresSlots.loaded (h : StoresSlots euid policy appId slots)
    (happ : LvglPlatform.appId appId = true) (hrep : Represents appId crypto slots last) :
    loadedState (loadReleaseStateFrom euid policy appId crypto) = last := by
  rcases (h.load happ : (loadReleaseStateFrom euid policy appId crypto).status = .notFound ∧ _ ∨ _) with
    ⟨hstatus, rfl⟩ | hload
  · cases last with
    | none => simp [loadedState, StateStoreResult.isLoaded, hstatus]
    | some state =>
      obtain ⟨hloaded, -⟩ := hrep.status
      simp [loadReleaseState, loadSlots, Slots.empty] at hloaded
  · rw [hload]
    cases last with
    | none =>
      obtain rfl : slots = Slots.empty := hrep
      rfl
    | some state =>
      obtain ⟨hstatus, hstate⟩ := hrep.status
      have hloaded : (loadReleaseState slots appId crypto).isLoaded = true := by
        rcases hstatus with hstatus | hstatus
        · simp [StateStoreResult.isLoaded, hstatus]
        · simp [StateStoreResult.isLoaded, hstatus]
      rw [loadedState, if_pos hloaded, hstate]

lemma admissible_of_continues (hrep : Represents appId crypto slots last) (happ : next.appId = appId)
    (hwell : Wellformed next) (hle : replacements ≤ 2) (hnext : Continues next last) :
    Admissible slots appId crypto ⟨next, replacements⟩ := by
  refine ⟨hle, happ, (validState_iff next).mpr hwell, ?_⟩
  cases last with
  | none =>
    obtain rfl : slots = Slots.empty := hrep
    exact hnext
  | some state =>
    obtain ⟨hstatus, hstate⟩ := hrep.status
    rw [if_pos (StateStoreResult.ok_of_loaded hstatus), hstate]
    exact hnext

lemma PersistLeaves.represents {before : Option Node} (happ : next.appId = appId)
    (h : PersistLeaves euid before next crypto slots replacements policy)
    (hrep : Represents appId crypto slots last) (hwell : Wellformed next) (hle : replacements ≤ 2)
    (hnext : Continues next last) : ∃ slots', StoresSlots euid policy appId slots' ∧
      (Represents appId crypto slots' last ∨ Represents appId crypto slots' (some next)) := by
  subst happ
  refine ⟨_, h.1, ?_⟩
  by_cases hencodes : (encodeReleaseState next crypto).ok = true
  · have hpersist := hrep.persist (admissible_of_continues hrep rfl hwell hle hnext)
      ⟨hwell, hencodes, rfl⟩
    dsimp only at hpersist
    split at hpersist
    · exact Or.inl hpersist
    · exact Or.inr hpersist
  · rw [persistReleaseState, if_pos (by simp [hencodes])]
    exact Or.inl hrep

lemma recordedState_congr
    (h : openStore env.euid after.policy appId = openStore env.euid stores.policy appId) :
    recordedState env after appId = recordedState env stores appId := by
  rw [recordedState, recordedState, loadReleaseStateFrom, loadReleaseStateFrom, h]

lemma recordedState_wellformed (h : recordedState env stores appId = some state) :
    Wellformed state ∧ state.appId = appId := by
  obtain ⟨hloaded, rfl⟩ := loadedState_some h
  obtain ⟨hvalid, happ⟩ := loadReleaseStateFrom_valid hloaded
  exact ⟨(validState_iff _).mp hvalid, happ⟩

lemma activation_continues {candidate : PackageVerification} {packageDigest : Sha512Digest}
    (h : activationStateFor candidate packageDigest last = some next) : Continues next last := by
  obtain ⟨hadmits, hsame | ⟨hnew, rfl, -, -⟩⟩ := activation_cases h
  · subst hsame
    exact Or.inl rfl
  cases last with
  | none =>
    have hcounter : candidate.manifest.releaseCounter ≠ 0 := by
      intro hzero
      simp [activationStateFor, hzero] at h
    rw [nextState_none candidate packageDigest hcounter]
    rfl
  | some state =>
    have ha := hadmits state rfl
    rw [nextState_admitted ha (ha.current_ne (hnew state rfl))]
    exact Or.inr rfl

lemma rollback_next {active : ApplicationReleaseState} {recordLaunchFailure : Bool}
    (h : rollbackRelease active recordLaunchFailure = some next) :
    active.previousRelease ≠ 0 ∧ Wellformed next ∧ next = retreatState active recordLaunchFailure := by
  unfold rollbackRelease at h
  split at h <;> rename_i hguard
  · cases h
  split at h <;> rename_i hvalid
  · obtain rfl := Option.some.inj h
    refine ⟨?_, (validState_iff _).mp hvalid, rfl⟩
    rintro hzero
    simp [hzero] at hguard
  · cases h

lemma evolves_refl (last : Option ApplicationReleaseState) : Evolves env context appId last last :=
  ⟨[], rfl, fun _ h => absurd h List.not_mem_nil⟩

lemma Evolves.trans {first second third : Option ApplicationReleaseState}
    (h : Evolves env context appId first second) (hnext : Evolves env context appId second third) :
    Evolves env context appId first third := by
  obtain ⟨before, rfl, hbefore⟩ := h
  obtain ⟨inputs, rfl, hinputs⟩ := hnext
  refine ⟨before ++ inputs, (releaseMachine.runFrom_append _ _ _).symm, ?_⟩
  intro input hinput
  rcases List.mem_append.mp hinput with hinput | hinput
  · exact hbefore input hinput
  · exact hinputs input hinput

lemma evolves_input {input : ReleaseInput} (hofficial : OfficialInput env context appId input)
    (hnext : applyRelease last input = some next) : Evolves env context appId last (some next) :=
  ⟨[input], hnext.symm, fun other hother => by rwa [List.mem_singleton.mp hother]⟩

lemma Evolves.sound {before last : Option ApplicationReleaseState}
    (h : Evolves env context appId before last) (hs : SoundHistory before) : SoundHistory last := by
  obtain ⟨inputs, rfl, -⟩ := h
  exact soundHistory_preserved.runFrom hs inputs

/-- What an interrupted persist of a state that continues the recorded one leaves of the slots. -/
structure Persisted (env : Environment) (stores after : Stores) (next : ApplicationReleaseState) : Prop where
  recorded : recordedState env after next.appId = recordedState env stores next.appId ∨
    recordedState env after next.appId = some next
  slots : ∃ slots, StoresSlots env.euid after.policy next.appId slots ∧
    Represents next.appId env.crypto slots (recordedState env after next.appId)
  others : ∀ other, other ≠ next.appId →
    openStore env.euid after.policy other = openStore env.euid stores.policy other

lemma PersistLeaves.persisted (h : PersistLeaves env.euid stores.policy next env.crypto slots replacements
      after.policy)
    (hrep : Represents next.appId env.crypto slots (recordedState env stores next.appId))
    (hwell : Wellformed next) (hle : replacements ≤ 2)
    (hnext : Continues next (recordedState env stores next.appId)) : Persisted env stores after next := by
  obtain ⟨slots', hslots', hrecorded⟩ := h.represents rfl hrep hwell hle hnext
  rcases hrecorded with hkept | hadvanced
  · have hloaded : recordedState env after next.appId = _ := hslots'.loaded hwell.appId hkept
    exact ⟨Or.inl hloaded, ⟨slots', hslots', hloaded ▸ hkept⟩, h.2⟩
  · have hloaded : recordedState env after next.appId = _ := hslots'.loaded hwell.appId hadvanced
    exact ⟨Or.inr hloaded, ⟨slots', hslots', hloaded ▸ hadvanced⟩, h.2⟩

lemma Reaches.package {current : Option ApplicationReleaseState}
    (h : Reaches env stores bytes context verification digest current)
    (hapart : (stagedPaths verification.manifest).Pairwise Node.Apart) :
    PackageOf env context (packageRecord verification digest) bytes verification :=
  ⟨h.verified, h.ok, h.digested, rfl, rfl, rfl, hapart, (policy_allowed_iff.mp h.allowed).1⟩

lemma PackageOf.official {record : ReleaseRecord} (h : PackageOf env context record bytes verification) :
    Official bytes verification := by
  obtain ⟨key, -, haccepts⟩ := trust_verified h.verified h.ok
  exact official_of_accepts haccepts

lemma extracted_copy {euid : ℕ} (h : Extractable bytes verification)
    (hapart : (stagedPaths verification.manifest).Pairwise Node.Apart) :
    (extracted euid bytes verification digest).child packageCopyName =
      some (.file { uid := euid, mode := 0o400 } bytes) :=
  extracted_openFile h hapart _ (List.mem_append_right _ List.mem_cons_self)

lemma Genuine.of_matches {release : Node} {record : ReleaseRecord} {current : Option ApplicationReleaseState}
    (h : Genuine env context record release)
    (hreaches : Reaches env stores bytes context verification digest current)
    (hmatches : releasePackageMatches env.euid release bytes digest = true) :
    Genuine env context (packageRecord verification digest) release := by
  obtain ⟨packed, packedVerification, hpackage, rfl⟩ := h
  obtain ⟨stat, hcopy⟩ := releasePackageMatches_copy hmatches
  rw [extracted_copy hpackage.official.extractable hpackage.apart] at hcopy
  have hfile := Option.some.inj hcopy
  obtain ⟨-, rfl⟩ := Node.file.inj hfile
  obtain rfl := Option.some.inj (hpackage.verified.symm.trans hreaches.verified)
  have hdigest := Option.some.inj (hpackage.digest.symm.trans hreaches.digested)
  exact ⟨packed, _, hreaches.package hpackage.apart, congrArg _ hdigest⟩

lemma InPlace.commits {record : ReleaseRecord} (h : InPlace env context stores record)
    (hcommits : Commits env.euid bytes verification digest stores.payload after.payload) :
    InPlace env context after record := by
  obtain ⟨release, hrelease, hgenuine⟩ := h
  refine ⟨release, ?_, hgenuine⟩
  rcases hcommits.releases record.appId record.counter with hkept | ⟨-, -, hnone, -⟩
  · exact hkept.trans hrelease
  · rw [hrelease] at hnone
    cases hnone

section

variable {current : Option ApplicationReleaseState}

lemma Installs.genuine (h : Installs env stores after bytes context verification digest current slots)
    (hconsistent : Coherent env context stores appId) (counter : UInt64) (release : Node)
    (hrelease : committedRelease after.payload appId counter = some release) :
    ∃ digest signer, Genuine env context ⟨appId, counter, digest, signer⟩ release := by
  rcases h.payload.releases appId counter with hkept | ⟨rfl, rfl, -, hapart, hadded⟩
  · exact hconsistent.genuine counter release (hkept.symm.trans hrelease)
  · obtain rfl := Option.some.inj (hrelease.symm.trans hadded)
    exact ⟨digest, verification.manifest.signingKeyId, bytes, verification, h.reaches.package hapart, rfl⟩

lemma Installs.inPlace (h : Installs env stores after bytes context verification digest current slots)
    (hactivates : Activates env stores after bytes verification digest current slots)
    (hconsistent : Coherent env context stores verification.manifest.appId) :
    InPlace env context after (packageRecord verification digest) := by
  obtain ⟨release, hrelease, hstaged⟩ := hactivates.release
  refine ⟨release, hrelease, ?_⟩
  generalize hbefore : committedRelease stores.payload verification.manifest.appId
    verification.manifest.releaseCounter = before at hstaged
  cases hstaged with
  | present _ hmatches =>
    obtain ⟨_, _, hgenuine⟩ := hconsistent.genuine _ _ hbefore
    exact hgenuine.of_matches h.reaches hmatches
  | extracted hapart => exact ⟨bytes, verification, h.reaches.package hapart, rfl⟩

end

lemma names_activated {current : Option ApplicationReleaseState}
    (hnext : activationStateFor verification digest current = some next)
    (hplace : InPlace env context stores (packageRecord verification digest))
    (hnames : ∀ state ∈ current, Names env context stores verification.manifest.appId state) :
    Names env context stores verification.manifest.appId next := by
  have hactivated := activation_activated hnext
  refine ⟨?_, fun hprevious => ?_⟩
  · rw [currentRecord, hactivated.current, hactivated.digest, hactivated.signer]
    exact hplace
  obtain ⟨hadmits, hsame | ⟨hnew, hstate, -, -⟩⟩ := activation_cases hnext
  · exact (hnames next hsame).previous hprevious
  cases current with
  | none =>
    have hcounter : verification.manifest.releaseCounter ≠ 0 := by
      intro hzero
      simp [activationStateFor, hzero] at hnext
    rw [hstate, nextState_none verification digest hcounter] at hprevious
    exact absurd rfl hprevious
  | some state =>
    have ha := hadmits state rfl
    rw [nextState_admitted ha (ha.current_ne (hnew state rfl))] at hstate
    have hcurrent := (hnames state rfl).current
    rw [hstate, previousRecord, ← ha.signer]
    exact hcurrent

lemma Names.retreat {active : ApplicationReleaseState} {recordLaunchFailure : Bool}
    (h : Names env context stores appId active)
    (hnext : rollbackRelease active recordLaunchFailure = some next) :
    Names env context stores appId next := by
  obtain ⟨hprevious, -, rfl⟩ := rollback_next hnext
  exact ⟨h.previous hprevious, fun hnone => absurd rfl hnone⟩

lemma Named.congr (h : Named env context stores appId)
    (hrecorded : recordedState env after appId = recordedState env stores appId)
    (hplace : ∀ record, record.appId = appId → InPlace env context stores record →
      InPlace env context after record) : Named env context after appId := by
  intro state hstate
  obtain ⟨hcurrent, hprevious⟩ := h state (hrecorded ▸ hstate)
  exact ⟨hplace _ rfl hcurrent, fun hne => hplace _ rfl (hprevious hne)⟩

lemma Persisted.upheld {gone : Set Bytes} (h : Persisted env stores after next) (input : ReleaseInput)
    (hconsistent : Coherent env context stores appId)
    (hpassable : Passable env.euid after.payload appId)
    (hgenuine : ∀ counter release, committedRelease after.payload appId counter = some release →
      ∃ digest signer, Genuine env context ⟨appId, counter, digest, signer⟩ release)
    (hplace : ∀ record, InPlace env context stores record → InPlace env context after record)
    (hofficial : OfficialInput env context next.appId input)
    (hinput : applyRelease (recordedState env stores next.appId) input = some next)
    (hnames : Named env context stores next.appId → Names env context after next.appId next) :
    Upheld env context gone stores after appId := by
  by_cases happ : appId = next.appId
  · subst happ
    rcases h.recorded with hkept | hadvanced
    · refine ⟨⟨hpassable, hgenuine, h.slots, hkept ▸ hconsistent.sound⟩, ?_, fun _ hnamed =>
        hnamed.congr hkept fun record _ => hplace record⟩
      rw [hkept]
      exact evolves_refl _
    · have hevolves : Evolves env context next.appId (recordedState env stores next.appId)
          (recordedState env after next.appId) := hadvanced ▸ evolves_input hofficial hinput
      refine ⟨⟨hpassable, hgenuine, h.slots, hevolves.sound hconsistent.sound⟩, hevolves, fun _ hnamed => ?_⟩
      intro state hstate
      obtain rfl := Option.some.inj (hadvanced.symm.trans hstate)
      exact hnames hnamed
  · have hopen := h.others appId happ
    have hkept := recordedState_congr hopen
    obtain ⟨slots, hslots, hrep⟩ := hconsistent.slots
    refine ⟨⟨hpassable, hgenuine, ⟨slots, ?_, hkept.symm ▸ hrep⟩, hkept ▸ hconsistent.sound⟩, ?_,
      fun _ hnamed => hnamed.congr hkept fun record _ => hplace record⟩
    · rw [StoresSlots, hopen]
      exact hslots
    · rw [hkept]
      exact evolves_refl _

lemma Coherent.upheld {gone : Set Bytes} (h : Coherent env context stores appId)
    (hpolicy : after.policy = stores.policy) (hpassable : Passable env.euid after.payload appId)
    (hgenuine : ∀ counter release, committedRelease after.payload appId counter = some release →
      ∃ digest signer, Genuine env context ⟨appId, counter, digest, signer⟩ release)
    (hplace : appId ∉ gone → ∀ record, record.appId = appId → InPlace env context stores record →
      InPlace env context after record) : Upheld env context gone stores after appId := by
  have hkept : recordedState env after appId = recordedState env stores appId :=
    recordedState_congr (by rw [hpolicy])
  obtain ⟨slots, hslots, hrep⟩ := h.slots
  refine ⟨⟨hpassable, hgenuine, ⟨slots, hpolicy.symm ▸ hslots, hkept.symm ▸ hrep⟩, hkept ▸ h.sound⟩, ?_,
    fun hgone hnamed => hnamed.congr hkept (hplace hgone)⟩
  rw [hkept]
  exact evolves_refl _

lemma upheld_self {gone : Set Bytes} (h : Coherent env context stores appId) :
    Upheld env context gone stores stores appId :=
  h.upheld rfl h.passable h.genuine fun _ _ _ => id

lemma Installs.upheld {gone : Set Bytes} {current : Option ApplicationReleaseState}
    (h : Installs env stores after bytes context verification digest current slots)
    (hown : Coherent env context stores verification.manifest.appId)
    (hrep : Represents verification.manifest.appId env.crypto slots
      (recordedState env stores verification.manifest.appId))
    (hconsistent : Coherent env context stores appId) : Upheld env context gone stores after appId := by
  have hpassable := h.payload.passable appId hconsistent.passable
  have hgenuine := h.genuine hconsistent
  have hplace : ∀ record, InPlace env context stores record → InPlace env context after record :=
    fun record hrecord => hrecord.commits h.payload
  rcases h.policy with hkept | hactivates
  · exact hconsistent.upheld hkept hpassable hgenuine fun _ record _ => hplace record
  obtain ⟨next, hnext, replacements, hle, hleaves⟩ := hactivates.state
  have hactivated := activation_activated hnext
  have hcurrent : current = recordedState env stores verification.manifest.appId := h.reaches.state
  have hpersisted : Persisted env stores after next := by
    refine hleaves.persisted (hactivated.appId.symm ▸ hrep) hactivated.wellformed hle ?_
    rw [hactivated.appId, ← hcurrent]
    exact activation_continues hnext
  refine hpersisted.upheld (.activate verification digest) hconsistent hpassable hgenuine hplace
    ⟨bytes, h.reaches.verified, h.reaches.ok, h.reaches.digested, hactivated.appId.symm,
      (policy_allowed_iff.mp h.reaches.allowed).1⟩ ?_ ?_
  · rw [applyRelease, hactivated.appId, ← hcurrent, hnext]
    rfl
  · rw [hactivated.appId]
    intro hnamed
    refine names_activated hnext (h.inPlace hactivates hown) ?_
    rw [hcurrent]
    intro state hstate
    obtain ⟨hrunning, hprevious⟩ := hnamed state hstate
    exact ⟨hplace _ hrunning, fun hne => hplace _ (hprevious hne)⟩

/-- Wherever an installation stops, it has changed nothing, or installs a package. -/
lemma install_cut {randoms : InstallRandoms} {steps : Steps Stores InstallerResult}
    (hhealthy : Healthy env context stores)
    (hsteps : installOfficialPackageSteps env randoms bytes context = some steps) (cut : Option ℕ) :
    steps.stop stores cut = stores ∨ ∃ verification digest current slots,
      Installs env stores (steps.stop stores cut) bytes context verification digest current slots ∧
        Represents verification.manifest.appId env.crypto slots
          (recordedState env stores verification.manifest.appId) := by
  obtain ⟨verification, hverified, rfl⟩ := Option.map_eq_some_iff.mp hsteps
  by_cases hok : verification.ok = true
  · obtain ⟨key, -, haccepts⟩ := trust_verified hverified hok
    obtain ⟨slots, hslots, hrep⟩ :=
      (hhealthy.consistent _ (official_of_accepts haccepts).appId).slots
    have hspec : Steps.Spec stores (installVerifiedSteps env randoms bytes context verification) _ _ :=
      installVerifiedSteps_leaves hverified hslots
    rcases hspec.stop (Or.inl rfl) cut with hself | ⟨digest, current, hinstalls⟩
    · exact Or.inl hself
    · exact Or.inr ⟨verification, digest, current, slots, hinstalls, hrep⟩
  · have hstops : Steps.Spec stores (installVerifiedSteps env randoms bytes context verification)
        (fun after => after = stores) fun _ after => after = stores := by
      rw [installVerifiedSteps]
      dsimp only
      rw [if_pos (by simpa using hok)]
      exact Steps.spec_pure rfl
    exact Or.inl (hstops.stop rfl cut)

lemma upheld_install {gone : Set Bytes} {randoms : InstallRandoms} {steps : Steps Stores InstallerResult}
    (hhealthy : Healthy env context stores)
    (hsteps : installOfficialPackageSteps env randoms bytes context = some steps) (cut : Option ℕ)
    (happ : LvglPlatform.appId appId = true) :
    Upheld env context gone stores (steps.stop stores cut) appId := by
  have hconsistent := hhealthy.consistent appId happ
  rcases install_cut hhealthy hsteps cut with hself | ⟨verification, digest, current, slots, hinstalls, hrep⟩
  · rw [hself]
    exact upheld_self hconsistent
  · exact hinstalls.upheld (hhealthy.consistent _ hinstalls.reaches.official.appId) hrep hconsistent

lemma upheld_rollBack {gone : Set Bytes} {active : ApplicationReleaseState} {target : Bytes}
    {recordLaunchFailure : Bool} {randoms : SlotRandoms} (hhealthy : Healthy env context stores)
    (hactive : recordedState env stores target = some active)
    (hnext : rollbackRelease active recordLaunchFailure = some next) (cut : Option ℕ)
    (happ : LvglPlatform.appId appId = true) :
    Upheld env context gone stores { stores with
      policy := (persistReleaseStateSteps env.euid randoms next env.crypto).stop stores.policy cut } appId := by
  obtain ⟨hwell, rfl⟩ := recordedState_wellformed hactive
  obtain ⟨-, hwellNext, hretreat⟩ := rollback_next hnext
  have hsame : next.appId = active.appId := by rw [hretreat]; rfl
  have hconsistent := hhealthy.consistent appId happ
  obtain ⟨slots, hslots, hrep⟩ := (hhealthy.consistent active.appId hwell.appId).slots
  have hspec : Steps.Spec stores.policy (persistReleaseStateSteps env.euid randoms next env.crypto) _ _ :=
    persistReleaseStateSteps_slots (hsame.symm ▸ hslots)
  obtain ⟨replacements, hle, hleaves⟩ := (hspec.weaken (fun _ => id) fun _ _ ⟨n, hn, hp, _⟩ => ⟨n, hn, hp⟩).stop
    ⟨0, by decide, persistLeaves_none (hsame.symm ▸ hslots)⟩ cut
  have hpersisted : Persisted env stores { stores with
      policy := (persistReleaseStateSteps env.euid randoms next env.crypto).stop stores.policy cut } next := by
    refine hleaves.persisted (hsame.symm ▸ hrep) hwellNext hle ?_
    rw [hsame, hactive, hretreat]
    exact Or.inr rfl
  refine hpersisted.upheld (.rollback recordLaunchFailure) hconsistent hconsistent.passable
    hconsistent.genuine (fun _ => id) trivial ?_ ?_
  · rw [applyRelease, hsame, hactive, Option.bind_some, hnext]
    rfl
  · rw [hsame]
    intro hnamed
    obtain ⟨hcurrent, hprevious⟩ := (hnamed active hactive).retreat hnext
    exact ⟨hcurrent, hprevious⟩

lemma Discards.upheld {gone : Set Bytes} {payload : Option Node}
    (h : Discards env.euid gone stores.payload payload) (hconsistent : Coherent env context stores appId)
    (happ : LvglPlatform.appId appId = true) :
    Upheld env context gone stores { stores with payload } appId := by
  refine hconsistent.upheld rfl (h.passable appId happ hconsistent.passable) ?_ ?_
  · intro counter release hrelease
    rcases h.releases appId happ counter with hkept | ⟨-, hnone⟩
    · exact hconsistent.genuine counter release (hkept.symm.trans hrelease)
    · rw [hnone] at hrelease
      cases hrelease
  · rintro hgone record rfl ⟨release, hrelease, hgenuine⟩
    refine ⟨release, ?_, hgenuine⟩
    rcases h.releases record.appId happ record.counter with hkept | ⟨hmem, -⟩
    · exact hkept.trans hrelease
    · exact absurd hmem hgone

/-- One change of the stores keeps every application coherent. -/
lemma StoreStep.upheld {gone : Set Bytes} (h : StoreStep env context gone stores after)
    (hhealthy : Healthy env context stores) (happ : LvglPlatform.appId appId = true) :
    Upheld env context gone stores after appId := by
  cases h with
  | install randoms bytes steps cut hsteps => exact upheld_install hhealthy hsteps cut happ
  | rollBack target active next recordLaunchFailure randoms cut hactive hnext =>
    exact upheld_rollBack hhealthy hactive hnext cut happ
  | discard payload hdiscards => exact hdiscards.upheld (hhealthy.consistent appId happ) happ

lemma StoreStep.healthy {gone : Set Bytes} (h : StoreStep env context gone stores after)
    (hhealthy : Healthy env context stores) : Healthy env context after := by
  refine ⟨?_, fun appId happ => (h.upheld hhealthy happ).consistent⟩
  cases h with
  | install randoms bytes steps cut hsteps =>
    rcases install_cut hhealthy hsteps cut with hself | ⟨_, _, _, _, hinstalls, -⟩
    · rw [hself]
      exact hhealthy.listed
    · exact hinstalls.payload.listed hhealthy.listed
  | rollBack target active next recordLaunchFailure randoms cut hactive hnext => exact hhealthy.listed
  | discard payload hdiscards => exact hdiscards.listed hhealthy.listed

lemma StoreRun.healthy {gone : Set Bytes} (h : StoreRun env context gone stores after)
    (hhealthy : Healthy env context stores) : Healthy env context after := by
  induction h with
  | refl => exact hhealthy
  | tail _ hstep ih => exact hstep.healthy ih

lemma StoreRun.upheld {gone : Set Bytes} (h : StoreRun env context gone stores after)
    (hhealthy : Healthy env context stores) (happ : LvglPlatform.appId appId = true) :
    Upheld env context gone stores after appId := by
  induction h with
  | refl => exact upheld_self (hhealthy.consistent appId happ)
  | tail hrun hstep ih =>
    have hafter := hstep.upheld (StoreRun.healthy hrun hhealthy) happ
    exact ⟨hafter.consistent, ih.evolves.trans hafter.evolves,
      fun hgone hnamed => hafter.named hgone (ih.named hgone hnamed)⟩

lemma Progress.trans {first second third : ApplicationReleaseState} (h : Progress first second)
    (hnext : Progress second third) : Progress first third := by
  refine ⟨fun hne => ?_, ?_, ?_, fun hne => ?_⟩
  · by_cases hsame : second = first
    · subst hsame
      exact hnext.generation hne
    · by_cases hlast : third = second
      · subst hlast
        exact h.generation hsame
      · exact UInt64.lt_trans (h.generation hsame) (hnext.generation hlast)
  · exact UInt64.le_trans h.highRelease hnext.highRelease
  · exact UInt32.le_trans h.highSecurityEpoch hnext.highSecurityEpoch
  · by_cases hsame : second.highDigest = first.highDigest
    · exact UInt64.lt_of_le_of_lt h.highRelease (hnext.highDigest (hsame.symm ▸ hne))
    · exact UInt64.lt_of_lt_of_le (h.highDigest hsame) hnext.highRelease

lemma progress_run (hs : Sound state) (inputs : List ReleaseInput) :
    ∃ next, releaseMachine.runFrom (some state) inputs = some next ∧ Progress state next := by
  induction inputs generalizing state with
  | nil => exact ⟨state, rfl, (ReleaseStep.stay (some state)).progress⟩
  | cons input inputs ih =>
    have hsound : SoundHistory (some state) := by
      rintro _ ⟨⟩
      exact hs
    have hstep := release_step hsound input
    obtain ⟨next, hnext⟩ := hstep.kept
    rw [hnext] at hstep
    obtain ⟨last, hlast, hprogress⟩ := ih (hstep.sound hsound next rfl)
    refine ⟨last, ?_, hstep.progress.trans hprogress⟩
    rw [Machine.runFrom_cons]
    exact (congrArg (releaseMachine.runFrom · inputs) hnext).trans hlast

lemma Sound.safeFrom (hs : Sound state) (hne : state.previousRelease ≠ state.quarantinedRelease) :
    SafeFrom {state.quarantinedRelease.toNat} state := by
  obtain ⟨hcurrent, hprevious, -⟩ := hs.safe
  refine ⟨hs, _, subset_rfl, hcurrent, hprevious, ?_, ?_, ?_⟩
  · rintro _ rfl
    exact UInt64.le_iff_toNat_le.mp hs.wellformed.quarantined_le
  · intro hcurrent
    exact hs.wellformed.quarantined_ne (UInt64.toNat_inj.mp hcurrent.symm)
  · rintro _ hprevious rfl
    by_cases hzero : state.previousRelease = 0
    · simp [highWaterView, hzero] at hprevious
    · rw [highWaterView_previous hzero] at hprevious
      exact hne (UInt64.toNat_inj.mp (Option.some.inj hprevious))

lemma Coherent.status (h : Coherent env context stores appId) (happ : LvglPlatform.appId appId = true) :
    (loadReleaseStateFrom env.euid stores.policy appId env.crypto).status ∈
      [StateStoreStatus.notFound, .uninitialized, .loaded, .loadedDegraded] := by
  obtain ⟨slots, hslots, hrep⟩ := h.slots
  rcases (hslots.load happ : (loadReleaseStateFrom env.euid stores.policy appId env.crypto).status =
      .notFound ∧ _ ∨ _) with ⟨hstatus, -⟩ | hload
  · simp [hstatus]
  · rw [hload]
    cases hrecorded : recordedState env stores appId with
    | none =>
      rw [hrecorded] at hrep
      obtain rfl : slots = Slots.empty := hrep
      exact List.mem_cons_of_mem _ List.mem_cons_self
    | some state =>
      rw [hrecorded] at hrep
      rcases hrep.status.1 with hstatus | hstatus
      · simp [hstatus]
      · simp [hstatus]

lemma StoreStep.mono {gone more : Set Bytes} (h : StoreStep env context gone stores after)
    (hsub : gone ⊆ more) : StoreStep env context more stores after := by
  cases h with
  | install randoms bytes steps cut hsteps => exact .install _ randoms bytes steps cut hsteps
  | rollBack target active next recordLaunchFailure randoms cut hactive hnext =>
    exact .rollBack _ target active next recordLaunchFailure randoms cut hactive hnext
  | discard payload hdiscards =>
    refine .discard _ payload ⟨fun other hother counter => ?_, hdiscards.passable, hdiscards.listed⟩
    exact (hdiscards.releases other hother counter).imp_right fun h => ⟨hsub h.1, h.2⟩

lemma StoreRun.mono {gone more : Set Bytes} (h : StoreRun env context gone stores after)
    (hsub : gone ⊆ more) : StoreRun env context more stores after := by
  induction h with
  | refl => exact .refl
  | tail _ hstep ih => exact ih.tail (hstep.mono hsub)

/-- The recorded state only advances, and never names its quarantined release again. -/
lemma Evolves.advances (h : Evolves env context appId (some state) last) (hs : Sound state) :
    ∃ next, last = some next ∧ Progress state next ∧
      (state.quarantinedRelease ≠ 0 → state.previousRelease ≠ state.quarantinedRelease →
        next.currentRelease ≠ state.quarantinedRelease ∧
          next.previousRelease ≠ state.quarantinedRelease) := by
  obtain ⟨inputs, rfl, -⟩ := h
  obtain ⟨next, hnext, hprogress⟩ := progress_run hs inputs
  refine ⟨next, hnext, hprogress, fun hzero hne => ?_⟩
  have hrun := (safeFrom_preserved {state.quarantinedRelease.toNat}).runFrom
    ⟨state, rfl, hs.safeFrom hne⟩ inputs
  obtain ⟨last, hlast, hsafe⟩ := hrun
  obtain rfl := Option.some.inj (hlast.symm.trans hnext)
  exact hsafe.avoids hzero

lemma healthy_fresh {path : Bytes} {stat : Stat} (hpayload : (Node.directory stat []).trusted env.euid = true) :
    Healthy env context ⟨path, some (.directory stat []), some (.directory stat [])⟩ := by
  have hwalk : ∀ name rest, (Node.directory stat []).walk env.euid (name :: rest) = .missing :=
    fun name rest => Node.walk_absent hpayload rfl
  refine ⟨?_, fun appId happ => ?_⟩
  · rintro _ ⟨⟩ apps happs
    cases happs
  have hmissing : openStore env.euid (some (.directory stat [])) appId = .missing := by
    rw [openStore_walk, slotsPath, hwalk]
  have hrecorded : recordedState env ⟨path, some (.directory stat []), some (.directory stat [])⟩ appId =
      none := by
    have hstatus : (loadReleaseStateFrom env.euid (some (.directory stat [])) appId env.crypto).status =
        .notFound := (load_notFound happ).mpr hmissing
    rw [recordedState, loadedState, if_neg]
    simp [StateStoreResult.isLoaded, hstatus]
  refine ⟨⟨_, rfl, ?_⟩, ?_, ⟨Slots.empty, Or.inl ⟨hmissing, rfl⟩, ?_⟩, ?_⟩
  · rw [releasesPath, hwalk]
    simp
  · intro counter release hrelease
    cases hrelease
  · rw [hrecorded]
    rfl
  · rw [hrecorded]
    rintro _ ⟨⟩

end

end LvglPlatform
