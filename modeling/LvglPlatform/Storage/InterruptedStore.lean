import LvglPlatform.Storage.StoreSteps

/-! What staging a release and persisting a state leave behind wherever they stop. -/

namespace LvglPlatform

open Foundation

section

variable {euid : ℕ} {bytes releasePath storeRoot : Bytes} {verification : PackageVerification}
  {digest : Sha512Digest} {context : StagingContext} {releases node : Node} {root : Option Node}

lemma extracted_matches (h : Extractable bytes verification)
    (hapart : (stagedPaths verification.manifest).Pairwise Node.Apart) :
    releasePackageMatches euid (extracted euid bytes verification digest) bytes digest = true := by
  have hopen : ∀ entry ∈ stagedFiles euid bytes verification digest,
      Node.openFile euid (extracted euid bytes verification digest) entry.1 = some entry.2 :=
    extracted_openFile h hapart
  have hmetadata : ∀ entry ∈ stagedMetadata euid bytes digest,
      entry ∈ stagedFiles euid bytes verification digest := fun _ => List.mem_append_right _
  have hcopy : (extracted euid bytes verification digest).child packageCopyName =
      some (.file { uid := euid, mode := 0o400 } bytes) := hopen _ (hmetadata _ List.mem_cons_self)
  have hmarker : (extracted euid bytes verification digest).child packageMarkerName =
      some (.file { uid := euid, mode := 0o400 } digest.toList) :=
    hopen _ (hmetadata _ (List.mem_cons_of_mem _ List.mem_cons_self))
  simp [releasePackageMatches, extracted_trusted, hcopy, hmarker]

lemma fits_congr {other : Node} {manifest : VerifiedPackageManifest}
    (h : other.child (decimal manifest.releaseCounter.toNat) =
      releases.child (decimal manifest.releaseCounter.toNat)) :
    Fits euid other bytes manifest digest ↔ Fits euid releases bytes manifest digest := by
  simp only [Fits, ReleasePresent, h]

structure Unspoilt (euid : ℕ) (bytes : Bytes) (manifest : VerifiedPackageManifest)
    (digest : Sha512Digest) (before after : Node) : Prop where
  trusted : after.trusted euid = true
  fits : Fits euid after bytes manifest digest ↔ Fits euid before bytes manifest digest

lemma unspoilt_stage (ht : releases.trusted euid = true) (random : ByteArr 16) (stage : Node) :
    Unspoilt euid bytes verification.manifest digest releases
      (releases.put (stageName verification.manifest.releaseCounter random) stage) :=
  ⟨Node.trusted_put.trans ht, fits_congr (Node.child_put_of_ne (decimal_ne_stageName _ _ _))⟩

/-- Only the rename of a complete stage changes what lies under the counter. -/
lemma commitReleaseSteps_spec (h : Extractable bytes verification)
    (ht : releases.trusted context.euid = true) :
    Steps.Spec releases (commitReleaseSteps context releasePath bytes verification digest)
      (Unspoilt context.euid bytes verification.manifest digest releases)
      fun _ => Unspoilt context.euid bytes verification.manifest digest releases := by
  have hself : Unspoilt context.euid bytes verification.manifest digest releases releases := ⟨ht, Iff.rfl⟩
  refine Steps.spec_bind (Steps.spec_current ?_)
  cases hopen : releases.openDirectory (decimal verification.manifest.releaseCounter.toNat) with
  | directory existing =>
    dsimp only
    split
    · exact Steps.spec_pure hself
    · exact Steps.spec_pure hself
  | refused => exact Steps.spec_pure hself
  | missing =>
    cases hrandom : context.random with
    | none => exact Steps.spec_pure hself
    | some random =>
      dsimp only
      cases hname : releases.child (stageName verification.manifest.releaseCounter random) with
      | some found => exact Steps.spec_pure hself
      | none =>
        have hstage : ∀ stage, Unspoilt context.euid bytes verification.manifest digest releases
            (releases.put (stageName verification.manifest.releaseCounter random) stage) :=
          unspoilt_stage ht random
        refine Steps.spec_bind (Steps.spec_step (hstage _) ?_)
        refine Steps.spec_bind (Steps.spec_zoom (Steps.spec_run ?_ ?_))
        · intro stage
          rw [Node.put_put]
          exact hstage stage
        · rw [run_fillStageSteps, Node.put_put]
          by_cases hapart : (stagedPaths verification.manifest).Pairwise Node.Apart
          · rw [fillStage_extracted h hapart]
            have hvacant : releases.child (decimal verification.manifest.releaseCounter.toNat) = none :=
              openDirectory_missing.mp hopen
            have hcommitted : Unspoilt context.euid bytes verification.manifest digest releases
                (releases.put (decimal verification.manifest.releaseCounter.toNat)
                  (extracted context.euid bytes verification digest)) := by
              refine ⟨Node.trusted_put.trans ht, iff_of_true (Or.inr ?_) (Or.inl ⟨hvacant, hapart⟩)⟩
              exact ⟨_, Node.child_put_self (Node.isDirectory_of_trusted ht), extracted_matches h hapart⟩
            dsimp only
            rw [← Node.rename_put hname] at hcommitted
            exact Steps.spec_bind (Steps.spec_step hcommitted (Steps.spec_pure hcommitted))
          · obtain ⟨stage, detail, hfill⟩ := fillStage_failed context.euid digest h hapart
            rw [hfill]
            exact Steps.spec_pure (hstage stage)

lemma stageVerifiedReleaseSteps_spec (h : Extractable bytes verification) :
    Steps.Spec root (stageVerifiedReleaseSteps context storeRoot bytes verification digest)
      (fun after => Takes context.euid after bytes verification.manifest digest ↔
        Takes context.euid root bytes verification.manifest digest)
      fun _ after => Takes context.euid after bytes verification.manifest digest ↔
        Takes context.euid root bytes verification.manifest digest := by
  have hself : Takes context.euid root bytes verification.manifest digest ↔
    Takes context.euid root bytes verification.manifest digest := Iff.rfl
  unfold stageVerifiedReleaseSteps
  split
  · exact Steps.spec_pure hself
  split
  · exact Steps.spec_pure hself
  split
  · exact Steps.spec_pure hself
  split
  · exact Steps.spec_pure hself
  refine Steps.spec_bind (Steps.spec_current ?_)
  cases root with
  | none => exact Steps.spec_pure hself
  | some node =>
    dsimp only
    split <;> rename_i htrusted
    · exact Steps.spec_pure hself
    have ht : node.trusted context.euid = true := by simpa using htrusted
    refine Steps.spec_zoom ?_
    cases hd : node.directoryAt context.euid 0o700 (releasesPath verification.manifest.appId) with
    | none =>
      have hblocked : ∀ after, Node.Blocked context.euid 0o700 (releasesPath verification.manifest.appId)
          node after → (Takes context.euid (some after) bytes verification.manifest digest ↔
            Takes context.euid (some node) bytes verification.manifest digest) := by
        intro after hafter
        simp [Takes, releasesDirectory, hafter.trusted, hafter.target, ht, hd]
      exact (Node.insideSteps_blocked (by decide) ht hd).weaken hblocked fun _ => hblocked
    | some releases =>
      have hrt := Node.directoryAt_trusted (by decide) ht hd
      have hleads : ∀ after, Node.Leads context.euid 0o700 (releasesPath verification.manifest.appId)
          (Unspoilt context.euid bytes verification.manifest digest releases) after →
          (Takes context.euid (some after) bytes verification.manifest digest ↔
            Takes context.euid (some node) bytes verification.manifest digest) := by
        rintro after ⟨hat, found, hfound, hunspoilt⟩
        simp [Takes, releasesDirectory, hat, hfound, ht, hd, hunspoilt.fits]
      exact (Node.insideSteps_leads (by decide) ht hd ⟨hrt, Iff.rfl⟩ (fun _ => Unspoilt.trusted)
        (commitReleaseSteps_spec h hrt)).weaken hleads fun _ => hleads

end

structure SlotsHold (euid : ℕ) (record : Bytes) (application : Node) : Prop where
  trusted : application.trusted euid = true
  slots : ∀ slot, slot = slotA ∨ slot = slotB → application.child slot = none ∨
    application.child slot = some (.file { uid := euid, mode := 0o400 } record)

def StoreHolds (euid : ℕ) (state : ApplicationReleaseState) (crypto : CryptoProvider)
    (policy : Option Node) : Prop :=
  openStore euid policy state.appId = .missing ∨
    (encodeReleaseState state crypto).ok = true ∧ ∃ directory,
      openStore euid policy state.appId = .opened directory ∧
        SlotsHold euid (stateBytes crypto state) directory

section

variable {euid : ℕ} {record slot : Bytes} {application node : Node} {random : Option (ByteArr 16)}
  {randoms : SlotRandoms} {generation : UInt64} {crypto : CryptoProvider}
  {state : ApplicationReleaseState} {policy : Option Node}

lemma SlotsHold.temporary (h : SlotsHold euid record application) (slot : Bytes) (random : ByteArr 16)
    (file : Node) : SlotsHold euid record (application.put (temporarySlot slot random) file) := by
  obtain ⟨hA, hB⟩ := temporarySlot_ne slot random
  refine ⟨Node.trusted_put.trans h.trusted, ?_⟩
  rintro other (rfl | rfl)
  · rw [Node.child_put_of_ne hA]
    exact h.slots _ (Or.inl rfl)
  · rw [Node.child_put_of_ne hB]
    exact h.slots _ (Or.inr rfl)

lemma SlotsHold.written (h : SlotsHold euid record application) (slot : Bytes) :
    SlotsHold euid record (application.put slot (.file { uid := euid, mode := 0o400 } record)) := by
  refine ⟨Node.trusted_put.trans h.trusted, ?_⟩
  intro other hother
  by_cases hne : other = slot
  · subst hne
    exact Or.inr (Node.child_put_self (Node.isDirectory_of_trusted h.trusted))
  · rw [Node.child_put_of_ne hne]
    exact h.slots other hother

lemma writeSlotSteps_spec (h : SlotsHold euid record application) :
    Steps.Spec application (writeSlotSteps euid random slot record) (SlotsHold euid record)
      fun _ => SlotsHold euid record := by
  cases random with
  | none => exact Steps.spec_pure h
  | some random =>
    refine Steps.spec_bind (Steps.spec_current ?_)
    cases hc : application.child (temporarySlot slot random) with
    | some found => exact Steps.spec_pure h
    | none =>
      refine Steps.spec_bind ((Node.writeSteps_spec fun stat written => h.temporary slot random _).run ?_)
      rw [Node.run_writeSteps]
      split
      · exact Steps.spec_pure (h.temporary slot random _)
      · have hwritten := h.written slot
        rw [← Node.rename_put hc] at hwritten
        exact Steps.spec_bind (Steps.spec_step hwritten (Steps.spec_pure hwritten))

lemma writeSlotsSteps_spec (h : SlotsHold euid record application) :
    Steps.Spec application (writeSlotsSteps euid randoms generation record) (SlotsHold euid record)
      fun _ => SlotsHold euid record := by
  refine Steps.spec_bind ((writeSlotSteps_spec h).weaken (fun _ => id) ?_)
  intro write application happlication
  cases write with
  | randomFailed => exact Steps.spec_pure happlication
  | ioFailed => exact Steps.spec_pure happlication
  | written =>
    refine Steps.spec_bind ((writeSlotSteps_spec happlication).weaken (fun _ => id) ?_)
    intro write application happlication
    cases write with
    | randomFailed => exact Steps.spec_pure happlication
    | ioFailed => exact Steps.spec_pure happlication
    | written => exact Steps.spec_pure happlication

lemma openStore_walk {appId : Bytes} : openStore euid (some node) appId =
    match node.walk euid (slotsPath appId) with
    | .missing => .missing
    | .refused => .untrusted
    | .directory directory => .opened directory := by
  unfold openStore
  simp only [slotsPath, Node.walk]
  by_cases ht : node.trusted euid = true
  · simp only [ht, Bool.not_true, Bool.false_eq_true, if_false, if_true]
    cases node.openDirectory (text "apps") with
    | missing => rfl
    | refused => rfl
    | directory apps =>
      by_cases hat : apps.trusted euid = true
      · simp only [hat, Bool.not_true, Bool.false_eq_true, if_false, if_true]
        cases apps.openDirectory appId with
        | missing => rfl
        | refused => rfl
        | directory application => by_cases htrusted : application.trusted euid = true <;> simp [htrusted]
      · simp [hat]
  · simp [ht]

lemma walk_missing {appId : Bytes} (h : openStore euid (some node) appId = .missing) :
    node.walk euid (slotsPath appId) = .missing := by
  rw [openStore_walk] at h
  split at h
  · assumption
  · cases h
  · cases h

lemma persistReleaseStateSteps_spec (h : openStore euid policy state.appId = .missing) :
    Steps.Spec policy (persistReleaseStateSteps euid randoms state crypto)
      (StoreHolds euid state crypto) fun _ => StoreHolds euid state crypto := by
  have hself : StoreHolds euid state crypto policy := Or.inl h
  unfold persistReleaseStateSteps
  dsimp only
  split
  · exact Steps.spec_pure hself
  split <;> rename_i hencodes
  · exact Steps.spec_pure hself
  refine Steps.spec_bind (Steps.spec_current ?_)
  cases policy with
  | none => exact Steps.spec_pure hself
  | some node =>
    dsimp only
    split <;> rename_i htrusted
    · exact Steps.spec_pure hself
    have ht : node.trusted euid = true := by simpa using htrusted
    have hmissing := walk_missing h
    have hempty : SlotsHold euid (stateBytes crypto state) (.directory { uid := euid, mode := 0o700 } []) :=
      ⟨Node.trusted_directory (by decide) [], fun _ _ => Or.inl rfl⟩
    have harrives : ∀ after, Node.Arrives euid (slotsPath state.appId)
        (SlotsHold euid (stateBytes crypto state)) after → StoreHolds euid state crypto (some after) := by
      rintro after ⟨-, hwalk | ⟨found, hwalk, hholds⟩⟩
      · exact Or.inl (by rw [openStore_walk, hwalk])
      · exact Or.inr ⟨by simpa using hencodes, found, by rw [openStore_walk, hwalk], hholds⟩
    exact Steps.spec_zoom ((Node.insideSteps_arrives (by decide) ht (Node.directoryAt_missing hmissing)
      hempty (fun _ => SlotsHold.trusted) (writeSlotsSteps_spec hempty)).weaken harrives fun _ => harrives)

/-- Persisting the first state of an application passes through a directory without its slots. -/
lemma persistReleaseStateSteps_creates (h : openStore euid policy state.appId = .missing)
    (happ : appId state.appId = true) (hencodes : (encodeReleaseState state crypto).ok = true) :
    ∃ after, Steps.Visits (persistReleaseStateSteps euid randoms state crypto) policy after ∧
      Uninitialized euid after state.appId := by
  cases policy with
  | none => cases h
  | some node =>
    have hmissing := walk_missing h
    have ht : node.trusted euid = true := Node.trusted_of_walk hmissing (by simp)
    obtain ⟨t, hvisits, hwalk⟩ := @Node.insideSteps_creates _ euid 0o700
      (storeResult .rootUntrusted "STATE_STORE_PATH_UNTRUSTED")
      (writeSlotsSteps euid randoms state.generation (encodeReleaseState state crypto).bytes) node
      (slotsPath state.appId) (by decide) ht hmissing
    refine ⟨some t, ?_, .directory { uid := euid, mode := 0o700 } [], ?_, rfl, rfl⟩
    · unfold persistReleaseStateSteps
      dsimp only
      rw [if_neg (by simp [happ]), if_neg (by simp [hencodes])]
      refine Steps.Visits.rest ?_
      simp only [Steps.run_current, ht, Bool.not_true, Bool.false_eq_true, if_false]
      exact Steps.Visits.zoom hvisits
    · rw [openStore_walk, hwalk]

end

end LvglPlatform
