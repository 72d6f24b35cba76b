import LvglPlatform.Foundation.TreeFrame
import LvglPlatform.Storage.InterruptedStore

/-! The releases of a payload store while a package is staged: a release is there as a whole or not at
all, wherever staging stops. -/

namespace LvglPlatform

open Foundation

/-- The releases are those from before, but for the package's own, which may have been added. -/
structure Adds (euid : ℕ) (bytes : Bytes) (verification : PackageVerification) (digest : Sha512Digest)
    (before after : Node) : Prop where
  trusted : after.trusted euid = true
  releases : ∀ counter : UInt64,
    after.child (decimal counter.toNat) = before.child (decimal counter.toNat) ∨
      counter = verification.manifest.releaseCounter ∧ before.child (decimal counter.toNat) = none ∧
        (stagedPaths verification.manifest).Pairwise Node.Apart ∧
        after.child (decimal counter.toNat) = some (extracted euid bytes verification digest)

/-- The way to the releases of an application is free: what is there of it can be trusted. -/
def Passable (euid : ℕ) (payload : Option Node) (appId : Bytes) : Prop :=
  ∃ node, payload = some node ∧ node.walk euid (releasesPath appId) ≠ .refused

def ListedOnce (payload : Option Node) : Prop :=
  ∀ node ∈ payload, ∀ apps, node.child (text "apps") = some apps → Node.Distinct LvglPlatform.appId apps

/-- What staging a package may do to a payload store, wherever it stops. -/
structure Commits (euid : ℕ) (bytes : Bytes) (verification : PackageVerification) (digest : Sha512Digest)
    (before after : Option Node) : Prop where
  releases : ∀ appId counter, committedRelease after appId counter = committedRelease before appId counter ∨
    appId = verification.manifest.appId ∧ counter = verification.manifest.releaseCounter ∧
      committedRelease before appId counter = none ∧
      (stagedPaths verification.manifest).Pairwise Node.Apart ∧
      committedRelease after appId counter = some (extracted euid bytes verification digest)
  passable : ∀ appId, Passable euid before appId → Passable euid after appId
  listed : ListedOnce before → ListedOnce after
  present : after.isSome = before.isSome

section

variable {euid : ℕ} {bytes releasePath storeRoot : Bytes} {verification : PackageVerification}
  {digest : Sha512Digest} {context : StagingContext} {releases node : Node} {root : Option Node}

lemma adds_self (ht : releases.trusted euid = true) : Adds euid bytes verification digest releases releases :=
  ⟨ht, fun _ => Or.inl rfl⟩

lemma adds_stage (ht : releases.trusted euid = true) (random : ByteArr 16) (stage : Node) :
    Adds euid bytes verification digest releases
      (releases.put (stageName verification.manifest.releaseCounter random) stage) :=
  ⟨Node.trusted_put.trans ht, fun _ => Or.inl (Node.child_put_of_ne (decimal_ne_stageName _ _ _))⟩

lemma adds_release (ht : releases.trusted euid = true)
    (hvacant : releases.child (decimal verification.manifest.releaseCounter.toNat) = none)
    (hapart : (stagedPaths verification.manifest).Pairwise Node.Apart) :
    Adds euid bytes verification digest releases
      (releases.put (decimal verification.manifest.releaseCounter.toNat)
        (extracted euid bytes verification digest)) := by
  refine ⟨Node.trusted_put.trans ht, fun counter => ?_⟩
  by_cases hcounter : counter = verification.manifest.releaseCounter
  · subst hcounter
    exact Or.inr ⟨rfl, hvacant, hapart, Node.child_put_self (Node.isDirectory_of_trusted ht)⟩
  · refine Or.inl (Node.child_put_of_ne fun he => hcounter ?_)
    exact UInt64.toNat_inj.mp (decimal_injective he)

/-- The release appears in one step, when its stage directory is complete. -/
lemma commitReleaseSteps_adds (h : Extractable bytes verification)
    (ht : releases.trusted context.euid = true) :
    Steps.Spec releases (commitReleaseSteps context releasePath bytes verification digest)
      (Adds context.euid bytes verification digest releases)
      fun _ => Adds context.euid bytes verification digest releases := by
  have hself : Adds context.euid bytes verification digest releases releases := adds_self ht
  refine Steps.spec_bind (Steps.spec_current ?_)
  cases hopen : releases.openDirectory (decimal verification.manifest.releaseCounter.toNat) with
  | directory existing =>
    dsimp only
    split
    · exact Steps.spec_pure hself
    · exact Steps.spec_pure hself
  | refused => exact Steps.spec_pure hself
  | missing =>
    cases hrandom : context.random with
    | none => exact Steps.spec_pure hself
    | some random =>
      dsimp only
      cases hname : releases.child (stageName verification.manifest.releaseCounter random) with
      | some found => exact Steps.spec_pure hself
      | none =>
        have hstage : ∀ stage, Adds context.euid bytes verification digest releases
            (releases.put (stageName verification.manifest.releaseCounter random) stage) :=
          adds_stage ht random
        refine Steps.spec_bind (Steps.spec_step (hstage _) ?_)
        refine Steps.spec_bind (Steps.spec_zoom (Steps.spec_run ?_ ?_))
        · intro stage
          rw [Node.put_put]
          exact hstage stage
        rw [run_fillStageSteps, Node.put_put]
        by_cases hapart : (stagedPaths verification.manifest).Pairwise Node.Apart
        · rw [fillStage_extracted h hapart]
          have hcommitted : Adds context.euid bytes verification digest releases
              (releases.put (decimal verification.manifest.releaseCounter.toNat)
                (extracted context.euid bytes verification digest)) :=
            adds_release ht (openDirectory_missing.mp hopen) hapart
          dsimp only
          rw [← Node.rename_put hname] at hcommitted
          exact Steps.spec_bind (Steps.spec_step hcommitted (Steps.spec_pure hcommitted))
        · obtain ⟨stage, detail, hfill⟩ := fillStage_failed context.euid digest h hapart
          rw [hfill]
          exact Steps.spec_pure (hstage stage)

lemma commits_self : Commits euid bytes verification digest root root :=
  ⟨fun _ _ => Or.inl rfl, fun _ => id, id, rfl⟩

lemma commits_beside {after : Node}
    (hbeside : Node.Beside euid (releasesPath verification.manifest.appId) node after)
    (hown : ∀ counter : UInt64,
      committedRelease (some after) verification.manifest.appId counter =
          committedRelease (some node) verification.manifest.appId counter ∨
        counter = verification.manifest.releaseCounter ∧
          committedRelease (some node) verification.manifest.appId counter = none ∧
          (stagedPaths verification.manifest).Pairwise Node.Apart ∧
          committedRelease (some after) verification.manifest.appId counter =
            some (extracted euid bytes verification digest))
    (hpath : Passable euid (some node) verification.manifest.appId →
      Passable euid (some after) verification.manifest.appId)
    (hlisted : ListedOnce (some node) → ListedOnce (some after)) :
    Commits euid bytes verification digest (some node) (some after) := by
  refine ⟨fun appId counter => ?_, fun appId hpassable => ?_, hlisted, rfl⟩
  · by_cases happ : appId = verification.manifest.appId
    · subst happ
      rcases hown counter with hkept | hadded
      · exact Or.inl hkept
      · exact Or.inr ⟨rfl, hadded⟩
    · left
      rw [committedRelease_some, committedRelease_some, hbeside.lookup _ (releasesPath_apart happ _)]
  · by_cases happ : appId = verification.manifest.appId
    · subst happ
      exact hpath hpassable
    · obtain ⟨start, hstart, hwalk⟩ := hpassable
      obtain rfl := Option.some.inj hstart
      refine ⟨after, rfl, ?_⟩
      have hapart := releasesPath_apart happ []
      rw [List.append_nil] at hapart
      rwa [hbeside.walk _ hapart]

lemma commits_blocked {after : Node}
    (hblocked : Node.Blocked euid 0o700 (releasesPath verification.manifest.appId) node after)
    (hbeside : Node.Beside euid (releasesPath verification.manifest.appId) node after)
    (hnone : node.directoryAt euid 0o700 (releasesPath verification.manifest.appId) = none)
    (hlisted : ListedOnce (some node) → ListedOnce (some after)) :
    Commits euid bytes verification digest (some node) (some after) := by
  refine commits_beside hbeside (fun counter => Or.inl ?_) ?_ hlisted
  · rw [committedRelease_some, committedRelease_some, hblocked.lookup _ (List.cons_ne_nil _ _)]
  · rintro ⟨start, hstart, hwalk⟩
    obtain rfl := Option.some.inj hstart
    cases hfound : node.walk euid (releasesPath verification.manifest.appId) with
    | refused => exact absurd hfound hwalk
    | missing =>
      rw [Node.directoryAt_missing hfound] at hnone
      cases hnone
    | directory found =>
      rw [Node.directoryAt_walk hfound] at hnone
      cases hnone

lemma commits_leads {after : Node} (hd : node.directoryAt euid 0o700
      (releasesPath verification.manifest.appId) = some releases)
    (hleads : Node.Leads euid 0o700 (releasesPath verification.manifest.appId)
      (Adds euid bytes verification digest releases) after)
    (hbeside : Node.Beside euid (releasesPath verification.manifest.appId) node after)
    (hlisted : ListedOnce (some node) → ListedOnce (some after)) :
    Commits euid bytes verification digest (some node) (some after) := by
  obtain ⟨hat, found, hfound, hadds⟩ := hleads
  refine commits_beside hbeside (fun counter => ?_) (fun _ => ⟨after, rfl, ?_⟩) hlisted
  · rw [committedRelease_some, committedRelease_some, Node.directoryAt_lookup hd (List.cons_ne_nil _ _),
      Node.directoryAt_lookup hfound (List.cons_ne_nil _ _), lookup_singleton, lookup_singleton]
    exact hadds.releases counter
  · rcases Node.directoryAt_cases hat hfound (by decide) with hwalk | ⟨hwalk, -⟩
    · simp [hwalk]
    · simp [hwalk]

lemma insideSteps_listed {α : Type} {failed : α} {action : Steps Node α} (appId : Bytes)
    (ht : node.trusted euid = true) :
    Steps.Spec node (Node.insideSteps euid 0o700 failed action (releasesPath appId))
      (fun after => ListedOnce (some node) → ListedOnce (some after))
      fun _ after => ListedOnce (some node) → ListedOnce (some after) := by
  by_cases hlisted : ListedOnce (some node)
  · have honce : ∀ after, (∀ apps, after.child (text "apps") = some apps →
        Node.Distinct LvglPlatform.appId apps) → ListedOnce (some node) → ListedOnce (some after) := by
      rintro after h - _ ⟨⟩
      exact h
    exact (Node.insideSteps_distinct (by decide) ht (hlisted node rfl)).weaken honce fun _ => honce
  · exact ⟨fun _ _ h => absurd h hlisted, fun h => absurd h hlisted⟩

lemma stageVerifiedReleaseSteps_commits (h : Extractable bytes verification) :
    Steps.Spec root (stageVerifiedReleaseSteps context storeRoot bytes verification digest)
      (Commits context.euid bytes verification digest root)
      fun _ => Commits context.euid bytes verification digest root := by
  have hself : Commits context.euid bytes verification digest root root := commits_self
  unfold stageVerifiedReleaseSteps
  split
  · exact Steps.spec_pure hself
  split
  · exact Steps.spec_pure hself
  split
  · exact Steps.spec_pure hself
  split
  · exact Steps.spec_pure hself
  refine Steps.spec_bind (Steps.spec_current ?_)
  cases root with
  | none => exact Steps.spec_pure hself
  | some node =>
    dsimp only
    split <;> rename_i htrusted
    · exact Steps.spec_pure hself
    have ht : node.trusted context.euid = true := by simpa using htrusted
    refine Steps.spec_zoom ?_
    have hbeside := @Node.insideSteps_beside _ context.euid 0o700
      (stagingResult .pathRejected "STORAGE_DIRECTORY_REJECTED")
      (commitReleaseSteps context (releaseText storeRoot verification) bytes verification digest) node
      (releasesPath verification.manifest.appId) (by decide) ht fun target htarget =>
        (commitReleaseSteps_adds h (Node.directoryAt_trusted (by decide) ht htarget)).weaken
          (fun _ => Adds.trusted) fun _ _ => Adds.trusted
    have hlisted : Steps.Spec node (Node.insideSteps context.euid 0o700
        (stagingResult .pathRejected "STORAGE_DIRECTORY_REJECTED")
        (commitReleaseSteps context (releaseText storeRoot verification) bytes verification digest)
        (releasesPath verification.manifest.appId)) _ _ := insideSteps_listed _ ht
    have hframe := hbeside.and hlisted
    cases hd : node.directoryAt context.euid 0o700 (releasesPath verification.manifest.appId) with
    | none =>
      have hblocked : ∀ after, Node.Blocked context.euid 0o700 (releasesPath verification.manifest.appId)
          node after ∧ Node.Beside context.euid (releasesPath verification.manifest.appId) node after ∧
            (ListedOnce (some node) → ListedOnce (some after)) →
          Commits context.euid bytes verification digest (some node) (some after) :=
        fun after hafter => commits_blocked hafter.1 hafter.2.1 hd hafter.2.2
      exact ((Node.insideSteps_blocked (by decide) ht hd).and hframe).weaken hblocked fun _ => hblocked
    | some releases =>
      have hrt := Node.directoryAt_trusted (by decide) ht hd
      have hleads : ∀ after, Node.Leads context.euid 0o700 (releasesPath verification.manifest.appId)
          (Adds context.euid bytes verification digest releases) after ∧
          Node.Beside context.euid (releasesPath verification.manifest.appId) node after ∧
            (ListedOnce (some node) → ListedOnce (some after)) →
          Commits context.euid bytes verification digest (some node) (some after) :=
        fun after hafter => commits_leads hd hafter.1 hafter.2.1 hafter.2.2
      exact ((Node.insideSteps_leads (by decide) ht hd (adds_self hrt) (fun _ => Adds.trusted)
        (commitReleaseSteps_adds h hrt)).and hframe).weaken hleads fun _ => hleads

end

end LvglPlatform
