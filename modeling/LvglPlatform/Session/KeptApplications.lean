import LvglPlatform.Session.SystemRuns

/-! What the session can launch after a run of the system: every application that still has its
directory, in the release that is recorded as the current one. -/

namespace LvglPlatform

open Foundation

section

variable {env : Environment} {profile : CertifiedSessionProfile} {root payload : Node} {appId : Bytes}
  {record : ReleaseRecord} {state : ApplicationReleaseState}

lemma committedRelease_opened {euid : ℕ} {counter : UInt64} {release : Node}
    (hpassable : Passable euid (some payload) appId)
    (hrelease : committedRelease (some payload) appId counter = some release)
    (ht : release.trusted euid = true) :
    payload.openTrusted euid (releasesPath appId ++ [decimal counter.toNat]) = some release := by
  obtain ⟨node, hnode, hwalk⟩ := hpassable
  obtain rfl := Option.some.inj hnode
  rw [committedRelease_some] at hrelease
  cases hfound : payload.walk euid (releasesPath appId) with
  | refused => exact absurd hfound hwalk
  | missing =>
    rw [Node.lookup_of_missing hfound] at hrelease
    cases hrelease
  | directory releases =>
    rw [Node.lookup_of_walk hfound, lookup_singleton] at hrelease
    rw [Node.openTrusted_append, Node.walk_directory.mp hfound, Option.bind_some]
    exact openTrusted_singleton (Node.walk_trusted hfound) hrelease ht

lemma InPlace.measured (h : InPlace env (launchContext profile) (storesOf root) record)
    (hroot : env.euid = 0) (hpassable : Passable env.euid (storesOf root).payload record.appId)
    (happs : (root.openTrusted 0 appsPath).isSome = true)
    (hnamed : validSessionAppId record.appId = true)
    (havailable : reservedApplicationId record.appId = false) :
    ∃ application, verifyApplicationRelease env root record profile = some (some application) := by
  obtain ⟨release, hrelease, bytes, verification, hpackage, rfl⟩ := h
  obtain ⟨apps, happs⟩ := Option.isSome_iff_exists.mp happs
  obtain ⟨payload, hpayload, hwalk⟩ := hpassable
  have hofficial := hpackage.official
  rw [hroot] at hrelease hwalk
  have htrusted : (extracted 0 bytes verification record.digest).trusted 0 = true := extracted_trusted _ _ _ _
  have hopened := @committedRelease_opened payload record.appId 0 record.counter _ ⟨payload, rfl, hwalk⟩
    (hpayload ▸ hrelease) htrusted
  have hpath : root.openTrusted 0 (applicationPayloadRoot ++ (releasesPath record.appId ++
      [decimal record.counter.toNat])) = some (extracted 0 bytes verification record.digest) := by
    rw [Node.openTrusted_append, open_payloadRoot happs hpayload (Node.trusted_of_walk rfl hwalk)]
    exact hopened
  have hremeasures : Remeasures (extracted 0 bytes verification record.digest) bytes verification :=
    extracted_remeasures hofficial hpackage.apart
  refine ⟨⟨_, verification, bytes⟩, verifyApplicationRelease_iff.mpr ⟨hnamed, havailable, ?_, ?_, ?_,
    htrusted, hremeasures.package, hpackage.verified, ?_⟩⟩
  · rw [← hpackage.counter]
    exact hofficial.extractable.counter
  · have hkey := hofficial.keyId
    simp only [keyId, lowercaseHex, Bool.and_eq_true, decide_eq_true_eq] at hkey
    rw [← hpackage.signer]
    exact hkey.1
  · rw [open_applicationRelease hnamed]
    exact hpath
  · exact measureRelease_iff.mpr ⟨hofficial.extractable.authenticated, hpackage.digest, hpackage.appId,
      hpackage.counter, hpackage.signer, hremeasures.files, hpackage.allowed⟩

end

/-- After a run that never takes an application's directory away, its current release passes the
measurement before a launch, and so does the one a rollback would go back to. -/
theorem kept_applications_launch (env : Environment) (profile : CertifiedSessionProfile)
    (root after : Node) (appId : Bytes) (state : ApplicationReleaseState) (hroot : env.euid = 0)
    (hhealthy : Healthy env (launchContext profile) (storesOf root))
    (hnamed : Named env (launchContext profile) (storesOf root) appId)
    (hrun : RunKeeping env profile appId root after)
    (happs : (after.openTrusted 0 appsPath).isSome = true) (hsession : validSessionAppId appId = true)
    (havailable : reservedApplicationId appId = false)
    (hstate : recordedState env (storesOf after) appId = some state) :
    (∃ application, verifyInstalledApplication env after appId profile = some (some application)) ∧
      (state.previousRelease ≠ 0 →
        ∃ application, verifyApplicationRelease env after (previousRecord state appId) profile =
          some (some application)) := by
  obtain ⟨hwell, happ⟩ := recordedState_wellformed hstate
  have hupheld := StoreRun.upheld (RunKeeping.refines hrun hhealthy) hhealthy (happ ▸ hwell.appId)
  obtain ⟨hcurrent, hprevious⟩ := hupheld.named (fun hne => hne rfl) hnamed state hstate
  have hpassable := hupheld.consistent.passable
  obtain ⟨hloaded, hselected⟩ := loadedState_some hstate
  constructor
  · have hstored : (storedReleaseOf env after appId).isLoaded = true := hloaded
    have hrecord : (storedReleaseOf env after appId).selected.state = state := hselected
    rw [verifyInstalledApplication, if_neg (by simp [hsession, havailable])]
    dsimp only
    rw [hrecord, if_neg (by simp [hstored, hwell.current])]
    exact hcurrent.measured hroot hpassable happs hsession havailable
  · exact fun hne => (hprevious hne).measured hroot hpassable happs hsession havailable

theorem updated_application_launches :
    secondState.previousRelease = 1 ∧
      (∃ application, verifyInstalledApplication installEnvironment updatedRoot (text "org.pen.demo")
        penProfile = some (some application)) ∧
      ∃ application, verifyApplicationRelease installEnvironment updatedRoot
        (previousRecord secondState (text "org.pen.demo")) penProfile = some (some application) := by
  have hkept : ∀ root after, (applicationDirectory root (text "org.pen.demo")).isSome = false ∨
      (applicationDirectory after (text "org.pen.demo")).isSome = true →
      text "org.pen.demo" ∉ Lost root after := by
    rintro root after hthere ⟨-, hbefore, hgone⟩
    rcases hthere with hnone | hsome
    · cases hnone.symm.trans hbefore
    · rw [hgone] at hsome
      cases hsome
  have hnamed : Named installEnvironment (launchContext penProfile) (storesOf freshSystem)
      (text "org.pen.demo") := by
    have hnone : recordedState installEnvironment (storesOf freshSystem) (text "org.pen.demo") = none := by
      decide
    intro state hstate
    rw [hnone] at hstate
    cases hstate
  have hrun : RunKeeping installEnvironment penProfile (text "org.pen.demo") freshSystem updatedRoot :=
    .tail (.single ⟨installedSystem_step firstRelease_first.verified, hkept _ _ (.inl (by decide))⟩)
      ⟨installedSystem_step secondRelease_verified, hkept _ _ (.inr (by decide +kernel))⟩
  obtain ⟨hcurrent, hprevious⟩ := kept_applications_launch installEnvironment penProfile freshSystem _
    (text "org.pen.demo") secondState rfl freshSystem_healthy hnamed hrun (by decide +kernel)
    (by decide) (by decide) updatedRoot_recorded
  exact ⟨by decide, hcurrent, hprevious (by decide)⟩

end LvglPlatform
