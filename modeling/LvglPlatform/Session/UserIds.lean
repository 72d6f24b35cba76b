import LvglPlatform.Session.SessionTrace
import LvglPlatform.Session.SnapshotTokens

namespace LvglPlatform

open Foundation

/-- The applications that are installed, however many there are. -/
def installedApplications (root : Node) : List Bytes :=
  match root.lookup applicationsPath with
  | none => []
  | some applications => (applications.entries.filter fun entry =>
      validSessionAppId entry.1 && !reservedApplicationId entry.1 && trustedDirectory entry.2).map Prod.fst

def SharedUser (others : List Bytes) (appId : Bytes) : Prop :=
  ∃ other ∈ others, other ≠ appId ∧ applicationUid other = applicationUid appId

def applicationUser (appId : Bytes) : ProgramPolicy where
  uid := applicationUid appId
  gid := applicationUid appId

/-- There is neither an installed nor a built-in program of the application. -/
def Programless (env : Environment) (profile : CertifiedSessionProfile) (platform : VerifiedRelease)
    (root : Node) (appId : Bytes) : Prop :=
  openInstalledProgram env profile root (applicationUser appId) appId = some none ∧
    openBuiltInProgram platform (applicationUser appId) appId = none

section

variable {env : Environment} {profile : CertifiedSessionProfile} {platform : VerifiedRelease}
  {enumerates : Bool} {root : Node} {appId : Bytes} {ids : List Bytes} {program : VerifiedProgram}

lemma applicationUidIsUnique_iff :
    applicationUidIsUnique ids appId = true ↔ ¬ SharedUser (builtInApplications ++ ids) appId := by
  rw [applicationUidIsUnique, List.all_eq_true, SharedUser]
  push Not
  refine forall₂_congr fun other _ => ?_
  rw [Bool.or_eq_true, decide_eq_true_eq, decide_eq_true_eq, or_iff_not_imp_left]

lemma SharedUser.mono {others : List Bytes} (hsubset : ids ⊆ others) (h : SharedUser ids appId) :
    SharedUser others appId := by
  obtain ⟨other, hother, hshared⟩ := h
  exact ⟨other, hsubset hother, hshared⟩

lemma sharedUser_append {others : List Bytes} :
    SharedUser (ids ++ others) appId ↔ SharedUser ids appId ∨ SharedUser others appId := by
  simp only [SharedUser, List.mem_append, or_and_right, exists_or]

lemma mem_installedApplicationIds (h : installedApplicationIds root = some ids) {app : Bytes} :
    app ∈ ids ↔ app ∈ installedApplications root := by
  rw [installedApplicationIds] at h
  split at h
  · cases h
  rename_i store hstore
  have hlookup : root.lookup applicationsPath = store.child (text "apps") := by
    rw [applicationsPath, Node.lookup_append, openApplicationStore_lookup hstore, Option.bind_some,
      lookup_singleton]
  rw [installedApplications, hlookup]
  split at h
  · rename_i hopen
    obtain rfl := Option.some.inj h
    rw [openDirectory_missing.mp hopen]
  · cases h
  rename_i applications hopen
  split at h
  · cases h
  simp only at h
  split at h
  · cases h
  obtain rfl := Option.some.inj h
  rw [child_of_opened hopen, mem_sortUnique byteLe_linear]
  simp only [id_eq]
  constructor
  · intro hfind
    exact List.mem_of_find?_eq_some hfind
  · intro hmem
    cases hfind : List.find? (fun other => decide (other = app)) _ with
    | none => exact absurd (decide_eq_true rfl) (List.find?_eq_none.mp hfind app hmem)
    | some found =>
      have hfound := List.find?_some hfind
      rw [of_decide_eq_true hfound]

lemma openVerifiedProgram_user
    (h : openVerifiedProgram env profile platform false enumerates root appId = some (some program)) :
    program.policy.uid = applicationUid appId := by
  rw [openVerifiedProgram] at h
  generalize (if enumerates then (installedApplicationIds root).getD [] else []) = installed at h
  dsimp only at h
  split at h
  · cases Option.some.inj h
  obtain ⟨opened, hopened, h⟩ := Option.map_eq_some_iff.mp h
  cases opened with
  | none =>
    rw [Option.none_or, openBuiltInProgram] at h
    split at h
    · cases h
    · obtain ⟨executable, -, rfl⟩ := Option.map_eq_some_iff.mp h
      rfl
  | some opened =>
    obtain rfl := Option.some.inj h
    rw [openInstalledProgram] at hopened
    split at hopened
    · cases Option.some.inj hopened
    obtain ⟨found, -, hopened⟩ := Option.map_eq_some_iff.mp hopened
    obtain ⟨application, rfl, hopened⟩ := Option.bind_eq_some_iff.mp hopened
    obtain ⟨executable, -, rfl⟩ := Option.map_eq_some_iff.mp hopened
    rfl

lemma openVerifiedProgram_refused :
    openVerifiedProgram env profile platform false enumerates root appId = some none ↔
      SharedUser (builtInApplications ++
        if enumerates then (installedApplicationIds root).getD [] else []) appId ∨
      Programless env profile platform root appId := by
  rw [openVerifiedProgram]
  generalize (if enumerates then (installedApplicationIds root).getD [] else []) = installed
  dsimp only
  by_cases hshared : SharedUser (builtInApplications ++ installed) appId
  · have hunique : applicationUidIsUnique installed appId = false :=
      Bool.eq_false_iff.mpr fun h => applicationUidIsUnique_iff.mp h hshared
    rw [hunique, if_pos (by rfl)]
    exact iff_of_true rfl (.inl hshared)
  · rw [applicationUidIsUnique_iff.mpr hshared, if_neg (by decide), or_iff_right hshared,
      if_neg Bool.false_ne_true, Option.map_eq_some_iff, Programless]
    change (∃ opened, openInstalledProgram env profile root (applicationUser appId) appId = some opened ∧
      opened.or (openBuiltInProgram platform (applicationUser appId) appId) = none) ↔ _
    simp only [Option.or_eq_none_iff]
    constructor
    · rintro ⟨opened, hopened, rfl, hbuiltIn⟩
      exact ⟨hopened, hbuiltIn⟩
    · rintro ⟨hopened, hbuiltIn⟩
      exact ⟨none, hopened, rfl, hbuiltIn⟩

end

/-- A program of a certified profile runs as the user of its own application, and it is refused
whenever another application has that user, exactly when the enumeration of the installed applications
can be relied on or nothing depends on it. -/
theorem shared_users_refused (env : Environment) (profile : CertifiedSessionProfile)
    (platform : VerifiedRelease) (enumerates : Bool) (root : Node) (appId : Bytes) :
    (∀ program, openVerifiedProgram env profile platform false enumerates root appId =
      some (some program) → program.policy.uid = applicationUid appId) ∧
    ((SharedUser (builtInApplications ++ installedApplications root) appId →
        openVerifiedProgram env profile platform false enumerates root appId = some none) ↔
      (enumerates = true ∧ (installedApplicationIds root).isSome = true) ∨
      SharedUser builtInApplications appId ∨ ¬ SharedUser (installedApplications root) appId ∨
      Programless env profile platform root appId) := by
  refine ⟨fun program => openVerifiedProgram_user, ?_⟩
  rw [openVerifiedProgram_refused]
  constructor
  · intro hrefuses
    by_contra hcondition
    simp only [not_or, not_not] at hcondition
    obtain ⟨hunreliable, hbuiltIn, hinstalled, hprogram⟩ := hcondition
    rcases hrefuses (sharedUser_append.mpr (.inr hinstalled)) with hfound | hprogramless
    · rcases sharedUser_append.mp hfound with hshared | hshared
      · exact hbuiltIn hshared
      · obtain ⟨other, hother, -⟩ := hshared
        refine hunreliable ?_
        split at hother
        · rename_i henumerates
          refine ⟨henumerates, ?_⟩
          cases hids : installedApplicationIds root with
          | none =>
            rw [hids] at hother
            cases hother
          | some ids => rfl
        · cases hother
    · exact hprogram hprogramless
  · rintro (⟨henumerates, hsome⟩ | hbuiltIn | hinstalled | hprogramless) hshared
    · left
      obtain ⟨ids, hids⟩ := Option.isSome_iff_exists.mp hsome
      rw [if_pos henumerates, hids, Option.getD_some]
      refine hshared.mono (List.append_subset.mpr ⟨List.subset_append_left _ _, ?_⟩)
      intro app happ
      exact List.mem_append_right _ ((mem_installedApplicationIds hids).mpr happ)
    · exact .inl (hbuiltIn.mono (List.subset_append_left _ _))
    · rcases sharedUser_append.mp hshared with hbuiltIn | hother
      · exact .inl (hbuiltIn.mono (List.subset_append_left _ _))
      · exact absurd hother hinstalled
    · exact .inr hprogramless

def gamePlatform : VerifiedRelease where
  directory := privateDirectory [(text "bin",
    privateDirectory [(text "lvgl-2048", .file { mode := 0o755 } (text "hi"))])]
  verification := { manifest := { files := [
    { path := text "bin/lvgl-2048", role := text "executable", mode := 0o755, size := 2 }] } }

def crowdedSystem : Node :=
  let apps := privateDirectory (([text "a.2t7oil"] ++ (List.range 65).map fun number =>
    text "a.b" ++ decimal number).map fun appId => (appId, privateDirectory []))
  systemWith (privateDirectory [(text "apps", apps)]) (privateDirectory []) firstRelease

theorem game_shares_user :
    ¬ ∀ (env : Environment) (profile : CertifiedSessionProfile) (platform : VerifiedRelease)
      (enumerates : Bool) (root : Node) (appId : Bytes),
      SharedUser (builtInApplications ++ installedApplications root) appId →
        openVerifiedProgram env profile platform false enumerates root appId = some none := by
  intro hrefused
  have hshared : SharedUser (builtInApplications ++ installedApplications crowdedSystem)
      (text "top.lvgl.game2048") :=
    ⟨text "a.2t7oil", by decide, by decide, by decide⟩
  have hopened : openVerifiedProgram installEnvironment penProfile gamePlatform false true crowdedSystem
      (text "top.lvgl.game2048") ≠ some none := by decide
  exact hopened (hrefused _ _ _ _ _ _ hshared)

end LvglPlatform
