import LvglPlatform.Foundation.Sweep
import LvglPlatform.Services.PackageInstaller
import LvglPlatform.Storage.ReleaseTree

/-! The manager moves the platform root aside to remove it, and what it could not remove is left to
the next transaction. -/

namespace LvglPlatform

open Foundation

namespace Manager

def removalNodeLimit : ℕ := 100000

def removalDepthLimit : ℕ := 32

def platformDirectory : Bytes := text "lvgl-platform"

def policyDirectory : Bytes := text "lvgl-platform-policy"

def platformAppId : Bytes := text "top.lvgl.platform"

def removalPrefix : Bytes := text ".lvgl-platform-removed-"

def trustedStat (euid : ℕ) (stat : Stat) : Bool := stat.uid = euid && stat.mode &&& 0o022 = 0

def remover (euid : ℕ) : Remover where
  enters := trustedStat euid
  nodeLimit := removalNodeLimit

def removalKind (name : Bytes) : NameKind :=
  if name.length ≤ removalPrefix.length ∨ !removalPrefix.isPrefixOf name then .plain
  else if name.length ≠ removalPrefix.length + 24 ∨ !(name.drop removalPrefix.length).all isLowerHex then
    .malformed
  else .marked

def tombstoneSweeper (euid : ℕ) : Sweeper where
  kind := removalKind
  opens := trustedStat euid
  remover _ := remover euid
  levels := removalDepthLimit + 1

def cleanupRemovalTombstones (euid : ℕ) (order : ReadOrder) (parent : Node) : Bool × Node :=
  let removal := (tombstoneSweeper euid).sweep order parent.entries
  (removal.failure.isNone, .directory parent.stat removal.left)

def establishRoots (euid : ℕ) (order : ReadOrder) (storageReady : Bool) (parent : Node) : Node × Bool :=
  if !parent.trusted euid then (parent, false)
  else match cleanupRemovalTombstones euid order parent with
    | (false, parent) => (parent, false)
    | (true, parent) =>
      match parent.ensureDirectory euid 0o700 platformDirectory with
      | (parent, none) => (parent, false)
      | (parent, some _) =>
        match parent.ensureDirectory euid 0o700 policyDirectory with
        | (parent, none) => (parent, false)
        | (parent, some _) => (parent, storageReady)

structure RemovalSnapshot where
  available : Bool
  installed : Bool
  sessionRemovalAllowed : Bool
  suffix : Option (ByteArr 12)

def removeUnlocked (euid : ℕ) (order : ReadOrder) (snapshot : RemovalSnapshot) (parent : Node) :
    Node × Bytes :=
  if !snapshot.available then (parent, text "MANAGER_REMOVE_UNAUTHORIZED")
  else if !snapshot.installed then (parent, text "MANAGER_NOT_INSTALLED")
  else if !snapshot.sessionRemovalAllowed then (parent, text "MANAGER_SESSION_ACTIVE")
  else if !parent.trusted euid then (parent, text "MANAGER_ROOT_REJECTED")
  else match parent.openDirectory platformDirectory with
    | .directory root =>
      if !root.trusted euid then (parent, text "MANAGER_ROOT_REJECTED")
      else match snapshot.suffix with
        | none => (parent, text "MANAGER_RANDOM_UNAVAILABLE")
        | some random =>
          let tombstone := removalPrefix ++ hexText random.toList
          match parent.child tombstone with
          | some _ => (parent, text "MANAGER_REMOVE_ISOLATION_FAILED")
          | none =>
            -- the root has left its name, whatever becomes of its contents
            let others := parent.entries.filter fun entry => entry.1 ≠ platformDirectory
            match (remover euid).removeContents order (removalDepthLimit + 1) 0 root.entries with
            | ⟨none, _, _⟩ => (.directory parent.stat others, text "MANAGER_REMOVED")
            | ⟨some _, _, left⟩ =>
              (.directory parent.stat (others ++ [(tombstone, .directory root.stat left)]),
                text "MANAGER_REMOVE_CLEANUP_DEFERRED")
    | _ => (parent, text "MANAGER_ROOT_REJECTED")

def laterCleanups (euid : ℕ) (orders : ℕ → ReadOrder) (parent : Node) : ℕ → Node
  | 0 => parent
  | n + 1 => (cleanupRemovalTombstones euid (orders n) (laterCleanups euid orders parent n)).2

def ownedDirectory (euid : ℕ) (entries : List (Bytes × Node)) : Node :=
  .directory { uid := euid, mode := 0o700 } entries

def platformRoot (euid : ℕ) (releases : List (Bytes × PackageRelease)) (links : List (Bytes × Stat)) :
    Node :=
  let payload := releases.map fun release => (release.1, release.2.node euid)
  ownedDirectory euid ((text "apps", ownedDirectory euid [(platformAppId, ownedDirectory euid
    [(text "releases", ownedDirectory euid payload)])]) ::
      links.map fun link => (link.1, .other link.2))

section

variable {euid : ℕ} {levels : ℕ} {entries : List (Bytes × Node)}

lemma trustedStat_owned : trustedStat euid { uid := euid, mode := 0o700 } = true := by
  simp [trustedStat]

lemma remover_enters : EntersStaged (remover euid) euid := by
  constructor
  · simp [remover, trustedStat]
  · exact trustedStat_owned

lemma fits_owned (name : Bytes) (links : List (Bytes × Stat)) :
    (remover euid).Fits (levels + 1) ((name, ownedDirectory euid entries) ::
        links.map fun link => (link.1, Node.other link.2)) ↔ (remover euid).Fits levels entries := by
  constructor
  · intro h
    exact (h _ List.mem_cons_self _ entries rfl).2
  · intro h entry hentry stat below he
    rcases List.mem_cons.mp hentry with rfl | hlink
    · cases he
      exact ⟨trustedStat_owned, h⟩
    · obtain ⟨link, -, rfl⟩ := List.mem_map.mp hlink
      cases he

lemma fits_only (name : Bytes) : (remover euid).Fits (levels + 1) [(name, ownedDirectory euid entries)] ↔
    (remover euid).Fits levels entries := fits_owned name []

lemma platformRoot_fits (releases : List (Bytes × PackageRelease)) (links : List (Bytes × Stat))
    (hlevels : 0 < levels) :
    (remover euid).Fits (levels + 4) (platformRoot euid releases links).entries ↔
      ∀ release ∈ releases, release.2.Within levels := by
  rw [platformRoot, ownedDirectory, Node.entries, fits_owned, fits_only, fits_only]
  constructor
  · intro h release hrelease
    exact (release.2.admits_iff remover_enters hlevels).mp fun stat below he =>
      h (release.1, release.2.node euid) (List.mem_map_of_mem hrelease) stat below he
  · intro h entry hentry
    obtain ⟨release, hrelease, rfl⟩ := List.mem_map.mp hentry
    exact (release.2.admits_iff remover_enters hlevels).mpr (h release hrelease)

lemma platformRoot_enterable (releases : List (Bytes × PackageRelease)) (links : List (Bytes × Stat))
    (levels : ℕ) : (remover euid).Enterable levels (platformRoot euid releases links).entries := by
  have hwithin : ∀ release ∈ releases, release.2.Within 120 := fun release _ file hfile =>
    splitPath_length (accepts_paths release.2.accepted file hfile)
  exact ((platformRoot_fits releases links (by decide)).mpr hwithin).enterable levels

lemma tombstone_marked (random : ByteArr 12) :
    removalKind (removalPrefix ++ hexText random.toList) = .marked := by
  have hlength : (hexText random.toList).length = 24 := by
    rw [hexText_length]
    simp
  have hhex : (hexText random.toList).all isLowerHex = true := by
    have h := hexText_lowercaseHex random.toList (n := 24) (by simp)
    simp only [lowercaseHex, Bool.and_eq_true] at h
    exact h.2
  have hbegins : removalPrefix.isPrefixOf (removalPrefix ++ hexText random.toList) = true := by simp
  rw [removalKind, if_neg, if_neg]
  · rw [List.drop_left, hhex, List.length_append, hlength]
    simp
  · rw [hbegins, List.length_append, hlength]
    simp

lemma laterCleanups_entries (orders : ℕ → ReadOrder) (parent : Node) (n : ℕ) :
    (laterCleanups euid orders parent n).entries =
      (tombstoneSweeper euid).sweeps orders n parent.entries := by
  induction n with
  | zero => rfl
  | succ n ih =>
    rw [laterCleanups, Sweeper.sweeps, ← ih]
    rfl

end

/-- The manager has everything it asks for before it moves the platform root aside, and no earlier
removal is waiting. -/
structure ReadyToRemove (euid : ℕ) (snapshot : RemovalSnapshot) (parent : Node)
    (releases : List (Bytes × PackageRelease)) (links : List (Bytes × Stat)) : Prop where
  available : snapshot.available = true
  installed : snapshot.installed = true
  session : snapshot.sessionRemovalAllowed = true
  suffix : snapshot.suffix.isSome = true
  trusted : parent.trusted euid = true
  root : parent.child platformDirectory = some (platformRoot euid releases links)
  clean : ∀ entry ∈ parent.entries, removalKind entry.1 = .plain

section

variable {euid : ℕ} {order : ReadOrder} {snapshot : RemovalSnapshot} {parent : Node}
  {releases : List (Bytes × PackageRelease)} {links : List (Bytes × Stat)}

inductive Removed (euid : ℕ) (order : ReadOrder) (parent root : Node) : Node → Prop
  | whole (others : List (Bytes × Node)) : (∀ entry ∈ others, removalKind entry.1 = .plain) →
      ((remover euid).removeContents order (removalDepthLimit + 1) 0 root.entries).failure = none →
      Removed euid order parent root (.directory parent.stat others)
  | deferred (others : List (Bytes × Node)) (name : Bytes) :
      (∀ entry ∈ others, removalKind entry.1 = .plain) → removalKind name = .marked →
      ((remover euid).removeContents order (removalDepthLimit + 1) 0 root.entries).failure ≠ none →
      Removed euid order parent root (.directory parent.stat (others ++ [(name, .directory root.stat
        ((remover euid).removeContents order (removalDepthLimit + 1) 0 root.entries).left)]))

lemma remove_removed (h : ReadyToRemove euid snapshot parent releases links) :
    Removed euid order parent (platformRoot euid releases links)
      (removeUnlocked euid order snapshot parent).1 := by
  obtain ⟨random, hrandom⟩ := Option.isSome_iff_exists.mp h.suffix
  have hroot : (platformRoot euid releases links).trusted euid = true := by
    simp [platformRoot, ownedDirectory, Node.trusted, Node.isDirectory, Node.stat]
  have hopen : parent.openDirectory platformDirectory = .directory (platformRoot euid releases links) := by
    rw [Node.openDirectory, h.root]
    exact if_pos (Node.isDirectory_of_trusted hroot)
  have hfree : parent.child (removalPrefix ++ hexText random.toList) = none := by
    by_contra hfound
    obtain ⟨node, hnode⟩ := Option.ne_none_iff_exists'.mp hfound
    obtain ⟨entry, hfind, -⟩ := Option.map_eq_some_iff.mp hnode
    have hplain := h.clean entry (List.mem_of_find?_eq_some hfind)
    have hname : entry.1 = removalPrefix ++ hexText random.toList := by
      simpa using List.find?_some hfind
    rw [hname, tombstone_marked] at hplain
    cases hplain
  have hothers : ∀ entry ∈ parent.entries.filter (fun entry => entry.1 ≠ platformDirectory),
      removalKind entry.1 = .plain := fun entry hentry => h.clean entry (List.mem_of_mem_filter hentry)
  rw [removeUnlocked]
  simp only [h.available, h.installed, h.session, h.trusted, hopen, hroot, hrandom, hfree,
    Bool.not_true, Bool.false_eq_true, if_false]
  rcases hr : (remover euid).removeContents order (removalDepthLimit + 1) 0
      (platformRoot euid releases links).entries with ⟨_ | failure, nodes, left⟩
  · exact .whole _ hothers (by rw [hr])
  · have hdeferred : Removed euid order parent (platformRoot euid releases links) _ :=
      .deferred _ _ hothers (tombstone_marked random) (by simp [hr])
    rw [hr] at hdeferred
    exact hdeferred

variable (orders : ℕ → ReadOrder)

/-- No tombstone is left after so many cleanups. -/
def Cleared (euid : ℕ) (orders : ℕ → ReadOrder) (parent : Node) (n : ℕ) : Prop :=
  ∀ entry ∈ (laterCleanups euid orders parent n).entries, removalKind entry.1 ≠ .marked

lemma removal_completes (h : ReadyToRemove euid snapshot parent releases links)
    (hwithin : ∀ release ∈ releases, release.2.Within 29) :
    ∃ n, Cleared euid orders (removeUnlocked euid order snapshot parent).1 n := by
  have hfits : (remover euid).Fits (removalDepthLimit + 1) (platformRoot euid releases links).entries :=
    (platformRoot_fits releases links (by decide : 0 < 29)).mpr hwithin
  have hremoves := Remover.removeContents_removes (R := remover euid) order (removalDepthLimit + 1) 0
    (platformRoot euid releases links).entries
  have hremoved : Removed euid order parent (platformRoot euid releases links)
      (removeUnlocked euid order snapshot parent).1 := remove_removed h
  generalize (removeUnlocked euid order snapshot parent).1 = after at hremoved ⊢
  cases hremoved with
  | whole others hplain _ =>
    refine ⟨0, fun entry hentry => ?_⟩
    rw [hplain entry hentry]
    decide
  | deferred others name hplain hname _ =>
    have hsweepable : (tombstoneSweeper euid).Sweepable (others ++ [(name, .directory
        (platformRoot euid releases links).stat ((remover euid).removeContents order
          (removalDepthLimit + 1) 0 (platformRoot euid releases links).entries).left)]) := by
      intro entry hentry
      rcases List.mem_append.mp hentry with hother | htombstone
      · change removalKind entry.1 ≠ .malformed ∧ (removalKind entry.1 = .marked → _)
        rw [hplain entry hother]
        exact ⟨nofun, nofun⟩
      · obtain rfl := List.mem_singleton.mp htombstone
        change removalKind name ≠ .malformed ∧ (removalKind name = .marked → _)
        rw [hname]
        exact ⟨nofun, fun _ => ⟨_, _, rfl, trustedStat_owned, (hremoves.fits hfits).1⟩⟩
    have hlimit : ∀ stat, (tombstoneSweeper euid).levels ≤
        ((tombstoneSweeper euid).remover stat).nodeLimit := by
      intro stat
      change 33 ≤ 100000
      omega
    obtain ⟨n, hdone⟩ := Sweeper.sweeps_finish orders hsweepable hlimit
    refine ⟨n + 1, fun entry hentry => ?_⟩
    rw [laterCleanups_entries] at hentry
    exact Sweeper.sweep_done hdone entry hentry

/-- A release with too long a path: every cleanup fails, and the roots are refused for ever. -/
lemma removal_stuck (h : ReadyToRemove euid snapshot parent releases links)
    (hwithin : ¬ ∀ release ∈ releases, release.2.Within 29) (n : ℕ) :
    ¬ Cleared euid orders (removeUnlocked euid order snapshot parent).1 n ∧ ∀ storageReady,
      (establishRoots euid (orders n) storageReady
        (laterCleanups euid orders (removeUnlocked euid order snapshot parent).1 n)).2 = false := by
  have hnested : Nested (removalDepthLimit + 1) (platformRoot euid releases links).entries := by
    by_contra hflat
    have hfits : (remover euid).Fits (29 + 4) (platformRoot euid releases links).entries ↔ _ :=
      platformRoot_fits releases links (by decide)
    refine hwithin (hfits.mp ?_)
    exact (Remover.fits_iff_not_nested (platformRoot_enterable releases links _)).mpr hflat
  have hsticks := Remover.removeContents_sticks (R := remover euid) order (removalDepthLimit + 1) 0 hnested
  have hremoved : Removed euid order parent (platformRoot euid releases links)
      (removeUnlocked euid order snapshot parent).1 := remove_removed h
  generalize (removeUnlocked euid order snapshot parent).1 = after at hremoved ⊢
  have hstuck : (tombstoneSweeper euid).Stuck after.entries := by
    cases hremoved with
    | whole others _ hdone => exact absurd hdone hsticks.failed
    | deferred others name _ hname _ =>
      exact ⟨_, List.mem_append_right _ (List.mem_singleton_self _), hname, _, _, rfl, hsticks.nested⟩
  have hlater := Sweeper.sweeps_stuck orders hstuck n
  rw [← laterCleanups_entries] at hlater
  constructor
  · intro hcleared
    obtain ⟨entry, hentry, hmarked, -⟩ := hlater
    exact hcleared entry hentry hmarked
  · intro storageReady
    have hfailed := (Sweeper.sweep_stuck (orders n) hlater).1
    rw [establishRoots, cleanupRemovalTombstones]
    split
    · rfl
    · have hanswer : ((tombstoneSweeper euid).sweep (orders n)
          (laterCleanups euid orders after n).entries).failure.isNone = false :=
        Option.isNone_eq_false_iff.mpr (Option.isSome_iff_ne_none.mpr hfailed)
      simp only [hanswer]

end

/-- A removal completes exactly when no file of the platform lies below more than 29 components;
otherwise every later transaction is refused. -/
theorem platform_removal_completes_iff (euid : ℕ) (order : ReadOrder) (orders : ℕ → ReadOrder)
    (snapshot : RemovalSnapshot) (parent : Node) (releases : List (Bytes × PackageRelease))
    (links : List (Bytes × Stat)) (h : ReadyToRemove euid snapshot parent releases links) :
    ((∃ n, Cleared euid orders (removeUnlocked euid order snapshot parent).1 n) ↔
      ∀ release ∈ releases, release.2.Within 29) ∧
    ((¬ ∀ release ∈ releases, release.2.Within 29) → ∀ n storageReady,
      (establishRoots euid (orders n) storageReady
        (laterCleanups euid orders (removeUnlocked euid order snapshot parent).1 n)).2 = false) := by
  refine ⟨⟨?_, removal_completes orders h⟩, fun hwithin n => (removal_stuck orders h hwithin n).2⟩
  rintro ⟨n, hcleared⟩
  by_contra hwithin
  exact (removal_stuck orders h hwithin n).1 hcleared

def deepPath : Bytes := [chr '/'].intercalate (List.replicate 30 (text "a"))

def deepManifest : VerifiedPackageManifest := { sampleManifest with
  appId := platformAppId
  entry := text "bin/lvgl-sessiond"
  signingKeyId := hexText (officialKeyHash.toList.take 16)
  files := [{ sampleFile with path := deepPath, role := text "asset", mode := 0o644 },
    { sampleFile with path := text "bin/lvgl-sessiond" }] }

def deepUnsignedDigest : Sha512Digest := bigEndian 64
  0x71a889604c8c317a6353d9c54036a39a417491061307a1e0c65e532bc9650d0aeaeb86148ca9cef9d7341e85b6d1b040f18950d0e8c6e534b052d20d790c7ce6

def deepSignature : Ed25519Signature := bigEndian 64
  0x6571f469e7b7b8682205984ac4a755beea56389c950bd131c35da898aae3116109f8497fbd156085da893f6fd68e32c800387a66f9cf44fac19cd950e5d78b0f

def deepPackage : Package where
  development := false
  manifest := deepManifest
  contents := [text "hi", text "hi"]
  envelope := SignatureEnvelope.bytes ⟨officialKeyHash.toList.take 16, deepSignature⟩

def deepCrypto : CryptoProvider where
  sha256 bytes := some <|
    if bytes = text "hi" then sampleFile.sha256
    else if bytes = ed25519SpkiPrefix ++ officialKey.toList then officialKeyHash
    else zeroes 32
  sha512 bytes := some <| if bytes = deepPackage.unsigned then deepUnsignedDigest else zeroes 64
  verifyEd25519 key message signature :=
    key = officialKey && message = signatureDomain ++ deepUnsignedDigest.toList &&
      signature = deepSignature

lemma deepPackage_accepted : Accepts deepPackage.bytes deepCrypto [⟨officialKey, true⟩] false
    deepPackage.verification := by
  have hdone : verifyPackage deepPackage.bytes deepCrypto [⟨officialKey, true⟩] false =
      .done deepPackage.verification := by decide +kernel
  exact ⟨Checked.answer_eq_some.mpr (Or.inr hdone), rfl⟩

def sampleRelease : PackageRelease where
  bytes := samplePackage.bytes
  crypto := sampleCrypto
  trustedKeys := [sampleKey]
  allowDevelopment := false
  verification := samplePackage.verification
  digest := zeroes 64
  accepted := samplePackage_accepted
  apart := by decide

def deepRelease : PackageRelease where
  bytes := deepPackage.bytes
  crypto := deepCrypto
  trustedKeys := [⟨officialKey, true⟩]
  allowDevelopment := false
  verification := deepPackage.verification
  digest := zeroes 64
  accepted := deepPackage_accepted
  apart := by decide

def parentOf (release : PackageRelease) : Node :=
  ownedDirectory 0 [(platformDirectory,
    platformRoot 0 [(text "1", release)] [(text "current", { mode := 0o777 })])]

def removalSnapshot : RemovalSnapshot := ⟨true, true, true, some (zeroes 12)⟩

lemma parentOf_ready (release : PackageRelease) : ReadyToRemove 0 removalSnapshot (parentOf release)
    [(text "1", release)] [(text "current", { mode := 0o777 })] := by
  refine ⟨rfl, rfl, rfl, rfl, ?_, rfl, ?_⟩
  · simp [parentOf, ownedDirectory, Node.trusted, Node.isDirectory, Node.stat]
  intro entry hentry
  obtain rfl := List.mem_singleton.mp hentry
  change removalKind platformDirectory = .plain
  decide

theorem sample_platform_removed : ∃ n, Cleared 0 (fun _ => .stored)
    (removeUnlocked 0 .stored removalSnapshot (parentOf sampleRelease)).1 n := by
  refine (platform_removal_completes_iff 0 .stored (fun _ => .stored) removalSnapshot
    (parentOf sampleRelease) _ _ (parentOf_ready sampleRelease)).1.mpr ?_
  have hwithin : ∀ file ∈ samplePackage.verification.manifest.files, (splitPath file.path).length ≤ 29 := by
    decide
  rintro release hrelease
  obtain rfl := List.mem_singleton.mp hrelease
  exact hwithin

theorem deep_platform_never_removed :
    ¬ ∀ (euid : ℕ) (order : ReadOrder) (orders : ℕ → ReadOrder) (snapshot : RemovalSnapshot)
        (parent : Node) (releases : List (Bytes × PackageRelease)) (links : List (Bytes × Stat)),
      ReadyToRemove euid snapshot parent releases links →
        ∃ n, Cleared euid orders (removeUnlocked euid order snapshot parent).1 n := by
  intro hcompletes
  have hdeep : ¬ ∀ release ∈ [(text "1", deepRelease)], release.2.Within 29 := by
    intro hwithin
    have hfile : ∃ file ∈ deepPackage.verification.manifest.files, 29 < (splitPath file.path).length := by
      decide
    obtain ⟨file, hmem, hlong⟩ := hfile
    exact absurd (hwithin _ (List.mem_singleton_self _) file hmem) (Nat.not_le_of_lt hlong)
  obtain ⟨n, hcleared⟩ := hcompletes 0 .stored (fun _ => .stored) removalSnapshot
    (parentOf deepRelease) _ _ (parentOf_ready deepRelease)
  exact (removal_stuck (fun _ => .stored) (parentOf_ready deepRelease) hdeep n).1 hcleared

end Manager

end LvglPlatform
