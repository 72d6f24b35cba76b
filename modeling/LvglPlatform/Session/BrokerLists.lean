import LvglPlatform.Session.SnapshotTokens

namespace LvglPlatform

open Foundation

section

variable {env : Environment} {root : Node} {context : InstallPolicyContext}

lemma verifyCandidates_length {packages : List InboxPackage} {candidates : List RawCandidate}
    (h : verifyCandidates env root context packages = some candidates) :
    candidates.length = packages.length := by
  induction packages generalizing candidates with
  | nil =>
    obtain rfl := Option.some.inj h
    rfl
  | cons package packages ih =>
    obtain ⟨verification, -, h⟩ := Option.bind_eq_some_iff.mp h
    obtain ⟨rest, hrest, h⟩ := Option.bind_eq_some_iff.mp h
    obtain rfl := Option.some.inj h
    rw [List.length_cons, List.length_cons, ih hrest]

lemma inboxPackages_length (crypto : CryptoProvider) (inbox : Node) :
    (inboxPackages crypto inbox).length ≤ inbox.entries.length := by
  refine (List.length_filterMap_le _ _).trans ?_
  rw [sortBy, List.length_mergeSort, List.length_map]

/-- The candidates of a scan are sorted by tokens that differ, and the installer asks for all of them. -/
lemma scanOfficialInbox_candidates {scan : InboxScanResult}
    (h : scanOfficialInbox env root context = some scan) :
    scan.candidates.length ≤ 128 ∧
      (scan.candidates.Pairwise fun a b => byteLe a.token b.token = true ∧ a.token ≠ b.token) ∧
      (scan.status = .empty → scan.candidates = []) := by
  rw [scanOfficialInbox] at h
  obtain ⟨⟨status, candidates⟩, hraw, h⟩ := Option.bind_eq_some_iff.mp h
  simp only at h
  split at h
  · obtain rfl := Option.some.inj h
    exact ⟨Nat.zero_le _, .nil, fun _ => rfl⟩
  split at h
  · obtain rfl := Option.some.inj h
    exact ⟨Nat.zero_le _, .nil, fun _ => rfl⟩
  rename_i huntrusted hstatus
  obtain rfl := Option.some.inj h
  rw [rawCandidates] at hraw
  split at hraw
  · obtain ⟨rfl, rfl⟩ := Prod.mk.inj (Option.some.inj hraw)
    exact absurd rfl huntrusted
  split at hraw
  · obtain ⟨rfl, rfl⟩ := Prod.mk.inj (Option.some.inj hraw)
    exact absurd ⟨by decide, by decide⟩ hstatus
  rename_i inbox hopen hsize
  obtain ⟨verified, hverified, hraw⟩ := Option.bind_eq_some_iff.mp hraw
  obtain ⟨rfl, rfl⟩ := Prod.mk.inj (Option.some.inj hraw)
  refine ⟨?_, ?_, ?_⟩
  · have hunique : (sortUnique (fun candidate : RawCandidate => candidate.publicValue.token) byteLe
        verified).length ≤ verified.length := sortUnique_length byteLe verified
    have hpackages := inboxPackages_length env.crypto inbox
    rw [maximumInboxEntries] at hsize
    rw [verifyCandidates_length hverified] at hunique
    rw [List.length_map]
    omega
  · rw [List.pairwise_map]
    exact sortUnique_strict byteLe_linear verified
  · intro hempty
    simp only at hempty
    split at hempty
    · rename_i hnil
      rw [List.isEmpty_iff.mp hnil]
      rfl
    · cases hempty

lemma scanOfficialInbox_detail {scan : InboxScanResult}
    (h : scanOfficialInbox env root context = some scan)
    (hstatus : scan.status = .ready ∨ scan.status = .empty) :
    validText scan.detail detailLimit false = true := by
  rw [scanOfficialInbox] at h
  obtain ⟨⟨status, candidates⟩, -, h⟩ := Option.bind_eq_some_iff.mp h
  simp only at h
  split at h
  · rename_i huntrusted
    obtain rfl := Option.some.inj h
    rcases hstatus with hready | hempty
    · cases hready.symm.trans huntrusted
    · cases hempty.symm.trans huntrusted
  split at h
  · rename_i hfailed
    obtain rfl := Option.some.inj h
    exact absurd hstatus (not_or.mpr hfailed)
  obtain rfl := Option.some.inj h
  simp only
  split
  · decide
  · decide

end

section

variable {env : Environment} {profile : CertifiedSessionProfile} {root : Node}

lemma snapshotsOf_ids {applications : Node} {ids : List Bytes}
    {snapshots : List InstalledApplicationSnapshot}
    (h : snapshotsOf env root profile applications ids = some snapshots) :
    (snapshots.map fun snapshot => snapshot.publicValue.appId).Sublist ids := by
  induction ids generalizing snapshots with
  | nil =>
    obtain rfl := Option.some.inj h
    exact List.Sublist.refl _
  | cons appId rest ih =>
    obtain ⟨later, hlater, h⟩ := Option.bind_eq_some_iff.mp h
    split at h
    · split at h
      · obtain rfl := Option.some.inj h
        exact (ih hlater).cons _
      · obtain ⟨shown, hshown, h⟩ := Option.bind_eq_some_iff.mp h
        obtain rfl := Option.some.inj h
        cases shown with
        | none => exact (ih hlater).cons _
        | some snapshot =>
          rw [Option.toList_some, List.singleton_append, List.map_cons,
            (installedSnapshot_shows hshown).1]
          exact (ih hlater).cons_cons _
    · obtain rfl := Option.some.inj h
      exact (ih hlater).cons _

lemma installedApplicationIds_nodup {ids : List Bytes} (h : installedApplicationIds root = some ids) :
    ids.Nodup ∧ ids.length ≤ maximumRegistryApplications := by
  rw [installedApplicationIds] at h
  split at h
  · cases h
  split at h
  · obtain rfl := Option.some.inj h
    exact ⟨List.nodup_nil, Nat.zero_le _⟩
  · cases h
  split at h
  · cases h
  simp only at h
  split at h
  · cases h
  · rename_i hsize
    obtain rfl := Option.some.inj h
    exact ⟨(sortUnique_strict byteLe_linear _).imp fun h => h.2,
      (sortUnique_length byteLe _).trans (Nat.not_lt.mp hsize)⟩

lemma installedApplicationSnapshots_ids {snapshots : List InstalledApplicationSnapshot}
    (h : installedApplicationSnapshots env root profile = some (some snapshots)) :
    snapshots.length ≤ maximumRegistryApplications ∧ snapshots.Pairwise fun a b =>
      byteLe a.publicValue.appId b.publicValue.appId = true ∧
        a.publicValue.appId ≠ b.publicValue.appId := by
  rw [installedApplicationSnapshots] at h
  split at h
  · cases h
  split at h
  · obtain rfl := Option.some.inj (Option.some.inj h)
    exact ⟨Nat.zero_le _, .nil⟩
  · cases h
  split at h
  · cases h
  split at h
  · cases h
  rename_i ids hids
  obtain ⟨shown, hshown, hsorted⟩ := Option.map_eq_some_iff.mp h
  obtain rfl := Option.some.inj hsorted
  obtain ⟨hnodup, hsize⟩ := installedApplicationIds_nodup hids
  have hsublist := snapshotsOf_ids hshown
  constructor
  · have hlength := hsublist.length_le
    rw [List.length_map] at hlength
    rw [sortBy, List.length_mergeSort]
    exact hlength.trans hsize
  · exact sortBy_strict byteLe_linear (hsublist.nodup hnodup)

lemma installedApplicationSnapshots_tokens {snapshots : List InstalledApplicationSnapshot}
    (hfree : CollisionFree env.crypto (snapshotMaterials env root))
    (h : installedApplicationSnapshots env root profile = some (some snapshots)) :
    (snapshots.map fun snapshot => snapshot.publicValue.token).Nodup := by
  rw [List.Nodup, List.pairwise_map]
  have happ := (installedApplicationSnapshots_ids h).2
  refine happ.imp_of_mem fun {snapshot other} hsnapshot hother hstrict htoken => ?_
  have hshows : ∀ a ∈ snapshots, Shows env profile root a := fun a ha => ⟨snapshots, h, ha⟩
  have hboth : CollisionFree env.crypto (snapshotMaterials env root ∪ snapshotMaterials env root) := by
    rw [Set.union_self]
    exact hfree
  exact hstrict.2 ((hshows snapshot hsnapshot).identity hboth (hshows other hother) htoken.symm).1.symm

end

lemma prepareApplicationStorage_status (euid : ℕ) (root : Node) :
    (prepareApplicationStorage euid root).2 ≠ .empty := by
  rw [prepareApplicationStorage]
  split
  · nofun
  · simp only
    split <;> nofun

section

variable {env : Environment} {profile : CertifiedSessionProfile} {calls : BrokerCalls}
  {root after : Node} {request : InstallerRequest} {answer : InstallerResponse}

lemma installerStatus_empty {status : InboxStatus} (h : installerStatus status = .empty) :
    status = .empty := by
  cases status <;> first | rfl | cases h

lemma handle_inbox {prepared : Node} (hcommand : request.command = .scan ∨ request.command = .candidate)
    (h : prepareApplicationStorage env.euid root = (prepared, .ready)) :
    handleInstallerRequest env profile calls root request =
      (scanOfficialInbox env prepared (installerPolicy profile)).map fun scan =>
        (inboxResponse request scan, prepared) := by
  rw [handleInstallerRequest, h]
  dsimp only
  rw [if_neg (by simp)]
  rcases hcommand with hcommand | hcommand
  · rw [hcommand]
  · rw [hcommand]

lemma handle_installed {prepared found : Node}
    (hcommand : request.command = .installedScan ∨ request.command = .installedCandidate)
    (hprepared : prepareApplicationStorage env.euid root = (prepared, .ready))
    (hcleanup : cleanupApplicationTombstones calls.order prepared = (none, found)) :
    handleInstallerRequest env profile calls root request =
      (installedApplicationSnapshots env found profile).bind fun snapshots =>
        installedResponse env profile calls found request snapshots := by
  have hhandle : handleInstallerRequest env profile calls root request =
      handleInstalledRequest env profile calls prepared request := by
    rw [handleInstallerRequest, hprepared]
    dsimp only
    rw [if_neg (by simp)]
    rcases hcommand with hcommand | hcommand
    · rw [hcommand]
    · rw [hcommand]
  rw [hhandle, handleInstalledRequest, hcleanup]
  rfl

lemma handleInstallerRequest_inbox
    (hcommand : request.command = .scan ∨ request.command = .candidate)
    (h : handleInstallerRequest env profile calls root request = some (answer, after)) :
    (answer.status ≠ .ready ∧ answer.status ≠ .empty) ∨
      ∃ prepared scan, prepareApplicationStorage env.euid root = (prepared, .ready) ∧
        scanOfficialInbox env prepared (installerPolicy profile) = some scan ∧
        answer = inboxResponse request scan := by
  have hnever := prepareApplicationStorage_status env.euid root
  rw [handleInstallerRequest] at h
  generalize prepareApplicationStorage env.euid root = preparation at h hnever ⊢
  obtain ⟨prepared, status⟩ := preparation
  simp only at h hnever
  split at h
  · rename_i hprepared
    obtain ⟨rfl, rfl⟩ := Prod.mk.inj (Option.some.inj h)
    exact Or.inl ⟨fun hready => hprepared (installerStatus_ready hready),
      fun hempty => hnever (installerStatus_empty hempty)⟩
  · rename_i hprepared
    rw [ne_eq, not_not] at hprepared
    have hscan : (scanOfficialInbox env prepared (installerPolicy profile)).map (fun scan =>
        (inboxResponse request scan, prepared)) = some (answer, after) := by
      rcases hcommand with hcommand | hcommand
      · simpa only [hcommand] using h
      · simpa only [hcommand] using h
    obtain ⟨scan, hscan, hanswer⟩ := Option.map_eq_some_iff.mp hscan
    exact Or.inr ⟨prepared, scan, by rw [hprepared], hscan, (Prod.mk.inj hanswer).1.symm⟩

lemma handleInstallerRequest_of_inbox {prepared : Node} {scan : InboxScanResult}
    (hcommand : request.command = .scan ∨ request.command = .candidate)
    (hprepared : prepareApplicationStorage env.euid root = (prepared, .ready))
    (hscan : scanOfficialInbox env prepared (installerPolicy profile) = some scan) :
    handleInstallerRequest env profile calls root request = some (inboxResponse request scan, prepared) := by
  rw [handle_inbox hcommand hprepared, hscan, Option.map_some]

lemma handleInstallerRequest_installed
    (hcommand : request.command = .installedScan ∨ request.command = .installedCandidate)
    (h : handleInstallerRequest env profile calls root request = some (answer, after)) :
    (answer.status ≠ .ready ∧ answer.status ≠ .empty) ∨
      ∃ prepared found installed, prepareApplicationStorage env.euid root = (prepared, .ready) ∧
        cleanupApplicationTombstones calls.order prepared = (none, found) ∧
        installedApplicationSnapshots env found profile = some (some installed) ∧
        installedResponse env profile calls found request (some installed) = some (answer, after) := by
  have hnever := prepareApplicationStorage_status env.euid root
  rw [handleInstallerRequest] at h
  generalize prepareApplicationStorage env.euid root = preparation at h hnever ⊢
  obtain ⟨prepared, status⟩ := preparation
  simp only at h hnever
  split at h
  · rename_i hprepared
    obtain ⟨rfl, rfl⟩ := Prod.mk.inj (Option.some.inj h)
    exact Or.inl ⟨fun hready => hprepared (installerStatus_ready hready),
      fun hempty => hnever (installerStatus_empty hempty)⟩
  · rename_i hprepared
    rw [ne_eq, not_not] at hprepared
    have hanswer : handleInstalledRequest env profile calls prepared request =
        some (answer, after) := by
      rcases hcommand with hcommand | hcommand
      · simpa only [hcommand] using h
      · simpa only [hcommand] using h
    rw [handleInstalledRequest] at hanswer
    split at hanswer
    · obtain ⟨rfl, rfl⟩ := Prod.mk.inj (Option.some.inj hanswer)
      refine Or.inl ⟨fun hready => ?_, fun hempty => ?_⟩
      · cases hready
      · cases hempty
    · rename_i found hcleanup
      obtain ⟨snapshots, hsnapshots, hresponse⟩ := Option.bind_eq_some_iff.mp hanswer
      cases snapshots with
      | none =>
        obtain ⟨rfl, rfl⟩ := Prod.mk.inj (Option.some.inj hresponse)
        refine Or.inl ⟨fun hready => ?_, fun hempty => ?_⟩
        · cases hready
        · cases hempty
      | some installed =>
        exact Or.inr ⟨prepared, found, installed, by rw [hprepared], hcleanup, hsnapshots, hresponse⟩

lemma handleInstallerRequest_of_installed {prepared found : Node}
    {installed : List InstalledApplicationSnapshot}
    (hcommand : request.command = .installedScan ∨ request.command = .installedCandidate)
    (hprepared : prepareApplicationStorage env.euid root = (prepared, .ready))
    (hfound : cleanupApplicationTombstones calls.order prepared = (none, found))
    (hinstalled : installedApplicationSnapshots env found profile = some (some installed)) :
    handleInstallerRequest env profile calls root request =
      installedResponse env profile calls found request (some installed) := by
  rw [handle_installed hcommand hprepared hfound, hinstalled, Option.bind_some]

end

end LvglPlatform
