import LvglPlatform.Foundation.Sweep
import LvglPlatform.Session.InstalledApplications
import LvglPlatform.Storage.ReleaseTree

/-! Removing what is left of removed applications: a call may stop at a limit, and later calls go on
where it stopped. -/

namespace LvglPlatform

open Foundation

def applicationRemovalDepthLimit : ℕ := 128

def applicationRemovalNodeLimit : ℕ := 8192

def trustedStat (stat : Stat) : Bool := stat.uid = 0 && stat.mode &&& 0o022 = 0

/-- Below a directory of this device, only trusted directories of the same device are entered. -/
def applicationRemover (device : ℕ) : Remover where
  enters stat := trustedStat stat && stat.device = device
  nodeLimit := applicationRemovalNodeLimit

def removeApplicationContents (order : ReadOrder) (device depth nodes : ℕ)
    (directory : List (Bytes × Node)) : Removal :=
  (applicationRemover device).removeContents order (applicationRemovalDepthLimit + 1 - depth) nodes
    directory

def removedPrefix : Bytes := text ".removed-"

def applicationTombstone (name : Bytes) : Bool :=
  name.length = removedPrefix.length + 24 && removedPrefix.isPrefixOf name &&
    (name.drop removedPrefix.length).all isLowerHex

def tombstoneSweeper : Sweeper where
  kind name := if applicationTombstone name then .marked else .plain
  opens := trustedStat
  remover stat := applicationRemover stat.device
  levels := applicationRemovalDepthLimit + 1

def applicationsPath : Path := Session.splitPath applicationStore ++ [text "apps"]

/-- No failure is the answer `true`. -/
def cleanupApplicationTombstones (order : ReadOrder) (root : Node) : Option RemovalFailure × Node :=
  match openAbsoluteDirectory root applicationStore with
  | none => (some .refused, root)
  | some store =>
    match store.openDirectory (text "apps") with
    | .missing => (none, root)
    | .refused => (some .refused, root)
    | .directory applications =>
      if !trustedDirectory applications then (some .refused, root)
      else
        let removal := tombstoneSweeper.sweep order applications.entries
        (removal.failure,
          root.update applicationsPath fun _ => .directory applications.stat removal.left)

def cleanups (orders : ℕ → ReadOrder) (root : Node) : ℕ → Node
  | 0 => root
  | n + 1 => (cleanupApplicationTombstones (orders n) (cleanups orders root n)).2

def applicationsDirectory (root : Node) : Option Node := root.openTrusted 0 applicationsPath

def tombstoneNodes (root : Node) : ℕ :=
  ((applicationsDirectory root).map fun applications =>
    tombstoneSweeper.weight applications.entries).getD 0

/-- Every tombstone holds releases that were extracted from accepted packages. -/
def TombstonesOfReleases (applications : Node) : Prop :=
  ∀ entry ∈ applications.entries, applicationTombstone entry.1 = true → ApplicationTree 0 entry.2

section

variable {root applications : Node} {order : ReadOrder}

lemma trusted_of_stat {stat : Stat} (h : applications.trusted 0 = true) (hstat : stat = applications.stat)
    (entries : List (Bytes × Node)) : (Node.directory stat entries).trusted 0 = true := by
  subst hstat
  simp only [Node.trusted, Bool.and_eq_true] at h ⊢
  exact ⟨⟨rfl, h.1.2⟩, h.2⟩

lemma cleanup_eq (h : applicationsDirectory root = some applications) :
    cleanupApplicationTombstones order root =
      ((tombstoneSweeper.sweep order applications.entries).failure,
        root.update applicationsPath fun _ => .directory applications.stat
          (tombstoneSweeper.sweep order applications.entries).left) := by
  rw [applicationsDirectory, applicationsPath, Node.openTrusted_append] at h
  obtain ⟨store, hstore, happs⟩ := Option.bind_eq_some_iff.mp h
  obtain ⟨-, child, hchild, hopen⟩ := Node.openTrusted_cons_iff.mp happs
  obtain ⟨ht, he⟩ := Option.ite_none_right_eq_some.mp hopen
  obtain rfl := Option.some.inj he
  have hroot : openAbsoluteDirectory root applicationStore = some store := by
    have hsplit : Session.splitPath applicationStore ≠ [] := by decide
    rw [openAbsoluteDirectory, if_neg (by decide)]
    generalize Session.splitPath applicationStore = components at hsplit hstore
    cases components with
    | nil => exact absurd rfl hsplit
    | cons name path => exact hstore
  have hdirectory : store.openDirectory (text "apps") = .directory child := by
    rw [Node.openDirectory, hchild]
    exact if_pos (Node.isDirectory_of_trusted ht)
  rw [cleanupApplicationTombstones, hroot]
  simp only [hdirectory, trustedDirectory, ht]
  rfl

lemma cleanup_directory (h : applicationsDirectory root = some applications) :
    applicationsDirectory (cleanupApplicationTombstones order root).2 =
      some (.directory applications.stat (tombstoneSweeper.sweep order applications.entries).left) := by
  rw [cleanup_eq h]
  exact Node.openTrusted_update h (trusted_of_stat (Node.openTrusted_trusted h) rfl _)

lemma cleanups_directory (orders : ℕ → ReadOrder) (h : applicationsDirectory root = some applications)
    (n : ℕ) : ∃ later, applicationsDirectory (cleanups orders root n) = some later ∧
      later.entries = tombstoneSweeper.sweeps orders n applications.entries := by
  induction n with
  | zero => exact ⟨applications, h, rfl⟩
  | succ n ih =>
    obtain ⟨later, hlater, hentries⟩ := ih
    refine ⟨_, cleanup_directory hlater, ?_⟩
    rw [Sweeper.sweeps, ← hentries]
    rfl

lemma tombstones_sweepable (h : TombstonesOfReleases applications) :
    tombstoneSweeper.Sweepable applications.entries := by
  have henters : EntersStaged (applicationRemover 0) 0 := ⟨by decide, by decide⟩
  intro entry hentry
  by_cases htombstone : applicationTombstone entry.1 = true
  · refine ⟨by simp [tombstoneSweeper, htombstone], fun _ => ?_⟩
    have htree := h entry hentry htombstone
    have hfits : (applicationRemover 0).Fits (applicationRemovalDepthLimit + 1) entry.2.entries :=
      applicationTree_fits henters (by decide : 120 ≤ 127) htree
    obtain ⟨releases, -, he⟩ := htree
    rw [he] at hfits ⊢
    exact ⟨_, _, rfl, by decide, hfits⟩
  · exact ⟨by simp [tombstoneSweeper, htombstone], by simp [tombstoneSweeper, htombstone]⟩

end

/-- Calls that stop at the limit on names go on to remove every tombstone, and the limit on the depth
is never reached. -/
theorem application_tombstones_removed (orders : ℕ → ReadOrder) (root applications : Node)
    (hopen : applicationsDirectory root = some applications)
    (htombstones : TombstonesOfReleases applications) :
    (∃ n left, (cleanupApplicationTombstones (orders n) (cleanups orders root n)).1 = none ∧
      applicationsDirectory (cleanups orders root (n + 1)) = some left ∧
      ∀ entry ∈ left.entries, applicationTombstone entry.1 = false) ∧
    ∀ n, (cleanupApplicationTombstones (orders n) (cleanups orders root n)).1 = none ∨
      (cleanupApplicationTombstones (orders n) (cleanups orders root n)).1 = some .tooMany ∧
        tombstoneNodes (cleanups orders root (n + 1)) < tombstoneNodes (cleanups orders root n) := by
  have hsweepable := tombstones_sweepable htombstones
  have hlimit : ∀ stat, tombstoneSweeper.levels ≤ (tombstoneSweeper.remover stat).nodeLimit := by
    intro stat
    change 129 ≤ 8192
    omega
  constructor
  · obtain ⟨n, hdone⟩ := Sweeper.sweeps_finish orders hsweepable hlimit
    obtain ⟨later, hlater, hentries⟩ := cleanups_directory orders hopen n
    rw [← hentries] at hdone
    refine ⟨n, _, ?_, cleanup_directory hlater, ?_⟩
    · rw [cleanup_eq hlater]
      exact hdone
    · intro entry hentry
      have hplain := Sweeper.sweep_done hdone entry hentry
      by_contra htombstone
      exact hplain (if_pos (by simpa using htombstone))
  · intro n
    obtain ⟨later, hlater, hentries⟩ := cleanups_directory orders hopen n
    have hstill := Sweeper.sweeps_sweepable orders hsweepable n
    rw [← hentries] at hstill
    have hnodes : tombstoneNodes (cleanups orders root n) = tombstoneSweeper.weight later.entries := by
      simp [tombstoneNodes, hlater]
    have hnext : tombstoneNodes (cleanups orders root (n + 1)) =
        tombstoneSweeper.weight (tombstoneSweeper.sweep (orders n) later.entries).left := by
      rw [tombstoneNodes, cleanups, cleanup_directory hlater]
      rfl
    rw [cleanup_eq hlater, hnodes, hnext]
    by_cases hfailure : (tombstoneSweeper.sweep (orders n) later.entries).failure = none
    · exact Or.inl hfailure
    · exact Or.inr (Sweeper.sweep_failed hstill hlimit hfailure)

def removedApplications : Node :=
  privateDirectory [(removedPrefix ++ text "0123456789abcdef01234567", privateDirectory [
    (text "releases", privateDirectory [
      (text "7", extracted 0 samplePackage.bytes samplePackage.verification (byteArr 64 [] 0))])])]

def removedSystem : Node :=
  privateDirectory [(text "userdisk", privateDirectory [(text "apps", privateDirectory [
    (text "lvgl-apps", privateDirectory [(text "apps", removedApplications)])])])]

lemma removedApplications_tombstones : TombstonesOfReleases removedApplications := by
  intro entry hentry _
  obtain rfl := List.mem_singleton.mp hentry
  refine ⟨_, ?_, rfl⟩
  intro release hrelease
  obtain rfl := List.mem_singleton.mp hrelease
  exact ⟨_, _, _, _, _, _, _, samplePackage_accepted, List.prefix_rfl, rfl⟩

theorem removed_system_cleared :
    ∃ n left, (cleanupApplicationTombstones .stored
        (cleanups (fun _ => .stored) removedSystem n)).1 = none ∧
      applicationsDirectory (cleanups (fun _ => .stored) removedSystem (n + 1)) = some left ∧
      ∀ entry ∈ left.entries, applicationTombstone entry.1 = false :=
  (application_tombstones_removed (fun _ => .stored) removedSystem removedApplications rfl
    removedApplications_tombstones).1

end LvglPlatform
