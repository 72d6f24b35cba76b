import LvglPlatform.Session.InstallerBroker

namespace LvglPlatform

open Foundation

/-- What a token stands for: which directory of the application, and its trusted release state. -/
structure SnapshotIdentity where
  appId : Bytes
  device : ℕ
  inode : ℕ
  changed : ℤ
  state : Option ApplicationReleaseState
  deriving DecidableEq

/-- A digest is the digest of one of these texts only. -/
def CollisionFree (crypto : CryptoProvider) (materials : Set Bytes) : Prop :=
  ∀ a ∈ materials, ∀ b ∈ materials, ∀ digest, crypto.sha512 a = some digest →
    crypto.sha512 b = some digest → a = b

section

variable {appId appId' : Bytes} {directory directory' : Stat}
  {state state' : Option ApplicationReleaseState}

lemma newline_decimal (n : ℕ) : chr '\n' ∉ decimal n := by
  intro h
  have hrange := decimal_range h
  have hnewline : (chr '\n').toNat = 10 := by decide
  omega

lemma newline_signedDecimal (n : ℤ) : chr '\n' ∉ signedDecimal n := by
  rw [signedDecimal]
  split
  · intro h
    rcases List.mem_cons.mp h with hsign | hdigits
    · exact absurd hsign (by decide)
    · exact newline_decimal _ hdigits
  · exact newline_decimal _

lemma newline_session (h : validSessionAppId appId = true) : chr '\n' ∉ appId := by
  unfold validSessionAppId identifier at h
  split at h
  · cases h
  · intro hmem
    exact absurd (scanIdentifier_all h _ hmem) (by decide)

lemma newline_keyId (h : keyId appId = true) : chr '\n' ∉ appId := by
  intro hmem
  rw [keyId, lowercaseHex, Bool.and_eq_true, List.all_eq_true] at h
  exact absurd (h.2 _ hmem) (by decide)

lemma signedDecimal_injective {m n : ℤ} (h : signedDecimal m = signedDecimal n) : m = n := by
  have hsign : ∀ k : ℕ, chr '-' ∉ decimal k := by
    intro k hmem
    have hrange := decimal_range hmem
    have hminus : (chr '-').toNat = 45 := by decide
    omega
  rw [signedDecimal, signedDecimal] at h
  split at h
  · split at h
    · have hvalue := decimal_injective (List.cons.inj h).2
      omega
    · exact absurd (h ▸ List.mem_cons_self) (hsign n.natAbs)
  · split at h
    · exact absurd (h.symm ▸ List.mem_cons_self) (hsign m.natAbs)
    · have hvalue := decimal_injective h
      omega

lemma line_inj {a b rest rest' : Bytes} (ha : chr '\n' ∉ a) (hb : chr '\n' ∉ b)
    (h : line a ++ rest = line b ++ rest') : a = b ∧ rest = rest' := by
  apply terminated_inj ha hb
  rw [line, line, List.append_assoc, List.append_assoc] at h
  exact h

lemma decimalLine_inj {m n : ℕ} {rest rest' : Bytes}
    (h : line (decimal m) ++ rest = line (decimal n) ++ rest') : m = n ∧ rest = rest' := by
  obtain ⟨hdecimal, hrest⟩ := line_inj (newline_decimal m) (newline_decimal n) h
  exact ⟨decimal_injective hdecimal, hrest⟩

def StateOf (appId : Bytes) (state : ApplicationReleaseState) : Prop :=
  keyId state.signingKeyId = true ∧ state.appId = appId

lemma stateMaterial_injective (hstate : ∀ s ∈ state, StateOf appId s)
    (hstate' : ∀ s ∈ state', StateOf appId s) (h : stateMaterial state = stateMaterial state') :
    state = state' := by
  -- the text of a trusted state begins with a digit, and the other one does not
  have hnone : ∀ s : ApplicationReleaseState, stateMaterial (some s) ≠ stateMaterial none := by
    intro s he
    have hdigits : decimal s.generation.toNat ≠ [] := by simp [decimal]
    obtain ⟨c, rest, hc⟩ := List.exists_cons_of_ne_nil hdigits
    have hrange := decimal_range (hc ▸ List.mem_cons_self : c ∈ decimal s.generation.toNat)
    have hletter : (chr 'u').toNat = 117 := by decide
    have htext : text "untrusted-policy" = chr 'u' :: text "ntrusted-policy" := by decide
    rw [stateMaterial, stateMaterial, line, hc, htext] at he
    have hhead : c = chr 'u' := (List.cons.inj he).1
    rw [hhead] at hrange
    omega
  cases state with
  | none =>
    cases state' with
    | none => rfl
    | some s' => exact absurd h.symm (hnone s')
  | some s =>
    cases state' with
    | none => exact absurd h (hnone s)
    | some s' =>
      obtain ⟨hkey, happ⟩ := hstate s rfl
      obtain ⟨hkey', happ'⟩ := hstate' s' rfl
      simp only [stateMaterial, List.append_assoc] at h
      obtain ⟨hgeneration, h⟩ := decimalLine_inj h
      obtain ⟨hcurrent, h⟩ := decimalLine_inj h
      obtain ⟨hprevious, h⟩ := decimalLine_inj h
      obtain ⟨hhigh, h⟩ := decimalLine_inj h
      obtain ⟨hquarantined, h⟩ := decimalLine_inj h
      obtain ⟨hepoch, h⟩ := decimalLine_inj h
      obtain ⟨hfailures, h⟩ := decimalLine_inj h
      obtain ⟨hsigning, h⟩ := line_inj (newline_keyId hkey) (newline_keyId hkey') h
      obtain ⟨hcurrentDigest, h⟩ := List.append_inj h (by simp)
      obtain ⟨hpreviousDigest, hhighDigest⟩ := List.append_inj h (by simp)
      have hsame : s = s' := by
        obtain ⟨_, _, _, _, _, _, _, _, _, _, _, _⟩ := s
        obtain ⟨_, _, _, _, _, _, _, _, _, _, _, _⟩ := s'
        simp only [ApplicationReleaseState.mk.injEq]
        exact ⟨happ.trans happ'.symm, hsigning, UInt64.toNat_inj.mp hgeneration,
          UInt64.toNat_inj.mp hcurrent, UInt64.toNat_inj.mp hprevious, UInt64.toNat_inj.mp hhigh,
          UInt64.toNat_inj.mp hquarantined, UInt32.toNat_inj.mp hepoch,
          UInt16.toNat_inj.mp hfailures, List.Vector.toList_injective hcurrentDigest,
          List.Vector.toList_injective hpreviousDigest, List.Vector.toList_injective hhighDigest⟩
      rw [hsame]

/-- The text that is digested can be read apart again. -/
lemma snapshotMaterial_injective (happ : validSessionAppId appId = true)
    (happ' : validSessionAppId appId' = true) (hstate : ∀ s ∈ state, StateOf appId s)
    (hstate' : ∀ s ∈ state', StateOf appId' s)
    (h : snapshotMaterial appId directory state = snapshotMaterial appId' directory' state') :
    appId = appId' ∧ directory.device = directory'.device ∧ directory.inode = directory'.inode ∧
      directory.changed = directory'.changed ∧ state = state' := by
  simp only [snapshotMaterial, List.append_assoc] at h
  obtain ⟨-, hfields⟩ := List.append_inj h rfl
  obtain ⟨happId, hfields⟩ := line_inj (newline_session happ) (newline_session happ') hfields
  obtain ⟨hdevice, hfields⟩ := decimalLine_inj hfields
  obtain ⟨hinode, hfields⟩ := decimalLine_inj hfields
  obtain ⟨hchanged, hfields⟩ :=
    line_inj (newline_signedDecimal _) (newline_signedDecimal _) hfields
  rw [← happId] at hstate'
  exact ⟨happId, hdevice, hinode, signedDecimal_injective hchanged,
    stateMaterial_injective hstate hstate' hfields⟩

end

def applicationPath (appId : Bytes) : Path := applicationsPath ++ [appId]

def snapshotIdentity (env : Environment) (root : Node) (appId : Bytes) : Option SnapshotIdentity :=
  (root.lookup (applicationPath appId)).map fun application => {
    appId
    device := application.stat.device
    inode := application.stat.inode
    changed := application.stat.changed
    state := snapshotState env root appId }

def snapshotMaterials (env : Environment) (root : Node) : Set Bytes :=
  { material | ∃ appId application, root.lookup (applicationPath appId) = some application ∧
    material = snapshotMaterial appId application.stat (snapshotState env root appId) }

def Shows (env : Environment) (profile : CertifiedSessionProfile) (root : Node)
    (snapshot : InstalledApplicationSnapshot) : Prop :=
  ∃ snapshots, installedApplicationSnapshots env root profile = some (some snapshots) ∧
    snapshot ∈ snapshots

section

variable {env : Environment} {profile : CertifiedSessionProfile} {root : Node}
  {snapshot : InstalledApplicationSnapshot}

lemma installedApplicationIds_valid {ids : List Bytes} (h : installedApplicationIds root = some ids) :
    ∀ appId ∈ ids, validSessionAppId appId = true ∧ reservedApplicationId appId = false := by
  rw [installedApplicationIds] at h
  split at h
  · cases h
  split at h
  · obtain rfl := Option.some.inj h
    nofun
  · cases h
  split at h
  · cases h
  simp only at h
  split at h
  · cases h
  · obtain rfl := Option.some.inj h
    intro appId happ
    rw [mem_sortUnique byteLe_linear] at happ
    obtain ⟨entry, hentry, rfl⟩ := List.mem_map.mp (List.mem_of_find?_eq_some happ)
    have hvalid := (List.mem_filter.mp hentry).2
    simp only [Bool.and_eq_true, Bool.not_eq_true'] at hvalid
    exact hvalid.1

lemma snapshotState_of {appId : Bytes} : ∀ s ∈ snapshotState env root appId, StateOf appId s := by
  intro s hs
  rw [snapshotState] at hs
  split at hs
  · rename_i hloaded
    obtain rfl := Option.some.inj hs
    obtain ⟨hvalid, happ⟩ := loadReleaseStateFrom_valid hloaded
    exact ⟨((validState_iff _).mp hvalid).keyId, happ⟩
  · cases hs

lemma installedSnapshot_shows {appId : Bytes} {directory : Stat}
    (h : installedSnapshot env root profile appId directory = some (some snapshot)) :
    snapshot.publicValue.appId = appId ∧
      installedSnapshotToken appId directory (snapshotState env root appId) env.crypto =
        some snapshot.publicValue.token ∧
      (if snapshot.stateLoaded then some snapshot.state else none) = snapshotState env root appId := by
  rw [installedSnapshot] at h
  simp only at h
  split at h
  · rename_i hloaded
    have hstate : snapshotState env root appId =
        some (storedReleaseOf env root appId).selected.state := if_pos hloaded
    obtain ⟨current, -, h⟩ := Option.bind_eq_some_iff.mp h
    obtain ⟨previous, -, h⟩ := Option.bind_eq_some_iff.mp h
    obtain ⟨token, htoken, rfl⟩ := Option.map_eq_some_iff.mp (Option.some.inj h)
    rw [hstate]
    cases current with
    | none => exact ⟨rfl, htoken, rfl⟩
    | some application => exact ⟨rfl, htoken, rfl⟩
  · rename_i hloaded
    have hstate : snapshotState env root appId = none := if_neg hloaded
    obtain ⟨token, htoken, rfl⟩ := Option.map_eq_some_iff.mp (Option.some.inj h)
    rw [hstate]
    exact ⟨rfl, htoken, rfl⟩

lemma child_of_opened {parent node : Node} {name : Bytes}
    (h : parent.openDirectory name = .directory node) : parent.child name = some node := by
  rw [Node.openDirectory] at h
  split at h
  · cases h
  · rename_i found hfound
    split at h
    · obtain rfl := Opened.directory.inj h
      exact hfound
    · cases h

lemma snapshotsOf_mem {applications : Node} {ids : List Bytes}
    {snapshots : List InstalledApplicationSnapshot}
    (h : snapshotsOf env root profile applications ids = some snapshots) :
    snapshot ∈ snapshots ↔ ∃ appId ∈ ids, ∃ directory,
      applications.openDirectory appId = .directory directory ∧ trustedDirectory directory = true ∧
        installedSnapshot env root profile appId directory.stat = some (some snapshot) := by
  induction ids generalizing snapshots with
  | nil =>
    obtain rfl := Option.some.inj h
    simp
  | cons appId rest ih =>
    obtain ⟨later, hlater, h⟩ := Option.bind_eq_some_iff.mp h
    rw [List.exists_mem_cons_iff, ← ih hlater]
    split at h
    · rename_i directory hopen
      rw [hopen]
      split at h <;> rename_i htrusted
      · obtain rfl := Option.some.inj h
        refine (or_iff_right ?_).symm
        rintro ⟨other, hother, hyes, -⟩
        obtain rfl := Opened.directory.inj hother
        rw [hyes] at htrusted
        cases htrusted
      · obtain ⟨shown, hshown, h⟩ := Option.bind_eq_some_iff.mp h
        obtain rfl := Option.some.inj h
        rw [List.mem_append, Option.mem_toList]
        refine or_congr_left ?_
        constructor
        · rintro rfl
          exact ⟨directory, rfl, by simpa using htrusted, hshown⟩
        · rintro ⟨other, hother, -, hsnapshot⟩
          obtain rfl := Opened.directory.inj hother
          exact Option.some.inj (hshown.symm.trans hsnapshot)
    · rename_i hclosed
      obtain rfl := Option.some.inj h
      refine (or_iff_right ?_).symm
      rintro ⟨other, hother, -⟩
      exact hclosed other hother

lemma openApplicationStore_lookup {store : Node}
    (h : openAbsoluteDirectory root applicationStore = some store) :
    root.lookup (Session.splitPath applicationStore) = some store := by
  have hsplit : Session.splitPath applicationStore ≠ [] := by decide
  rw [openAbsoluteDirectory, if_neg (by decide)] at h
  generalize Session.splitPath applicationStore = components at hsplit h
  cases components with
  | nil => exact absurd rfl hsplit
  | cons name path => exact Node.openTrusted_lookup h

lemma Shows.token (h : Shows env profile root snapshot) :
    validSessionAppId snapshot.publicValue.appId = true ∧
      ∃ application, root.lookup (applicationPath snapshot.publicValue.appId) = some application ∧
        installedSnapshotToken snapshot.publicValue.appId application.stat
          (snapshotState env root snapshot.publicValue.appId) env.crypto =
            some snapshot.publicValue.token ∧
        (if snapshot.stateLoaded then some snapshot.state else none) =
          snapshotState env root snapshot.publicValue.appId := by
  obtain ⟨snapshots, hsnapshots, hmem⟩ := h
  rw [installedApplicationSnapshots] at hsnapshots
  split at hsnapshots
  · cases hsnapshots
  rename_i store hstore
  split at hsnapshots
  · obtain rfl := Option.some.inj (Option.some.inj hsnapshots)
    cases hmem
  · cases hsnapshots
  rename_i applications hopen
  split at hsnapshots
  · cases hsnapshots
  split at hsnapshots
  · cases hsnapshots
  rename_i ids hids
  obtain ⟨shown, hshown, hsorted⟩ := Option.map_eq_some_iff.mp hsnapshots
  obtain rfl := Option.some.inj hsorted
  have hmem : snapshot ∈ shown := List.mem_mergeSort.mp hmem
  obtain ⟨appId, happ, application, hopened, -, hsnapshot⟩ := (snapshotsOf_mem hshown).mp hmem
  have hchild := child_of_opened hopened
  obtain ⟨rfl, htoken, hstate⟩ := installedSnapshot_shows hsnapshot
  refine ⟨(installedApplicationIds_valid hids _ happ).1, application, ?_, htoken, hstate⟩
  have hlookup := openApplicationStore_lookup hstore
  rw [applicationPath, applicationsPath, List.append_assoc, Node.lookup_append, hlookup]
  rw [List.singleton_append, Option.bind_some, Node.lookup_cons (child_of_opened hopen),
    Node.lookup_cons hchild, Node.lookup]

lemma Shows.material (h : Shows env profile root snapshot) :
    ∃ material ∈ snapshotMaterials env root, ∃ digest, env.crypto.sha512 material = some digest ∧
      hexDigest digest = snapshot.publicValue.token := by
  obtain ⟨-, application, hlookup, htoken, -⟩ := h.token
  obtain ⟨digest, hdigest, hhex⟩ := Option.map_eq_some_iff.mp htoken
  exact ⟨_, ⟨_, application, hlookup, rfl⟩, digest, hdigest, hhex⟩

lemma Shows.identity {root' : Node} {other : InstalledApplicationSnapshot}
    (hfree : CollisionFree env.crypto (snapshotMaterials env root ∪ snapshotMaterials env root'))
    (h : Shows env profile root snapshot) (h' : Shows env profile root' other)
    (htoken : other.publicValue.token = snapshot.publicValue.token) :
    other.publicValue.appId = snapshot.publicValue.appId ∧
      other.stateLoaded = snapshot.stateLoaded ∧
      (snapshot.stateLoaded = true → other.state = snapshot.state) ∧
      ∃ identity, snapshotIdentity env root snapshot.publicValue.appId = some identity ∧
        snapshotIdentity env root' snapshot.publicValue.appId = some identity := by
  obtain ⟨hvalid, application, hlookup, hdigest, hstate⟩ := h.token
  obtain ⟨hvalid', application', hlookup', hdigest', hstate'⟩ := h'.token
  obtain ⟨digest, hsha, hhex⟩ := Option.map_eq_some_iff.mp hdigest
  obtain ⟨digest', hsha', hhex'⟩ := Option.map_eq_some_iff.mp hdigest'
  have hdigests : digest' = digest := by
    apply List.Vector.toList_injective
    apply hexText_injective
    exact hhex'.trans (htoken.trans hhex.symm)
  rw [hdigests] at hsha'
  have hmaterial := hfree _ (Or.inl ⟨_, application, hlookup, rfl⟩) _
    (Or.inr ⟨_, application', hlookup', rfl⟩) digest hsha hsha'
  obtain ⟨happ, hdevice, hinode, hchanged, hsame⟩ :=
    snapshotMaterial_injective hvalid hvalid' snapshotState_of snapshotState_of hmaterial
  rw [← happ] at hlookup' hsame hstate'
  have hstates : (if other.stateLoaded then some other.state else none) =
      if snapshot.stateLoaded then some snapshot.state else none := by
    rw [hstate', hstate, hsame]
  refine ⟨happ.symm, ?_, fun hloaded => ?_, _, congrArg _ hlookup, ?_⟩
  · cases hfirst : other.stateLoaded <;> cases hsecond : snapshot.stateLoaded <;>
      simp [hfirst, hsecond] at hstates ⊢
  · rw [hloaded, if_pos rfl] at hstates
    split at hstates
    · exact Option.some.inj hstates
    · cases hstates
  · rw [snapshotIdentity, hlookup', Option.map_some, ← hdevice, ← hinode, ← hchanged, ← hsame]

end

/-- The system in which a request looks for its snapshot: storage is prepared, what is left of
removed applications is cleared away. -/
def requestFinds (env : Environment) (calls : BrokerCalls) (root : Node) : Node :=
  let (root, prepared) := prepareApplicationStorage env.euid root
  if prepared ≠ .ready then root else (cleanupApplicationTombstones calls.order root).2

lemma installerStatus_ready {status : InboxStatus} (h : installerStatus status = .ready) :
    status = .ready := by
  cases status <;> first | rfl | cases h

lemma mutateInstalled_stale {env : Environment} {profile : CertifiedSessionProfile}
    {calls : BrokerCalls} {root after : Node} {request : InstallerRequest}
    {response : InstallerResponse} {installed : List InstalledApplicationSnapshot}
    (h : mutateInstalled env profile calls root request installed = some (response, after))
    (hacts : after ≠ root ∨ response.status = .ready) :
    ∃ selected ∈ installed, selected.publicValue.token = request.token := by
  rw [mutateInstalled] at h
  simp only at h
  split at h
  · obtain ⟨rfl, rfl⟩ := Prod.mk.inj (Option.some.inj h)
    rcases hacts with hacts | hready
    · exact absurd rfl hacts
    · cases hready
  · rename_i selected hfind
    exact ⟨selected, List.mem_of_find?_eq_some hfind, by simpa using List.find?_some hfind⟩

lemma handleInstallerRequest_selected {env : Environment} {profile : CertifiedSessionProfile}
    {calls : BrokerCalls} {root after : Node} {request : InstallerRequest}
    {response : InstallerResponse}
    (hcommand : request.command = .rollback ∨ request.command = .remove)
    (h : handleInstallerRequest env profile calls root request = some (response, after))
    (hacts : after ≠ requestFinds env calls root ∨ response.status = .ready) :
    ∃ selected, Shows env profile (requestFinds env calls root) selected ∧
      selected.publicValue.token = request.token := by
  rw [handleInstallerRequest] at h
  rw [requestFinds] at hacts ⊢
  generalize prepareApplicationStorage env.euid root = preparation at h hacts ⊢
  obtain ⟨prepared, status⟩ := preparation
  simp only at h hacts ⊢
  split at h
  · rename_i hprepared
    obtain ⟨rfl, rfl⟩ := Prod.mk.inj (Option.some.inj h)
    rw [if_pos hprepared] at hacts
    rcases hacts with hacts | hready
    · exact absurd rfl hacts
    · exact absurd (installerStatus_ready hready) hprepared
  · rename_i hprepared
    rw [if_neg hprepared] at hacts ⊢
    have hanswer : handleInstalledRequest env profile calls prepared request =
        some (response, after) := by
      rcases hcommand with hcommand | hcommand
      · simpa only [hcommand] using h
      · simpa only [hcommand] using h
    rw [handleInstalledRequest] at hanswer
    generalize cleanupApplicationTombstones calls.order prepared = cleanup at hanswer hacts ⊢
    obtain ⟨failure, found⟩ := cleanup
    cases failure with
    | some failure =>
      obtain ⟨rfl, rfl⟩ := Prod.mk.inj (Option.some.inj hanswer)
      rcases hacts with hacts | hready
      · exact absurd rfl hacts
      · cases hready
    | none =>
      obtain ⟨snapshots, hsnapshots, hresponse⟩ := Option.bind_eq_some_iff.mp hanswer
      cases snapshots with
      | none =>
        obtain ⟨rfl, rfl⟩ := Prod.mk.inj (Option.some.inj hresponse)
        rcases hacts with hacts | hready
        · exact absurd rfl hacts
        · cases hready
      | some installed =>
        have hmutates : mutateInstalled env profile calls found request installed =
            some (response, after) := by
          rcases hcommand with hcommand | hcommand
          · simpa only [installedResponse, hcommand] using hresponse
          · simpa only [installedResponse, hcommand] using hresponse
        obtain ⟨selected, hmem, htoken⟩ := mutateInstalled_stale hmutates hacts
        exact ⟨selected, ⟨installed, hsnapshots, hmem⟩, htoken⟩

/-- Without a collision of the digests, a token stands for one directory and one release state of one
application, and a request acts only on what its token stands for. -/
theorem installed_token_identifies {env : Environment} {profile : CertifiedSessionProfile}
    {issued found : Node} {snapshot : InstalledApplicationSnapshot}
    (hfree : CollisionFree env.crypto (snapshotMaterials env issued ∪ snapshotMaterials env found))
    (hissued : Shows env profile issued snapshot) :
    (∀ other, Shows env profile found other →
      other.publicValue.token = snapshot.publicValue.token →
      other.publicValue.appId = snapshot.publicValue.appId ∧
        other.stateLoaded = snapshot.stateLoaded ∧
        (snapshot.stateLoaded = true → other.state = snapshot.state) ∧
        ∃ identity, snapshotIdentity env issued snapshot.publicValue.appId = some identity ∧
          snapshotIdentity env found snapshot.publicValue.appId = some identity) ∧
    ∀ calls root request response after, requestFinds env calls root = found →
      (request.command = .rollback ∨ request.command = .remove) →
      request.token = snapshot.publicValue.token →
      handleInstallerRequest env profile calls root request = some (response, after) →
      (after ≠ found ∨ response.status = .ready) →
      ∃ identity, snapshotIdentity env issued snapshot.publicValue.appId = some identity ∧
        snapshotIdentity env found snapshot.publicValue.appId = some identity := by
  refine ⟨fun other hother htoken => hissued.identity hfree hother htoken, ?_⟩
  rintro calls root request response after rfl hcommand htoken hhandled hacts
  obtain ⟨selected, hselected, hsame⟩ := handleInstallerRequest_selected hcommand hhandled hacts
  exact (hissued.identity hfree hselected (hsame.trans htoken)).2.2.2

def demoSystem (left : List (Bytes × Node)) : Node :=
  privateDirectory [(text "userdisk", privateDirectory [(text "apps", privateDirectory [
    (text "lvgl-apps", privateDirectory [
      (text "apps", privateDirectory ((text "org.pen.demo", privateDirectory []) :: left))]),
    (text "lvgl-app-policy", privateDirectory []), (text "lvgl-inbox", privateDirectory [])])])]

def demoDigest : Sha512Digest := bigEndian 64
  0xafec0e0d3d0330fc125f16fdbbc59320de51d83de5ad89cabf4d6c2cbe9243a3ab65789473cf30e6e7042fded0aadd760b3cf7dcb1687e150ab416576c85333d

def demoEnvironment : Environment where
  euid := 0
  trust := installEnvironment.trust
  crypto := {
    sha256 := fun _ => none
    sha512 := fun bytes =>
      if bytes = snapshotMaterial (text "org.pen.demo") { mode := 0o700 } none then some demoDigest
      else none
    verifyEd25519 := fun _ _ _ => false }

def demoProfile : CertifiedSessionProfile where
  profileId := text "pen"
  machine := text "pen"

def demoSnapshot : InstalledApplicationSnapshot where
  publicValue := {
    token := hexDigest demoDigest
    appId := text "org.pen.demo"
    name := text "org.pen.demo"
    version := text "unknown"
    detail := text "INSTALLED_POLICY_UNTRUSTED" }

def demoTombstone : Bytes × Node := (removedPrefix ++ hexText (zeroes 12).toList, privateDirectory [])

def demoCalls : BrokerCalls where
  randoms := installRandoms
  order := ReadOrder.stored
  audits := true
  suffix := some (zeroes 12)
  renames := true
  syncs := true

def demoRemoval : InstallerRequest where
  command := .remove
  requestId := 7
  token := hexDigest demoDigest

theorem demo_removed_as_issued : ∃ identity,
    snapshotIdentity demoEnvironment (demoSystem []) (text "org.pen.demo") = some identity ∧
      snapshotIdentity demoEnvironment
        (requestFinds demoEnvironment demoCalls (demoSystem [demoTombstone]))
        (text "org.pen.demo") = some identity := by
  have hfree : ∀ materials, CollisionFree demoEnvironment.crypto materials := by
    intro materials a _ b _ digest ha hb
    obtain ⟨ha, -⟩ := Option.ite_none_right_eq_some.mp ha
    obtain ⟨hb, -⟩ := Option.ite_none_right_eq_some.mp hb
    exact ha.trans hb.symm
  have hshown : installedApplicationSnapshots demoEnvironment (demoSystem []) demoProfile =
      some (some [demoSnapshot]) := by decide +kernel
  have hready : (handleInstallerRequest demoEnvironment demoProfile demoCalls
      (demoSystem [demoTombstone]) demoRemoval).map (fun answer => answer.1.status) =
        some .ready := by decide +kernel
  obtain ⟨⟨response, after⟩, hhandled, hready⟩ := Option.map_eq_some_iff.mp hready
  exact (installed_token_identifies (hfree _) ⟨_, hshown, List.mem_singleton_self _⟩).2 demoCalls _
    demoRemoval response after rfl (Or.inr rfl) rfl hhandled (Or.inr hready)

end LvglPlatform
