import LvglPlatform.Platform.NumberText
import LvglPlatform.Session.BrokerLists
import LvglPlatform.Session.SessionStatus

namespace LvglPlatform

open Foundation

def printable (text : Bytes) : Bool := text.all printableByte

/-- An answer reaches the installer application as the broker built it. -/
structure Delivered (answer : InstallerResponse) : Prop where
  accepted : (encodeInstallerResponse answer).head? ≠ some 0
  received : decodeInstallerResponse (encodeInstallerResponse answer) = some answer

/-- Whatever a scan counts can be asked for, and the answers are delivered. -/
def EntriesDelivered (env : Environment) (profile : CertifiedSessionProfile) (calls : BrokerCalls)
    (root : Node) (listing entry : InstallerCommand) : Prop :=
  ∀ counting counted after, counting.command = listing → validInstallerRequest counting = true →
    handleInstallerRequest env profile calls root counting = some (counted, after) →
    ∀ request : InstallerRequest, request.command = entry → validInstallerRequest request = true →
      request.index < counted.count →
      ∃ answer after, handleInstallerRequest env profile calls root request = some (answer, after) ∧
        Delivered answer

/-- The scan of the inbox takes this package, the first one of its digest. -/
def Offered (env : Environment) (root : Node) (package : InboxPackage) : Prop :=
  ∃ inbox, root.openTrusted 0 applicationInboxRoot = some inbox ∧
    inbox.entries.length ≤ maximumInboxEntries ∧
    (∀ other ∈ inboxPackages env.crypto inbox, (other.verification env).isSome = true) ∧
    (inboxPackages env.crypto inbox).find? (fun other => other.digest = package.digest) = some package

/-- The package verifies, the session knows its identifier, and its name can be shown. -/
def InboxPackage.Presentable (env : Environment) (package : InboxPackage) : Prop :=
  ∃ verification, package.verification env = some verification ∧ verification.ok = true ∧
    validSessionAppId verification.manifest.appId = true ∧ printable verification.manifest.name = true

/-- The directory of an application that the session finds installed. -/
structure ListedDirectory (root : Node) (appId : Bytes) (directory : Node) : Prop where
  enumerated : ∃ ids, installedApplicationIds root = some ids ∧ appId ∈ ids
  opened : ∃ store applications, openAbsoluteDirectory root applicationStore = some store ∧
    store.openDirectory (text "apps") = .directory applications ∧
    applications.openDirectory appId = .directory directory
  trusted : trustedDirectory directory = true

def ReleasesMeasurable (env : Environment) (profile : CertifiedSessionProfile) (root : Node)
    (appId : Bytes) : Prop :=
  let stored := storedReleaseOf env root appId
  stored.isLoaded = true →
    (verifyApplicationRelease env root (currentRecord stored.selected.state appId) profile).isSome = true ∧
      (verifyApplicationRelease env root (previousRecord stored.selected.state appId) profile).isSome = true

def InstalledPresentable (env : Environment) (profile : CertifiedSessionProfile) (root : Node) : Prop :=
  (∀ appId directory, ListedDirectory root appId directory → ReleasesMeasurable env profile root appId) →
  ∀ appId directory application, ListedDirectory root appId directory →
    (installedSnapshotToken appId directory.stat (snapshotState env root appId) env.crypto).isSome = true →
    verifyInstalledApplication env root appId profile = some (some application) →
      printable application.verification.manifest.name = true

section

variable {answer : InstallerResponse}

lemma delivered_iff (h : answer.SameDetail) : Delivered answer ↔ validInstallerResponse answer = true := by
  constructor
  · intro hdelivered
    have haccepted := hdelivered.accepted
    rw [Ne, encodeInstallerResponse_head, Bool.not_eq_false] at haccepted
    exact haccepted
  · intro hvalid
    refine ⟨?_, ?_⟩
    · rw [Ne, encodeInstallerResponse_head, hvalid]
      exact Bool.noConfusion
    · rw [decodeInstallerResponse_encode hvalid, arrived_of_sameDetail h]

end

lemma printableByte_range {c : UInt8} (hlow : 32 ≤ c.toNat) (hhigh : c.toNat < 127) :
    printableByte c = true := by
  rw [printableByte, Bool.and_eq_true, decide_eq_true_eq, decide_eq_true_eq]
  refine ⟨UInt8.le_iff_toNat_le.mpr hlow, ?_⟩
  rintro rfl
  exact absurd hhigh (by decide)

lemma printableByte_digit {c : UInt8} (h : isDigit c = true) : printableByte c = true := by
  rw [isDigit, Bool.and_eq_true, decide_eq_true_eq, decide_eq_true_eq, UInt8.le_iff_toNat_le,
    UInt8.le_iff_toNat_le] at h
  have hzero : (chr '0').toNat = 48 := by decide
  have hnine : (chr '9').toNat = 57 := by decide
  exact printableByte_range (by omega) (by omega)

lemma printableByte_lower {c : UInt8} (h : isLower c = true) : printableByte c = true := by
  rw [isLower, Bool.and_eq_true, decide_eq_true_eq, decide_eq_true_eq, UInt8.le_iff_toNat_le,
    UInt8.le_iff_toNat_le] at h
  have hfirst : (chr 'a').toNat = 97 := by decide
  have hlast : (chr 'z').toNat = 122 := by decide
  exact printableByte_range (by omega) (by omega)

lemma versionScan_printable {value : Bytes} {dots : ℕ} {digit : Bool}
    (h : versionScan dots digit value = true) : printable value = true := by
  induction value generalizing dots digit with
  | nil => rfl
  | cons c cs ih =>
    rw [versionScan] at h
    rw [printable, List.all_cons, ← printable]
    split at h <;> rename_i hc
    · subst hc
      split at h
      · cases h
      · rw [ih h]
        decide
    · split at h <;> rename_i hdigit
      · rw [ih h, printableByte_digit hdigit]
        rfl
      · cases h

lemma validText_eq {value : Bytes} {maximum : ℕ} (hne : value ≠ []) (hsize : value.length ≤ maximum) :
    validText value maximum false = printable value := by
  rw [validText, printable]
  simp [hne, hsize]

lemma verified_manifest {trust : OfficialTrustStore} {bytes : Bytes} {crypto : CryptoProvider}
    {verification : PackageVerification} (h : (trust.verify bytes crypto).answer = some verification)
    (hok : verification.ok = true) : ∃ files, ValidManifest { verification.manifest with files } := by
  obtain ⟨key, -, haccepts⟩ := trust_verified h hok
  obtain ⟨package, -, hsound, -, hpackage⟩ := accepts_iff.mp haccepts
  refine ⟨package.manifest.files, ?_⟩
  rw [hpackage]
  exact hsound.manifest

section

variable {manifest : VerifiedPackageManifest}

lemma ValidManifest.scannedVersion (h : ValidManifest manifest) :
    versionScan 0 false manifest.version = true := by
  have htexts := h.texts
  simp only [checkTexts, Bool.and_eq_true] at htexts
  obtain ⟨⟨⟨⟨⟨-, hversion⟩, -⟩, -⟩, -⟩, -⟩ := htexts
  rw [semanticVersion] at hversion
  split at hversion
  · cases hversion
  · exact hversion

lemma ValidManifest.versionText (h : ValidManifest manifest) :
    validText manifest.version versionLimit false = true := by
  rw [versionLimit, validText_eq h.version.nonempty h.version.size]
  exact versionScan_printable h.scannedVersion

lemma ValidManifest.nameText (h : ValidManifest manifest) :
    validText manifest.name nameLimit false = printable manifest.name :=
  validText_eq h.name.nonempty (h.name.size.trans (by decide))

end

section

variable {env : Environment} {root inbox : Node} {context : InstallPolicyContext} {package : InboxPackage}
  {packages : List InboxPackage} {verification : PackageVerification} {verified : List RawCandidate}
  {candidate : RawCandidate}

lemma inboxPackages_size (h : package ∈ inboxPackages env.crypto inbox) :
    package.bytes ≠ [] ∧ package.bytes.length ≤ maximumInboxPackage := by
  obtain ⟨name, -, hpackage⟩ := List.mem_filterMap.mp h
  obtain ⟨bytes, hbytes, hdigest⟩ := Option.bind_eq_some_iff.mp hpackage
  obtain ⟨digest, -, he⟩ := Option.bind_eq_some_iff.mp hdigest
  obtain rfl := Option.some.inj he
  rw [readCandidate] at hbytes
  split at hbytes
  · obtain ⟨hchecks, hcontent⟩ := Option.ite_none_right_eq_some.mp hbytes
    obtain rfl := Option.some.inj hcontent
    exact ⟨List.ne_nil_of_length_pos hchecks.2.2.2.1, hchecks.2.2.2.2⟩
  · cases hbytes

lemma policyDetail_valid {digest : Sha512Digest} {mark : Option ApplicationHighWaterMark} :
    validText (evaluateInstallPolicy verification digest context mark).detail detailLimit false = true := by
  unfold evaluateInstallPolicy
  dsimp only
  iterate 7
    split
    · decide
  split
  · decide
  rw [highWaterDecision]
  iterate 5
    split
    · decide
  decide

lemma candidateDecision_valid {digest : Sha512Digest} :
    validText (candidateDecision env root context verification digest).1 detailLimit false = true := by
  rw [candidateDecision]
  split
  · decide
  dsimp only
  split
  · decide
  · exact policyDetail_valid

lemma hexDigest_valid (digest : Sha512Digest) : validToken (hexDigest digest) = true :=
  hexText_lowercaseHex digest.toList (by rw [List.Vector.toList_length]; rfl)

/-- A candidate can be encoded exactly when its package can be presented. -/
lemma rawCandidate_valid (hpackage : package ∈ inboxPackages env.crypto inbox)
    (h : package.verification env = some verification) :
    validCandidate (rawCandidate env root context package verification).publicValue = true ↔
      package.Presentable env := by
  have hpresentable : package.Presentable env ↔ verification.ok = true ∧
      validSessionAppId verification.manifest.appId = true ∧
        printable verification.manifest.name = true := by
    rw [InboxPackage.Presentable]
    simp only [h, Option.some.injEq, exists_eq_left']
  obtain ⟨hne, hmaximum⟩ := inboxPackages_size hpackage
  rw [hpresentable, rawCandidate]
  dsimp only
  by_cases hok : verification.ok = true
  · obtain ⟨files, hmanifest⟩ := verified_manifest h hok
    have hversion : validText verification.manifest.version versionLimit false = true :=
      hmanifest.versionText
    have hname : validText verification.manifest.name nameLimit false =
        printable verification.manifest.name := hmanifest.nameText
    have hcounter : verification.manifest.releaseCounter ≠ 0 := by
      rintro hzero
      exact hmanifest.counter (congrArg UInt64.toNat hzero)
    have hsize : UInt64.ofNat package.bytes.length ≠ 0 := by
      have hpositive := List.length_pos_of_ne_nil hne
      have hlt : package.bytes.length < UInt64.size := hmaximum.trans_lt (by decide)
      intro hzero
      have hlength := congrArg UInt64.toNat hzero
      rw [UInt64.toNat_ofNat_of_lt' hlt, UInt64.toNat_zero] at hlength
      omega
    rw [if_pos hok, validCandidate]
    simp [hok, hexDigest_valid, hname, hversion, candidateDecision_valid, hcounter, hsize]
  · rw [if_neg hok, validCandidate]
    have hempty : validSessionAppId [] = false := by decide
    simp [hok, hempty]

lemma verifyCandidates_some (h : ∀ package ∈ packages, (package.verification env).isSome = true) :
    ∃ verified, verifyCandidates env root context packages = some verified := by
  induction packages with
  | nil => exact ⟨[], rfl⟩
  | cons package packages ih =>
    obtain ⟨verification, hverification⟩ := Option.isSome_iff_exists.mp (h package List.mem_cons_self)
    obtain ⟨verified, hverified⟩ := ih fun other hother => h other (List.mem_cons_of_mem _ hother)
    rw [verifyCandidates, hverification, hverified]
    exact ⟨_, rfl⟩

lemma verifyCandidates_defined (h : verifyCandidates env root context packages = some verified) :
    ∀ package ∈ packages, (package.verification env).isSome = true := by
  induction packages generalizing verified with
  | nil => exact fun package hmem => absurd hmem List.not_mem_nil
  | cons package packages ih =>
    obtain ⟨verification, hverification, h⟩ := Option.bind_eq_some_iff.mp h
    obtain ⟨rest, hrest, -⟩ := Option.bind_eq_some_iff.mp h
    rw [List.forall_mem_cons, hverification]
    exact ⟨rfl, ih hrest⟩

lemma rawCandidate_token (env : Environment) (root : Node) (context : InstallPolicyContext)
    (package : InboxPackage) (verification : PackageVerification) :
    (rawCandidate env root context package verification).publicValue.token = hexDigest package.digest := by
  rw [rawCandidate]
  dsimp only
  split <;> rfl

lemma verifyCandidates_find (h : verifyCandidates env root context packages = some verified)
    (digest : Sha512Digest) :
    verified.find? (fun other => other.publicValue.token = hexDigest digest) = some candidate ↔
      ∃ package, packages.find? (fun other => other.digest = digest) = some package ∧
        ∃ verification, package.verification env = some verification ∧
          rawCandidate env root context package verification = candidate := by
  induction packages generalizing verified with
  | nil =>
    obtain rfl := Option.some.inj h
    simp
  | cons package packages ih =>
    obtain ⟨verification, hverification, h⟩ := Option.bind_eq_some_iff.mp h
    obtain ⟨rest, hrest, h⟩ := Option.bind_eq_some_iff.mp h
    obtain rfl := Option.some.inj h
    rw [List.find?_cons, List.find?_cons, rawCandidate_token]
    by_cases hdigest : package.digest = digest
    · rw [hdigest, decide_eq_true rfl, decide_eq_true rfl]
      simp [hverification]
    · have hother : hexDigest package.digest ≠ hexDigest digest := by
        intro hsame
        exact hdigest (List.Vector.toList_injective (hexText_injective hsame))
      rw [decide_eq_false hdigest, decide_eq_false hother]
      exact ih hrest

lemma Shown.scanned (h : Shown env root context candidate) :
    ∃ scan, scanOfficialInbox env root context = some scan ∧ scan.status = .ready ∧
      candidate.publicValue ∈ scan.candidates := by
  obtain ⟨candidates, hraw, hlisted⟩ := h
  refine ⟨⟨.ready, text "INBOX_READY", candidates.map RawCandidate.publicValue⟩, ?_, rfl,
    List.mem_map_of_mem hlisted⟩
  rw [scanOfficialInbox, hraw]
  rfl

lemma shown_iff_offered : Shown env root context candidate ↔
    ∃ package, Offered env root package ∧ ∃ verification, package.verification env = some verification ∧
      rawCandidate env root context package verification = candidate := by
  constructor
  · rintro ⟨candidates, hraw, hmem⟩
    rw [rawCandidates] at hraw
    split at hraw
    · obtain ⟨-, rfl⟩ := Prod.mk.inj (Option.some.inj hraw)
      cases hmem
    rename_i inbox hopen
    split at hraw
    · obtain ⟨-, rfl⟩ := Prod.mk.inj (Option.some.inj hraw)
      cases hmem
    rename_i hsize
    obtain ⟨verified, hverified, hraw⟩ := Option.bind_eq_some_iff.mp hraw
    obtain ⟨-, rfl⟩ := Prod.mk.inj (Option.some.inj hraw)
    have hfind := (mem_sortUnique byteLe_linear).mp hmem
    obtain ⟨package, hpackage, verification, hverification, rfl⟩ :=
      verifyCandidates_mem hverified (List.mem_of_find?_eq_some hfind)
    rw [rawCandidate_token] at hfind
    obtain ⟨first, hfirst, found, hfound, hsame⟩ := (verifyCandidates_find hverified _).mp hfind
    have hdigest : first.digest = package.digest := by
      have hp := List.find?_some hfirst
      simpa using hp
    refine ⟨first, ⟨inbox, hopen, not_lt.mp hsize, verifyCandidates_defined hverified, ?_⟩, found, hfound,
      hsame⟩
    rw [hdigest]
    exact hfirst
  · rintro ⟨package, ⟨inbox, hopen, hsize, hdefined, hfind⟩, verification, hverification, rfl⟩
    obtain ⟨verified, hverified⟩ := @verifyCandidates_some env root context _ hdefined
    have hfound := (verifyCandidates_find hverified package.digest).mpr
      ⟨package, hfind, verification, hverification, rfl⟩
    have hmem : rawCandidate env root context package verification ∈
        sortUnique (fun candidate => candidate.publicValue.token) byteLe verified := by
      rw [mem_sortUnique byteLe_linear]
      rw [rawCandidate_token]
      exact hfound
    refine ⟨_, ?_, hmem⟩
    rw [rawCandidates, hopen]
    dsimp only
    rw [if_neg (not_lt.mpr hsize), hverified, Option.bind_eq_bind, Option.bind_some, if_neg]
    intro hempty
    rw [List.isEmpty_iff.mp hempty] at hmem
    cases hmem

end

section

variable {env : Environment} {profile : CertifiedSessionProfile} {calls : BrokerCalls}
  {root prepared : Node} {request : InstallerRequest} {scan : InboxScanResult}

def packageAnswer (requestId : UInt64) (candidate : InboxCandidate) : InstallerResponse where
  command := .candidate
  requestId
  status := .ready
  detail := candidate.detail
  candidate

lemma packageAnswer_delivered {requestId : UInt64} (hid : requestId ≠ 0) {candidate : InboxCandidate} :
    Delivered (packageAnswer requestId candidate) ↔ validCandidate candidate = true := by
  rw [packageAnswer, delivered_iff ⟨fun _ => rfl, fun h => absurd h (by simp [carriesInstalled])⟩]
  have hdetail : validCandidate candidate = true →
      validText candidate.detail detailLimit false = true := by
    intro hvalid
    simp only [validCandidate, Bool.and_eq_true] at hvalid
    exact hvalid.1.1.2
  rw [validInstallerResponse]
  simp only [carriesCandidate, carriesInstalled]
  simpa [hid] using hdetail

lemma inboxResponse_entry (hcommand : request.command = .candidate) (hready : scan.status = .ready)
    {candidate : InboxCandidate} (hget : scan.candidates[request.index.toNat]? = some candidate) :
    inboxResponse request scan = packageAnswer request.requestId candidate := by
  rw [inboxResponse]
  dsimp only
  rw [hcommand, if_neg (by decide), if_pos hready, hget]
  rfl

lemma inboxResponse_count (hcommand : request.command = .scan) : (inboxResponse request scan).count =
    if scan.status = .ready then UInt32.ofNat scan.candidates.length else 0 := by
  rw [inboxResponse]
  dsimp only
  rw [if_pos hcommand]
  split <;> rfl

lemma handle_unprepared {answer : InstallerResponse} {after : Node}
    (h : handleInstallerRequest env profile calls root request = some (answer, after))
    (hcount : answer.count ≠ 0) :
    ∃ prepared, prepareApplicationStorage env.euid root = (prepared, .ready) := by
  rw [handleInstallerRequest] at h
  generalize prepareApplicationStorage env.euid root = preparation at h ⊢
  obtain ⟨prepared, status⟩ := preparation
  dsimp only at h
  split at h
  · obtain ⟨rfl, -⟩ := Prod.mk.inj (Option.some.inj h)
    exact absurd rfl hcount
  · rename_i hready
    rw [not_not.mp hready]
    exact ⟨prepared, rfl⟩

lemma toNat_ofNat_short {n : ℕ} (h : n ≤ 128) : (UInt32.ofNat n).toNat = n :=
  UInt32.toNat_ofNat_of_lt' (h.trans_lt (by decide))

def entryRequest (command : InstallerCommand) (index : ℕ) : InstallerRequest where
  command
  requestId := 1
  index := UInt32.ofNat index

lemma entryRequest_id (command : InstallerCommand) (index : ℕ) :
    (entryRequest command index).requestId ≠ 0 := (by decide : (1 : UInt64) ≠ 0)

lemma offered_package {package : InboxPackage} (h : Offered env root package) :
    ∃ inbox, package ∈ inboxPackages env.crypto inbox ∧
      ∃ verification, package.verification env = some verification := by
  obtain ⟨inbox, -, -, hdefined, hfind⟩ := h
  have hmem := List.mem_of_find?_eq_some hfind
  exact ⟨inbox, hmem, Option.isSome_iff_exists.mp (hdefined package hmem)⟩

lemma inboxDelivered_iff : EntriesDelivered env profile calls root .scan .candidate ↔
    ∀ prepared, prepareApplicationStorage env.euid root = (prepared, .ready) →
      ∀ package, Offered env prepared package → package.Presentable env := by
  constructor
  · intro hdelivered prepared hprepared package hoffered
    obtain ⟨inbox, hmem, verification, hverification⟩ := offered_package hoffered
    have hshown : Shown env prepared (installerPolicy profile)
        (rawCandidate env prepared (installerPolicy profile) package verification) :=
      shown_iff_offered.mpr ⟨package, hoffered, verification, hverification, rfl⟩
    obtain ⟨scan, hscan, hready, hlisted⟩ := hshown.scanned
    have hlength := (scanOfficialInbox_candidates hscan).1
    obtain ⟨i, hget⟩ := List.getElem?_of_mem hlisted
    have hi := (List.getElem?_eq_some_iff.mp hget).1
    have hindex := toNat_ofNat_short (hi.le.trans hlength)
    have hcounted : handleInstallerRequest env profile calls root (entryRequest .scan 0) =
        some (inboxResponse (entryRequest .scan 0) scan, prepared) := by
      rw [handle_inbox (.inl rfl) hprepared, hscan]
      rfl
    have hbelow : (entryRequest .candidate i).index < (inboxResponse (entryRequest .scan 0) scan).count := by
      rw [inboxResponse_count rfl, if_pos hready, UInt32.lt_iff_toNat_lt, toNat_ofNat_short hlength,
        entryRequest, hindex]
      exact hi
    obtain ⟨answer, after, hanswer, hdelivered⟩ :=
      hdelivered (entryRequest .scan 0) _ prepared rfl rfl hcounted (entryRequest .candidate i) rfl rfl hbelow
    rw [handle_inbox (.inr rfl) hprepared, hscan, Option.map_some, inboxResponse_entry rfl hready
      (by rw [entryRequest, hindex]; exact hget)] at hanswer
    obtain ⟨rfl, -⟩ := Prod.mk.inj (Option.some.inj hanswer)
    rw [packageAnswer_delivered (entryRequest_id .candidate i), rawCandidate_valid hmem hverification]
      at hdelivered
    exact hdelivered
  · rintro hpresentable counting counted after hcounting - hcounted request hrequest hvalid hindex
    have hcount : counted.count ≠ 0 := by
      rintro hzero
      rw [hzero] at hindex
      exact absurd hindex (by simp)
    obtain ⟨prepared, hprepared⟩ := handle_unprepared hcounted hcount
    rw [handle_inbox (.inl hcounting) hprepared] at hcounted
    obtain ⟨scan, hscan, hcounted⟩ := Option.map_eq_some_iff.mp hcounted
    obtain ⟨rfl, -⟩ := Prod.mk.inj hcounted
    rw [inboxResponse_count hcounting] at hindex hcount
    have hready : scan.status = .ready := by
      by_contra hfailed
      rw [if_neg hfailed] at hcount
      exact hcount rfl
    rw [if_pos hready, UInt32.lt_iff_toNat_lt,
      toNat_ofNat_short (scanOfficialInbox_candidates hscan).1] at hindex
    have hget := List.getElem?_eq_getElem hindex
    generalize scan.candidates[request.index.toNat] = entry at hget
    obtain ⟨candidate, hshown, rfl⟩ := (scan_shown hscan entry).mp (List.mem_of_getElem? hget)
    obtain ⟨package, hoffered, verification, hverification, rfl⟩ := shown_iff_offered.mp hshown
    obtain ⟨inbox, hmem, -⟩ := offered_package hoffered
    have hid : request.requestId ≠ 0 := by
      simp only [validInstallerRequest, Bool.and_eq_true, decide_eq_true_eq] at hvalid
      exact hvalid.1.1
    refine ⟨inboxResponse request scan, prepared, ?_, ?_⟩
    · rw [handle_inbox (.inr hrequest) hprepared, hscan]
      rfl
    · rw [inboxResponse_entry hrequest hready hget, packageAnswer_delivered hid,
        rawCandidate_valid hmem hverification]
      exact hpresentable prepared hprepared package hoffered

end

section

variable {env : Environment} {profile : CertifiedSessionProfile} {root applications : Node} {appId : Bytes}
  {directory : Stat} {ids : List Bytes} {snapshot : InstalledApplicationSnapshot}

lemma printable_session (h : validSessionAppId appId = true) : printable appId = true := by
  unfold validSessionAppId identifier at h
  split at h
  · cases h
  rw [printable, List.all_eq_true]
  intro c hc
  have hclass := scanIdentifier_all h c hc
  simp only [Bool.or_eq_true, decide_eq_true_eq] at hclass
  rcases hclass with ((hlower | hdigit) | rfl) | rfl
  · exact printableByte_lower hlower
  · exact printableByte_digit hdigit
  · decide
  · decide

lemma nameText_session (h : validSessionAppId appId = true) : validText appId nameLimit false = true := by
  obtain ⟨-, hlength⟩ := identifier_length h
  rw [validText_eq _ (hlength.trans (by decide))]
  · exact printable_session h
  · rintro rfl
    cases h

lemma versionText_release (counter : UInt64) :
    validText (text "release-" ++ decimal counter.toNat) versionLimit false = true := by
  have hlength := decimal_length (by decide) (counter.toNat_lt.trans (by decide : 2 ^ 64 < 10 ^ 20))
  have hprefix : (text "release-").length = 8 := by decide
  have hprintable : printable (text "release-") = true := by decide
  rw [validText_eq (by simp [decimal]) (by rw [List.length_append, versionLimit]; omega), printable,
    List.all_append, ← printable, hprintable, Bool.true_and, List.all_eq_true]
  exact fun c hc => printableByte_digit (decimal_digit c hc)

lemma verifyInstalled_current (hnamed : validSessionAppId appId = true)
    (hreserved : reservedApplicationId appId = false)
    (hloaded : (storedReleaseOf env root appId).isLoaded = true) :
    verifyInstalledApplication env root appId profile = verifyApplicationRelease env root
      (currentRecord (storedReleaseOf env root appId).selected.state appId) profile := by
  have hcurrent := ((validState_iff _).mp (loadReleaseStateFrom_valid hloaded).1).current
  rw [verifyInstalledApplication, if_neg (by simp [hnamed, hreserved])]
  dsimp only
  rw [if_neg]
  simp [hloaded]
  exact hcurrent

lemma previous_measured (state : ApplicationReleaseState) (hzero : state.previousRelease = 0) :
    verifyApplicationRelease env root (previousRecord state appId) profile = some none := by
  rw [verifyApplicationRelease, if_pos]
  simp [previousRecord, hzero]

lemma installedSnapshotToken_valid {state : Option ApplicationReleaseState} {crypto : CryptoProvider}
    {token : Bytes} (h : installedSnapshotToken appId directory state crypto = some token) :
    validToken token = true := by
  obtain ⟨digest, -, rfl⟩ := Option.map_eq_some_iff.mp h
  exact hexDigest_valid digest

lemma installedSnapshot_defined :
    (installedSnapshot env root profile appId directory).isSome = true ↔
      ReleasesMeasurable env profile root appId := by
  rw [installedSnapshot, ReleasesMeasurable]
  dsimp only
  by_cases hloaded : (storedReleaseOf env root appId).isLoaded = true
  · rw [if_pos hloaded]
    by_cases hzero : (storedReleaseOf env root appId).selected.state.previousRelease = 0
    · rw [if_neg (not_not.mpr hzero), previous_measured _ hzero]
      cases verifyApplicationRelease env root
        (currentRecord (storedReleaseOf env root appId).selected.state appId) profile <;> simp [hloaded]
    · rw [if_pos hzero]
      cases verifyApplicationRelease env root
        (currentRecord (storedReleaseOf env root appId).selected.state appId) profile <;>
        cases verifyApplicationRelease env root
          (previousRecord (storedReleaseOf env root appId).selected.state appId) profile <;> simp [hloaded]
  · rw [if_neg hloaded]
    simp [hloaded]

section

variable {stored : StateStoreResult} {token : Bytes} {current previous : Option VerifiedApplication}

lemma trustedSnapshot_checks (hcurrent : stored.selected.state.currentRelease ≠ 0)
    (hrollback : previous.isSome = true → stored.selected.state.previousRelease ≠ 0) :
    (!previous.isSome || (true && decide (stored.selected.state.previousRelease ≠ 0))) = true ∧
      decide (stored.selected.state.currentRelease ≠ 0) = true := by
  refine ⟨?_, decide_eq_true hcurrent⟩
  cases previous with
  | none => rfl
  | some application => simpa using hrollback rfl

lemma trustedSnapshot_unverified (htoken : validToken token = true)
    (hnamed : validSessionAppId appId = true) (hcurrent : stored.selected.state.currentRelease ≠ 0)
    (hrollback : previous.isSome = true → stored.selected.state.previousRelease ≠ 0) :
    validInstalled (trustedSnapshot stored appId token none previous).publicValue = true := by
  have hdetail : validText (text "INSTALLED_CURRENT_UNTRUSTED") detailLimit false = true := by decide
  obtain ⟨hchecked, hreleased⟩ := trustedSnapshot_checks hcurrent hrollback
  rw [validInstalled, trustedSnapshot]
  dsimp only
  rw [htoken, hnamed, nameText_session hnamed, versionText_release, hdetail, hchecked, if_pos rfl, hreleased]
  rfl

lemma trustedSnapshot_verified {application : VerifiedApplication} (htoken : validToken token = true)
    (hnamed : validSessionAppId appId = true) (hcurrent : stored.selected.state.currentRelease ≠ 0)
    (hrollback : previous.isSome = true → stored.selected.state.previousRelease ≠ 0)
    (hversion : validText application.verification.manifest.version versionLimit false = true) :
    validInstalled (trustedSnapshot stored appId token (some application) previous).publicValue =
      validText application.verification.manifest.name nameLimit false := by
  have hdetail : validText (if stored.status = .loadedDegraded then
      text "INSTALLED_VERIFIED_POLICY_DEGRADED" else text "INSTALLED_VERIFIED") detailLimit false = true := by
    split <;> decide
  obtain ⟨hchecked, hreleased⟩ := trustedSnapshot_checks hcurrent hrollback
  rw [validInstalled, trustedSnapshot]
  dsimp only
  rw [htoken, hnamed, hversion, hdetail, hchecked, if_pos rfl, hreleased]
  simp

end

lemma installedSnapshot_some (h : ReleasesMeasurable env profile root appId)
    (htoken : (installedSnapshotToken appId directory (snapshotState env root appId)
      env.crypto).isSome = true) :
    ∃ snapshot, installedSnapshot env root profile appId directory = some (some snapshot) := by
  obtain ⟨shown, hshown⟩ := Option.isSome_iff_exists.mp (installedSnapshot_defined.mpr h)
  obtain ⟨token, htoken⟩ := Option.isSome_iff_exists.mp htoken
  cases shown with
  | some snapshot => exact ⟨snapshot, hshown⟩
  | none =>
    rw [snapshotState] at htoken
    rw [installedSnapshot] at hshown
    split at hshown <;> rename_i hloaded
    · rw [if_pos hloaded] at htoken
      obtain ⟨current, -, hshown⟩ := Option.bind_eq_some_iff.mp hshown
      obtain ⟨previous, -, hshown⟩ := Option.bind_eq_some_iff.mp hshown
      rw [htoken] at hshown
      cases hshown
    · rw [if_neg hloaded] at htoken
      rw [htoken] at hshown
      cases hshown

lemma installedSnapshot_valid (hnamed : validSessionAppId appId = true)
    (hreserved : reservedApplicationId appId = false)
    (h : installedSnapshot env root profile appId directory = some (some snapshot)) :
    validInstalled snapshot.publicValue = true ↔
      ∀ application, verifyInstalledApplication env root appId profile = some (some application) →
        printable application.verification.manifest.name = true := by
  rw [installedSnapshot] at h
  dsimp only at h
  split at h <;> rename_i hloaded
  · rw [verifyInstalled_current hnamed hreserved hloaded]
    have hcurrent : (storedReleaseOf env root appId).selected.state.currentRelease ≠ 0 :=
      ((validState_iff _).mp (loadReleaseStateFrom_valid hloaded).1).current
    obtain ⟨current, hverified, h⟩ := Option.bind_eq_some_iff.mp h
    obtain ⟨previous, hprevious, h⟩ := Option.bind_eq_some_iff.mp h
    obtain ⟨token, htoken, rfl⟩ := Option.map_eq_some_iff.mp (Option.some.inj h)
    have hvalidToken := installedSnapshotToken_valid htoken
    have hrollback : previous.isSome = true →
        (storedReleaseOf env root appId).selected.state.previousRelease ≠ 0 := by
      rintro hsome hzero
      rw [if_neg (not_not.mpr hzero)] at hprevious
      obtain rfl := Option.some.inj hprevious
      cases hsome
    cases current with
    | none =>
      refine iff_of_true (trustedSnapshot_unverified hvalidToken hnamed hcurrent hrollback) ?_
      intro application hother
      rw [hverified] at hother
      cases hother
    | some application =>
      have hmeasured := verifyApplicationRelease_iff.mp hverified
      obtain ⟨⟨hok, -⟩, -⟩ := measureRelease_iff.mp hmeasured.measured
      obtain ⟨files, hmanifest⟩ := verified_manifest hmeasured.verified hok
      have hname : validText application.verification.manifest.name nameLimit false =
          printable application.verification.manifest.name := hmanifest.nameText
      rw [trustedSnapshot_verified hvalidToken hnamed hcurrent hrollback hmanifest.versionText, hname]
      simp only [hverified, Option.some.injEq, forall_eq']
  · obtain ⟨token, htoken, rfl⟩ := Option.map_eq_some_iff.mp (Option.some.inj h)
    have hvalidToken := installedSnapshotToken_valid htoken
    have hdetail : validText (text "INSTALLED_POLICY_UNTRUSTED") detailLimit false = true := by decide
    have hversion : validText (text "unknown") versionLimit false = true := by decide
    refine iff_of_true ?_ fun application hverified => ?_
    · rw [validInstalled]
      dsimp only
      simp [hvalidToken, hnamed, nameText_session, hversion, hdetail]
    · rw [verifyInstalledApplication, if_neg (by simp [hnamed, hreserved])] at hverified
      dsimp only at hverified
      rw [if_pos (by simp [hloaded])] at hverified
      cases hverified

lemma snapshotsOf_defined :
    (snapshotsOf env root profile applications ids).isSome = true ↔ ∀ appId ∈ ids, ∀ directory,
      applications.openDirectory appId = .directory directory → trustedDirectory directory = true →
        ReleasesMeasurable env profile root appId := by
  induction ids with
  | nil => simp [snapshotsOf]
  | cons appId rest ih =>
    rw [List.forall_mem_cons, ← ih, snapshotsOf]
    cases snapshotsOf env root profile applications rest with
    | none => simp
    | some later =>
      rw [Option.bind_eq_bind, Option.bind_some, Option.isSome_some, and_iff_left rfl]
      split
      · rename_i directory hopen
        simp only [hopen, Opened.directory.injEq, forall_eq']
        split <;> rename_i htrusted
        · rw [Bool.not_eq_true'] at htrusted
          simp [htrusted]
        · rw [Bool.not_eq_true', Bool.not_eq_false] at htrusted
          simp only [htrusted, forall_const]
          rw [← @installedSnapshot_defined env profile root appId directory.stat]
          cases installedSnapshot env root profile appId directory.stat <;> rfl
      · rename_i hclosed
        simp only [Option.isSome_some, true_iff]
        exact fun directory hopen => absurd hopen (hclosed directory)

lemma installedApplicationSnapshots_listed {installed : List InstalledApplicationSnapshot}
    (h : installedApplicationSnapshots env root profile = some (some installed)) :
    (∀ appId directory, ListedDirectory root appId directory → ReleasesMeasurable env profile root appId) ∧
      ∀ snapshot, snapshot ∈ installed ↔ ∃ appId directory, ListedDirectory root appId directory ∧
        installedSnapshot env root profile appId directory.stat = some (some snapshot) := by
  rw [installedApplicationSnapshots] at h
  split at h
  · cases h
  rename_i store hstore
  split at h
  · rename_i hmissing
    obtain rfl := Option.some.inj (Option.some.inj h)
    have hnone : ∀ appId directory, ¬ ListedDirectory root appId directory := by
      rintro appId directory ⟨-, ⟨other, applications, hother, hopen, -⟩, -⟩
      obtain rfl := Option.some.inj (hstore.symm.trans hother)
      rw [hmissing] at hopen
      cases hopen
    refine ⟨fun appId directory hlisted => absurd hlisted (hnone appId directory), fun snapshot => ?_⟩
    refine iff_of_false List.not_mem_nil ?_
    rintro ⟨appId, directory, hlisted, -⟩
    exact hnone appId directory hlisted
  · cases h
  rename_i applications hopen
  split at h
  · cases h
  split at h
  · cases h
  rename_i ids hids
  obtain ⟨shown, hshown, hsorted⟩ := Option.map_eq_some_iff.mp h
  obtain rfl := Option.some.inj hsorted
  have hlisted : ∀ appId directory, ListedDirectory root appId directory ↔
      appId ∈ ids ∧ applications.openDirectory appId = .directory directory ∧
        trustedDirectory directory = true := by
    intro appId directory
    constructor
    · rintro ⟨⟨others, hothers, hmem⟩, ⟨other, node, hother, hnode, hchild⟩, htrusted⟩
      obtain rfl := Option.some.inj (hids.symm.trans hothers)
      obtain rfl := Option.some.inj (hstore.symm.trans hother)
      obtain rfl := Opened.directory.inj (hopen.symm.trans hnode)
      exact ⟨hmem, hchild, htrusted⟩
    · rintro ⟨hmem, hchild, htrusted⟩
      exact ⟨⟨ids, hids, hmem⟩, ⟨store, applications, hstore, hopen, hchild⟩, htrusted⟩
  refine ⟨fun appId directory hdirectory => ?_, fun snapshot => ?_⟩
  · obtain ⟨hmem, hchild, htrusted⟩ := (hlisted appId directory).mp hdirectory
    have hdefined : (snapshotsOf env root profile applications ids).isSome = true := by
      rw [hshown]
      rfl
    exact snapshotsOf_defined.mp hdefined appId hmem directory hchild htrusted
  · rw [sortBy, List.mem_mergeSort, snapshotsOf_mem hshown]
    simp only [hlisted, and_assoc, exists_and_left]

lemma installedApplicationSnapshots_some {directory : Node}
    (hdefined : ∀ appId directory, ListedDirectory root appId directory →
      ReleasesMeasurable env profile root appId) (h : ListedDirectory root appId directory) :
    ∃ installed, installedApplicationSnapshots env root profile = some (some installed) := by
  obtain ⟨⟨ids, hids, -⟩, ⟨store, applications, hstore, hopen, -⟩, -⟩ := h
  have htrusted : trustedDirectory applications = true := by
    have hkept := hids
    rw [installedApplicationIds, hstore] at hkept
    dsimp only at hkept
    rw [hopen] at hkept
    dsimp only at hkept
    split at hkept
    · cases hkept
    · rename_i htrusted
      rw [Bool.not_eq_true', Bool.not_eq_false] at htrusted
      exact htrusted
  have hsnapshots : (snapshotsOf env root profile applications ids).isSome = true := by
    refine snapshotsOf_defined.mpr fun other hother directory hchild hdirectory => ?_
    exact hdefined other directory
      ⟨⟨ids, hids, hother⟩, ⟨store, applications, hstore, hopen, hchild⟩, hdirectory⟩
  obtain ⟨shown, hshown⟩ := Option.isSome_iff_exists.mp hsnapshots
  rw [installedApplicationSnapshots, hstore]
  dsimp only
  rw [hopen]
  dsimp only
  rw [htrusted, if_neg (by decide), hids]
  dsimp only
  rw [hshown]
  exact ⟨_, rfl⟩

end

section

variable {env : Environment} {profile : CertifiedSessionProfile} {calls : BrokerCalls}
  {root prepared found : Node} {request : InstallerRequest}
  {installed : List InstalledApplicationSnapshot}

def installedAnswer (requestId : UInt64) (shown : InstalledApplicationCandidate) : InstallerResponse where
  command := .installedCandidate
  requestId
  status := .ready
  detail := shown.detail
  installed := shown

lemma installedAnswer_delivered {requestId : UInt64} (hid : requestId ≠ 0)
    {shown : InstalledApplicationCandidate} :
    Delivered (installedAnswer requestId shown) ↔ validInstalled shown = true := by
  rw [installedAnswer, delivered_iff ⟨fun h => absurd h (by simp [carriesCandidate]), fun _ => rfl⟩]
  have hdetail : validInstalled shown = true → validText shown.detail detailLimit false = true := by
    intro hvalid
    simp only [validInstalled, Bool.and_eq_true] at hvalid
    exact hvalid.1.1.1.2
  rw [validInstallerResponse]
  simp only [carriesCandidate, carriesInstalled]
  simpa [hid] using hdetail

lemma installedResponse_count (hcommand : request.command = .installedScan) :
    ∃ answer, installedResponse env profile calls found request (some installed) = some (answer, found) ∧
      answer.count = UInt32.ofNat installed.length := by
  rw [installedResponse]
  dsimp only
  rw [hcommand]
  exact ⟨_, rfl, rfl⟩

lemma installedResponse_entry (hcommand : request.command = .installedCandidate)
    {snapshot : InstalledApplicationSnapshot} (hget : installed[request.index.toNat]? = some snapshot) :
    installedResponse env profile calls found request (some installed) =
      some (installedAnswer request.requestId snapshot.publicValue, found) := by
  rw [installedResponse]
  dsimp only
  rw [hcommand, hget]
  rfl

lemma installed_counted {counted : InstallerResponse} {after : Node}
    (hcommand : request.command = .installedScan)
    (h : handleInstallerRequest env profile calls root request = some (counted, after))
    (hcount : counted.count ≠ 0) :
    ∃ prepared found installed, prepareApplicationStorage env.euid root = (prepared, .ready) ∧
      cleanupApplicationTombstones calls.order prepared = (none, found) ∧
      installedApplicationSnapshots env found profile = some (some installed) ∧
      counted.count = UInt32.ofNat installed.length := by
  obtain ⟨prepared, hprepared⟩ := handle_unprepared h hcount
  cases hcleanup : cleanupApplicationTombstones calls.order prepared with
  | mk failure found =>
    cases failure with
    | some failure =>
      rw [handleInstallerRequest, hprepared] at h
      dsimp only at h
      rw [if_neg (by simp), hcommand] at h
      dsimp only at h
      rw [handleInstalledRequest, hcleanup] at h
      obtain ⟨rfl, -⟩ := Prod.mk.inj (Option.some.inj h)
      exact absurd rfl hcount
    | none =>
      rw [handle_installed (.inl hcommand) hprepared hcleanup] at h
      obtain ⟨snapshots, hsnapshots, h⟩ := Option.bind_eq_some_iff.mp h
      cases snapshots with
      | none =>
        obtain ⟨rfl, -⟩ := Prod.mk.inj (Option.some.inj h)
        exact absurd rfl hcount
      | some installed =>
        obtain ⟨answer, hanswer, hlength⟩ := @installedResponse_count env profile calls found request
          installed hcommand
        obtain ⟨rfl, -⟩ := Prod.mk.inj (Option.some.inj (hanswer.symm.trans h))
        exact ⟨prepared, found, installed, hprepared, hcleanup, hsnapshots, hlength⟩

lemma listed_id {appId : Bytes} {directory : Node} (h : ListedDirectory root appId directory) :
    validSessionAppId appId = true ∧ reservedApplicationId appId = false := by
  obtain ⟨ids, hids, hmem⟩ := h.enumerated
  exact installedApplicationIds_valid hids appId hmem

lemma installedDelivered_iff : EntriesDelivered env profile calls root .installedScan .installedCandidate ↔
    ∀ prepared, prepareApplicationStorage env.euid root = (prepared, .ready) →
      ∀ found, cleanupApplicationTombstones calls.order prepared = (none, found) →
        InstalledPresentable env profile found := by
  constructor
  · intro hdelivered prepared hprepared found hcleanup hdefined appId directory application hlisted htoken
      hverified
    obtain ⟨installed, hsnapshots⟩ := installedApplicationSnapshots_some hdefined hlisted
    obtain ⟨-, hshown⟩ := installedApplicationSnapshots_listed hsnapshots
    obtain ⟨snapshot, hsnapshot⟩ := installedSnapshot_some (hdefined appId directory hlisted) htoken
    obtain ⟨hnamed, hreserved⟩ := listed_id hlisted
    obtain ⟨i, hget⟩ := List.getElem?_of_mem ((hshown snapshot).mpr ⟨appId, directory, hlisted, hsnapshot⟩)
    have hi := (List.getElem?_eq_some_iff.mp hget).1
    have hshort := (installedApplicationSnapshots_ids hsnapshots).1
    rw [maximumRegistryApplications] at hshort
    have hindex := toNat_ofNat_short (n := i) (by omega)
    obtain ⟨counted, hcounted, hlength⟩ := @installedResponse_count env profile calls found
      (entryRequest .installedScan 0) installed rfl
    have hbelow : (entryRequest .installedCandidate i).index < counted.count := by
      rw [hlength, UInt32.lt_iff_toNat_lt, toNat_ofNat_short (by omega), entryRequest, hindex]
      exact hi
    obtain ⟨answer, after, hanswer, hdelivered⟩ := hdelivered (entryRequest .installedScan 0) counted found
      rfl rfl (by rw [handle_installed (.inl rfl) hprepared hcleanup, hsnapshots]; exact hcounted)
      (entryRequest .installedCandidate i) rfl rfl hbelow
    rw [handle_installed (.inr rfl) hprepared hcleanup, hsnapshots, Option.bind_some,
      installedResponse_entry rfl (by rw [entryRequest, hindex]; exact hget)] at hanswer
    obtain ⟨rfl, -⟩ := Prod.mk.inj (Option.some.inj hanswer)
    rw [installedAnswer_delivered (entryRequest_id .installedCandidate i),
      installedSnapshot_valid hnamed hreserved hsnapshot] at hdelivered
    exact hdelivered application hverified
  · rintro hpresentable counting counted after hcounting - hcounted request hrequest hvalid hindex
    have hcount : counted.count ≠ 0 := by
      rintro hzero
      rw [hzero] at hindex
      exact absurd hindex (by simp)
    obtain ⟨prepared, found, installed, hprepared, hcleanup, hsnapshots, hlength⟩ :=
      installed_counted hcounting hcounted hcount
    have hshort := (installedApplicationSnapshots_ids hsnapshots).1
    rw [maximumRegistryApplications] at hshort
    rw [hlength, UInt32.lt_iff_toNat_lt, toNat_ofNat_short (by omega)] at hindex
    have hget := List.getElem?_eq_getElem hindex
    generalize installed[request.index.toNat] = snapshot at hget
    obtain ⟨hdefined, hshown⟩ := installedApplicationSnapshots_listed hsnapshots
    obtain ⟨appId, directory, hlisted, hsnapshot⟩ := (hshown snapshot).mp (List.mem_of_getElem? hget)
    obtain ⟨hnamed, hreserved⟩ := listed_id hlisted
    have hid : request.requestId ≠ 0 := by
      simp only [validInstallerRequest, Bool.and_eq_true, decide_eq_true_eq] at hvalid
      exact hvalid.1.1
    refine ⟨installedAnswer request.requestId snapshot.publicValue, found, ?_, ?_⟩
    · rw [handle_installed (.inr hrequest) hprepared hcleanup, hsnapshots, Option.bind_some,
        installedResponse_entry hrequest hget]
    · rw [installedAnswer_delivered hid, installedSnapshot_valid hnamed hreserved hsnapshot]
      intro application hverified
      refine hpresentable prepared hprepared found hcleanup hdefined appId directory application hlisted ?_
        hverified
      rw [(installedSnapshot_shows hsnapshot).2.1]
      rfl

end

/-- The broker delivers every entry of its lists exactly when the packages it offers can be presented and
the names of the installed applications can be shown. -/
theorem listed_entries_delivered_iff (env : Environment) (profile : CertifiedSessionProfile)
    (calls : BrokerCalls) (root : Node) :
    (EntriesDelivered env profile calls root .scan .candidate ∧
        EntriesDelivered env profile calls root .installedScan .installedCandidate) ↔
      ∀ prepared, prepareApplicationStorage env.euid root = (prepared, .ready) →
        (∀ package, Offered env prepared package → package.Presentable env) ∧
          ∀ found, cleanupApplicationTombstones calls.order prepared = (none, found) →
            InstalledPresentable env profile found := by
  rw [inboxDelivered_iff, installedDelivered_iff]
  constructor
  · intro h prepared hprepared
    exact ⟨h.1 prepared hprepared, h.2 prepared hprepared⟩
  · intro h
    exact ⟨fun prepared hprepared => (h prepared hprepared).1,
      fun prepared hprepared => (h prepared hprepared).2⟩

def damagedDigest : Sha512Digest := bigEndian 64
  0xb8244d028981d693af7b456af8efa4cad63d282e19ff14942c246e50d9351d22704a802a71c3580b6370de4ceb293c324a8423342557d4e5c38438f0e36910ee

def damagedEnvironment : Environment :=
  { installEnvironment with
    crypto := { installCrypto with
      sha512 := fun bytes => if bytes = [0] then some damagedDigest else installCrypto.sha512 bytes } }

def damagedSystem : Node := freshSystem.update applicationInboxRoot fun _ =>
  privateDirectory [(text "demo.lvapp", .file { mode := 0o600 } [0])]

/-- The broker counts a package that it then fails to describe. -/
theorem damaged_package_not_delivered :
    ¬ ∀ (env : Environment) (profile : CertifiedSessionProfile) (calls : BrokerCalls) (root : Node),
      EntriesDelivered env profile calls root .scan .candidate ∧
        EntriesDelivered env profile calls root .installedScan .installedCandidate := by
  intro hdelivered
  have hcount : (handleInstallerRequest damagedEnvironment penProfile demoCalls damagedSystem
      (entryRequest .scan 0)).map (fun outcome => outcome.1.count) = some 1 := by decide +kernel
  obtain ⟨⟨counted, after⟩, hcounted, hone⟩ := Option.map_eq_some_iff.mp hcount
  have hindex : (entryRequest .candidate 0).index < counted.count := by
    rw [hone]
    decide
  obtain ⟨answer, next, hanswer, haccepted, -⟩ := (hdelivered damagedEnvironment penProfile demoCalls
    damagedSystem).1 (entryRequest .scan 0) counted after rfl rfl hcounted (entryRequest .candidate 0) rfl rfl
      hindex
  have hrefused : (handleInstallerRequest damagedEnvironment penProfile demoCalls damagedSystem
      (entryRequest .candidate 0)).map (fun outcome => (encodeInstallerResponse outcome.1).head?) =
      some (some 0) := by decide +kernel
  rw [hanswer] at hrefused
  exact haccepted (Option.some.inj hrefused)

end LvglPlatform
