import LvglPlatform.Foundation.IndexedScan
import LvglPlatform.Runtime.BrokerClients
import LvglPlatform.Session.BrokerLists

/-! The installer's lists of packages and applications, which it fetches one by one from a broker that
looks anew at every request. -/

namespace LvglPlatform

open Foundation

def inboxStatus : InstallerProtocolStatus → InboxStatus
  | .ready => .ready
  | .empty => .empty
  | .invalidRequest => .invalidToken
  | .rejected => .candidateRejected
  | .notFound => .candidateNotFound
  | .unavailable => .rootUntrusted
  | .ioError => .ioError

abbrev Exchange := ℕ → InstallerRequest → Option InstallerResponse

inductive ScanFailure
  | exhausted
  | changed
  deriving DecidableEq

/-- The answer about one index, after `next` and the ids up to the index have been used. -/
def candidateAnswer (exchange : Exchange) (command : InstallerCommand) (next : UInt64) (index : ℕ) :
    Except ScanFailure InstallerResponse :=
  match InstallerClient.prepare (next + UInt64.ofNat index) { command, index := UInt32.ofNat index } with
  | (_, none) => .error .exhausted
  | (_, some request) =>
    match exchange (index + 1) request with
    | some response => if response.status = .ready then .ok response else .error .changed
    | none => .error .changed

def countAnswer (exchange : Exchange) (command : InstallerCommand) (next : UInt64) :
    Option (InstallerResponse × UInt64) :=
  match InstallerClient.prepare next { command } with
  | (_, none) => none
  | (next, some request) => (exchange 0 request).map fun response => (response, next)

def InstallerClient.scan (exchange : Exchange) (next : UInt64) : InboxScanResult :=
  match countAnswer exchange .scan next with
  | none => { status := .ioError, detail := text "INSTALLER_BROKER_UNAVAILABLE" }
  | some (response, next) =>
    let result : InboxScanResult :=
      { status := inboxStatus response.status, detail := response.detail }
    if response.status ≠ .ready ∨ response.count.toNat > 128 then result
    else match collect (candidateAnswer exchange .candidate next) 0 response.count.toNat with
      | .ok answers => { result with candidates := answers.map InstallerResponse.candidate }
      | .error .exhausted => { status := .ioError, detail := text "INSTALLER_REQUEST_ID_EXHAUSTED" }
      | .error .changed => { status := .ioError, detail := text "INSTALLER_CANDIDATE_CHANGED" }

structure InstalledApplicationScanResult where
  success : Bool := false
  detail : Bytes
  applications : List InstalledApplicationCandidate := []
  deriving DecidableEq

def InstallerClient.scanInstalled (exchange : Exchange) (next : UInt64) :
    InstalledApplicationScanResult :=
  match countAnswer exchange .installedScan next with
  | none => { detail := text "INSTALLER_BROKER_UNAVAILABLE" }
  | some (response, next) =>
    if response.status = .empty then { success := true, detail := response.detail }
    else if response.status ≠ .ready ∨ response.count.toNat > 64 then { detail := response.detail }
    else match collect (candidateAnswer exchange .installedCandidate next) 0 response.count.toNat with
      | .ok answers => {
          success := true
          detail := response.detail
          applications := answers.map InstallerResponse.installed }
      | .error .exhausted => { detail := text "INSTALLER_REQUEST_ID_EXHAUSTED" }
      | .error .changed => { detail := text "INSTALLER_INSTALLED_SET_CHANGED" }

/-- The session while a scan goes on: the system at each request, what the broker's calls give there,
and whether the packets arrive. -/
structure ScannedSession where
  env : Environment
  profile : CertifiedSessionProfile
  systems : ℕ → Node
  calls : ℕ → BrokerCalls
  delivers : ℕ → Bool

namespace ScannedSession

variable (session : ScannedSession)

def exchange : Exchange := fun n request =>
  if !session.delivers n then none
  else do
    let received ← decodeInstallerRequest (encodeInstallerRequest request)
    let (response, _) ←
      handleInstallerRequest session.env session.profile (session.calls n) (session.systems n) received
    if (encodeInstallerResponse response).head? = some 0 then none
    else installerAccept request (encodeInstallerResponse response)

def inboxList (n : ℕ) : Option (List InboxCandidate) :=
  match prepareApplicationStorage session.env.euid (session.systems n) with
  | (root, .ready) => do
    let scan ← scanOfficialInbox session.env root (installerPolicy session.profile)
    if scan.status = .ready ∨ scan.status = .empty then some scan.candidates else none
  | _ => none

def installedList (n : ℕ) : Option (List InstalledApplicationCandidate) :=
  match prepareApplicationStorage session.env.euid (session.systems n) with
  | (root, .ready) =>
    match cleanupApplicationTombstones (session.calls n).order root with
    | (none, root) => do
      let snapshots ← installedApplicationSnapshots session.env root session.profile
      snapshots.map fun installed => installed.map InstalledApplicationSnapshot.publicValue
    | _ => none
  | _ => none

/-- The n-th request of a scan is answered: there is an identifier for it, its packets arrive, the broker
can tell what is listed, and what it lists at the index asked for can be sent. -/
structure Answered {α : Type} (lists : ℕ → Option (List α)) (sendable : α → Bool) (next : UInt64)
    (n : ℕ) : Prop where
  identifier : next + UInt64.ofNat n ≠ 0
  left : next + UInt64.ofNat n ≠ UInt64.ofNat (2 ^ 64 - 1)
  delivered : session.delivers n = true
  listed : ∃ l, lists n = some l ∧ ∀ index, n = index + 1 → ∃ a, l[index]? = some a ∧ sendable a = true

/-- Either some request of a scan is not answered, or the changes between the requests displace nothing
that one of the enumerations lists. -/
def KeepsPlaces {α : Type} (lists : ℕ → Option (List α)) (sendable : α → Bool) (key : α → Bytes)
    (next : UInt64) : Prop :=
  ∀ first, lists 0 = some first → (∀ n ≤ first.length, session.Answered lists sendable next n) →
    Undisplaced key byteLe lists first.length

variable {session}

lemma exchange_iff {n : ℕ} {request : InstallerRequest} {response : InstallerResponse} :
    session.exchange n request = some response ↔ session.delivers n = true ∧
      validInstallerRequest request = true ∧ ∃ answer after,
        handleInstallerRequest session.env session.profile (session.calls n) (session.systems n) request =
          some (answer, after) ∧ validInstallerResponse answer = true ∧
        (answer.command = request.command ∧ answer.requestId = request.requestId) ∧
        response = answer.arrived := by
  rw [exchange]
  by_cases hdelivers : session.delivers n = true
  swap
  · rw [if_pos (by simpa using hdelivers)]
    exact iff_of_false nofun fun h => hdelivers h.1
  rw [if_neg (by simpa using hdelivers), and_iff_right hdelivers, Option.bind_eq_bind,
    Option.bind_eq_some_iff]
  constructor
  · rintro ⟨received, hreceived, h⟩
    have hvalid := decodeInstallerRequest_valid hreceived
    obtain rfl := decodeInstallerRequest_encoded hreceived
    obtain ⟨⟨answer, after⟩, hhandled, h⟩ := Option.bind_eq_some_iff.mp h
    simp only at h
    split at h
    · cases h
    rename_i hhead
    rw [encodeInstallerResponse_head, Bool.not_eq_false] at hhead
    rw [installerAccept, decodeInstallerResponse_encode hhead] at h
    obtain ⟨hechoes, hresponse⟩ := Option.ite_none_right_eq_some.mp h
    exact ⟨hvalid, answer, after, hhandled, hhead, hechoes, (Option.some.inj hresponse).symm⟩
  · rintro ⟨hvalid, answer, after, hhandled, hanswer, hechoes, rfl⟩
    refine ⟨request, decodeInstallerRequest_encode hvalid, ?_⟩
    simp only [hhandled, Option.bind_eq_bind, Option.bind_some, encodeInstallerResponse_head, hanswer, Bool.true_eq_false, if_false]
    rw [installerAccept, decodeInstallerResponse_encode hanswer]
    exact if_pos hechoes

lemma inboxList_iff {n : ℕ} {l : List InboxCandidate} :
    session.inboxList n = some l ↔ ∃ prepared scan,
      prepareApplicationStorage session.env.euid (session.systems n) = (prepared, .ready) ∧
      scanOfficialInbox session.env prepared (installerPolicy session.profile) = some scan ∧
      (scan.status = .ready ∨ scan.status = .empty) ∧ scan.candidates = l := by
  rw [inboxList]
  constructor
  · intro h
    split at h
    · rename_i prepared hprepared
      obtain ⟨scan, hscan, h⟩ := Option.bind_eq_some_iff.mp h
      obtain ⟨hstatus, hl⟩ := Option.ite_none_right_eq_some.mp h
      exact ⟨prepared, scan, hprepared, hscan, hstatus, Option.some.inj hl⟩
    · cases h
  · rintro ⟨prepared, scan, hprepared, hscan, hstatus, rfl⟩
    rw [hprepared]
    simp only [hscan, Option.bind_eq_bind, Option.bind_some, if_pos hstatus]

lemma installedList_iff {n : ℕ} {l : List InstalledApplicationCandidate} :
    session.installedList n = some l ↔ ∃ prepared found installed,
      prepareApplicationStorage session.env.euid (session.systems n) = (prepared, .ready) ∧
      cleanupApplicationTombstones (session.calls n).order prepared = (none, found) ∧
      installedApplicationSnapshots session.env found session.profile = some (some installed) ∧
      installed.map InstalledApplicationSnapshot.publicValue = l := by
  rw [installedList]
  constructor
  · intro h
    split at h
    · rename_i prepared hprepared
      split at h
      · rename_i found hfound
        obtain ⟨snapshots, hsnapshots, h⟩ := Option.bind_eq_some_iff.mp h
        obtain ⟨installed, rfl, hl⟩ := Option.map_eq_some_iff.mp h
        exact ⟨prepared, found, installed, hprepared, hfound, hsnapshots, hl⟩
      · cases h
    · cases h
  · rintro ⟨prepared, found, installed, hprepared, hfound, hinstalled, rfl⟩
    rw [hprepared]
    simp only [hfound, hinstalled, Option.bind_eq_bind, Option.bind_some, Option.map_some]

end ScannedSession

section

variable {exchange : Exchange} {command : InstallerCommand} {next later : UInt64}
  {response : InstallerResponse}

lemma countAnswer_iff : countAnswer exchange command next = some (response, later) ↔
    next ≠ UInt64.ofNat (2 ^ 64 - 1) ∧ later = next + 1 ∧
      exchange 0 { command, requestId := next } = some response := by
  rw [countAnswer, InstallerClient.prepare]
  by_cases hlast : next = UInt64.ofNat (2 ^ 64 - 1)
  · rw [if_pos hlast]
    exact iff_of_false nofun fun h => h.1 hlast
  · rw [if_neg hlast]
    simp only [Option.map_eq_some_iff, Prod.mk.injEq, ne_eq, hlast, not_false_eq_true, true_and]
    constructor
    · rintro ⟨answer, hanswer, rfl, rfl⟩
      exact ⟨rfl, hanswer⟩
    · rintro ⟨rfl, hanswer⟩
      exact ⟨response, hanswer, rfl, rfl⟩

lemma candidateAnswer_iff {index : ℕ} : candidateAnswer exchange command next index = .ok response ↔
    next + UInt64.ofNat index ≠ UInt64.ofNat (2 ^ 64 - 1) ∧
      exchange (index + 1) { command, requestId := next + UInt64.ofNat index, index := UInt32.ofNat index } =
        some response ∧ response.status = .ready := by
  rw [candidateAnswer, InstallerClient.prepare]
  by_cases hlast : next + UInt64.ofNat index = UInt64.ofNat (2 ^ 64 - 1)
  · rw [if_pos hlast]
    exact iff_of_false nofun fun h => h.1 hlast
  · rw [if_neg hlast, and_iff_right hlast]
    simp only
    constructor
    · intro h
      split at h
      · rename_i answer hanswer
        split at h
        · rename_i hready
          obtain rfl := Except.ok.inj h
          exact ⟨hanswer, hready⟩
        · cases h
      · cases h
    · rintro ⟨hanswer, hready⟩
      rw [hanswer]
      exact if_pos hready

end

structure Listed {α : Type} (session : ScannedSession) (lists : ℕ → Option (List α))
    (sendable : α → Bool) (key : α → Bytes) (countCommand indexCommand : InstallerCommand)
    (get : InstallerResponse → α) (limit : ℕ) : Prop where
  sorted : ∀ n l, lists n = some l →
    l.Pairwise fun a b => byteLe (key a) (key b) = true ∧ key a ≠ key b
  counts : ∀ next, session.Answered lists sendable next 0 → ∃ response,
    countAnswer session.exchange countCommand next = some (response, next + 1) ∧
      (response.status = .ready ∨ response.status = .empty)
  counted : ∀ next response later,
    countAnswer session.exchange countCommand next = some (response, later) →
    response.status = .ready ∨ response.status = .empty →
    session.Answered lists sendable next 0 ∧ later = next + 1 ∧ ∃ l, lists 0 = some l ∧
      l.length ≤ limit ∧ (response.status = .ready → response.count.toNat = l.length) ∧
      (response.status = .empty → l = [])
  fetches : ∀ next index, index < limit → session.Answered lists sendable next (index + 1) →
    ∃ response, candidateAnswer session.exchange indexCommand (next + 1) index = .ok response
  fetched : ∀ next index response, index < limit →
    candidateAnswer session.exchange indexCommand (next + 1) index = .ok response →
    session.Answered lists sendable next (index + 1) ∧
      ∃ l, lists (index + 1) = some l ∧ l[index]? = some (get response)

lemma ofNat_count {n limit : ℕ} (h : n ≤ limit) (hlimit : limit ≤ 128) :
    (UInt32.ofNat n).toNat = n := UInt32.toNat_ofNat_of_lt' (by rw [UInt32.size]; omega)

lemma next_index (next : UInt64) (index : ℕ) :
    next + UInt64.ofNat (index + 1) = next + 1 + UInt64.ofNat index := by
  rw [Nat.add_comm, UInt64.ofNat_add, UInt64.add_assoc]
  rfl

lemma validInstallerRequest_identifier {request : InstallerRequest}
    (h : validInstallerRequest request = true) : request.requestId ≠ 0 := by
  simp only [validInstallerRequest, Bool.and_eq_true, decide_eq_true_eq] at h
  exact h.1.1

lemma inboxResponse_echoes (request : InstallerRequest) (scan : InboxScanResult) :
    (inboxResponse request scan).command = request.command ∧
      (inboxResponse request scan).requestId = request.requestId := by
  rw [inboxResponse]
  simp only
  split
  · split
    · exact ⟨rfl, rfl⟩
    · exact ⟨rfl, rfl⟩
  · split
    · exact ⟨rfl, rfl⟩
    · exact ⟨rfl, rfl⟩

lemma inboxResponse_candidate {request : InstallerRequest} {scan : InboxScanResult}
    (hcommand : request.command = .candidate) (h : (inboxResponse request scan).status = .ready)
    (hvalid : validInstallerResponse (inboxResponse request scan) = true) :
    scan.status = .ready ∧
      scan.candidates[request.index.toNat]? = some (inboxResponse request scan).arrived.candidate ∧
      validCandidate (inboxResponse request scan).arrived.candidate = true := by
  rw [inboxResponse, hcommand, if_neg (by decide)] at h hvalid ⊢
  cases hlisted : if scan.status = .ready then scan.candidates[request.index.toNat]? else none with
  | none =>
    rw [hlisted] at h
    cases h
  | some candidate =>
    obtain ⟨hready, hcandidate⟩ := Option.ite_none_right_eq_some.mp hlisted
    rw [hlisted] at hvalid
    simp only [validInstallerResponse, InstallerResponse.hasCandidate, carriesCandidate, decide_true,
      Bool.and_self, if_true, Bool.and_eq_true] at hvalid
    exact ⟨hready, hcandidate, hvalid.1.1.2⟩

lemma inboxResponse_listed (request : InstallerRequest) {scan : InboxScanResult}
    {candidate : InboxCandidate} (hcommand : request.command = .candidate) (hid : request.requestId ≠ 0)
    (hready : scan.status = .ready) (hcandidate : scan.candidates[request.index.toNat]? = some candidate)
    (hsendable : validCandidate candidate = true) :
    (inboxResponse request scan).status = .ready ∧ validInstallerResponse (inboxResponse request scan) = true := by
  have hdetail : validText candidate.detail detailLimit false = true := by
    have hparts := hsendable
    simp only [validCandidate, Bool.and_eq_true] at hparts
    exact hparts.1.1.2
  rw [inboxResponse, hcommand, if_neg (by decide), if_pos hready, hcandidate]
  refine ⟨rfl, ?_⟩
  simp [validInstallerResponse, InstallerResponse.hasCandidate, InstallerResponse.hasInstalled,
    carriesCandidate, carriesInstalled, hid, hdetail, hsendable]

lemma inboxResponse_scan (request : InstallerRequest) {scan : InboxScanResult}
    (hcommand : request.command = .scan) (hid : request.requestId ≠ 0)
    (hdetail : validText scan.detail detailLimit false = true) :
    (inboxResponse request scan).status = installerStatus scan.status ∧
      (scan.status = .ready → (inboxResponse request scan).count = UInt32.ofNat scan.candidates.length) ∧
      validInstallerResponse (inboxResponse request scan) = true := by
  rw [inboxResponse, if_pos hcommand]
  simp only
  split
  · rename_i hready
    refine ⟨rfl, fun _ => rfl, ?_⟩
    simp [validInstallerResponse, InstallerResponse.hasCandidate, InstallerResponse.hasInstalled,
      carriesCandidate, carriesInstalled, hcommand, hid, hdetail, countCommand]
  · rename_i hready
    refine ⟨rfl, fun h => absurd h hready, ?_⟩
    simp [validInstallerResponse, InstallerResponse.hasCandidate, InstallerResponse.hasInstalled,
      carriesCandidate, carriesInstalled, hcommand, hid, hdetail, countCommand]

namespace ScannedSession

variable {session : ScannedSession} {next later : UInt64} {index : ℕ} {response : InstallerResponse}

lemma inbox_counts (h : session.Answered session.inboxList validCandidate next 0) :
    ∃ response, countAnswer session.exchange .scan next = some (response, next + 1) ∧
      (response.status = .ready ∨ response.status = .empty) := by
  obtain ⟨l, hl, -⟩ := h.listed
  obtain ⟨prepared, scan, hprepared, hscan, hstatus, -⟩ := inboxList_iff.mp hl
  have hid : next ≠ 0 := by simpa using h.identifier
  have hlast : next ≠ UInt64.ofNat (2 ^ 64 - 1) := by simpa using h.left
  have hrequest : validInstallerRequest { command := .scan, requestId := next } = true := by
    simp [validInstallerRequest, hid, tokenCommand]
  obtain ⟨hsame, -, hvalid⟩ := inboxResponse_scan { command := .scan, requestId := next } rfl
    hid (scanOfficialInbox_detail hscan hstatus)
  refine ⟨_, countAnswer_iff.mpr ⟨hlast, rfl, exchange_iff.mpr ⟨h.delivered, hrequest, _, _,
    handleInstallerRequest_of_inbox (Or.inl rfl) hprepared hscan, hvalid, inboxResponse_echoes _ scan,
    rfl⟩⟩, ?_⟩
  change (inboxResponse _ scan).status = _ ∨ (inboxResponse _ scan).status = _
  rw [hsame]
  rcases hstatus with hready | hempty
  · rw [hready]
    exact Or.inl rfl
  · rw [hempty]
    exact Or.inr rfl

lemma inbox_counted (h : countAnswer session.exchange .scan next = some (response, later))
    (hstatus : response.status = .ready ∨ response.status = .empty) :
    session.Answered session.inboxList validCandidate next 0 ∧ later = next + 1 ∧
      ∃ l, session.inboxList 0 = some l ∧ l.length ≤ 128 ∧
        (response.status = .ready → response.count.toNat = l.length) ∧
        (response.status = .empty → l = []) := by
  obtain ⟨hlast, rfl, hexchange⟩ := countAnswer_iff.mp h
  obtain ⟨hdelivered, hrequest, answer, after, hhandled, -, -, rfl⟩ := exchange_iff.mp hexchange
  have hid : next ≠ 0 := validInstallerRequest_identifier hrequest
  rcases handleInstallerRequest_inbox (Or.inl rfl) hhandled with hfailed | hanswered
  · exact absurd hstatus (not_or.mpr hfailed)
  obtain ⟨prepared, scan, hprepared, hscan, rfl⟩ := hanswered
  have hscanned : scan.status = .ready ∨ scan.status = .empty := by
    rw [InstallerResponse.arrived, inboxResponse, if_pos rfl] at hstatus
    simp only at hstatus
    split at hstatus
    · exact hstatus.imp installerStatus_ready installerStatus_empty
    · exact hstatus.imp installerStatus_ready installerStatus_empty
  have hl : session.inboxList 0 = some scan.candidates :=
    inboxList_iff.mpr ⟨prepared, scan, hprepared, hscan, hscanned, rfl⟩
  obtain ⟨hlength, -, hnil⟩ := scanOfficialInbox_candidates hscan
  obtain ⟨hsame, hcounts, -⟩ := inboxResponse_scan
    { command := .scan, requestId := next } rfl hid (scanOfficialInbox_detail hscan hscanned)
  refine ⟨⟨by simpa using hid, by simpa using hlast, hdelivered, _, hl, by rintro _ ⟨⟩⟩, rfl,
    scan.candidates, hl, hlength, fun hready => ?_, fun hempty => ?_⟩
  · change (inboxResponse _ scan).count.toNat = _
    rw [hcounts (installerStatus_ready (hsame.symm.trans hready))]
    exact ofNat_count hlength le_rfl
  · exact hnil (installerStatus_empty (hsame.symm.trans hempty))

lemma inbox_fetches (hindex : index < 128)
    (h : session.Answered session.inboxList validCandidate next (index + 1)) :
    ∃ response, candidateAnswer session.exchange .candidate (next + 1) index = .ok response := by
  obtain ⟨l, hl, hlisted⟩ := h.listed
  obtain ⟨candidate, hcandidate, hsendable⟩ := hlisted index rfl
  obtain ⟨prepared, scan, hprepared, hscan, hstatus, rfl⟩ := inboxList_iff.mp hl
  have hready : scan.status = .ready := by
    refine hstatus.resolve_right fun hempty => ?_
    rw [(scanOfficialInbox_candidates hscan).2.2 hempty] at hcandidate
    cases hcandidate
  have hid : next + 1 + UInt64.ofNat index ≠ 0 := next_index next index ▸ h.identifier
  have hlast : next + 1 + UInt64.ofNat index ≠ UInt64.ofNat (2 ^ 64 - 1) := next_index next index ▸ h.left
  set request : InstallerRequest :=
    { command := .candidate, requestId := next + 1 + UInt64.ofNat index, index := UInt32.ofNat index }
  have hrequest : validInstallerRequest request = true := by
    simp [validInstallerRequest, request, hid, tokenCommand, indexCommand]
  have hplace : request.index.toNat = index := ofNat_count hindex.le le_rfl
  rw [← hplace] at hcandidate
  obtain ⟨hanswer, hvalid⟩ := inboxResponse_listed request rfl hid hready hcandidate hsendable
  exact ⟨_, candidateAnswer_iff.mpr ⟨hlast, exchange_iff.mpr ⟨h.delivered, hrequest, _, _,
    handleInstallerRequest_of_inbox (Or.inr rfl) hprepared hscan, hvalid, inboxResponse_echoes request scan,
    rfl⟩, hanswer⟩⟩

lemma inbox_fetched (hindex : index < 128)
    (h : candidateAnswer session.exchange .candidate (next + 1) index = .ok response) :
    session.Answered session.inboxList validCandidate next (index + 1) ∧
      ∃ l, session.inboxList (index + 1) = some l ∧ l[index]? = some response.candidate := by
  obtain ⟨hlast, hexchange, hready⟩ := candidateAnswer_iff.mp h
  obtain ⟨hdelivered, hrequest, answer, after, hhandled, hvalid, -, rfl⟩ := exchange_iff.mp hexchange
  have hid : next + 1 + UInt64.ofNat index ≠ 0 := validInstallerRequest_identifier hrequest
  rcases handleInstallerRequest_inbox (Or.inr rfl) hhandled with hfailed | hanswered
  · exact absurd hready hfailed.1
  obtain ⟨prepared, scan, hprepared, hscan, rfl⟩ := hanswered
  obtain ⟨hstatus, hcandidate, hsendable⟩ := inboxResponse_candidate rfl hready hvalid
  rw [ofNat_count hindex.le le_rfl] at hcandidate
  have hl : session.inboxList (index + 1) = some scan.candidates :=
    inboxList_iff.mpr ⟨prepared, scan, hprepared, hscan, Or.inl hstatus, rfl⟩
  refine ⟨⟨next_index next index ▸ hid, next_index next index ▸ hlast, hdelivered, _, hl, ?_⟩,
    _, hl, hcandidate⟩
  rintro i hi
  obtain rfl := Nat.succ.inj hi
  exact ⟨_, hcandidate, hsendable⟩

lemma inbox_listed (session : ScannedSession) :
    Listed session session.inboxList validCandidate InboxCandidate.token .scan .candidate
      InstallerResponse.candidate 128 where
  sorted n l hl := by
    obtain ⟨prepared, scan, -, hscan, -, rfl⟩ := inboxList_iff.mp hl
    exact (scanOfficialInbox_candidates hscan).2.1
  counts next := inbox_counts
  counted next response later := inbox_counted
  fetches next index := inbox_fetches
  fetched next index response := inbox_fetched

end ScannedSession

lemma installedResponse_scan (env : Environment) (profile : CertifiedSessionProfile)
    (calls : BrokerCalls) (root : Node) (request : InstallerRequest)
    (installed : List InstalledApplicationSnapshot) (hcommand : request.command = .installedScan)
    (hid : request.requestId ≠ 0) :
    ∃ answer, installedResponse env profile calls root request (some installed) = some (answer, root) ∧
      (answer.status = .ready ∨ answer.status = .empty) ∧ (answer.status = .empty → installed = []) ∧
      answer.count = UInt32.ofNat installed.length ∧
      (answer.command = request.command ∧ answer.requestId = request.requestId) ∧
      validInstallerResponse answer = true := by
  rw [installedResponse, hcommand]
  refine ⟨_, rfl, ?_⟩
  cases installed with
  | nil =>
    refine ⟨Or.inr rfl, fun _ => rfl, rfl, ⟨rfl, rfl⟩, ?_⟩
    have hdetail : validText (text "INSTALLED_EMPTY") detailLimit false = true := by decide
    simp [validInstallerResponse, InstallerResponse.hasCandidate, InstallerResponse.hasInstalled,
      carriesCandidate, carriesInstalled, hid, hdetail, countCommand]
  | cons snapshot installed =>
    refine ⟨Or.inl rfl, by rintro ⟨⟩, rfl, ⟨rfl, rfl⟩, ?_⟩
    have hdetail : validText (text "INSTALLED_READY") detailLimit false = true := by decide
    simp [validInstallerResponse, InstallerResponse.hasCandidate, InstallerResponse.hasInstalled,
      carriesCandidate, carriesInstalled, hid, hdetail, countCommand]

lemma installedResponse_candidate {env : Environment} {profile : CertifiedSessionProfile}
    {calls : BrokerCalls} {root after : Node} {request : InstallerRequest} {answer : InstallerResponse}
    {installed : List InstalledApplicationSnapshot} (hcommand : request.command = .installedCandidate)
    (h : installedResponse env profile calls root request (some installed) = some (answer, after))
    (hready : answer.status = .ready) (hvalid : validInstallerResponse answer = true) :
    (installed.map InstalledApplicationSnapshot.publicValue)[request.index.toNat]? =
      some answer.arrived.installed ∧ validInstalled answer.arrived.installed = true := by
  rw [installedResponse] at h
  simp only [hcommand] at h
  split at h
  · rename_i snapshot hsnapshot
    obtain ⟨rfl, -⟩ := Prod.mk.inj (Option.some.inj h)
    simp only [validInstallerResponse, InstallerResponse.hasInstalled, carriesInstalled, decide_true,
      Bool.and_self, if_true, Bool.and_eq_true] at hvalid
    rw [List.getElem?_map, hsnapshot]
    exact ⟨rfl, hvalid.1.2⟩
  · obtain ⟨rfl, -⟩ := Prod.mk.inj (Option.some.inj h)
    cases hready

lemma installedResponse_listed (env : Environment) (profile : CertifiedSessionProfile)
    (calls : BrokerCalls) (root : Node) (request : InstallerRequest)
    {installed : List InstalledApplicationSnapshot} {candidate : InstalledApplicationCandidate}
    (hcommand : request.command = .installedCandidate) (hid : request.requestId ≠ 0)
    (hcandidate : (installed.map InstalledApplicationSnapshot.publicValue)[request.index.toNat]? =
      some candidate) (hsendable : validInstalled candidate = true) :
    ∃ answer, installedResponse env profile calls root request (some installed) = some (answer, root) ∧
      answer.status = .ready ∧ (answer.command = request.command ∧ answer.requestId = request.requestId) ∧
      validInstallerResponse answer = true := by
  have hdetail : validText candidate.detail detailLimit false = true := by
    have hparts := hsendable
    simp only [validInstalled, Bool.and_eq_true] at hparts
    exact hparts.1.1.1.2
  rw [List.getElem?_map] at hcandidate
  obtain ⟨snapshot, hsnapshot, rfl⟩ := Option.map_eq_some_iff.mp hcandidate
  rw [installedResponse, hcommand]
  simp only [hsnapshot]
  refine ⟨_, rfl, rfl, ⟨rfl, rfl⟩, ?_⟩
  simp [validInstallerResponse, InstallerResponse.hasCandidate, InstallerResponse.hasInstalled,
    carriesCandidate, carriesInstalled, hid, hdetail, hsendable]

namespace ScannedSession

variable {session : ScannedSession} {next later : UInt64} {index : ℕ} {response : InstallerResponse}

lemma installed_counts (h : session.Answered session.installedList validInstalled next 0) :
    ∃ response, countAnswer session.exchange .installedScan next = some (response, next + 1) ∧
      (response.status = .ready ∨ response.status = .empty) := by
  obtain ⟨l, hl, -⟩ := h.listed
  obtain ⟨prepared, found, installed, hprepared, hfound, hinstalled, -⟩ := installedList_iff.mp hl
  have hid : next ≠ 0 := by simpa using h.identifier
  have hlast : next ≠ UInt64.ofNat (2 ^ 64 - 1) := by simpa using h.left
  set request : InstallerRequest := { command := .installedScan, requestId := next }
  have hrequest : validInstallerRequest request = true := by
    simp [validInstallerRequest, request, hid, tokenCommand]
  obtain ⟨answer, hanswer, hstatus, -, -, hechoes, hvalid⟩ := installedResponse_scan
    session.env session.profile (session.calls 0) found request installed rfl hid
  have hhandled : handleInstallerRequest session.env session.profile (session.calls 0) (session.systems 0)
      request = some (answer, found) :=
    (handleInstallerRequest_of_installed (Or.inl rfl) hprepared hfound hinstalled).trans hanswer
  exact ⟨answer.arrived, countAnswer_iff.mpr ⟨hlast, rfl, exchange_iff.mpr ⟨h.delivered, hrequest, answer,
    found, hhandled, hvalid, hechoes, rfl⟩⟩, hstatus⟩

lemma installed_counted (h : countAnswer session.exchange .installedScan next = some (response, later))
    (hstatus : response.status = .ready ∨ response.status = .empty) :
    session.Answered session.installedList validInstalled next 0 ∧ later = next + 1 ∧
      ∃ l, session.installedList 0 = some l ∧ l.length ≤ 64 ∧
        (response.status = .ready → response.count.toNat = l.length) ∧
        (response.status = .empty → l = []) := by
  obtain ⟨hlast, rfl, hexchange⟩ := countAnswer_iff.mp h
  obtain ⟨hdelivered, hrequest, answer, after, hhandled, -, -, rfl⟩ := exchange_iff.mp hexchange
  have hid : next ≠ 0 := validInstallerRequest_identifier hrequest
  rcases handleInstallerRequest_installed (Or.inl rfl) hhandled with hfailed | hanswered
  · exact absurd hstatus (not_or.mpr hfailed)
  obtain ⟨prepared, found, installed, hprepared, hfound, hinstalled, hresponse⟩ := hanswered
  have hl : session.installedList 0 = some (installed.map InstalledApplicationSnapshot.publicValue) :=
    installedList_iff.mpr ⟨prepared, found, installed, hprepared, hfound, hinstalled, rfl⟩
  have hlength : installed.length ≤ 64 := (installedApplicationSnapshots_ids hinstalled).1
  obtain ⟨other, hother, -, hnil, hcount, -⟩ := installedResponse_scan
    session.env session.profile (session.calls 0) found { command := .installedScan, requestId := next }
    installed rfl hid
  obtain ⟨rfl, -⟩ := Prod.mk.inj (Option.some.inj (hresponse.symm.trans hother))
  refine ⟨⟨by simpa using hid, by simpa using hlast, hdelivered, _, hl, nofun⟩, rfl, _, hl, ?_,
    fun _ => ?_, fun hempty => ?_⟩
  · rw [List.length_map]
    exact hlength
  · rw [List.length_map]
    change answer.count.toNat = _
    rw [hcount]
    exact ofNat_count hlength (by decide)
  · rw [hnil hempty, List.map_nil]

lemma installed_fetches (hindex : index < 64)
    (h : session.Answered session.installedList validInstalled next (index + 1)) :
    ∃ response, candidateAnswer session.exchange .installedCandidate (next + 1) index = .ok response := by
  obtain ⟨l, hl, hlisted⟩ := h.listed
  obtain ⟨candidate, hcandidate, hsendable⟩ := hlisted index rfl
  obtain ⟨prepared, found, installed, hprepared, hfound, hinstalled, rfl⟩ := installedList_iff.mp hl
  have hid : next + 1 + UInt64.ofNat index ≠ 0 := next_index next index ▸ h.identifier
  have hlast : next + 1 + UInt64.ofNat index ≠ UInt64.ofNat (2 ^ 64 - 1) := next_index next index ▸ h.left
  set request : InstallerRequest := {
    command := .installedCandidate
    requestId := next + 1 + UInt64.ofNat index
    index := UInt32.ofNat index }
  have hrequest : validInstallerRequest request = true := by
    simp [validInstallerRequest, request, hid, tokenCommand, indexCommand]
  have hplace : request.index.toNat = index := ofNat_count hindex.le (by decide)
  rw [← hplace] at hcandidate
  obtain ⟨answer, hanswer, hready, hechoes, hvalid⟩ := installedResponse_listed session.env
    session.profile (session.calls (index + 1)) found request rfl hid hcandidate hsendable
  have hhandled : handleInstallerRequest session.env session.profile (session.calls (index + 1))
      (session.systems (index + 1)) request = some (answer, found) :=
    (handleInstallerRequest_of_installed (Or.inr rfl) hprepared hfound hinstalled).trans hanswer
  exact ⟨answer.arrived, candidateAnswer_iff.mpr ⟨hlast, exchange_iff.mpr ⟨h.delivered, hrequest, answer,
    found, hhandled, hvalid, hechoes, rfl⟩, hready⟩⟩

lemma installed_fetched (hindex : index < 64)
    (h : candidateAnswer session.exchange .installedCandidate (next + 1) index = .ok response) :
    session.Answered session.installedList validInstalled next (index + 1) ∧
      ∃ l, session.installedList (index + 1) = some l ∧ l[index]? = some response.installed := by
  obtain ⟨hlast, hexchange, hready⟩ := candidateAnswer_iff.mp h
  obtain ⟨hdelivered, hrequest, answer, after, hhandled, hvalid, -, rfl⟩ := exchange_iff.mp hexchange
  have hid : next + 1 + UInt64.ofNat index ≠ 0 := validInstallerRequest_identifier hrequest
  rcases handleInstallerRequest_installed (Or.inr rfl) hhandled with hfailed | hanswered
  · exact absurd hready hfailed.1
  obtain ⟨prepared, found, installed, hprepared, hfound, hinstalled, hresponse⟩ := hanswered
  obtain ⟨hcandidate, hsendable⟩ := installedResponse_candidate rfl hresponse hready hvalid
  rw [ofNat_count hindex.le (by decide)] at hcandidate
  have hl : session.installedList (index + 1) =
      some (installed.map InstalledApplicationSnapshot.publicValue) :=
    installedList_iff.mpr ⟨prepared, found, installed, hprepared, hfound, hinstalled, rfl⟩
  refine ⟨⟨next_index next index ▸ hid, next_index next index ▸ hlast, hdelivered, _, hl, ?_⟩,
    _, hl, hcandidate⟩
  rintro i hi
  obtain rfl := Nat.succ.inj hi
  exact ⟨_, hcandidate, hsendable⟩

lemma installed_listed (session : ScannedSession) :
    Listed session session.installedList validInstalled InstalledApplicationCandidate.appId .installedScan
      .installedCandidate InstallerResponse.installed 64 where
  sorted n l hl := by
    obtain ⟨prepared, found, installed, -, -, hinstalled, rfl⟩ := installedList_iff.mp hl
    rw [List.pairwise_map]
    exact (installedApplicationSnapshots_ids hinstalled).2
  counts next := installed_counts
  counted next response later := installed_counted
  fetches next index := installed_fetches
  fetched next index response := installed_fetched

end ScannedSession

section

variable {α : Type} {session : ScannedSession} {lists : ℕ → Option (List α)} {sendable : α → Bool}
  {key : α → Bytes} {countCommand indexCommand : InstallerCommand} {get : InstallerResponse → α}
  {limit : ℕ} {next later : UInt64} {response : InstallerResponse}

/-- The list a scan returns is all that the broker found at one of its requests. -/
def Complete (lists : ℕ → Option (List α)) (fetched : List α) : Prop :=
  ∃ j ≤ fetched.length, lists j = some fetched

lemma Listed.keepsPlaces_unanswered
    (h : Listed session lists sendable key countCommand indexCommand get limit)
    (hcount : ∀ response, countAnswer session.exchange countCommand next = some (response, next + 1) →
      response.status ≠ .ready ∧ response.status ≠ .empty) :
    session.KeepsPlaces lists sendable key next := by
  intro first _ hanswered
  obtain ⟨response, hresponse, hstatus⟩ := h.counts next (hanswered 0 (Nat.zero_le _))
  exact absurd hstatus (not_or.mpr (hcount response hresponse))

lemma keepsPlaces_empty (h : lists 0 = some []) : session.KeepsPlaces lists sendable key next := by
  intro first hfirst _
  obtain rfl := Option.some.inj (h.symm.trans hfirst)
  exact ⟨0, le_rfl, [], h, rfl, nofun⟩

lemma Listed.keepsPlaces_failed
    (h : Listed session lists sendable key countCommand indexCommand get limit)
    (hcount : countAnswer session.exchange countCommand next = some (response, later))
    (hready : response.status = .ready) {e : ScanFailure}
    (hfailed : collect (candidateAnswer session.exchange indexCommand later) 0 response.count.toNat =
      .error e) : session.KeepsPlaces lists sendable key next := by
  obtain ⟨-, rfl, l, hl, hlimit, hsize, -⟩ := h.counted next response later hcount (Or.inl hready)
  intro first hfirst hanswered
  obtain rfl := Option.some.inj (hl.symm.trans hfirst)
  have hfetches : ∀ i < response.count.toNat,
      ∃ a, candidateAnswer session.exchange indexCommand (next + 1) (0 + i) = .ok a := by
    intro i hi
    rw [hsize hready] at hi
    rw [Nat.zero_add]
    exact h.fetches next i (hi.trans_le hlimit) (hanswered (i + 1) hi)
  obtain ⟨answers, hanswers⟩ := collect_succeeds hfetches
  rw [hfailed] at hanswers
  cases hanswers

lemma Listed.keepsPlaces_fetched
    (h : Listed session lists sendable key countCommand indexCommand get limit)
    (hcount : countAnswer session.exchange countCommand next = some (response, later))
    (hready : response.status = .ready) {answers : List InstallerResponse}
    (hanswers : collect (candidateAnswer session.exchange indexCommand later) 0 response.count.toNat =
      .ok answers) :
    session.KeepsPlaces lists sendable key next ↔ Complete lists (answers.map get) := by
  obtain ⟨hfirst, rfl, l, hl, hlimit, hsize, -⟩ := h.counted next response later hcount (Or.inl hready)
  have hlength : answers.length = l.length := (collect_length hanswers).trans (hsize hready)
  have hfetched : ∀ i < l.length, session.Answered lists sendable next (i + 1) ∧
      ∃ later, lists (i + 1) = some later ∧ later[i]? = (answers.map get)[i]? := by
    intro i hi
    have hexists : i < answers.length := hlength ▸ hi
    have hanswer := collect_answer hanswers (List.getElem?_eq_getElem hexists)
    rw [Nat.zero_add] at hanswer
    rw [List.getElem?_map, List.getElem?_eq_getElem hexists, Option.map_some]
    exact h.fetched next i _ (hi.trans_le hlimit) hanswer
  have hanswered : ∀ n ≤ l.length, session.Answered lists sendable next n := by
    intro n hn
    cases n with
    | zero => exact hfirst
    | succ i => exact (hfetched i hn).1
  have hundisplaced : Undisplaced key byteLe lists l.length ↔ Complete lists (answers.map get) := by
    rw [Complete, List.length_map, hlength]
    exact undisplaced_iff byteLe_linear h.sorted (by rw [List.length_map, hlength])
      fun i hi => (hfetched i hi).2
  rw [← hundisplaced]
  constructor
  · exact fun hkeeps => hkeeps l hl hanswered
  · intro hkept first hfirst _
    obtain rfl := Option.some.inj (hl.symm.trans hfirst)
    exact hkept

end

lemma inboxStatus_iff (status : InstallerProtocolStatus) :
    (inboxStatus status = .ready ↔ status = .ready) ∧ (inboxStatus status = .empty ↔ status = .empty) := by
  cases status <;> decide

lemma ScannedSession.inboxList_tokens {session : ScannedSession} {n : ℕ} {l : List InboxCandidate}
    (h : session.inboxList n = some l) : (l.map InboxCandidate.token).Nodup := by
  rw [List.Nodup, List.pairwise_map]
  exact (session.inbox_listed.sorted n l h).imp fun h => h.2

lemma ScannedSession.installedList_tokens {session : ScannedSession} {n : ℕ}
    {l : List InstalledApplicationCandidate}
    (hfree : CollisionFree session.env.crypto (snapshotMaterials session.env
      (requestFinds session.env (session.calls n) (session.systems n))))
    (h : session.installedList n = some l) : (l.map InstalledApplicationCandidate.token).Nodup := by
  obtain ⟨prepared, found, installed, hprepared, hfound, hinstalled, rfl⟩ := installedList_iff.mp h
  rw [requestFinds, hprepared] at hfree
  simp only [ne_eq, not_true_eq_false, if_false, hfound] at hfree
  rw [List.map_map]
  exact installedApplicationSnapshots_tokens hfree hinstalled

lemma inbox_scan_complete (session : ScannedSession) (next : UInt64) :
    let scan := InstallerClient.scan session.exchange next
    (scan.status ≠ .ready ∧ scan.status ≠ .empty ∨
      Complete session.inboxList scan.candidates ∧ (scan.candidates.map InboxCandidate.token).Nodup) ↔
      session.KeepsPlaces session.inboxList validCandidate InboxCandidate.token next := by
  have hlisted := session.inbox_listed
  have htokens : ∀ {l}, Complete session.inboxList l → (l.map InboxCandidate.token).Nodup :=
    fun ⟨_, _, hl⟩ => ScannedSession.inboxList_tokens hl
  simp only [InstallerClient.scan]
  cases hcount : countAnswer session.exchange .scan next with
  | none =>
    refine iff_of_true (Or.inl ⟨nofun, nofun⟩) (hlisted.keepsPlaces_unanswered fun response hresponse => ?_)
    cases hcount.symm.trans hresponse
  | some answer =>
    obtain ⟨response, later⟩ := answer
    obtain ⟨hreadyIff, hemptyIff⟩ := inboxStatus_iff response.status
    by_cases hready : response.status = .ready
    · obtain ⟨-, -, l, -, hlimit, hsize, -⟩ := hlisted.counted next response later hcount (Or.inl hready)
      simp only [if_neg (show ¬(response.status ≠ .ready ∨ response.count.toNat > 128) by
        rw [hsize hready]
        exact not_or.mpr ⟨not_not.mpr hready, Nat.not_lt.mpr hlimit⟩)]
      cases hanswers : collect (candidateAnswer session.exchange .candidate later) 0
          response.count.toNat with
      | error e =>
        refine iff_of_true (Or.inl ?_) (hlisted.keepsPlaces_failed hcount hready hanswers)
        cases e <;> exact ⟨nofun, nofun⟩
      | ok answers =>
        have hpresent : ¬(inboxStatus response.status ≠ .ready ∧ inboxStatus response.status ≠ .empty) :=
          fun h => h.1 (hreadyIff.mpr hready)
        simp only [hpresent, false_or]
        rw [hlisted.keepsPlaces_fetched hcount hready hanswers]
        exact and_iff_left_of_imp htokens
    · simp only [if_pos (show response.status ≠ .ready ∨ response.count.toNat > 128 from Or.inl hready)]
      by_cases hempty : response.status = .empty
      · obtain ⟨-, -, l, hl, -, -, hnil⟩ := hlisted.counted next response later hcount (Or.inr hempty)
        obtain rfl := hnil hempty
        exact iff_of_true (Or.inr ⟨⟨0, le_rfl, hl⟩, List.nodup_nil⟩) (keepsPlaces_empty hl)
      · refine iff_of_true (Or.inl ⟨hready ∘ hreadyIff.mp, hempty ∘ hemptyIff.mp⟩)
          (hlisted.keepsPlaces_unanswered fun other hother => ?_)
        obtain ⟨rfl, -⟩ := Prod.mk.inj (Option.some.inj (hcount.symm.trans hother))
        exact ⟨hready, hempty⟩

lemma installed_scan_complete (session : ScannedSession) (next : UInt64)
    (hfree : ∀ n, CollisionFree session.env.crypto (snapshotMaterials session.env
      (requestFinds session.env (session.calls n) (session.systems n)))) :
    let scan := InstallerClient.scanInstalled session.exchange next
    (scan.success = false ∨ Complete session.installedList scan.applications ∧
      (scan.applications.map InstalledApplicationCandidate.token).Nodup) ↔
      session.KeepsPlaces session.installedList validInstalled InstalledApplicationCandidate.appId next := by
  have hlisted := session.installed_listed
  have htokens : ∀ {l}, Complete session.installedList l →
      (l.map InstalledApplicationCandidate.token).Nodup :=
    fun ⟨j, _, hl⟩ => ScannedSession.installedList_tokens (hfree j) hl
  simp only [InstallerClient.scanInstalled]
  cases hcount : countAnswer session.exchange .installedScan next with
  | none =>
    refine iff_of_true (Or.inl rfl) (hlisted.keepsPlaces_unanswered fun response hresponse => ?_)
    cases hcount.symm.trans hresponse
  | some answer =>
    obtain ⟨response, later⟩ := answer
    by_cases hempty : response.status = .empty
    · obtain ⟨-, -, l, hl, -, -, hnil⟩ := hlisted.counted next response later hcount (Or.inr hempty)
      obtain rfl := hnil hempty
      simp only [if_pos hempty]
      exact iff_of_true (Or.inr ⟨⟨0, le_rfl, hl⟩, List.nodup_nil⟩) (keepsPlaces_empty hl)
    · simp only [if_neg hempty]
      by_cases hready : response.status = .ready
      · obtain ⟨-, -, l, -, hlimit, hsize, -⟩ := hlisted.counted next response later hcount (Or.inl hready)
        simp only [if_neg (show ¬(response.status ≠ .ready ∨ response.count.toNat > 64) by
          rw [hsize hready]
          exact not_or.mpr ⟨not_not.mpr hready, Nat.not_lt.mpr hlimit⟩)]
        cases hanswers : collect (candidateAnswer session.exchange .installedCandidate later) 0
            response.count.toNat with
        | error e =>
          refine iff_of_true (Or.inl ?_) (hlisted.keepsPlaces_failed hcount hready hanswers)
          cases e <;> rfl
        | ok answers =>
          simp only [Bool.true_eq_false, false_or]
          rw [hlisted.keepsPlaces_fetched hcount hready hanswers]
          exact and_iff_left_of_imp htokens
      · simp only [if_pos (show response.status ≠ .ready ∨ response.count.toNat > 64 from Or.inl hready)]
        refine iff_of_true (Or.inl trivial) (hlisted.keepsPlaces_unanswered fun other hother => ?_)
        obtain ⟨rfl, -⟩ := Prod.mk.inj (Option.some.inj (hcount.symm.trans hother))
        exact ⟨hready, hempty⟩

def unchangedSession : ScannedSession where
  env := demoEnvironment
  profile := demoProfile
  systems _ := demoSystem []
  calls _ := demoCalls
  delivers _ := true

def inboxSystem (releases : List (Bytes × SignedRelease)) : Node :=
  privateDirectory [(text "userdisk", privateDirectory [(text "apps", privateDirectory [
    (text "lvgl-apps", privateDirectory []), (text "lvgl-app-policy", privateDirectory []),
    (text "lvgl-inbox", privateDirectory (releases.map fun (name, release) =>
      (name, .file { mode := 0o600 } release.package.bytes)))])])]

def grownSession : ScannedSession where
  env := installEnvironment
  profile := demoProfile
  systems
    | 0 => inboxSystem [(text "b.lvapp", secondRelease)]
    | _ + 1 => inboxSystem [(text "a.lvapp", firstRelease), (text "b.lvapp", secondRelease)]
  calls _ := demoCalls
  delivers _ := true

def grownRoot : Node := (prepareApplicationStorage 0 (grownSession.systems 1)).1

def grownCandidate (release : SignedRelease) : RawCandidate :=
  rawCandidate installEnvironment grownRoot (installerPolicy demoProfile)
    ⟨release.package.bytes, release.packageDigest⟩ release.package.verification

lemma grown_packages {inbox : Node}
    (hinbox : grownRoot.openTrusted 0 applicationInboxRoot = some inbox) :
    inboxPackages installCrypto inbox = [⟨firstRelease.package.bytes, firstRelease.packageDigest⟩,
      ⟨secondRelease.package.bytes, secondRelease.packageDigest⟩] := by
  have hnames : (grownRoot.openTrusted 0 applicationInboxRoot).map
      (fun inbox => inbox.entries.map Prod.fst) = some [text "a.lvapp", text "b.lvapp"] := by
    decide
  have hfirst : (grownRoot.openTrusted 0 applicationInboxRoot).bind
      (readCandidate · (text "a.lvapp")) = some firstRelease.package.bytes := by decide +kernel
  have hsecond : (grownRoot.openTrusted 0 applicationInboxRoot).bind
      (readCandidate · (text "b.lvapp")) = some secondRelease.package.bytes := by decide +kernel
  have hdigest : installCrypto.sha512 firstRelease.package.bytes = some firstRelease.packageDigest ∧
      installCrypto.sha512 secondRelease.package.bytes = some secondRelease.packageDigest := by
    decide +kernel
  rw [hinbox, Option.map_some] at hnames
  rw [hinbox, Option.bind_some] at hfirst hsecond
  have hsorted : sortBy id byteLe (inbox.entries.map Prod.fst) = [text "a.lvapp", text "b.lvapp"] := by
    rw [Option.some.inj hnames]
    exact sortBy_of_sorted (List.pairwise_pair.mpr (by decide))
  rw [inboxPackages, hsorted]
  simp only [List.filterMap_cons, List.filterMap_nil, hfirst, hsecond, hdigest, Option.bind_eq_bind,
    Option.bind_some]

lemma grown_scan : scanOfficialInbox installEnvironment grownRoot (installerPolicy demoProfile) = some {
    status := .ready
    detail := text "INBOX_READY"
    candidates := [(grownCandidate firstRelease).publicValue,
      (grownCandidate secondRelease).publicValue] } := by
  have hopen : (grownRoot.openTrusted 0 applicationInboxRoot).isSome = true := by decide
  obtain ⟨inbox, hinbox⟩ := Option.isSome_iff_exists.mp hopen
  have hsize : (grownRoot.openTrusted 0 applicationInboxRoot).all
      (fun inbox => decide (inbox.entries.length ≤ maximumInboxEntries)) = true := by decide
  have hverified : verifyCandidates installEnvironment grownRoot (installerPolicy demoProfile)
      [⟨firstRelease.package.bytes, firstRelease.packageDigest⟩,
        ⟨secondRelease.package.bytes, secondRelease.packageDigest⟩] =
      some [grownCandidate firstRelease, grownCandidate secondRelease] := by decide +kernel
  have hstrict : byteLe (grownCandidate firstRelease).publicValue.token
        (grownCandidate secondRelease).publicValue.token = true ∧
      (grownCandidate firstRelease).publicValue.token ≠
        (grownCandidate secondRelease).publicValue.token := by decide
  have hraw : rawCandidates installEnvironment grownRoot (installerPolicy demoProfile) =
      some (.ready, [grownCandidate firstRelease, grownCandidate secondRelease]) := by
    rw [hinbox, Option.all_some, decide_eq_true_eq] at hsize
    rw [rawCandidates, hinbox]
    simp only [if_neg (Nat.not_lt.mpr hsize)]
    rw [show installEnvironment.crypto = installCrypto from rfl, grown_packages hinbox, hverified]
    have hunique : sortUnique (fun candidate : RawCandidate => candidate.publicValue.token) byteLe
        [grownCandidate firstRelease, grownCandidate secondRelease] =
        [grownCandidate firstRelease, grownCandidate secondRelease] :=
      sortUnique_of_strict (List.pairwise_pair.mpr hstrict)
    rw [Option.bind_eq_bind, Option.bind_some, hunique]
    rfl
  rw [scanOfficialInbox, hraw]
  rfl

def grownRequest : InstallerRequest where
  command := .candidate
  requestId := 2

lemma grown_prepared :
    prepareApplicationStorage 0 (grownSession.systems 1) = (grownRoot, .ready) :=
  Prod.ext rfl (by decide)

def grownAnswer : InstallerResponse where
  command := .candidate
  requestId := 2
  status := .ready
  detail := (grownCandidate firstRelease).publicValue.detail
  candidate := (grownCandidate firstRelease).publicValue

lemma grown_handled : handleInstallerRequest installEnvironment demoProfile demoCalls
    (grownSession.systems 1) grownRequest = some (grownAnswer, grownRoot) := by
  rw [handleInstallerRequest, show installEnvironment.euid = 0 from rfl, grown_prepared]
  simp only [grownRequest, grown_scan, Option.map_some]
  rfl

lemma grown_fetched : ∃ response,
    candidateAnswer grownSession.exchange .candidate 2 0 = .ok response := by
  have hreceived : decodeInstallerRequest (encodeInstallerRequest grownRequest) =
      some grownRequest := by decide +kernel
  have hsent : (encodeInstallerResponse grownAnswer).head? ≠ some 0 := by decide +kernel
  have haccepted : (installerAccept grownRequest (encodeInstallerResponse grownAnswer)).map
      InstallerResponse.status = some .ready := by decide +kernel
  obtain ⟨response, hresponse, hready⟩ := Option.map_eq_some_iff.mp haccepted
  have hexchange : grownSession.exchange 1 grownRequest = some response := by
    rw [ScannedSession.exchange, if_neg (by decide), hreceived]
    change (handleInstallerRequest installEnvironment demoProfile demoCalls (grownSession.systems 1)
      grownRequest).bind _ = _
    rw [grown_handled, Option.bind_some]
    simp only [if_neg hsent, hresponse]
  refine ⟨response, ?_⟩
  have hprepare : InstallerClient.prepare (2 + UInt64.ofNat 0)
      { command := .candidate, index := UInt32.ofNat 0 } = (3, some grownRequest) := by decide
  rw [candidateAnswer, hprepare]
  simp only [Nat.zero_add, hexchange, if_pos hready]

end LvglPlatform
