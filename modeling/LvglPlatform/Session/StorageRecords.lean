import LvglPlatform.Session.StorageBroker

namespace LvglPlatform

open Foundation Steps

def recordData (folder : Folder) (name : Bytes) : Option Bytes :=
  (folder.lookup name).bind storedContent

/-- What a record may hold after these exchanges, the latest first: the data of its last write that
was answered ok or what it held at first, or that of a failed or unanswered write since. -/
def candidates (initial : Option Bytes) (record : Bytes) : List StorageExchange → List Bytes
  | [] => initial.toList
  | exchange :: earlier =>
    if exchange.request.command = .write ∧ exchange.request.record = record then
      match exchange.answer.map StorageResponse.status with
      | some .ok => [exchange.request.data]
      | some .ioError => exchange.request.data :: candidates initial record earlier
      | none => exchange.request.data :: candidates initial record earlier
      | _ => candidates initial record earlier
    else candidates initial record earlier

section

variable {s t : Folder} {name data : Bytes}

lemma Scratch.recordData_eq (h : Scratch s t) (hname : validStorageRecordName name = true) :
    recordData t name = recordData s name := by
  rw [recordData, h.kept name (not_temporary_of_valid hname), recordData]

lemma Replaced.recordData_self (h : Replaced s name data t)
    (hname : validStorageRecordName name = true) : recordData t name = some data := by
  rw [Scratch.recordData_eq h hname, recordData, AList.lookup_insert]
  rfl

lemma Replaced.recordData_other {other : Bytes} (h : Replaced s name data t)
    (hother : validStorageRecordName other = true) (hne : other ≠ name) :
    recordData t other = recordData s other := by
  rw [Scratch.recordData_eq h hother, recordData, AList.lookup_insert_ne hne, recordData]

lemma readCounts_eq {counts : List ℕ} {content data : Bytes}
    (h : readCounts counts content = some data) : data = content := by
  induction counts generalizing content data with
  | nil =>
    cases content with
    | nil => exact (Option.some.inj h).symm
    | cons byte rest => cases h
  | cons count counts ih =>
    cases content with
    | nil => exact (Option.some.inj h).symm
    | cons byte rest =>
      rw [readCounts] at h
      split at h
      · cases h
      · obtain ⟨rest', hrest, rfl⟩ := Option.map_eq_some_iff.mp h
        rw [ih hrest, List.take_append_drop]

lemma readStorageRecord_ok {calls : StorageCalls} {request : StorageRequest}
    (h : readStorageRecord calls request s = .ok data) :
    recordData s request.record = some data ∧ data.length ≤ request.maximumSize.toNat := by
  rw [readStorageRecord] at h
  split at h
  · cases h
  split at h
  · cases h
  · cases h
  rename_i node _ hnode
  split at h
  · cases h
  rename_i content hcontent
  split at h
  · cases h
  rename_i hsize
  split at h
  · cases h
  rename_i found hfound
  split at h
  · obtain rfl := Except.ok.inj h
    obtain rfl := readCounts_eq hfound
    rw [recordData, hnode]
    split at hcontent
    · exact ⟨hcontent, by omega⟩
    · cases hcontent
  · cases h

lemma readStorageRecord_error {calls : StorageCalls} {request : StorageRequest}
    {status : StorageProtocolStatus} (h : readStorageRecord calls request s = .error status) :
    status ≠ .ok := by
  rintro rfl
  rw [readStorageRecord] at h
  split at h
  · cases h
  split at h
  · cases h
  · split at h <;> cases h
  split at h
  · cases h
  split at h
  · cases h
  split at h
  · cases h
  split at h
  · cases h
  · cases h

end

section

variable {limits : StorageLimits} {calls : StorageCalls} {request : StorageRequest} {s : Folder}

def Touched (request : StorageRequest) (s t : Folder) : Prop :=
  Scratch s t ∨ (request.command = .write ∧ Replaced s request.record request.data t)

structure Answered (request : StorageRequest) (s : Folder) (answer : StorageResponse) (t : Folder) :
    Prop where
  command : answer.command = request.command
  requestId : answer.requestId = request.requestId
  encodable : encodeStorageResponse answer ≠ []
  touched : Touched request s t
  written : request.command = .write → answer.status = .ok →
    Replaced s request.record request.data t
  refused : answer.status ≠ .ok → answer.status ≠ .ioError → Scratch s t
  read : request.command = .read → answer.status = .ok →
    recordData s request.record = some answer.data

lemma handleStorageRequest_answered (hrequest : request.Decoded) :
    Spec s (handleStorageRequest limits calls request) (Touched request s)
      (Answered request s) := by
  rw [handleStorageRequest]
  cases hcommand : request.command with
  | read =>
    have hanswered : ∀ {t : Folder} {status : StorageProtocolStatus}, status ≠ .ok → Scratch s t →
        Answered request s { command := .read, status, requestId := request.requestId } t := by
      intro t status hstatus hscratch
      refine ⟨hcommand.symm, rfl, ?_, Or.inl hscratch, ?_, fun _ _ => hscratch, ?_⟩
      · exact encodeStorageResponse_ne_nil hrequest.id (Nat.zero_le _) (fun _ => rfl) nofun
      · exact fun _ hok => absurd hok hstatus
      · exact fun _ hok => absurd hok hstatus
    apply spec_bind
    apply scanStorage_spec.weaken fun t h => Or.inl h.scratch
    rintro usage t ⟨hswept, -⟩
    have hscratch := hswept.scratch
    cases usage with
    | none => exact spec_pure (hanswered nofun hscratch)
    | some usage =>
      simp only
      split
      · exact spec_pure (hanswered nofun hscratch)
      · apply spec_bind
        apply spec_current
        split
        · rename_i status hread
          exact spec_pure (hanswered (readStorageRecord_error hread) hscratch)
        · rename_i data hread
          obtain ⟨hdata, hsize⟩ := readStorageRecord_ok hread
          rw [hscratch.recordData_eq hrequest.record] at hdata
          apply spec_pure
          refine ⟨hcommand.symm, rfl, ?_, Or.inl hscratch, ?_, nofun, fun _ _ => hdata⟩
          · exact encodeStorageResponse_ne_nil hrequest.id (hsize.trans hrequest.maximum) nofun nofun
          · rw [hcommand]
            nofun
  | write =>
    have hsmall : maximumStorageRecordSize = 65536 := rfl
    have hlength := hrequest.data
    apply spec_bind
    apply (writeStorageRecord_spec hrequest.record (by omega)).weaken fun t ht =>
      ht.imp_right fun h => ⟨hcommand, h.2⟩
    intro status t ht
    apply spec_pure
    have hencodable : encodeStorageResponse
        { command := .write, status, requestId := request.requestId } ≠ [] :=
      encodeStorageResponse_ne_nil hrequest.id (Nat.zero_le _) (fun _ => rfl) fun _ => rfl
    have hread : request.command = .read → status = .ok → recordData s request.record = some [] := by
      rw [hcommand]
      nofun
    cases status with
    | ok =>
      exact ⟨hcommand.symm, rfl, hencodable, Or.inr ⟨hcommand, ht.2⟩, fun _ _ => ht.2, nofun, hread⟩
    | ioError =>
      refine ⟨hcommand.symm, rfl, hencodable, ?_, nofun, nofun, hread⟩
      exact ht.imp_right fun h => ⟨hcommand, h.2⟩
    | invalidRequest => exact ⟨hcommand.symm, rfl, hencodable, Or.inl ht, nofun, fun _ _ => ht, hread⟩
    | notFound => exact ⟨hcommand.symm, rfl, hencodable, Or.inl ht, nofun, fun _ _ => ht, hread⟩
    | quotaExceeded => exact ⟨hcommand.symm, rfl, hencodable, Or.inl ht, nofun, fun _ _ => ht, hread⟩
    | storageCorrupt => exact ⟨hcommand.symm, rfl, hencodable, Or.inl ht, nofun, fun _ _ => ht, hread⟩

lemma Touched.other {t : Folder} {record : Bytes} (h : Touched request s t)
    (hrecord : validStorageRecordName record = true)
    (hother : request.command = .read ∨ request.record ≠ record) :
    recordData t record = recordData s record := by
  rcases h with hscratch | ⟨hcommand, hreplaced⟩
  · exact hscratch.recordData_eq hrecord
  · rcases hother with hread | hne
    · rw [hcommand] at hread
      cases hread
    · exact hreplaced.recordData_other hrecord hne.symm

lemma Touched.self {t : Folder} (h : Touched request s t)
    (hrecord : validStorageRecordName request.record = true) :
    recordData t request.record = recordData s request.record ∨
      recordData t request.record = some request.data := by
  rcases h with hscratch | ⟨-, hreplaced⟩
  · exact Or.inl (hscratch.recordData_eq hrecord)
  · exact Or.inr (hreplaced.recordData_self hrecord)

end

section

variable {limits : StorageLimits} {start run next : StorageRun} {event : StorageEvent}
  {request : StorageRequest}

lemma storageBroker_step (hdecoded : decodeStorageRequest event.packet = some request)
    (hstep : (storageBroker limits).step run event = some next) :
    ∃ answer, next.exchanges = { request, answer } :: run.exchanges ∧
      Touched request run.folder next.folder ∧ (answer = none ↔ event.cut ≠ none) ∧
      ∀ response, answer = some response → Answered request run.folder response next.folder := by
  have hspec := @handleStorageRequest_answered limits event.calls request run.folder
    (decodeStorageRequest_decoded hdecoded)
  have hnext := Option.some.inj ((congrArg (Option.map _) hdecoded).symm.trans hstep)
  cases hcut : event.cut with
  | none =>
    rw [hcut] at hnext
    refine ⟨some ((handleStorageRequest limits event.calls request run.folder).result), ?_, ?_, ?_, ?_⟩
    · rw [← hnext]
      rfl
    · rw [← hnext]
      exact hspec.2.touched
    · simp
    · rintro response ⟨⟩
      rw [← hnext]
      exact hspec.2
  | some n =>
    rw [hcut] at hnext
    refine ⟨none, ?_, ?_, ?_, nofun⟩
    · rw [← hnext]
      rfl
    · rw [← hnext]
      have hstops : Spec run.folder (handleStorageRequest limits event.calls request)
          (Touched request run.folder) fun _ t => Touched request run.folder t :=
        hspec.weaken (fun _ h => h) fun _ _ h => h.touched
      exact hstops.stop (Or.inl (Scratch.refl _)) (some n)
    · simp

/-- Every record holds one of its candidates, and every answered read gave one of those of then. -/
structure Consistent (initial : Folder) (run : StorageRun) : Prop where
  held : ∀ record data, validStorageRecordName record = true →
    recordData run.folder record = some data →
    data ∈ candidates (recordData initial record) record run.exchanges
  reads : ∀ later exchange earlier answer, run.exchanges = later ++ exchange :: earlier →
    exchange.request.command = .read → exchange.answer = some answer → answer.status = .ok →
    answer.data ∈ candidates (recordData initial exchange.request.record) exchange.request.record
      earlier

lemma Consistent.step {initial : Folder} (h : Consistent initial run)
    (hstep : (storageBroker limits).step run event = some next) : Consistent initial next := by
  obtain ⟨request, hdecoded, -⟩ := Option.map_eq_some_iff.mp hstep
  have hrequest := (decodeStorageRequest_decoded hdecoded).record
  obtain ⟨answer, hexchanges, htouched, -, hanswered⟩ := storageBroker_step hdecoded hstep
  constructor
  · intro record data hrecord hdata
    rw [hexchanges, candidates]
    split
    · rename_i hwrite
      obtain ⟨hcommand, rfl⟩ := hwrite
      have hone : data = request.data ∨
          data ∈ candidates (recordData initial request.record) request.record run.exchanges := by
        rcases htouched.self hrequest with hbefore | hreplaced
        · exact Or.inr (h.held _ _ hrecord (hbefore.symm.trans hdata))
        · exact Or.inl (Option.some.inj (hdata.symm.trans hreplaced))
      cases answer with
      | none => exact List.mem_cons.mpr hone
      | some response =>
        have hresponse := hanswered response rfl
        have hrefused : response.status ≠ .ok → response.status ≠ .ioError →
            data ∈ candidates (recordData initial request.record) request.record run.exchanges := by
          intro hok hioError
          have hsame := (hresponse.refused hok hioError).recordData_eq hrequest
          exact h.held _ _ hrecord (hsame.symm.trans hdata)
        cases hstatus : response.status with
        | ok =>
          have hreplaced := (hresponse.written hcommand hstatus).recordData_self hrequest
          simp only [Option.map_some, hstatus, List.mem_singleton]
          exact Option.some.inj (hdata.symm.trans hreplaced)
        | ioError =>
          simp only [Option.map_some, hstatus]
          exact List.mem_cons.mpr hone
        | invalidRequest =>
          simp only [Option.map_some, hstatus]
          exact hrefused (by simp [hstatus]) (by simp [hstatus])
        | notFound =>
          simp only [Option.map_some, hstatus]
          exact hrefused (by simp [hstatus]) (by simp [hstatus])
        | quotaExceeded =>
          simp only [Option.map_some, hstatus]
          exact hrefused (by simp [hstatus]) (by simp [hstatus])
        | storageCorrupt =>
          simp only [Option.map_some, hstatus]
          exact hrefused (by simp [hstatus]) (by simp [hstatus])
    · rename_i hother
      have hsame : recordData next.folder record = recordData run.folder record := by
        apply htouched.other hrecord
        cases hcommand : request.command with
        | read => exact Or.inl rfl
        | write => exact Or.inr fun he => hother ⟨hcommand, he⟩
      exact h.held record data hrecord (hsame.symm.trans hdata)
  · intro later exchange earlier response hsplit hcommand hanswer hok
    rw [hexchanges] at hsplit
    cases later with
    | nil =>
      obtain ⟨rfl, rfl⟩ := List.cons.inj hsplit
      exact h.held _ _ hrequest ((hanswered response hanswer).read hcommand hok)
    | cons first later =>
      obtain ⟨-, hrest⟩ := List.cons.inj hsplit
      exact h.reads later exchange earlier response hrest hcommand hanswer hok

end

/-- Whatever becomes of the writes, a read that is answered ok gives what the latest write to the
record may have left, other requests leave a record alone, and every request gets its answer. -/
theorem storage_reads_latest {limits : StorageLimits} {start run : StorageRun}
    {events : List StorageEvent} (hstart : start.exchanges = [])
    (hrun : (storageBroker limits).run start events = some run) :
    (∀ later exchange earlier answer, run.exchanges = later ++ exchange :: earlier →
      exchange.request.command = .read → exchange.answer = some answer → answer.status = .ok →
      answer.data ∈ candidates (recordData start.folder exchange.request.record)
        exchange.request.record earlier) ∧
    ∀ event request, decodeStorageRequest event.packet = some request →
      ∃ next answer, (storageBroker limits).step run event = some next ∧
        next.exchanges = { request, answer } :: run.exchanges ∧
        (∀ record, validStorageRecordName record = true →
          (request.command = .read ∨ request.record ≠ record) →
          recordData next.folder record = recordData run.folder record) ∧
        (event.cut = none → ∃ response, answer = some response ∧
          response.command = request.command ∧ response.requestId = request.requestId ∧
          decodeStorageResponse (encodeStorageResponse response) = some response) := by
  have hinitial : Consistent start.folder start := by
    refine ⟨fun record data _ hdata => ?_, fun later exchange earlier answer hsplit => ?_⟩
    · rw [hstart, candidates, hdata]
      exact List.mem_singleton.mpr rfl
    · rw [hstart] at hsplit
      cases later <;> cases hsplit
  have hconsistent : Consistent start.folder run :=
    Process.run_keeps (fun s event t h hstep => h.step hstep) hinitial hrun
  refine ⟨hconsistent.reads, fun event request hdecoded => ?_⟩
  have hstep : ∃ next, (storageBroker limits).step run event = some next :=
    ⟨_, congrArg (Option.map _) hdecoded⟩
  obtain ⟨next, hstep⟩ := hstep
  obtain ⟨answer, hexchanges, htouched, hcut, hanswered⟩ := storageBroker_step hdecoded hstep
  refine ⟨next, answer, hstep, hexchanges, fun record hrecord hother => ?_, fun huncut => ?_⟩
  · exact htouched.other hrecord hother
  · cases answer with
    | none => exact absurd huncut (hcut.mp rfl)
    | some response =>
      have hresponse := hanswered response rfl
      exact ⟨response, rfl, hresponse.command, hresponse.requestId,
        decodeStorageResponse_encode hresponse.encodable⟩

def writeRequest : StorageRequest :=
  { command := .write, requestId := 1, record := text "score", maximumSize := 4, data := [7] }

def readRequest : StorageRequest :=
  { command := .read, requestId := 2, record := text "score", maximumSize := 4 }

def writeThenRead : List StorageEvent :=
  [{ packet := encodeStorageRequest writeRequest
     calls := { scan := { listing := [] }, random := some (zeroes 12), counts := [1] } },
   { packet := encodeStorageRequest readRequest
     calls := { scan := { listing := [text "score"] }, reads := [1] } }]

def writtenExchange : StorageExchange :=
  { request := writeRequest, answer := some { command := .write, status := .ok, requestId := 1 } }

def readExchange : StorageExchange :=
  { request := readRequest
    answer := some { command := .read, status := .ok, requestId := 2, data := [7] } }

theorem written_record_read :
    ∃ run, (storageBroker { maximumFiles := 1, dataMib := 1 }).run { folder := ∅ } writeThenRead = some run ∧
      run.exchanges = [readExchange, writtenExchange] ∧
      [7] ∈ candidates (recordData ∅ (text "score")) (text "score") [writtenExchange] := by
  have hexchanges : ((storageBroker { maximumFiles := 1, dataMib := 1 }).run { folder := ∅ }
      writeThenRead).map StorageRun.exchanges =
        some [readExchange, writtenExchange] := by decide
  obtain ⟨run, hrun, hexchanges⟩ := Option.map_eq_some_iff.mp hexchanges
  exact ⟨run, hrun, hexchanges, (storage_reads_latest rfl hrun).1 [] _ _ _ hexchanges rfl rfl rfl⟩

end LvglPlatform
