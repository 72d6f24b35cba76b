import LvglPlatform.Foundation.Folder
import LvglPlatform.Foundation.Process
import LvglPlatform.Foundation.Steps
import LvglPlatform.Ipc.StorageProtocol

namespace LvglPlatform

open Foundation

structure StorageUsage where
  files : UInt32 := 0
  bytes : UInt64 := 0
  deriving DecidableEq

structure StorageLimits where
  maximumFiles : UInt32
  dataMib : UInt32

def StorageLimits.quota (limits : StorageLimits) : UInt64 := limits.dataMib.toUInt64 * 1024 * 1024

def brokerPrefix : Bytes := text ".broker-"

def legacyPrefix : Bytes := text ".write-"

def storageTemporaryName (name : Bytes) : Bool :=
  let start := if brokerPrefix.isPrefixOf name then brokerPrefix else legacyPrefix
  name.length = start.length + 24 && start.isPrefixOf name && (name.drop start.length).all isLowerHex

def privateFile (content : Bytes) : Node := .file { mode := 0o600 } content

/-- The content of a regular file of the broker's own. -/
def storedContent : Node → Option Bytes
  | .file stat content =>
    if stat.uid = 0 ∧ stat.links = 1 ∧ stat.mode &&& 0o777 = 0o600 then some content else none
  | _ => none

/-- What the calls of a scan give. The listing is what readdir returns until its first null: the
stream goes on where the last stream on a duplicate of the descriptor stopped, and an error ends it
as the end of the directory does. -/
structure ScanCalls where
  opens : Bool := true
  listing : List Bytes
  examines : Bytes → Bool := fun _ => true
  unlinks : Bytes → Bool := fun _ => true
  syncs : Bool := true

def scanEntries (calls : ScanCalls) : List Bytes → StorageUsage → Bool →
    Steps Folder (Option (StorageUsage × Bool))
  | [], usage, cleaned => pure (some (usage, cleaned))
  | name :: rest, usage, cleaned => do
    let folder ← Steps.current
    match if calls.examines name then (folder.lookup name).bind storedContent else none with
    | none => pure none
    | some content =>
      if storageTemporaryName name then
        if calls.unlinks name then do
          Steps.step fun folder => folder.erase name
          scanEntries calls rest usage true
        else pure none
      else if content.length = 0 ∨ !validStorageRecordName name ∨
          content.length > maximumStorageRecordSize ∨ usage.files.toNat = 2 ^ 32 - 1 ∨
          usage.bytes.toNat > 2 ^ 64 - 1 - content.length then pure none
      else
        scanEntries calls rest
          { files := usage.files + 1, bytes := usage.bytes + UInt64.ofNat content.length } cleaned

def scanStorage (calls : ScanCalls) : Steps Folder (Option StorageUsage) := do
  if !calls.opens then pure none
  else
    match ← scanEntries calls calls.listing {} false with
    | none => pure none
    | some (usage, cleaned) => if cleaned && !calls.syncs then pure none else pure (some usage)

/-- What the calls of one request give: `random` is what getrandom fills, `counts` and `reads` are
what write and read return until they fail. -/
structure StorageCalls where
  scan : ScanCalls
  examines : Bool := true
  random : Option (ByteArr 12) := none
  creates : Bool := true
  counts : List ℕ := []
  syncsFile : Bool := true
  renames : Bool := true
  syncsDirectory : Bool := true
  unlinks : Bool := true
  opens : Bool := true
  opensDevice : Bool := false
  examinesFile : Bool := true
  reads : List ℕ := []
  ends : Bool := true

def extendFile (name more : Bytes) (folder : Folder) : Folder :=
  match folder.lookup name with
  | some (.file stat content) => folder.insert name (.file stat (content ++ more))
  | _ => folder

def writeAll (name : Bytes) : List ℕ → Bytes → Steps Folder Bool
  | _, [] => pure true
  | [], _ :: _ => pure false
  | count :: counts, byte :: rest =>
    if count = 0 then pure false
    else do
      Steps.step (extendFile name ((byte :: rest).take count))
      writeAll name counts ((byte :: rest).drop count)

def replaceRecord (calls : StorageCalls) (temporary name data : Bytes) : Steps Folder Bool := do
  let folder ← Steps.current
  if !calls.creates || (folder.lookup temporary).isSome then pure false
  else
    Steps.step fun folder => folder.insert temporary (privateFile [])
    if !(← writeAll temporary calls.counts data) || !calls.syncsFile || !calls.renames then pure false
    else
      Steps.step fun folder =>
        match folder.lookup temporary with
        | some node => (folder.erase temporary).insert name node
        | none => folder
      pure calls.syncsDirectory

def unlinkFile (name : Bytes) (folder : Folder) : Folder :=
  match folder.lookup name with
  | some (.directory _ _) => folder
  | _ => folder.erase name

def writeStorageRecord (limits : StorageLimits) (calls : StorageCalls) (request : StorageRequest) :
    Steps Folder StorageProtocolStatus := do
  match ← scanStorage calls.scan with
  | none => pure .storageCorrupt
  | some usage =>
    let folder ← Steps.current
    if !calls.examines then pure .ioError
    else
      let existing := folder.lookup request.record
      match existing.map storedContent with
      | some none => pure .storageCorrupt
      | some (some []) => pure .storageCorrupt
      | content =>
        let existingSize := (content.join.map List.length).getD 0
        if !storageWriteWithinQuota usage.files usage.bytes existing.isSome
            (UInt64.ofNat existingSize) (UInt64.ofNat request.data.length) limits.maximumFiles
            limits.quota then pure .quotaExceeded
        else
          match calls.random with
          | none => pure .ioError
          | some random =>
            let temporary := brokerPrefix ++ hexText random.toList
            if ← replaceRecord calls temporary request.record request.data then pure .ok
            else
              if calls.unlinks then Steps.step (unlinkFile temporary)
              pure .ioError

def readCounts : List ℕ → Bytes → Option Bytes
  | _, [] => some []
  | [], _ :: _ => none
  | count :: counts, byte :: rest =>
    if count = 0 then none
    else (readCounts counts ((byte :: rest).drop count)).map fun data =>
      (byte :: rest).take count ++ data

def readStorageRecord (calls : StorageCalls) (request : StorageRequest) (folder : Folder) :
    Except StorageProtocolStatus Bytes :=
  if !calls.opens then .error .ioError
  else
    match folder.lookup request.record with
    | none => .error .notFound
    -- O_NOFOLLOW does not open a symbolic link, and a socket cannot be opened
    | some (.other _) => .error (if calls.opensDevice then .storageCorrupt else .ioError)
    | some node =>
      match if calls.examinesFile then storedContent node else none with
      | none => .error .storageCorrupt
      | some content =>
        if content.length = 0 ∨ content.length > request.maximumSize.toNat then .error .storageCorrupt
        else
          match readCounts calls.reads content with
          | none => .error .ioError
          | some data => if calls.ends then .ok data else .error .storageCorrupt

def handleStorageRequest (limits : StorageLimits) (calls : StorageCalls) (request : StorageRequest) :
    Steps Folder StorageResponse := do
  match request.command with
  | .read =>
    match ← scanStorage calls.scan with
    | none => pure { command := .read, status := .storageCorrupt, requestId := request.requestId }
    | some usage =>
      if usage.files > limits.maximumFiles ∨ usage.bytes > limits.quota then
        pure { command := .read, status := .storageCorrupt, requestId := request.requestId }
      else
        match readStorageRecord calls request (← Steps.current) with
        | .error status => pure { command := .read, status, requestId := request.requestId }
        | .ok data => pure { command := .read, status := .ok, requestId := request.requestId, data }
  | .write =>
    let status ← writeStorageRecord limits calls request
    pure { command := .write, status, requestId := request.requestId }

/-- A request as its packet, with what the calls give and the step after which the broker is cut off. -/
structure StorageEvent where
  packet : Bytes
  calls : StorageCalls
  cut : Option ℕ := none

structure StorageExchange where
  request : StorageRequest
  answer : Option StorageResponse
  deriving DecidableEq

structure StorageRun where
  folder : Folder
  /-- The latest exchange comes first. -/
  exchanges : List StorageExchange := []

def storageBroker (limits : StorageLimits) : Process StorageRun StorageEvent where
  step run event := (decodeStorageRequest event.packet).map fun request =>
    let handled := handleStorageRequest limits event.calls request
    { folder := handled.stop run.folder event.cut
      exchanges := {
        request
        answer := if event.cut = none then some (handled run.folder).result else none } ::
          run.exchanges }

open Steps

lemma temporary_of_random (random : ByteArr 12) :
    storageTemporaryName (brokerPrefix ++ hexText random.toList) = true := by
  have hbegins : brokerPrefix.isPrefixOf (brokerPrefix ++ hexText random.toList) = true := by
    rw [List.isPrefixOf_iff_prefix]
    exact List.prefix_append _ _
  have hhex := hexText_lowercaseHex random.toList (by rw [random.toList_length])
  rw [lowercaseHex, Bool.and_eq_true] at hhex
  rw [storageTemporaryName]
  simp only [hbegins, if_true, List.drop_left, hhex.2, Bool.and_true, decide_eq_true_eq,
    List.length_append, hexText_length, random.toList_length]

lemma not_temporary_of_valid {name : Bytes} (h : validStorageRecordName name = true) :
    storageTemporaryName name = false := by
  have hdot : name.head? ≠ some (chr '.') := by
    simp only [validStorageRecordName, Bool.and_eq_true, decide_eq_true_eq] at h
    exact h.1.1.2
  cases htemporary : storageTemporaryName name with
  | false => rfl
  | true =>
    simp only [storageTemporaryName, Bool.and_eq_true] at htemporary
    obtain ⟨rest, hrest⟩ := List.isPrefixOf_iff_prefix.mp htemporary.1.2
    exfalso
    apply hdot
    rw [← hrest]
    split <;> rfl

structure Swept (s t : Folder) : Prop where
  kept : ∀ name, storageTemporaryName name = false → t.lookup name = s.lookup name
  left : ∀ name node, t.lookup name = some node → s.lookup name = some node

structure Scratch (s t : Folder) : Prop where
  kept : ∀ name, storageTemporaryName name = false → t.lookup name = s.lookup name
  left : ∀ name node, t.lookup name = some node →
    s.lookup name = some node ∨ ∃ content, node = privateFile content

section

variable {s t u : Folder} {name : Bytes}

lemma Swept.refl (s : Folder) : Swept s s := ⟨fun _ _ => rfl, fun _ _ h => h⟩

lemma Swept.erase (h : Swept s t) (hname : storageTemporaryName name = true) :
    Swept s (t.erase name) := by
  have hne : ∀ other node, (t.erase name).lookup other = some node → other ≠ name := by
    rintro other node hother rfl
    rw [AList.lookup_erase] at hother
    cases hother
  refine ⟨fun other hother => ?_, fun other node hnode => ?_⟩
  · have hdiffers : other ≠ name := by
      rintro rfl
      rw [hname] at hother
      cases hother
    rw [AList.lookup_erase_ne hdiffers, h.kept other hother]
  · apply h.left
    rw [← AList.lookup_erase_ne (hne other node hnode)]
    exact hnode

lemma Swept.scratch (h : Swept s t) : Scratch s t :=
  ⟨h.kept, fun name node hnode => Or.inl (h.left name node hnode)⟩

lemma Scratch.refl (s : Folder) : Scratch s s := (Swept.refl s).scratch

lemma Scratch.trans (h : Scratch s t) (h' : Scratch t u) : Scratch s u := by
  refine ⟨fun name hname => (h'.kept name hname).trans (h.kept name hname), fun name node hnode => ?_⟩
  rcases h'.left name node hnode with hbefore | hfresh
  · exact h.left name node hbefore
  · exact Or.inr hfresh

lemma Scratch.erase (h : Scratch s t) (hname : storageTemporaryName name = true) :
    Scratch s (t.erase name) := h.trans ((Swept.refl t).erase hname).scratch

lemma Scratch.insert (h : Scratch s t) (hname : storageTemporaryName name = true) (content : Bytes) :
    Scratch s (t.insert name (privateFile content)) := by
  refine ⟨fun other hother => ?_, fun other node hnode => ?_⟩
  · have hdiffers : other ≠ name := by
      rintro rfl
      rw [hname] at hother
      cases hother
    rw [AList.lookup_insert_ne hdiffers, h.kept other hother]
  · by_cases he : other = name
    · rw [he, AList.lookup_insert] at hnode
      exact Or.inr ⟨content, (Option.some.inj hnode).symm⟩
    · rw [AList.lookup_insert_ne he] at hnode
      exact h.left other node hnode

lemma Scratch.replace (h : Scratch s t) (node : Node) :
    Scratch (s.insert name node) (t.insert name node) := by
  refine ⟨fun other hother => ?_, fun other found hfound => ?_⟩
  · by_cases he : other = name
    · rw [he, AList.lookup_insert, AList.lookup_insert]
    · rw [AList.lookup_insert_ne he, AList.lookup_insert_ne he, h.kept other hother]
  · by_cases he : other = name
    · rw [he, AList.lookup_insert] at hfound ⊢
      exact Or.inl hfound
    · rw [AList.lookup_insert_ne he] at hfound ⊢
      exact h.left other found hfound

lemma Scratch.unlink (h : Scratch s t) (hname : storageTemporaryName name = true) :
    Scratch s (unlinkFile name t) := by
  rw [unlinkFile]
  split
  · exact h
  · exact h.erase hname

end

def recordCount (folder : Folder) : ℕ :=
  folder.total fun name _ => if storageTemporaryName name then 0 else 1

def recordBytes (folder : Folder) : ℕ :=
  folder.total fun name node =>
    if storageTemporaryName name then 0 else ((storedContent node).getD []).length

/-- What a scan admits under a name. -/
def Keepable (folder : Folder) (name : Bytes) : Prop :=
  ∃ content, (folder.lookup name).bind storedContent = some content ∧
    (storageTemporaryName name = false → validStorageRecordName name = true ∧
      1 ≤ content.length ∧ content.length ≤ maximumStorageRecordSize)

section

variable {calls : ScanCalls} {s t : Folder} {names : List Bytes} {usage : StorageUsage} {cleaned : Bool}

lemma storageUsage_add (usage : StorageUsage) {size : ℕ} (hsize : size ≤ maximumStorageRecordSize)
    (hfiles : usage.files.toNat + 1 < 2 ^ 32) (hbytes : usage.bytes.toNat + size < 2 ^ 64) :
    (usage.files + 1).toNat = usage.files.toNat + 1 ∧
      (usage.bytes + UInt64.ofNat size).toNat = usage.bytes.toNat + size := by
  have hsmall : maximumStorageRecordSize = 65536 := rfl
  have hadded : (UInt64.ofNat size).toNat = size := UInt64.toNat_ofNat_of_lt' (by
    rw [UInt64.size]
    omega)
  constructor
  · rw [UInt32.toNat_add, UInt32.toNat_one, Nat.mod_eq_of_lt hfiles]
  · rw [UInt64.toNat_add, hadded, Nat.mod_eq_of_lt hbytes]

lemma scanEntries_spec (h : Swept s t) :
    Spec t (scanEntries calls names usage cleaned) (Swept s) fun result u => Swept s u ∧
      ∀ found, result = some found → (∀ name ∈ names, Keepable s name) ∧
        found.1.files.toNat = usage.files.toNat + (names.map (s.weigh fun name _ =>
          if storageTemporaryName name then 0 else 1)).sum ∧
        found.1.bytes.toNat = usage.bytes.toNat + (names.map (s.weigh fun name node =>
          if storageTemporaryName name then 0 else ((storedContent node).getD []).length)).sum := by
  induction names generalizing usage cleaned t with
  | nil =>
    apply spec_pure
    refine ⟨h, ?_⟩
    rintro found ⟨⟩
    simp
  | cons name rest ih =>
    rw [scanEntries]
    apply spec_bind
    apply spec_current
    cases hcontent : if calls.examines name then (t.lookup name).bind storedContent else none with
    | none => exact spec_pure ⟨h, nofun⟩
    | some content =>
      have hstored : (t.lookup name).bind storedContent = some content := by
        split at hcontent
        · exact hcontent
        · cases hcontent
      obtain ⟨node, hnode, hnodeContent⟩ := Option.bind_eq_some_iff.mp hstored
      have hbefore := h.left name node hnode
      have hadmits : (s.lookup name).bind storedContent = some content := by
        rw [hbefore]
        exact hnodeContent
      simp only
      split
      · rename_i htemporary
        split
        · apply spec_bind
          have herased := h.erase htemporary
          apply spec_step herased
          refine (ih herased).weaken (fun _ hu => hu) fun result u hu => ⟨hu.1, fun found hfound => ?_⟩
          obtain ⟨hrest, hfiles, hbytes⟩ := hu.2 found hfound
          refine ⟨List.forall_mem_cons.mpr ⟨⟨content, hadmits, ?_⟩, hrest⟩, ?_, ?_⟩
          · intro hrecord
            rw [htemporary] at hrecord
            cases hrecord
          · rw [hfiles, List.map_cons, List.sum_cons, Folder.weigh_of_lookup hbefore, if_pos htemporary]
            omega
          · rw [hbytes, List.map_cons, List.sum_cons, Folder.weigh_of_lookup hbefore, if_pos htemporary]
            omega
        · exact spec_pure ⟨h, nofun⟩
      · rename_i hrecord
        split
        · exact spec_pure ⟨h, nofun⟩
        · rename_i hfits
          simp only [not_or, Bool.not_eq_true', Bool.not_eq_false, not_lt] at hfits
          obtain ⟨hlength, hvalid, hsize, hfilesLimit, hbytesLimit⟩ := hfits
          have hsmall : maximumStorageRecordSize = 65536 := rfl
          have hrange := usage.files.toNat_lt
          obtain ⟨hfilesAdd, hbytesAdd⟩ := storageUsage_add usage hsize (by omega) (by omega)
          refine (ih h).weaken (fun _ hu => hu) fun result u hu => ⟨hu.1, fun found hfound => ?_⟩
          obtain ⟨hrest, hfiles, hbytes⟩ := hu.2 found hfound
          refine ⟨List.forall_mem_cons.mpr ⟨⟨content, hadmits, ?_⟩, hrest⟩, ?_, ?_⟩
          · exact fun _ => ⟨hvalid, by omega, hsize⟩
          · rw [hfiles, List.map_cons, List.sum_cons, Folder.weigh_of_lookup hbefore, if_neg hrecord,
              hfilesAdd, Nat.add_assoc]
          · rw [hbytes, List.map_cons, List.sum_cons, Folder.weigh_of_lookup hbefore, if_neg hrecord,
              hnodeContent, hbytesAdd, Option.getD_some, Nat.add_assoc]

structure Counted (folder : Folder) (usage : StorageUsage) : Prop where
  keepable : ∀ name ∈ folder.keys, Keepable folder name
  files : usage.files.toNat = recordCount folder
  bytes : usage.bytes.toNat = recordBytes folder

lemma scanStorage_spec : Spec s (scanStorage calls) (Swept s) fun result t => Swept s t ∧
    ∀ usage, result = some usage → calls.listing.Perm s.keys → Counted s usage := by
  rw [scanStorage]
  split
  · exact spec_pure ⟨Swept.refl s, nofun⟩
  · apply spec_bind
    apply (scanEntries_spec (Swept.refl s)).weaken fun _ h => h
    rintro result t ⟨hswept, hcounted⟩
    cases result with
    | none => exact spec_pure ⟨hswept, nofun⟩
    | some found =>
      obtain ⟨usage, cleaned⟩ := found
      simp only
      split
      · exact spec_pure ⟨hswept, nofun⟩
      · apply spec_pure
        refine ⟨hswept, ?_⟩
        rintro _ ⟨⟩ hperm
        obtain ⟨hkeepable, hfiles, hbytes⟩ := hcounted _ rfl
        have hzero : (UInt32.toNat 0, UInt64.toNat 0) = (0, 0) := rfl
        simp only [Prod.mk.injEq] at hzero
        refine ⟨fun name hname => hkeepable name (hperm.mem_iff.mpr hname), ?_, ?_⟩
        · rw [hfiles, Folder.total_of_perm hperm, hzero.1, Nat.zero_add, recordCount]
        · rw [hbytes, Folder.total_of_perm hperm, hzero.2, Nat.zero_add, recordBytes]

end

section

variable {calls : StorageCalls} {s t : Folder} {temporary name data : Bytes}

lemma writeAll_spec {counts : List ℕ} {written rest : Bytes}
    (htemporary : storageTemporaryName temporary = true) (hscratch : Scratch s t)
    (hopen : t.lookup temporary = some (privateFile written)) :
    Spec t (writeAll temporary counts rest) (Scratch s) fun finished u => Scratch s u ∧
      ∃ content, u.lookup temporary = some (privateFile content) ∧
        (finished = true → content = written ++ rest) := by
  induction counts generalizing written rest t with
  | nil =>
    cases rest with
    | nil => exact spec_pure ⟨hscratch, written, hopen, fun _ => (List.append_nil _).symm⟩
    | cons byte rest => exact spec_pure ⟨hscratch, written, hopen, nofun⟩
  | cons count counts ih =>
    cases rest with
    | nil => exact spec_pure ⟨hscratch, written, hopen, fun _ => (List.append_nil _).symm⟩
    | cons byte rest =>
      rw [writeAll]
      split
      · exact spec_pure ⟨hscratch, written, hopen, nofun⟩
      · have hextend : extendFile temporary ((byte :: rest).take count) t =
            t.insert temporary (privateFile (written ++ (byte :: rest).take count)) := by
          rw [extendFile, hopen]
          rfl
        apply spec_bind
        have hmore := hscratch.insert htemporary (written ++ (byte :: rest).take count)
        apply spec_step
        · rw [hextend]
          exact hmore
        · rw [hextend]
          refine (ih hmore (AList.lookup_insert t)).weaken (fun _ h => h) fun finished u hu => ?_
          obtain ⟨hu, content, hcontent, hfinished⟩ := hu
          refine ⟨hu, content, hcontent, fun h => ?_⟩
          rw [hfinished h, List.append_assoc, List.take_append_drop]

def Replaced (s : Folder) (name data : Bytes) (t : Folder) : Prop :=
  Scratch (s.insert name (privateFile data)) t

lemma replaceRecord_spec (htemporary : storageTemporaryName temporary = true)
    (hscratch : Scratch s t) :
    Spec t (replaceRecord calls temporary name data) (fun u => Scratch s u ∨ Replaced s name data u)
      fun moved u => if moved then Replaced s name data u else Scratch s u ∨ Replaced s name data u := by
  rw [replaceRecord]
  apply spec_bind
  apply spec_current
  split
  · exact spec_pure (Or.inl hscratch)
  · apply spec_bind
    have hcreated := hscratch.insert htemporary []
    refine spec_step (Or.inl hcreated) ?_
    apply spec_bind
    apply (writeAll_spec htemporary hcreated (AList.lookup_insert t)).weaken fun _ h => Or.inl h
    rintro finished u ⟨hu, content, hcontent, hfinished⟩
    split
    · exact spec_pure (Or.inl hu)
    · rename_i hmoves
      have hwritten : content = data := by
        cases finished with
        | false => exact absurd rfl hmoves
        | true => exact hfinished rfl
      have hrename : Replaced s name data ((u.erase temporary).insert name (privateFile data)) :=
        (hu.erase htemporary).replace _
      rw [hwritten] at hcontent
      apply spec_bind
      apply spec_step
      · simp only [hcontent]
        exact Or.inr hrename
      · simp only [hcontent]
        apply spec_pure
        split
        · exact hrename
        · exact Or.inr hrename

end

section

variable {limits : StorageLimits} {s t : Folder} {name data : Bytes} {usage : StorageUsage}

lemma quota_toNat (limits : StorageLimits) : limits.quota.toNat = limits.dataMib.toNat * 2 ^ 20 := by
  have hrange := limits.dataMib.toNat_lt
  have hword : (1024 : UInt64).toNat = 1024 := rfl
  have hfirst : (limits.dataMib.toUInt64 * 1024).toNat = limits.dataMib.toNat * 1024 := by
    rw [UInt64.toNat_mul, hword, UInt32.toNat_toUInt64]
    exact Nat.mod_eq_of_lt (by omega)
  rw [StorageLimits.quota, UInt64.toNat_mul, hfirst, hword, Nat.mod_eq_of_lt (by omega)]
  omega

/-- With this record in place the directory is within the limits. -/
def FitsLimits (limits : StorageLimits) (folder : Folder) (name data : Bytes) : Prop :=
  0 < data.length ∧ data.length ≤ maximumStorageRecordSize ∧
    recordCount (folder.insert name (privateFile data)) ≤ limits.maximumFiles.toNat ∧
    recordBytes (folder.insert name (privateFile data)) ≤ limits.dataMib.toNat * 2 ^ 20

def existingSize (folder : Folder) (name : Bytes) : ℕ :=
  (((folder.lookup name).bind storedContent).map List.length).getD 0

lemma recordCount_insert (hname : validStorageRecordName name = true) (node : Node) :
    recordCount (s.insert name node) =
      recordCount s + if (s.lookup name).isSome then 0 else 1 := by
  have hrecord := not_temporary_of_valid hname
  have hreplace : recordCount (s.insert name node) + _ = recordCount s + _ := Folder.total_replace
  cases hbefore : s.lookup name with
  | none =>
    rw [Folder.weigh_of_missing hbefore, hrecord] at hreplace
    simpa using hreplace
  | some before =>
    rw [Folder.weigh_of_lookup hbefore, hrecord] at hreplace
    simpa using hreplace

lemma recordBytes_insert (hname : validStorageRecordName name = true) :
    recordBytes (s.insert name (privateFile data)) + existingSize s name =
      recordBytes s + data.length := by
  have hrecord := not_temporary_of_valid hname
  have hreplace : recordBytes (s.insert name (privateFile data)) + _ = recordBytes s + _ :=
    Folder.total_replace
  have hweight : ((storedContent (privateFile data)).getD []).length = data.length := rfl
  cases hbefore : s.lookup name with
  | none =>
    rw [Folder.weigh_of_missing hbefore, hrecord] at hreplace
    rw [existingSize, hbefore]
    simpa [hweight] using hreplace
  | some before =>
    rw [Folder.weigh_of_lookup hbefore, hrecord] at hreplace
    rw [existingSize, hbefore]
    cases hcontent : storedContent before with
    | none => simpa [hweight, hcontent] using hreplace
    | some content => simpa [hweight, hcontent] using hreplace

lemma weigh_le_recordBytes (hname : validStorageRecordName name = true) :
    existingSize s name ≤ recordBytes s := by
  have hreplaced := @recordBytes_insert s name [] hname
  have hnothing : ([] : Bytes).length = 0 := rfl
  omega

/-- After a scan of the whole directory the quota is held to exactly. -/
lemma withinQuota_exact (hcounted : Counted s usage) (hname : validStorageRecordName name = true)
    (hdata : data.length < 2 ^ 64) :
    storageWriteWithinQuota usage.files usage.bytes (s.lookup name).isSome
        (UInt64.ofNat (existingSize s name)) (UInt64.ofNat data.length) limits.maximumFiles
        limits.quota = true ↔ FitsLimits limits s name data := by
  have hrecord := not_temporary_of_valid hname
  have hexisting : existingSize s name ≤ usage.bytes.toNat := by
    rw [hcounted.bytes]
    exact weigh_le_recordBytes hname
  have hsize : (UInt64.ofNat (existingSize s name)).toNat = existingSize s name :=
    UInt64.toNat_ofNat_of_lt' (hexisting.trans_lt usage.bytes.toNat_lt)
  have hnew : (UInt64.ofNat data.length).toNat = data.length := UInt64.toNat_ofNat_of_lt' hdata
  have hcount := @recordCount_insert s name hname (privateFile data)
  have hbytes := @recordBytes_insert s name data hname
  rw [withinQuota_iff, hnew, hsize, quota_toNat, hcounted.files, hcounted.bytes, FitsLimits, hcount]
  · rw [hcounted.bytes] at hexisting
    have hafter : recordBytes s - existingSize s name + data.length =
        recordBytes (s.insert name (privateFile data)) := by omega
    rw [hafter]
  · cases hbefore : s.lookup name with
    | none => simp [existingSize, hbefore]
    | some before =>
      obtain ⟨content, hcontent, hvalid⟩ := hcounted.keepable name (by
        rw [← AList.mem_keys, ← AList.lookup_isSome, hbefore]
        rfl)
      have hlength : existingSize s name = content.length := by
        rw [existingSize, hcontent]
        rfl
      have hone : 1 ≤ usage.files.toNat := by
        have hweight : _ ≤ recordCount s := Folder.weigh_le_total s name
        rw [Folder.weigh_of_lookup hbefore, hrecord, ← hcounted.files] at hweight
        exact hweight
      rw [if_pos Option.isSome_some]
      refine ⟨UInt32.lt_iff_toNat_lt.mpr hone, ?_, ?_⟩
      · rw [UInt64.lt_iff_toNat_lt, hsize, hlength]
        exact (hvalid hrecord).2.1
      · rw [UInt64.le_iff_toNat_le, hsize]
        exact hexisting

end

section

variable {limits : StorageLimits} {calls : StorageCalls} {request : StorageRequest} {s : Folder}

/-- A write is let through, and with a scan of the whole directory rightly so. -/
def Granted (limits : StorageLimits) (calls : StorageCalls) (request : StorageRequest) (s : Folder) :
    Prop :=
  calls.scan.listing.Perm s.keys → (∀ name ∈ s.keys, Keepable s name) ∧
    FitsLimits limits s request.record request.data

def Writing (limits : StorageLimits) (calls : StorageCalls) (request : StorageRequest) (s t : Folder) :
    Prop :=
  Scratch s t ∨ (Granted limits calls request s ∧ Replaced s request.record request.data t)

lemma writeStorageRecord_spec (hname : validStorageRecordName request.record = true)
    (hdata : request.data.length < 2 ^ 64) :
    Spec s (writeStorageRecord limits calls request) (Writing limits calls request s) fun status t =>
      match status with
      | .ok => Granted limits calls request s ∧ Replaced s request.record request.data t
      | .ioError => Writing limits calls request s t
      | _ => Scratch s t := by
  rw [writeStorageRecord]
  apply spec_bind
  apply scanStorage_spec.weaken fun _ h => Or.inl h.scratch
  rintro result t ⟨hswept, hcounted⟩
  have hscratch := hswept.scratch
  have hlookup := hswept.kept request.record (not_temporary_of_valid hname)
  cases result with
  | none => exact spec_pure hscratch
  | some usage =>
    apply spec_bind
    apply spec_current
    split
    · exact spec_pure (Or.inl hscratch)
    simp only
    split
    · exact spec_pure hscratch
    · exact spec_pure hscratch
    rename_i content hmissing hempty
    have hsize : (((t.lookup request.record).map storedContent).join.map List.length).getD 0 =
        existingSize s request.record := by
      rw [hlookup, existingSize]
      cases s.lookup request.record with
      | none => rfl
      | some node => rfl
    split
    · exact spec_pure hscratch
    rename_i hquota
    rw [hsize, hlookup, Bool.not_eq_true', Bool.not_eq_false] at hquota
    have hgranted : Granted limits calls request s := fun hperm =>
      have hcounted := hcounted usage rfl hperm
      ⟨hcounted.keepable, (withinQuota_exact hcounted hname hdata).mp hquota⟩
    cases calls.random with
    | none => exact spec_pure (Or.inl hscratch)
    | some random =>
      have htemporary := temporary_of_random random
      have hwriting : ∀ u, Scratch s u ∨ Replaced s request.record request.data u →
          Writing limits calls request s u := fun u hu => hu.imp_right fun h => ⟨hgranted, h⟩
      apply spec_bind
      apply (replaceRecord_spec htemporary hscratch).weaken hwriting
      intro moved u hu
      cases moved with
      | true => exact spec_pure ⟨hgranted, hu⟩
      | false =>
        have hunlinked : Writing limits calls request s (unlinkFile _ u) := hwriting _
          (hu.imp (fun h => h.unlink htemporary) fun h => Scratch.unlink h htemporary)
        cases calls.unlinks with
        | false => exact spec_bind (spec_pure (spec_pure (hwriting u hu)))
        | true =>
          apply spec_bind
          refine spec_step hunlinked ?_
          exact spec_pure hunlinked

end

end LvglPlatform
