import LvglPlatform.Session.StorageBroker

namespace LvglPlatform

open Foundation Steps

/-- Every entry is the broker's own file, and the records are within the limits. -/
structure InLimits (limits : StorageLimits) (folder : Folder) : Prop where
  keepable : ∀ name ∈ folder.keys, Keepable folder name
  count : recordCount folder ≤ limits.maximumFiles.toNat
  bytes : recordBytes folder ≤ limits.dataMib.toNat * 2 ^ 20

section

variable {limits : StorageLimits} {s t : Folder} {name data : Bytes} {usage : StorageUsage}

lemma Scratch.weigh_eq (h : Scratch s t) (weight : Node → ℕ) (name : Bytes) :
    t.weigh (fun name node => if storageTemporaryName name then 0 else weight node) name =
      s.weigh (fun name node => if storageTemporaryName name then 0 else weight node) name := by
  rw [Folder.weigh, Folder.weigh]
  cases htemporary : storageTemporaryName name with
  | false => rw [h.kept name htemporary]
  | true => cases t.lookup name <;> cases s.lookup name <;> simp

lemma Scratch.inLimits (h : Scratch s t) (hs : InLimits limits s) : InLimits limits t := by
  refine ⟨fun name hname => ?_, ?_, ?_⟩
  · rw [← AList.mem_keys, ← AList.lookup_isSome, Option.isSome_iff_exists] at hname
    obtain ⟨node, hnode⟩ := hname
    rcases h.left name node hnode with hbefore | ⟨content, hfresh⟩
    · have hkey : name ∈ s.keys := by
        rw [← AList.mem_keys, ← AList.lookup_isSome, hbefore]
        rfl
      rw [Keepable, hnode, ← hbefore]
      exact hs.keepable name hkey
    · cases htemporary : storageTemporaryName name with
      | true =>
        refine ⟨content, ?_, fun hrecord => ?_⟩
        · rw [hnode, hfresh]
          rfl
        · rw [htemporary] at hrecord
          cases hrecord
      | false =>
        have hbefore := h.kept name htemporary
        have hkey : name ∈ s.keys := by
          rw [← AList.mem_keys, ← AList.lookup_isSome, ← hbefore, hnode]
          rfl
        rw [Keepable, hbefore]
        exact hs.keepable name hkey
  · have hsame : recordCount t = recordCount s := Folder.total_congr (h.weigh_eq fun _ => 1)
    rw [hsame]
    exact hs.count
  · have hsame : recordBytes t = recordBytes s :=
      Folder.total_congr (h.weigh_eq fun node => ((storedContent node).getD []).length)
    rw [hsame]
    exact hs.bytes

lemma inLimits_insert (hkeepable : ∀ name ∈ s.keys, Keepable s name)
    (hname : validStorageRecordName name = true) (hfits : FitsLimits limits s name data) :
    InLimits limits (s.insert name (privateFile data)) := by
  obtain ⟨hpositive, hsize, hcount, hbytes⟩ := hfits
  refine ⟨fun other hother => ?_, hcount, hbytes⟩
  by_cases he : other = name
  · subst he
    refine ⟨data, ?_, fun _ => ⟨hname, hpositive, hsize⟩⟩
    rw [AList.lookup_insert]
    rfl
  · rw [← AList.mem_keys, AList.mem_insert] at hother
    rw [Keepable, AList.lookup_insert_ne he]
    exact hkeepable other (AList.mem_keys.mp (hother.resolve_left he))

lemma scanEntries_accepts {listing names : List Bytes} {cleaned : Bool} (hnodup : names.Nodup)
    (hnames : ∀ name ∈ names, t.lookup name = s.lookup name)
    (hkeepable : ∀ name ∈ names, Keepable s name)
    (hfiles : usage.files.toNat + (names.map (s.weigh fun name _ =>
      if storageTemporaryName name then 0 else 1)).sum < 2 ^ 32)
    (hbytes : usage.bytes.toNat + (names.map (s.weigh fun name node =>
      if storageTemporaryName name then 0 else ((storedContent node).getD []).length)).sum < 2 ^ 64) :
    Spec t (scanEntries { listing } names usage cleaned) (fun _ => True) fun result _ =>
      result.isSome = true := by
  induction names generalizing usage cleaned t with
  | nil => exact spec_pure rfl
  | cons name rest ih =>
    obtain ⟨hfresh, hnodup⟩ := List.nodup_cons.mp hnodup
    obtain ⟨hname, hrest⟩ := List.forall_mem_cons.mp hnames
    obtain ⟨⟨content, hcontent, hrecord⟩, hkeepable⟩ := List.forall_mem_cons.mp hkeepable
    obtain ⟨node, hnode, hnodeContent⟩ := Option.bind_eq_some_iff.mp hcontent
    rw [List.map_cons, List.sum_cons, Folder.weigh_of_lookup hnode] at hfiles hbytes
    rw [scanEntries]
    apply spec_bind
    apply spec_current
    rw [if_pos rfl, hname, hcontent]
    simp only
    split
    · rename_i htemporary
      rw [if_pos htemporary, Nat.zero_add] at hfiles hbytes
      rw [if_pos trivial]
      apply spec_bind
      refine spec_step trivial (ih hnodup (fun other hother => ?_) hkeepable hfiles hbytes)
      have hne : other ≠ name := by
        rintro rfl
        exact hfresh hother
      rw [AList.lookup_erase_ne hne, hrest other hother]
    · rename_i htemporary
      obtain ⟨hvalid, hpositive, hsize⟩ := hrecord (Bool.eq_false_iff.mpr htemporary)
      rw [if_neg htemporary] at hfiles hbytes
      rw [hnodeContent, Option.getD_some] at hbytes
      rw [if_neg]
      · obtain ⟨hfilesAdd, hbytesAdd⟩ := storageUsage_add usage hsize (by omega) (by omega)
        apply ih hnodup hrest hkeepable
        · rw [hfilesAdd]
          omega
        · rw [hbytesAdd]
          omega
      · simp only [not_or, Bool.not_eq_true', Bool.not_eq_false, not_lt]
        exact ⟨by omega, hvalid, hsize, by omega, by omega⟩

lemma scanStorage_accepts (h : InLimits limits s) {listing : List Bytes}
    (hperm : listing.Perm s.keys) : ∃ usage, (scanStorage { listing } s).result = some usage := by
  have hfiles := h.count.trans_lt limits.maximumFiles.toNat_lt
  have hbytes : recordBytes s < 2 ^ 64 := by
    have hrange := limits.dataMib.toNat_lt
    have hlimit := h.bytes
    omega
  rw [recordCount, ← Folder.total_of_perm hperm] at hfiles
  rw [recordBytes, ← Folder.total_of_perm hperm] at hbytes
  have hentries := @scanEntries_accepts s s {} listing listing false
    (hperm.nodup_iff.mpr s.keys_nodup) (fun _ _ => rfl)
    (fun name hname => h.keepable name (hperm.mem_iff.mp hname))
    (by rw [show (UInt32.toNat 0) = 0 from rfl, Nat.zero_add]; exact hfiles)
    (by rw [show (UInt64.toNat 0) = 0 from rfl, Nat.zero_add]; exact hbytes)
  have hscan : Spec s (scanStorage { listing }) (fun _ => True) fun result _ =>
      result.isSome = true := by
    rw [scanStorage]
    apply spec_bind
    apply hentries.weaken fun _ h => h
    intro result t hresult
    obtain ⟨found, rfl⟩ := Option.isSome_iff_exists.mp hresult
    simp only [Bool.not_true, Bool.and_false]
    exact spec_pure rfl
  exact Option.isSome_iff_exists.mp hscan.2

/-- A scan of the whole directory accepts it, with this usage. -/
def ScanAccepts (folder : Folder) (usage : StorageUsage) : Prop :=
  ∃ listing, listing.Perm folder.keys ∧ (scanStorage { listing } folder).result = some usage

lemma ScanAccepts.counted (h : ScanAccepts s usage) : Counted s usage := by
  obtain ⟨listing, hperm, hresult⟩ := h
  have hspec := @scanStorage_spec { listing } s
  exact hspec.2.2 usage hresult hperm

def Accepted (limits : StorageLimits) (folder : Folder) : Prop :=
  ∃ usage, ScanAccepts folder usage ∧ usage.files ≤ limits.maximumFiles ∧ usage.bytes ≤ limits.quota

lemma accepted_iff : Accepted limits s ↔ InLimits limits s := by
  constructor
  · rintro ⟨usage, haccepts, hfiles, hbytes⟩
    have hcounted := haccepts.counted
    refine ⟨hcounted.keepable, ?_, ?_⟩
    · rw [← hcounted.files]
      exact UInt32.le_iff_toNat_le.mp hfiles
    · rw [← hcounted.bytes, ← quota_toNat]
      exact UInt64.le_iff_toNat_le.mp hbytes
  · intro h
    obtain ⟨usage, hresult⟩ := scanStorage_accepts h (List.Perm.refl s.keys)
    have haccepts : ScanAccepts s usage := ⟨_, List.Perm.refl _, hresult⟩
    have hcounted := haccepts.counted
    refine ⟨usage, haccepts, ?_, ?_⟩
    · rw [UInt32.le_iff_toNat_le, hcounted.files]
      exact h.count
    · rw [UInt64.le_iff_toNat_le, hcounted.bytes, quota_toNat]
      exact h.bytes

end

section

variable {limits : StorageLimits} {request : StorageRequest} {calls : StorageCalls} {s : Folder}

lemma Writing.inLimits {t : Folder} (h : Writing limits calls request s t) (hs : InLimits limits s)
    (hname : validStorageRecordName request.record = true)
    (hcomplete : calls.scan.listing.Perm s.keys) : InLimits limits t := by
  rcases h with hscratch | ⟨hgranted, hreplaced⟩
  · exact hscratch.inLimits hs
  · obtain ⟨hkeepable, hfits⟩ := hgranted hcomplete
    exact hreplaced.inLimits (inLimits_insert hkeepable hname hfits)

lemma handleStorageRequest_inLimits (hs : InLimits limits s) (hrequest : request.Decoded)
    (hcomplete : request.command = .write → calls.scan.listing.Perm s.keys) :
    Spec s (handleStorageRequest limits calls request) (InLimits limits) fun _ t =>
      InLimits limits t := by
  rw [handleStorageRequest]
  cases hcommand : request.command with
  | read =>
    apply spec_bind
    apply scanStorage_spec.weaken fun t h => h.scratch.inLimits hs
    rintro usage t ⟨hswept, -⟩
    have ht := hswept.scratch.inLimits hs
    cases usage with
    | none => exact spec_pure ht
    | some usage =>
      simp only
      split
      · exact spec_pure ht
      · apply spec_bind
        apply spec_current
        split
        · exact spec_pure ht
        · exact spec_pure ht
  | write =>
    have hsmall : maximumStorageRecordSize = 65536 := rfl
    have hlength := hrequest.data
    have hwriting : ∀ t, Writing limits calls request s t → InLimits limits t := fun t ht =>
      ht.inLimits hs hrequest.record (hcomplete hcommand)
    apply spec_bind
    apply (writeStorageRecord_spec hrequest.record (by omega)).weaken hwriting
    intro status t ht
    apply spec_pure
    cases status with
    | ok => exact hwriting t (Or.inr ht)
    | ioError => exact hwriting t ht
    | invalidRequest => exact hwriting t (Or.inl ht)
    | notFound => exact hwriting t (Or.inl ht)
    | quotaExceeded => exact hwriting t (Or.inl ht)
    | storageCorrupt => exact hwriting t (Or.inl ht)

/-- The scan before a write goes over the whole directory. -/
def CompleteScan (run : StorageRun) (event : StorageEvent) : Prop :=
  ∀ request, decodeStorageRequest event.packet = some request → request.command = .write →
    event.calls.scan.listing.Perm run.folder.keys

lemma step_inLimits {run run' : StorageRun} {event : StorageEvent} (h : InLimits limits run.folder)
    (hcomplete : CompleteScan run event) (hstep : (storageBroker limits).step run event = some run') :
    InLimits limits run'.folder := by
  obtain ⟨request, hdecoded, rfl⟩ := Option.map_eq_some_iff.mp hstep
  exact (handleStorageRequest_inLimits h (decodeStorageRequest_decoded hdecoded)
    (hcomplete request hdecoded)).stop h event.cut

end

/-- While every write scans the whole directory, the broker keeps it within the limits, and lets a
write through exactly when the directory stays within them. -/
theorem storage_stays_within_limits {limits : StorageLimits} {start run : StorageRun}
    {events : List StorageEvent} (hstart : Accepted limits start.folder)
    (hcomplete : (storageBroker limits).Along CompleteScan start events)
    (hrun : (storageBroker limits).run start events = some run) :
    Accepted limits run.folder ∧ InLimits limits run.folder ∧
      ∀ usage name data, ScanAccepts run.folder usage → validStorageRecordName name = true →
        data.length < 2 ^ 64 →
        (storageWriteWithinQuota usage.files usage.bytes (run.folder.lookup name).isSome
            (UInt64.ofNat (existingSize run.folder name)) (UInt64.ofNat data.length)
            limits.maximumFiles limits.quota = true ↔ FitsLimits limits run.folder name data) := by
  have hin : InLimits limits run.folder :=
    Process.run_invariant (fun s event t hs hcomplete hstep => step_inLimits hs hcomplete hstep)
      (accepted_iff.mp hstart) hcomplete hrun
  refine ⟨accepted_iff.mpr hin, hin, fun usage name data haccepts hname hdata => ?_⟩
  exact withinQuota_exact haccepts.counted hname hdata

def oneRecord : StorageRun where
  folder := AList.singleton (text "a") (privateFile [1])

def oneFile : StorageLimits := { maximumFiles := 1, dataMib := 1 }

def readFirst : StorageEvent where
  packet := encodeStorageRequest
    { command := .read, requestId := 1, record := text "a", maximumSize := 16 }
  calls := { scan := { listing := [text "a"] }, reads := [1] }

/-- The second scan on the descriptor starts at the end of the directory. -/
def writeSecond : StorageEvent where
  packet := encodeStorageRequest
    { command := .write, requestId := 2, record := text "b", maximumSize := 16, data := [2] }
  calls := { scan := { listing := [] }, random := some (zeroes 12), counts := [1] }

lemma oneRecord_accepted : Accepted oneFile oneRecord.folder :=
  ⟨{ files := 1, bytes := 1 }, ⟨[text "a"], List.Perm.refl _, by decide⟩, by decide, by decide⟩

theorem second_scan_exceeds_limits : Accepted oneFile oneRecord.folder ∧
    ∃ run, (storageBroker oneFile).run oneRecord [readFirst, writeSecond] = some run ∧
      run.exchanges.map (fun exchange => exchange.answer.map StorageResponse.status) =
        [some .ok, some .ok] ∧ ¬ recordCount run.folder ≤ oneFile.maximumFiles.toNat := by
  refine ⟨oneRecord_accepted, ?_⟩
  have hrun : ((storageBroker oneFile).run oneRecord [readFirst, writeSecond]).map (fun run =>
      (run.exchanges.map fun exchange => exchange.answer.map StorageResponse.status,
        recordCount run.folder)) = some ([some .ok, some .ok], 2) := by decide
  obtain ⟨run, hrun, houtcome⟩ := Option.map_eq_some_iff.mp hrun
  obtain ⟨hstatuses, hcount⟩ := Prod.mk.inj houtcome
  refine ⟨run, hrun, hstatuses, ?_⟩
  rw [hcount]
  decide

def replaceFirst : StorageEvent where
  packet := encodeStorageRequest
    { command := .write, requestId := 1, record := text "a", maximumSize := 16, data := [2, 3] }
  calls := { scan := { listing := [text "a"] }, random := some (zeroes 12), counts := [1, 1] }

theorem replaced_record_within_limits : ∃ run,
    (storageBroker oneFile).run oneRecord [replaceFirst] = some run ∧ Accepted oneFile run.folder := by
  have hcomplete : (storageBroker oneFile).Along CompleteScan oneRecord [replaceFirst] :=
    ⟨fun _ _ _ => List.Perm.refl _, fun _ _ => trivial⟩
  have hruns : ((storageBroker oneFile).run oneRecord [replaceFirst]).isSome = true := by
    decide
  obtain ⟨run, hrun⟩ := Option.isSome_iff_exists.mp hruns
  exact ⟨run, hrun, (storage_stays_within_limits oneRecord_accepted hcomplete hrun).1⟩

end LvglPlatform
