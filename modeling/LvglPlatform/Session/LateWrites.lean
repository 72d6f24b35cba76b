import LvglPlatform.Foundation.TurnQueue
import LvglPlatform.Ipc.StorageProtocol
import LvglPlatform.Session.GracefulExit
import LvglPlatform.Session.StorageRecords

/-! The writes a program sends to its storage broker: which of them are handled before the loop of
the session gives up the storage socket, and what the records then hold. -/

namespace LvglPlatform

open Foundation

def storageWrite (packet : Bytes) : Bool :=
  (decodeStorageRequest packet).any fun request => request.command = .write

def sentStorage (events : List ForegroundEvent) : List Bytes :=
  events.filterMap fun
    | .sendStorage packet => some packet
    | _ => none

/-- The events come to a storage turn before the next poll. -/
def comesToStorage : List ForegroundEvent → Bool
  | [] => false
  | .storage _ :: _ => true
  | .poll _ :: _ => false
  | _ :: events => comesToStorage events

/-- The packets sent over the storage socket, and the polls that return in an iteration that comes to its
storage turn. -/
def storageLog : List ForegroundEvent → List (QueueEvent Bytes)
  | [] => []
  | .sendStorage packet :: events => .arrives packet :: storageLog events
  | .poll (.returned _ _) :: events =>
    if comesToStorage events then .turn :: storageLog events else storageLog events
  | _ :: events => storageLog events

namespace Foreground

variable {program : ForegroundProgram} {s t u : Foreground} {e : ForegroundEvent}
  {events : List ForegroundEvent}

/-- The packets that the storage turn of the running iteration will receive. -/
def reserved (s : Foreground) (events : List ForegroundEvent) : ℕ :=
  if (s.point = .control ∨ s.point = .touch ∨ s.point = .storage) ∧ s.polled.storage = true ∧
      comesToStorage events = true then 1 else 0

/-- The packets that are left when the turns to come have been taken. -/
def leftOver (s : Foreground) (events : List ForegroundEvent) : List Bytes :=
  (storageLog events).foldl QueueEvent.after (s.storage.drop (s.reserved events))

lemma reserved_done (h : s.point = .done) : s.reserved events = 0 := by
  rw [reserved, h]
  simp

lemma done_step (hdone : s.point = .done) (hstep : s.step program e = some u) :
    u.point = .done ∧ ∀ answered, e ≠ .storage answered := by
  cases step_moves hstep with
  | sendControl packet => exact ⟨hdone, nofun⟩
  | sendStorage packet => exact ⟨hdone, nofun⟩
  | exit status => exact ⟨hdone, nofun⟩
  | stop => exact ⟨hdone, nofun⟩
  -- the loop takes no step any more
  | _ => simp_all

lemma no_turn_when_done (hdone : s.point = .done) (hrun : (foregroundProcess program).run s events = some t) :
    comesToStorage events = false := by
  induction events generalizing s with
  | nil => rfl
  | cons e events ih =>
    obtain ⟨u, hstep, hrest⟩ := (Process.run_cons _).mp hrun
    obtain ⟨hafter, hturn⟩ := done_step hdone hstep
    have hlater := ih hafter hrest
    cases e with
    | storage answered => exact absurd rfl (hturn answered)
    | poll result => rfl
    | _ => exact hlater

lemma leftOver_kept (hlog : storageLog (e :: events) = storageLog events)
    (hdrop : s.storage.drop (s.reserved (e :: events)) = u.storage.drop (u.reserved events)) :
    s.leftOver (e :: events) = u.leftOver events := by
  rw [leftOver, leftOver, hlog, hdrop]

lemma leftOver_broken (hlog : storageLog (e :: events) = storageLog events)
    (hcomes : comesToStorage (e :: events) = comesToStorage events) (hstorage : u.storage = s.storage)
    (hdone : u.point = .done) (hrest : (foregroundProcess program).run u events = some t) :
    s.leftOver (e :: events) = u.leftOver events := by
  apply leftOver_kept hlog
  have hnone : s.reserved (e :: events) = 0 := by
    rw [reserved, hcomes, no_turn_when_done hdone hrest]
    simp
  rw [hnone, reserved_done hdone, hstorage]

lemma leftOver_step (hstorage : program.privateStorage = true) (hconsistent : Consistent s)
    (hstep : s.step program e = some u) (hrest : (foregroundProcess program).run u events = some t) :
    s.leftOver (e :: events) = u.leftOver events := by
  cases step_moves hstep with
  | sendControl packet => exact leftOver_kept rfl rfl
  | exit status => exact leftOver_kept rfl rfl
  | stop => exact leftOver_kept rfl rfl
  | sendStorage packet hchild =>
    have hfull : s.reserved events ≤ s.storage.length := by
      rw [reserved]
      split
      · rename_i h
        have hwaiting := hconsistent.storage h.1 h.2.1
        rw [hchild] at hwaiting
        have hne : s.storage ≠ [] := by simpa using hwaiting
        exact List.length_pos_iff.mpr hne
      · exact Nat.zero_le _
    change (storageLog events).foldl QueueEvent.after (s.storage.drop (s.reserved events) ++ [packet]) =
      (storageLog events).foldl QueueEvent.after ((s.storage ++ [packet]).drop (s.reserved events))
    rw [List.drop_append_of_le_length hfull]
  | polled result hpoint =>
    have hnone : s.reserved (.poll result :: events) = 0 := by
      rw [reserved, hpoint]
      simp
    cases result with
    | failed => exact leftOver_kept rfl (by rw [hnone, reserved_done rfl]; rfl)
    | interrupted =>
      apply leftOver_kept rfl
      rw [hnone, reserved, if_neg (by simp [pollStep])]
      rfl
    | returned touch installer =>
      rw [leftOver, hnone, List.drop_zero, leftOver, reserved, storageLog]
      cases hcomes : comesToStorage events with
      | false => simp [pollStep]
      | true =>
        rw [if_pos rfl, List.foldl_cons, QueueEvent.after]
        congr 1
        by_cases hempty : s.storage = []
        · simp [pollStep, hempty]
        · simp [pollStep, hstorage, hempty]
  | controlQuiet written hpoint =>
    apply leftOver_kept rfl
    simp [reserved, comesToStorage, hpoint]
  | controlClosed written hpoint => exact leftOver_broken rfl rfl rfl rfl hrest
  | controlBroken written packet control ready result hpoint => exact leftOver_broken rfl rfl rfl rfl hrest
  | readyAccepted packet control hpoint =>
    apply leftOver_kept rfl
    simp [reserved, comesToStorage, hpoint]
  | commandTaken written packet control message action hpoint =>
    apply leftOver_kept rfl
    simp [reserved, comesToStorage, hpoint]
  | touchQuiet datagram sent hpoint =>
    apply leftOver_kept rfl
    simp [reserved, comesToStorage, hpoint]
  | touchRejected datagram sent error hpoint =>
    apply leftOver_kept rfl
    simp [reserved, comesToStorage, hpoint]
  | touchForwarded datagram frame hpoint =>
    apply leftOver_kept rfl
    simp [reserved, comesToStorage, hpoint]
  | touchBroken datagram frame hpoint => exact leftOver_broken rfl rfl rfl rfl hrest
  | storageQuiet answered hpoint hpolled =>
    apply leftOver_kept rfl
    simp [reserved, hpolled]
  | storageClosed answered hpoint hpolled hempty =>
    apply leftOver_kept rfl
    simp [broken, hempty]
  | storageHandled packet storage hpoint hpolled hqueue =>
    apply leftOver_kept rfl
    simp [reserved, comesToStorage, hpoint, hpolled, hqueue]
  | storageBroken packet storage hpoint hpolled hqueue =>
    apply leftOver_kept rfl
    simp [reserved, comesToStorage, broken, hpoint, hpolled, hqueue]
  | installerPassed answered hpoint =>
    apply leftOver_kept rfl
    simp [reserved, hpoint]
  | installerBroken hpoint => exact leftOver_broken rfl rfl rfl rfl hrest
  | deadlinePassed passed hpoint =>
    apply leftOver_kept rfl
    simp [reserved, hpoint]
  | deadlineBroken hpoint => exact leftOver_broken rfl rfl rfl rfl hrest
  | reapRunning hpoint =>
    apply leftOver_kept rfl
    have hafter : reserved { s with
        point := if s.exited ∨ s.stopped ∨ s.requested then .done else .poll } events = 0 := by
      rw [reserved, if_neg]
      split <;> simp
    rw [hafter, reserved, hpoint]
    simp
  | reapEnded status hpoint => exact leftOver_broken rfl rfl rfl rfl hrest

/-- What waits after a run is what its turns have left. -/
lemma leftOver_run (hstorage : program.privateStorage = true) (hconsistent : Consistent s)
    (hrun : (foregroundProcess program).run s events = some t) : t.storage = s.leftOver events := by
  induction events generalizing s with
  | nil =>
    obtain rfl := Option.some.inj hrun
    simp [leftOver, reserved, storageLog, comesToStorage]
  | cons e events ih =>
    obtain ⟨u, hstep, hrest⟩ := (Process.run_cons _).mp hrun
    rw [leftOver_step hstorage hconsistent hstep hrest]
    exact ih (hconsistent.step hstep) hrest

lemma storage_step (hstep : s.step program e = some t) :
    t.handled ++ t.storage = s.handled ++ s.storage ++ sentStorage [e] := by
  cases step_moves hstep with
  | sendStorage packet => simp [sentStorage]
  | polled result => cases result <;> simp [sentStorage, pollStep, broken]
  | storageHandled packet storage hpoint hpolled hstorage => simp [sentStorage, hstorage]
  | storageBroken packet storage hpoint hpolled hstorage => simp [sentStorage, hstorage, broken]
  | _ => simp [sentStorage, broken]

lemma storage_run (hrun : (foregroundProcess program).run s events = some t) :
    t.handled ++ t.storage = s.handled ++ s.storage ++ sentStorage events := by
  induction events generalizing s with
  | nil =>
    obtain rfl := Option.some.inj hrun
    simp [sentStorage]
  | cons e events ih =>
    obtain ⟨u, hstep, hrest⟩ := (Process.run_cons _).mp hrun
    have hsent : sentStorage (e :: events) = sentStorage [e] ++ sentStorage events := by
      rw [sentStorage, sentStorage, sentStorage, ← List.filterMap_append]
      rfl
    rw [ih hrest, storage_step hstep, hsent, List.append_assoc]

end Foreground

def lastWrite (record : Bytes) (exchanges : List StorageExchange) : Option StorageExchange :=
  exchanges.find? fun exchange => exchange.request.command = .write ∧ exchange.request.record = record

def lastSave (record : Bytes) (packets : List Bytes) : Option StorageRequest :=
  ((packets.filterMap decodeStorageRequest).filter fun request =>
    request.command = .write ∧ request.record = record).getLast?

/-- The broker has served these packets one after the other, and was not cut off. -/
structure Serves (limits : StorageLimits) (folder : Folder) (packets : List Bytes) (run : StorageRun) :
    Prop where
  serves : ∃ served : List StorageEvent, served.map StorageEvent.packet = packets ∧
    (∀ event ∈ served, event.cut = none) ∧ (storageBroker limits).run { folder } served = some run

/-- All that the program has tried to save has been handled, and where the broker has answered the last write
of a record with ok, the record holds what the program has saved last. -/
structure SavesStored (t : Foreground) (events : List ForegroundEvent) : Prop where
  handled : t.handled.filter storageWrite = (sentStorage events).filter storageWrite
  stored : ∀ limits folder run, Serves limits folder
      (t.handled.filter fun packet => (decodeStorageRequest packet).isSome) run →
    ∀ record request, lastSave record (sentStorage events) = some request →
      (∀ exchange ∈ lastWrite record run.exchanges, exchange.answer.map StorageResponse.status = some .ok) →
      recordData run.folder record = some request.data

section

variable {limits : StorageLimits} {folder : Folder} {start run next : StorageRun} {event : StorageEvent}
  {record : Bytes} {packets : List Bytes}

/-- A record holds the data of its last write, if that was answered ok. -/
structure HoldsLast (run : StorageRun) : Prop where
  valid : ∀ exchange ∈ run.exchanges, validStorageRecordName exchange.request.record = true
  held : ∀ record exchange, lastWrite record run.exchanges = some exchange →
    exchange.answer.map StorageResponse.status = some .ok →
    recordData run.folder record = some exchange.request.data

lemma holdsLast_start (folder : Folder) : HoldsLast { folder } := by
  constructor
  · exact List.forall_mem_nil _
  · intro record exchange hlast
    cases hlast

lemma HoldsLast.step (h : HoldsLast run) (hstep : (storageBroker limits).step run event = some next) :
    HoldsLast next := by
  obtain ⟨request, hdecoded, -⟩ := Option.map_eq_some_iff.mp hstep
  have hrequest := (decodeStorageRequest_decoded hdecoded).record
  obtain ⟨answer, hexchanges, htouched, -, hanswered⟩ := storageBroker_step hdecoded hstep
  constructor
  · rw [hexchanges]
    exact List.forall_mem_cons.mpr ⟨hrequest, h.valid⟩
  intro record exchange hlast hok
  rw [hexchanges, lastWrite] at hlast
  by_cases hwrite : request.command = .write ∧ request.record = record
  · rw [List.find?_cons_of_pos (by simpa using hwrite)] at hlast
    obtain rfl := Option.some.inj hlast
    obtain ⟨hcommand, rfl⟩ := hwrite
    obtain ⟨response, hresponse, hstatus⟩ := Option.map_eq_some_iff.mp hok
    exact ((hanswered response hresponse).written hcommand hstatus).recordData_self hrequest
  · rw [List.find?_cons_of_neg (by simpa using hwrite)] at hlast
    have hrecord : validStorageRecordName record = true := by
      have hfound := List.find?_some hlast
      simp only [decide_eq_true_eq] at hfound
      rw [← hfound.2]
      exact h.valid exchange (List.mem_of_find?_eq_some hlast)
    have hother : request.command = .read ∨ request.record ≠ record := by
      cases hcommand : request.command with
      | read => exact .inl rfl
      | write => exact .inr fun hsame => hwrite ⟨hcommand, hsame⟩
    rw [htouched.other hrecord hother]
    exact h.held record exchange hlast hok

lemma requests_step (hstep : (storageBroker limits).step run event = some next) :
    ∃ request, decodeStorageRequest event.packet = some request ∧
      next.exchanges.map StorageExchange.request = request :: run.exchanges.map StorageExchange.request := by
  obtain ⟨request, hdecoded, -⟩ := Option.map_eq_some_iff.mp hstep
  obtain ⟨answer, hexchanges, -⟩ := storageBroker_step hdecoded hstep
  exact ⟨request, hdecoded, by rw [hexchanges, List.map_cons]⟩

lemma requests_run {served : List StorageEvent} (hrun : (storageBroker limits).run start served = some run) :
    run.exchanges.map StorageExchange.request =
      ((served.map StorageEvent.packet).filterMap decodeStorageRequest).reverse ++
        start.exchanges.map StorageExchange.request := by
  induction served generalizing start with
  | nil =>
    obtain rfl := Option.some.inj hrun
    rfl
  | cons event served ih =>
    obtain ⟨next, hstep, hrest⟩ := (Process.run_cons _).mp hrun
    obtain ⟨request, hdecoded, hnext⟩ := requests_step hstep
    rw [ih hrest, hnext, List.map_cons, List.filterMap_cons_some hdecoded, List.reverse_cons,
      List.append_assoc]
    rfl

lemma lastSave_eq_find? : lastSave record packets = (packets.filterMap decodeStorageRequest).reverse.find?
    fun request => request.command = .write ∧ request.record = record := by
  rw [lastSave, List.getLast?_eq_head?_reverse, ← List.filter_reverse, List.head?_filter]

lemma lastSave_writes : lastSave record (packets.filter storageWrite) = lastSave record packets := by
  rw [lastSave, lastSave, List.filterMap_filter]
  congr 1
  induction packets with
  | nil => rfl
  | cons packet packets ih =>
    cases hdecoded : decodeStorageRequest packet with
    | none =>
      rw [List.filterMap_cons_none (by simp [storageWrite, hdecoded]), List.filterMap_cons_none hdecoded]
      exact ih
    | some request =>
      rw [List.filterMap_cons_some hdecoded]
      by_cases hcommand : request.command = .write
      · rw [List.filterMap_cons_some (b := request) (by simp [storageWrite, hdecoded, hcommand]),
          List.filter_cons, List.filter_cons, ih]
      · rw [List.filterMap_cons_none (by simp [storageWrite, hdecoded, hcommand]),
          List.filter_cons_of_neg (by simp [hcommand])]
        exact ih

lemma Serves.recordData (h : Serves limits folder packets run) {request : StorageRequest}
    (hlast : lastSave record packets = some request)
    (hok : ∀ exchange ∈ lastWrite record run.exchanges, exchange.answer.map StorageResponse.status = some .ok) :
    recordData run.folder record = some request.data := by
  obtain ⟨served, rfl, -, hrun⟩ := h.serves
  have hholds : HoldsLast run :=
    Process.run_keeps (fun _ _ _ hholds hstep => hholds.step hstep) (holdsLast_start folder) hrun
  have hrequests := requests_run hrun
  rw [List.map_nil, List.append_nil] at hrequests
  have hfound : (lastWrite record run.exchanges).map StorageExchange.request = some request := by
    rw [← hlast, lastSave_eq_find?, ← hrequests, List.find?_map]
    rfl
  obtain ⟨exchange, hexchange, rfl⟩ := Option.map_eq_some_iff.mp hfound
  exact hholds.held record exchange hexchange (hok exchange hexchange)

end

/-- What the program has saved last is stored exactly when, from wherever one starts to count, fewer packets
are sent before a write than turns of the loop follow. -/
theorem saves_stored_iff {program : ForegroundProgram} {router : TouchRouter} {t : Foreground}
    {events : List ForegroundEvent} (hstorage : program.privateStorage = true)
    (hrun : (foregroundProcess program).run (.start router) events = some t) :
    SavesStored t events ↔ QueueEvent.Timely storageWrite (storageLog events) := by
  have hsent : t.handled ++ t.storage = sentStorage events := Foreground.storage_run hrun
  have hleft : t.storage = QueueEvent.left (storageLog events) := by
    rw [Foreground.leftOver_run hstorage (Foreground.consistent_start router) hrun, Foreground.leftOver,
      QueueEvent.left]
    congr 1
  have hhandled : t.handled.filter storageWrite = (sentStorage events).filter storageWrite ↔
      QueueEvent.Timely storageWrite (storageLog events) := by
    rw [QueueEvent.timely_iff, ← hleft, ← hsent, List.filter_append, List.self_eq_append_right,
      List.filter_eq_nil_iff]
    simp only [Bool.not_eq_true]
  refine ⟨fun h => hhandled.mp h.handled, fun htimely => ⟨hhandled.mpr htimely, ?_⟩⟩
  intro limits folder run hserves record request hlast hok
  apply hserves.recordData _ hok
  have hwrites : (t.handled.filter fun packet => (decodeStorageRequest packet).isSome).filter storageWrite =
      t.handled.filter storageWrite := by
    rw [List.filter_filter]
    apply List.filter_congr
    intro packet _
    cases hdecoded : decodeStorageRequest packet with
    | none => simp [storageWrite, hdecoded]
    | some request => simp
  rw [← lastSave_writes, hwrites, hhandled.mpr htimely, lastSave_writes]
  exact hlast

def storingProgram : ForegroundProgram := { desktop := false, privateStorage := true }

def savedState : Bytes :=
  encodeStorageRequest { command := .write, requestId := 1, record := text "state", maximumSize := 4, data := [7] }

def saveOnExit : List ForegroundEvent :=
  .sendControl (encodeSessionControl {}) :: idleTurn ++
    [.sendControl homePacket, .poll (.returned false false), .control true, .sendStorage savedState,
      .touch ⟨[], 0⟩ true, .storage true, .installer true, .deadline false, .reap, .exit 0]

def unsavedForeground : Foreground :=
  { Foreground.start (.new 1 960 266) with
    point := .done, polled := { control := true }, ready := true, requested := true, action := .home
    storage := [savedState], child := some 0 }

lemma saveOnExit_run :
    (foregroundProcess storingProgram).run (.start (.new 1 960 266)) saveOnExit =
      some unsavedForeground := by
  decide +kernel

theorem late_write_lost :
    ∃ (program : ForegroundProgram) (router : TouchRouter) (events : List ForegroundEvent)
      (t : Foreground) (packet : Bytes),
      program.privateStorage = true ∧ .stop ∉ events ∧
        (foregroundProcess program).run (.start router) events = some t ∧ t.point = .done ∧
        t.child = some 0 ∧ packet ∈ sentStorage events ∧ storageWrite packet = true ∧
        packet ∉ t.handled := by
  refine ⟨storingProgram, .new 1 960 266, saveOnExit, unsavedForeground, savedState, rfl, ?_,
    saveOnExit_run, rfl, rfl, ?_, by decide, by simp [unsavedForeground, Foreground.start]⟩
  · simp [saveOnExit, idleTurn]
  · simp [saveOnExit, idleTurn, sentStorage]

def saveThenExit : List ForegroundEvent :=
  .sendControl (encodeSessionControl {}) :: idleTurn ++
    [.sendStorage savedState, .sendControl homePacket, .poll (.returned false false), .control true,
      .touch ⟨[], 0⟩ true, .storage true, .installer true, .deadline false, .reap, .exit 0]

def savedForeground : Foreground :=
  { Foreground.start (.new 1 960 266) with
    point := .done, polled := { control := true, storage := true }, ready := true, requested := true
    action := .home, handled := [savedState], child := some 0 }

lemma saveThenExit_run :
    (foregroundProcess storingProgram).run (.start (.new 1 960 266)) saveThenExit =
      some savedForeground := by
  decide +kernel

theorem saved_before_exit :
    SavesStored savedForeground saveThenExit ∧ ¬ SavesStored unsavedForeground saveOnExit := by
  rw [saves_stored_iff rfl saveThenExit_run, saves_stored_iff rfl saveOnExit_run, QueueEvent.timely_iff,
    QueueEvent.timely_iff]
  decide

end LvglPlatform
