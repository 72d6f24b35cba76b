import LvglPlatform.Foundation.ReplyQueue
import LvglPlatform.Ipc.InstallerProtocol
import LvglPlatform.Ipc.StorageProtocol

namespace LvglPlatform

open Foundation

inductive StorageCall
  | read (record : Bytes) (maximumSize : ℕ)
  | writeAtomic (record data : Bytes) (maximumSize : ℕ)

/-- A request whose packet can be sent; no request has the identifier zero. -/
def storageRequest (request : StorageRequest) : Option StorageRequest :=
  if request.requestId = 0 ∨ encodeStorageRequest request = [] then none else some request

/-- The next identifier, and what a call sends. -/
def AppStorage.prepare (nextRequestId : UInt64) : StorageCall → UInt64 × Option StorageRequest
  | .read record maximumSize =>
    if maximumSize = 0 ∨ maximumSize > maximumStorageRecordSize ∨ !validStorageRecordName record then
      (nextRequestId, none)
    else (nextRequestId + 1, storageRequest {
      command := .read
      requestId := nextRequestId
      record
      maximumSize := UInt32.ofNat maximumSize })
  | .writeAtomic record data maximumSize =>
    if data = [] ∨ data.length > maximumSize ∨ maximumSize > maximumStorageRecordSize ∨
        !validStorageRecordName record then (nextRequestId, none)
    else (nextRequestId + 1, storageRequest {
      command := .write
      requestId := nextRequestId
      record
      maximumSize := UInt32.ofNat maximumSize
      data })

/-- The answer of the storage broker to a packet, by what the record store has said. -/
def storageReply (request : StorageRequest) (content : StorageProtocolStatus × Bytes) : Option Bytes :=
  match decodeStorageRequest (encodeStorageRequest request) with
  | none => none
  | some received =>
    let encoded := encodeStorageResponse {
      command := received.command
      status := content.1
      requestId := received.requestId
      data := content.2 }
    if encoded = [] then none else some encoded

/-- What `exchange` accepts as the response to a request. -/
def storageAccept (request : StorageRequest) (packet : Bytes) : Option StorageResponse :=
  match decodeStorageResponse packet with
  | none => none
  | some response =>
    if response.requestId = request.requestId ∧ response.command = request.command then some response
    else none

/-- What `read` and `write_atomic` make of the response; a successful write returns no data. -/
def storageResult (request : StorageRequest) (response : StorageResponse) : Option Bytes :=
  match request.command with
  | .read =>
    if response.status ≠ .ok ∨ response.data = [] ∨
        response.data.length > request.maximumSize.toNat then none
    else some response.data
  | .write => if response.status = .ok ∧ response.data = [] then some [] else none

lemma storageAccept_reply {request : StorageRequest} {content : StorageProtocolStatus × Bytes}
    {packet : Bytes} (h : storageReply request content = some packet) :
    (storageAccept request packet).isSome := by
  rw [storageReply] at h
  split at h
  · cases h
  rename_i received hreceived
  have hrequest : encodeStorageRequest request ≠ [] := by
    intro hempty
    rw [hempty] at hreceived
    cases hreceived
  rw [decodeStorageRequest_encode hrequest] at hreceived
  obtain rfl := Option.some.inj hreceived
  dsimp only at h
  split at h
  · cases h
  rename_i hencoded
  obtain rfl := Option.some.inj h
  simp [storageAccept, decodeStorageResponse_encode hencoded]

structure InstallerCall where
  command : InstallerCommand
  index : UInt32 := 0
  token : Bytes := []

def InstallerClient.prepare (nextRequestId : UInt64) (call : InstallerCall) :
    UInt64 × Option InstallerRequest :=
  if nextRequestId = UInt64.ofNat (2 ^ 64 - 1) then (nextRequestId, none)
  else (nextRequestId + 1, some {
    command := call.command
    requestId := nextRequestId
    index := call.index
    token := call.token })

def installerReply (request : InstallerRequest) (content : InstallerResponse) : Option Bytes :=
  match decodeInstallerRequest (encodeInstallerRequest request) with
  | none => none
  | some received =>
    let encoded := encodeInstallerResponse
      { content with command := received.command, requestId := received.requestId }
    if encoded.head? = some 0 then none else some encoded

def installerAccept (request : InstallerRequest) (packet : Bytes) : Option InstallerResponse :=
  match decodeInstallerResponse packet with
  | none => none
  | some response =>
    if response.command = request.command ∧ response.requestId = request.requestId then some response
    else none

lemma installerAccept_reply {request : InstallerRequest} {content : InstallerResponse} {packet : Bytes}
    (h : installerReply request content = some packet) : (installerAccept request packet).isSome := by
  rw [installerReply] at h
  split at h
  · cases h
  rename_i received hreceived
  obtain rfl := decodeInstallerRequest_encoded hreceived
  dsimp only at h
  split at h
  · cases h
  rename_i hhead
  obtain rfl := Option.some.inj h
  rw [encodeInstallerResponse_head, Bool.not_eq_false] at hhead
  simp [installerAccept, decodeInstallerResponse_encode hhead, InstallerResponse.arrived]

def storageProtocol : Protocol UInt64 StorageCall StorageRequest (StorageProtocolStatus × Bytes) Bytes
    StorageResponse where
  prepare := AppStorage.prepare
  reply := storageReply
  accept := storageAccept
  accept_reply := storageAccept_reply

def installerProtocol : Protocol UInt64 InstallerCall InstallerRequest InstallerResponse Bytes
    InstallerResponse where
  prepare := InstallerClient.prepare
  reply := installerReply
  accept := installerAccept
  accept_reply := installerAccept_reply

def storageReturned (s : Channel UInt64 StorageRequest Bytes) (outcome : CallOutcome) : Option Bytes :=
  (s.sent[outcome.call]?).bind fun request =>
    (storageProtocol.returned s outcome).bind (storageResult request)

def storageOwed (s : Channel UInt64 StorageRequest Bytes) (outcome : CallOutcome) : Option Bytes :=
  (s.sent[outcome.call]?).bind fun request =>
    (storageProtocol.owed s outcome).bind (storageResult request)

/-- When the broker has answered every request, every call that takes a reply returns what its own
reply says exactly when no call takes a reply while an earlier one has not taken its own. -/
theorem broker_calls_faithful_iff_settled
    (events : List (ChannelEvent StorageCall (StorageProtocolStatus × Bytes)))
    (t : Channel UInt64 StorageRequest Bytes)
    (installerEvents : List (ChannelEvent InstallerCall InstallerResponse))
    (u : Channel UInt64 InstallerRequest Bytes) :
    (storageProtocol.process.run { counter := 1 } events = some t →
      t.replies.length = t.sent.length →
        ((∀ outcome ∈ t.log, storageProtocol.Faithful t outcome) ↔
          storageProtocol.process.Along Protocol.Settled { counter := 1 } events) ∧
        (storageProtocol.process.Along Protocol.Settled { counter := 1 } events →
          ∀ outcome ∈ t.log, outcome.reply.isSome → storageReturned t outcome = storageOwed t outcome)) ∧
    (installerProtocol.process.run { counter := 1 } installerEvents = some u →
      u.replies.length = u.sent.length →
        ((∀ outcome ∈ u.log, installerProtocol.Faithful u outcome) ↔
          installerProtocol.process.Along Protocol.Settled { counter := 1 } installerEvents)) := by
  refine ⟨fun hrun hanswered => ?_, fun hrun hanswered => ?_⟩
  · have hiff := Protocol.faithful_iff_settled hrun hanswered
    refine ⟨hiff, fun hsettled outcome hmem htook => ?_⟩
    rw [storageReturned, storageOwed, (hiff.mpr hsettled outcome hmem).own htook]
  · exact Protocol.faithful_iff_settled hrun hanswered

def stateRead : StorageCall := .read (text "state") 4

/-- The reply to the first read comes after its receive has timed out; the second is answered at
once. -/
def lateReply : List (ChannelEvent StorageCall (StorageProtocolStatus × Bytes)) :=
  [.call stateRead true, .giveUp, .answer (.ok, [1]), .call stateRead true, .answer (.ok, [2]), .receive]

def lateReplyChannel : Channel UInt64 StorageRequest Bytes where
  counter := 3
  sent := [1, 2].map fun requestId => { requestId, record := text "state", maximumSize := 4 }
  replies := [(1, [1]), (2, [2])].map fun answer =>
    encodeStorageResponse { status := .ok, requestId := answer.1, data := answer.2 }
  received := 1
  log := [⟨0, none⟩, ⟨1, some 0⟩]

lemma lateReply_run :
    storageProtocol.process.run { counter := 1 } lateReply = some lateReplyChannel := by
  decide

theorem late_reply_fails_next_read :
    ∃ (events : List (ChannelEvent StorageCall (StorageProtocolStatus × Bytes)))
      (t : Channel UInt64 StorageRequest Bytes) (outcome : CallOutcome),
      storageProtocol.process.run { counter := 1 } events = some t ∧
        t.replies.length = t.sent.length ∧ outcome ∈ t.log ∧ outcome.reply.isSome ∧
        storageReturned t outcome = none ∧ storageOwed t outcome = some [2] :=
  ⟨lateReply, lateReplyChannel, ⟨1, some 0⟩, lateReply_run, by decide, by decide, rfl,
    by decide, by decide⟩

def promptReplies : List (ChannelEvent StorageCall (StorageProtocolStatus × Bytes)) :=
  [.call stateRead true, .answer (.ok, [1]), .receive, .call stateRead true, .answer (.ok, [2]), .receive]

def promptChannel : Channel UInt64 StorageRequest Bytes :=
  { lateReplyChannel with received := 2, log := [⟨0, some 0⟩, ⟨1, some 1⟩] }

lemma promptReplies_run :
    storageProtocol.process.run { counter := 1 } promptReplies = some promptChannel := by
  decide

def settles (s : Channel UInt64 StorageRequest Bytes)
    (e : ChannelEvent StorageCall (StorageProtocolStatus × Bytes)) : Bool :=
  match e with
  | .receive => s.received + 1 = s.sent.length
  | _ => true

lemma settled_of_settles (s : Channel UInt64 StorageRequest Bytes)
    (e : ChannelEvent StorageCall (StorageProtocolStatus × Bytes)) (h : settles s e = true) :
    Protocol.Settled s e := by
  rintro rfl
  exact of_decide_eq_true h

theorem prompt_replies_returned :
    (∀ outcome ∈ promptChannel.log, storageProtocol.Faithful promptChannel outcome) ∧
      storageReturned promptChannel ⟨1, some 1⟩ = some [2] := by
  have hfaithful := (broker_calls_faithful_iff_settled promptReplies promptChannel [] { counter := 1 }).1
    promptReplies_run (by decide)
  have hsettled : storageProtocol.process.Along Protocol.Settled { counter := 1 } promptReplies :=
    Process.along_of_all settled_of_settles (by decide)
  refine ⟨hfaithful.1.mpr hsettled, ?_⟩
  rw [hfaithful.2 hsettled ⟨1, some 1⟩ (by decide) rfl]
  decide

end LvglPlatform
