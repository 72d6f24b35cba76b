import LvglPlatform.Foundation.TreeSteps
import LvglPlatform.Storage.StageRelease
import LvglPlatform.Storage.StoreWrite

namespace LvglPlatform

open Foundation

def createFileSteps (euid : ℕ) (file : VerifiedPackageFile) (payload : Bytes) : Steps Node Bool :=
  Node.createFileSteps euid 0o755 0o600 { uid := euid, mode := file.mode } payload (splitPath file.path)

def createPackageCopySteps (euid : ℕ) (bytes : Bytes) (digest : Sha512Digest) : Steps Node Bool := do
  let metadata (content : Bytes) := Node.createFileSteps euid 0o755 0o400 { uid := euid, mode := 0o400 } content
  match ← metadata bytes [packageCopyName] with
  | false => pure false
  | true => metadata digest.toList [packageMarkerName]

def extractFilesSteps (euid : ℕ) (bytes : Bytes) (payloadStart : ℕ) :
    List VerifiedPackageFile → Steps Node (Option StorageResult)
  | [] => pure none
  | file :: files =>
    if file.payloadOffset > bytes.length - payloadStart ∨
        file.size > bytes.length - payloadStart - file.payloadOffset then
      pure (some (stagingResult .invalidArgument "STORAGE_FILE_RANGE_INVALID"))
    else do
      match ← createFileSteps euid file (slice bytes (payloadStart + file.payloadOffset) file.size) with
      | false => pure (some (stagingResult .ioError "STORAGE_FILE_WRITE_FAILED"))
      | true => extractFilesSteps euid bytes payloadStart files

def fillStageSteps (euid : ℕ) (bytes : Bytes) (verification : PackageVerification) (digest : Sha512Digest) :
    Steps Node (Option StorageResult) := do
  match ← extractFilesSteps euid bytes verification.payloadStart verification.manifest.files with
  | some failed => pure (some failed)
  | none => do
    match ← createPackageCopySteps euid bytes digest with
    | false => pure (some (stagingResult .ioError "STORAGE_METADATA_WRITE_FAILED"))
    | true => pure none

def commitReleaseSteps (context : StagingContext) (releasePath : Bytes) (bytes : Bytes)
    (verification : PackageVerification) (digest : Sha512Digest) : Steps Node StorageResult := do
  let release := decimal verification.manifest.releaseCounter.toNat
  let releases ← Steps.current
  match releases.openDirectory release with
  | .directory existing =>
    if releasePackageMatches context.euid existing bytes digest then
      pure { stagingResult .alreadyPresent "STORAGE_RELEASE_ALREADY_PRESENT" with releasePath }
    else pure (stagingResult .releaseCollision "STORAGE_RELEASE_COLLISION")
  | .refused => pure (stagingResult .pathRejected "STORAGE_RELEASE_PATH_REJECTED")
  | .missing =>
    match context.random with
    | none => pure (stagingResult .randomUnavailable "STORAGE_RANDOM_UNAVAILABLE")
    | some random =>
      let name := stageName verification.manifest.releaseCounter random
      match releases.child name with
      | some _ => pure (stagingResult .ioError "STORAGE_STAGE_CREATE_FAILED")
      | none => do
        Steps.step fun releases => releases.put name (emptyStage context.euid)
        match ← Steps.zoom (fun _ => emptyStage context.euid) (fun stage releases => releases.put name stage)
          (fillStageSteps context.euid bytes verification digest) with
        | some failed => pure failed
        | none => do
          Steps.step fun releases => releases.rename name release
          pure { stagingResult .committed "STORAGE_RELEASE_COMMITTED" with releasePath }

def stageVerifiedReleaseSteps (context : StagingContext) (storeRoot bytes : Bytes)
    (verification : PackageVerification) (digest : Sha512Digest) : Steps (Option Node) StorageResult :=
  if storeRoot = [] ∨ bytes = [] ∨ !safeComponent verification.manifest.appId ∨
      verification.manifest.releaseCounter = 0 then
    pure (stagingResult .invalidArgument "STORAGE_ARGUMENT_INVALID")
  else if !verification.ok || verification.development || !verification.signatureVerified then
    pure (stagingResult .packageNotAuthenticated "STORAGE_PACKAGE_NOT_AUTHENTICATED")
  else if verification.payloadStart > bytes.length then
    pure (stagingResult .invalidArgument "STORAGE_PACKAGE_LAYOUT_INVALID")
  else if storeRoot.head? ≠ some (chr '/') then
    pure (stagingResult .invalidArgument "STORAGE_ROOT_MUST_BE_ABSOLUTE")
  else do
    let root ← Steps.current
    match root with
    | none => pure (stagingResult .rootUntrusted "STORAGE_ROOT_UNTRUSTED")
    | some root =>
      if !root.trusted context.euid then pure (stagingResult .rootUntrusted "STORAGE_ROOT_UNTRUSTED")
      else
        Steps.zoom (fun _ => root) (fun root _ => some root)
          (Node.insideSteps context.euid 0o700 (stagingResult .pathRejected "STORAGE_DIRECTORY_REJECTED")
            (commitReleaseSteps context (releaseText storeRoot verification) bytes verification digest)
            (releasesPath verification.manifest.appId))

def writeSlotSteps (euid : ℕ) (random : Option (ByteArr 16)) (slot bytes : Bytes) : Steps Node SlotWrite :=
  match random with
  | none => pure .randomFailed
  | some random => do
    let application ← Steps.current
    match application.child (temporarySlot slot random) with
    | some _ => pure .ioFailed
    | none => do
      Node.writeSteps (temporarySlot slot random) 0o400 { uid := euid, mode := 0o400 } bytes
      if ((application.child slot).map Node.isDirectory).getD false then pure .ioFailed
      else do
        Steps.step fun application => application.rename (temporarySlot slot random) slot
        pure .written

def writeSlotsSteps (euid : ℕ) (randoms : SlotRandoms) (generation : UInt64) (bytes : Bytes) :
    Steps Node StateStoreResult := do
  let first := if generation % 2 = 0 then slotB else slotA
  let second := if generation % 2 = 0 then slotA else slotB
  match ← writeSlotSteps euid randoms.first first bytes with
  | .randomFailed => pure (storeResult .randomUnavailable "STATE_STORE_RANDOM_UNAVAILABLE")
  | .ioFailed => pure (storeResult .ioError "STATE_STORE_FIRST_SLOT_FAILED")
  | .written => do
    match ← writeSlotSteps euid randoms.second second bytes with
    | .written => pure (storeResult .written "STATE_STORE_WRITTEN")
    | _ => pure (storeResult .writtenDegraded "STATE_STORE_SECOND_SLOT_DEGRADED")

def persistReleaseStateSteps (euid : ℕ) (randoms : SlotRandoms) (state : ApplicationReleaseState)
    (crypto : CryptoProvider) : Steps (Option Node) StateStoreResult :=
  let encoded := encodeReleaseState state crypto
  let untrusted := storeResult .rootUntrusted "STATE_STORE_PATH_UNTRUSTED"
  if !appId state.appId then pure (storeResult .invalidArgument "STATE_STORE_ARGUMENT_INVALID")
  else if !encoded.ok then pure (storeResult .stateInvalid "STATE_STORE_STATE_INVALID")
  else do
    let root ← Steps.current
    match root with
    | none => pure untrusted
    | some root =>
      if !root.trusted euid then pure untrusted
      else
        Steps.zoom (fun _ => root) (fun root _ => some root)
          (Node.insideSteps euid 0o700 untrusted
            (writeSlotsSteps euid randoms state.generation encoded.bytes) [text "apps", state.appId])

/-- What the calls of a persist come to: the random bytes, and how many steps are done when a call of
`open_store` or of one of the two `write_slot` fails, if one does. -/
structure PersistCalls where
  randoms : SlotRandoms
  opening : Option ℕ := none
  first : Option ℕ := none
  second : Option ℕ := none
  parentsSynced : Bool := true

/-- Every failing call makes `write_slot` return at once, also the `fsync` after the renaming. -/
def writeSlotCalls (euid : ℕ) (random : Option (ByteArr 16)) (failing : Option ℕ) (slot bytes : Bytes) :
    Steps Node SlotWrite :=
  if random.isNone then pure .randomFailed
  else (writeSlotSteps euid random slot bytes).failing .ioFailed failing

def writeSlotsCalls (euid : ℕ) (calls : PersistCalls) (generation : UInt64) (bytes : Bytes) :
    Steps Node StateStoreResult := do
  let first := if generation % 2 = 0 then slotB else slotA
  let second := if generation % 2 = 0 then slotA else slotB
  match ← writeSlotCalls euid calls.randoms.first calls.first first bytes with
  | .randomFailed => pure (storeResult .randomUnavailable "STATE_STORE_RANDOM_UNAVAILABLE")
  | .ioFailed => pure (storeResult .ioError "STATE_STORE_FIRST_SLOT_FAILED")
  | .written => do
    let write ← writeSlotCalls euid calls.randoms.second calls.second second bytes
    if !calls.parentsSynced then pure (storeResult .writtenDegraded "STATE_STORE_PARENT_SYNC_DEGRADED")
    else match write with
      | .written => pure (storeResult .written "STATE_STORE_WRITTEN")
      | _ => pure (storeResult .writtenDegraded "STATE_STORE_SECOND_SLOT_DEGRADED")

def persistReleaseStateCalls (euid : ℕ) (calls : PersistCalls) (state : ApplicationReleaseState)
    (crypto : CryptoProvider) : Steps (Option Node) StateStoreResult :=
  let encoded := encodeReleaseState state crypto
  let untrusted := storeResult .rootUntrusted "STATE_STORE_PATH_UNTRUSTED"
  if !appId state.appId then pure (storeResult .invalidArgument "STATE_STORE_ARGUMENT_INVALID")
  else if !encoded.ok then pure (storeResult .stateInvalid "STATE_STORE_STATE_INVALID")
  else do
    let root ← Steps.current
    match root with
    | none => pure untrusted
    | some root =>
      if !root.trusted euid then pure untrusted
      else
        let store (action : Steps Node StateStoreResult) : Steps Node StateStoreResult :=
          Node.insideSteps euid 0o700 untrusted action [text "apps", state.appId]
        Steps.zoom (fun _ => root) (fun root _ => some root) <|
          if calls.opening.isNone then store (writeSlotsCalls euid calls state.generation encoded.bytes)
          else (store (pure untrusted)).failing untrusted calls.opening

section

variable {euid payloadStart : ℕ} {bytes : Bytes} {digest : Sha512Digest} {node : Node}
  {verification : PackageVerification}

lemma run_createFileSteps {file : VerifiedPackageFile} {payload : Bytes} :
    (createFileSteps euid file payload).run node = createFile euid node file payload :=
  Node.run_createFileSteps

lemma run_createPackageCopySteps : (createPackageCopySteps euid bytes digest).run node =
    createPackageCopy euid node bytes digest := by
  rw [createPackageCopySteps, createPackageCopy, Steps.run_bind, Node.run_createFileSteps]
  rcases Node.createFile euid 0o755 (.file { uid := euid, mode := 0o400 } bytes) node [packageCopyName]
    with ⟨release, _ | _⟩
  · rfl
  · exact Node.run_createFileSteps

lemma run_extractFilesSteps {files : List VerifiedPackageFile} :
    (extractFilesSteps euid bytes payloadStart files).run node =
      extractFiles euid bytes payloadStart node files := by
  induction files generalizing node with
  | nil => rfl
  | cons file files ih =>
    rw [extractFilesSteps, extractFiles]
    split
    · rfl
    · rw [Steps.run_bind, run_createFileSteps]
      rcases createFile euid node file (slice bytes (payloadStart + file.payloadOffset) file.size) with ⟨stage, _ | _⟩
      · rfl
      · exact ih

lemma run_fillStageSteps : (fillStageSteps euid bytes verification digest).run node =
    fillStage euid bytes verification digest node := by
  rw [fillStageSteps, fillStage, Steps.run_bind, run_extractFilesSteps]
  rcases extractFiles euid bytes verification.payloadStart node verification.manifest.files with ⟨stage, _ | failed⟩
  · dsimp only
    rw [Steps.run_bind, run_createPackageCopySteps]
    rcases createPackageCopy euid stage bytes digest with ⟨stage, _ | _⟩
    · rfl
    · rfl
  · rfl

variable {context : StagingContext} {releasePath : Bytes}

lemma run_commitReleaseSteps :
    (commitReleaseSteps context releasePath bytes verification digest).run node =
      commitRelease context releasePath bytes verification digest node := by
  rw [commitReleaseSteps, commitRelease, Steps.run_bind, Steps.run_current]
  dsimp only
  cases node.openDirectory (decimal verification.manifest.releaseCounter.toNat) with
  | directory existing =>
    dsimp only
    split <;> rfl
  | refused => rfl
  | missing =>
    cases context.random with
    | none => rfl
    | some random =>
      dsimp only
      cases hc : node.child (stageName verification.manifest.releaseCounter random) with
      | some found => rfl
      | none =>
        dsimp only
        rw [Steps.run_bind, Steps.run_step, Steps.run_bind, Steps.run_zoom, run_fillStageSteps]
        rcases fillStage context.euid bytes verification digest (emptyStage context.euid) with ⟨stage, _ | failed⟩
        · dsimp only
          rw [Steps.run_bind, Steps.run_step, Node.put_put, Node.rename_put hc]
          rfl
        · exact Prod.ext Node.put_put rfl

lemma run_stageVerifiedReleaseSteps {storeRoot : Bytes} {root : Option Node} :
    (stageVerifiedReleaseSteps context storeRoot bytes verification digest).run root =
      stageVerifiedRelease context storeRoot root bytes verification digest := by
  unfold stageVerifiedReleaseSteps stageVerifiedRelease
  split
  · rfl
  split
  · rfl
  split
  · rfl
  split
  · rfl
  rw [Steps.run_bind, Steps.run_current]
  cases root with
  | none => rfl
  | some root =>
    dsimp only
    split
    · rfl
    · rw [Steps.run_zoom, Node.run_insideSteps]
      have hcommit : (commitReleaseSteps context (releaseText storeRoot verification) bytes verification
          digest).run = commitRelease context (releaseText storeRoot verification) bytes verification digest :=
        funext fun _ => run_commitReleaseSteps
      rw [hcommit]

variable {randoms : SlotRandoms} {random : Option (ByteArr 16)} {slot : Bytes} {generation : UInt64}
  {crypto : CryptoProvider} {state : ApplicationReleaseState}

lemma run_writeSlotSteps : (writeSlotSteps euid random slot bytes).run node =
    writeSlot euid random node slot bytes := by
  cases random with
  | none => rfl
  | some random =>
    rw [writeSlotSteps, writeSlot, Steps.run_bind, Steps.run_current]
    dsimp only
    cases hc : node.child (temporarySlot slot random) with
    | some found => rfl
    | none =>
      dsimp only
      rw [Steps.run_bind, Node.run_writeSteps]
      split
      · rfl
      · rw [Steps.run_bind, Steps.run_step, Node.rename_put hc]
        rfl

lemma writeSlotCalls_none : writeSlotCalls euid random none slot bytes = writeSlotSteps euid random slot bytes := by
  cases random with
  | none => rfl
  | some random => rfl

lemma writeSlotsCalls_none :
    writeSlotsCalls euid { randoms } generation bytes = writeSlotsSteps euid randoms generation bytes := by
  simp only [writeSlotsCalls, writeSlotsSteps, writeSlotCalls_none]
  rfl

lemma persistReleaseStateCalls_none : persistReleaseStateCalls euid { randoms } state crypto =
    persistReleaseStateSteps euid randoms state crypto := by
  simp only [persistReleaseStateCalls, persistReleaseStateSteps, writeSlotsCalls_none, Option.isNone_none, if_true]

lemma run_writeSlotsSteps : (writeSlotsSteps euid randoms generation bytes).run node =
    writeSlots euid randoms generation bytes node := by
  rw [writeSlotsSteps, writeSlots, Steps.run_bind, run_writeSlotSteps]
  obtain ⟨application, write⟩ := writeSlot euid randoms.first node (if generation % 2 = 0 then slotB else slotA) bytes
  cases write with
  | randomFailed => rfl
  | ioFailed => rfl
  | written =>
    dsimp only
    rw [Steps.run_bind, run_writeSlotSteps]
    obtain ⟨application, write⟩ :=
      writeSlot euid randoms.second application (if generation % 2 = 0 then slotA else slotB) bytes
    cases write with
    | randomFailed => rfl
    | ioFailed => rfl
    | written => rfl

lemma run_persistReleaseStateSteps {root : Option Node} :
    (persistReleaseStateSteps euid randoms state crypto).run root =
      persistReleaseStateTo euid randoms root state crypto := by
  unfold persistReleaseStateSteps persistReleaseStateTo
  dsimp only
  split
  · rfl
  split
  · rfl
  rw [Steps.run_bind, Steps.run_current]
  cases root with
  | none => rfl
  | some root =>
    dsimp only
    split
    · rfl
    · rw [Steps.run_zoom, Node.run_insideSteps]
      have hwrite : (writeSlotsSteps euid randoms state.generation (encodeReleaseState state crypto).bytes).run =
          writeSlots euid randoms state.generation (encodeReleaseState state crypto).bytes :=
        funext fun _ => run_writeSlotsSteps
      rw [hwrite]

end

end LvglPlatform
