import LvglPlatform.Foundation.DoubleSlot
import LvglPlatform.Storage.ReleaseCodec
import LvglPlatform.Storage.ReleaseHistory

/-! The two slots of the policy store: selecting, loading and persisting release states. -/

namespace LvglPlatform

open Foundation

structure SelectedReleaseState extends DecodedReleaseState where
  slot : ℕ := 0
  redundancyDegraded : Bool := false
  deriving DecidableEq

def selectReleaseState (slotA slotB : Bytes) (crypto : CryptoProvider) : SelectedReleaseState :=
  let a := decodeReleaseState slotA crypto
  let b := decodeReleaseState slotB crypto
  if !a.ok && !b.ok then
    { status := .noValidSlot, detail := text "STATE_NO_VALID_SLOT", redundancyDegraded := true }
  else if a.ok && b.ok && a.state.generation = b.state.generation && slotA ≠ slotB then
    { status := .splitBrain, detail := text "STATE_SPLIT_BRAIN" }
  else if a.ok && (!b.ok || a.state.generation ≥ b.state.generation) then
    { a with slot := 1, redundancyDegraded := !b.ok }
  else { b with slot := 2, redundancyDegraded := !a.ok }

inductive StateStoreStatus
  | written
  | writtenDegraded
  | loaded
  | loadedDegraded
  | notFound
  | uninitialized
  | invalidArgument
  | rootUntrusted
  | pathRejected
  | stateInvalid
  | ioError
  | randomUnavailable
  | unsupportedPlatform
  deriving DecidableEq, Repr

structure StateStoreResult where
  status : StateStoreStatus := .invalidArgument
  detail : Bytes := []
  selected : SelectedReleaseState := {}
  deriving DecidableEq

def StateStoreResult.ok (result : StateStoreResult) : Bool :=
  result.status = .written || result.status = .writtenDegraded ||
    result.status = .loaded || result.status = .loadedDegraded

inductive SlotRead
  | read
  | missing
  | invalid
  deriving DecidableEq, Repr

structure SlotContents where
  status : SlotRead := .invalid
  bytes : Bytes := []
  deriving DecidableEq

/-- A slot file that is a regular read-only file of its owner, or no file at all. -/
def slotContents : Option Bytes → SlotContents
  | none => { status := .missing }
  | some bytes =>
    if bytes.length = 0 ∨ bytes.length > 512 then { status := .invalid }
    else { status := .read, bytes }

/-- `load_release_state` once the directories of the application are open. -/
def loadSlots (slotA slotB : SlotContents) (appId : Bytes) (crypto : CryptoProvider) :
    StateStoreResult :=
  if slotA.status = .missing ∧ slotB.status = .missing then
    { status := .uninitialized, detail := text "STATE_STORE_UNINITIALIZED" }
  else
    let selected := selectReleaseState slotA.bytes slotB.bytes crypto
    if !selected.ok || selected.state.appId ≠ appId then
      { status := .stateInvalid, detail := text "STATE_STORE_INVALID", selected }
    else if selected.redundancyDegraded then
      { status := .loadedDegraded, detail := text "STATE_STORE_LOADED_DEGRADED", selected }
    else { status := .loaded, detail := text "STATE_STORE_LOADED", selected }

abbrev PolicySlots := Slots Bytes

def loadReleaseState (slots : PolicySlots) (appId : Bytes) (crypto : CryptoProvider) :
    StateStoreResult :=
  loadSlots (slotContents slots.a) (slotContents slots.b) appId crypto

/-- A persist of `state` that stops after `replacements` of its two slot replacements. -/
structure Persist where
  state : ApplicationReleaseState
  replacements : ℕ
  deriving DecidableEq

def persistReleaseState (slots : PolicySlots) (persist : Persist) (crypto : CryptoProvider) :
    PolicySlots :=
  let encoded := encodeReleaseState persist.state crypto
  if !appId persist.state.appId || !encoded.ok then slots
  else slots.write persist.state.generation.toNat encoded.bytes persist.replacements

/-- A caller persists what it loaded, or a valid successor of it. -/
structure Admissible (slots : PolicySlots) (application : Bytes) (crypto : CryptoProvider)
    (persist : Persist) : Prop where
  replacements : persist.replacements ≤ 2
  appId : persist.state.appId = application
  valid : validState persist.state = true
  succeeds :
    if (loadReleaseState slots application crypto).ok then
      persist.state = (loadReleaseState slots application crypto).selected.state ∨
        persist.state.generation =
          (loadReleaseState slots application crypto).selected.state.generation + 1
    else persist.state.generation = 1

/-- The slots a run of persists leaves, with the state of the last slot replacement. -/
inductive PolicyRun (appId : Bytes) (crypto : CryptoProvider) :
    List Persist → PolicySlots → Option ApplicationReleaseState → Prop
  | empty : PolicyRun appId crypto [] Slots.empty none
  | persist {persists : List Persist} {slots : PolicySlots} {last : Option ApplicationReleaseState}
      (next : Persist) : PolicyRun appId crypto persists slots last →
      Admissible slots appId crypto next →
      PolicyRun appId crypto (persists ++ [next]) (persistReleaseState slots next crypto)
        (if next.replacements = 0 then last else some next.state)

def stateBytes (crypto : CryptoProvider) (state : ApplicationReleaseState) : Bytes :=
  (encodeReleaseState state crypto).bytes

def stateGeneration (state : ApplicationReleaseState) : ℕ := state.generation.toNat

/-- The states an application may have in its slots. -/
structure Storable (appId : Bytes) (crypto : CryptoProvider) (state : ApplicationReleaseState) :
    Prop where
  wellformed : Wellformed state
  encodes : (encodeReleaseState state crypto).ok = true
  appId : state.appId = appId

section

variable {application : Bytes} {crypto : CryptoProvider}

lemma Storable.decode {state : ApplicationReleaseState} (h : Storable application crypto state) :
    decodeReleaseState (stateBytes crypto state) crypto =
      { status := .valid, detail := text "STATE_DECODED", state } := decode_encode h.encodes

lemma Storable.contents {state : ApplicationReleaseState} (h : Storable application crypto state) :
    slotContents (some (stateBytes crypto state)) =
      { status := .read, bytes := stateBytes crypto state } := by
  obtain ⟨hwell, checksum, -, heq⟩ := encode_cases h.encodes
  obtain ⟨hmin, hmax, -⟩ := releaseSize_bounds hwell
  have hlen : (stateBytes crypto state).length = releaseSize state := by
    rw [stateBytes, heq, record_length]
  rw [slotContents, if_neg (by omega)]

@[simp] lemma slotContents_none : slotContents none = { status := .missing } := rfl

lemma decode_empty (crypto : CryptoProvider) :
    decodeReleaseState [] crypto =
      { status := .invalidLayout, detail := text "STATE_LAYOUT_INVALID" } := by
  simp [decodeReleaseState]

lemma loadSlots_selected {slotA slotB : SlotContents} {selected : SelectedReleaseState}
    (hread : ¬ (slotA.status = .missing ∧ slotB.status = .missing))
    (h : selectReleaseState slotA.bytes slotB.bytes crypto = selected) (hok : selected.ok = true)
    (happ : selected.state.appId = application) :
    ∃ detail, loadSlots slotA slotB application crypto =
      { status := if selected.redundancyDegraded then .loadedDegraded else .loaded
        detail, selected } := by
  rw [loadSlots, if_neg hread]
  simp only [h, hok, happ, Bool.not_true, ne_eq, not_true_eq_false, decide_false, Bool.or_self,
    Bool.false_eq_true, if_false]
  cases selected.redundancyDegraded with
  | true => exact ⟨_, rfl⟩
  | false => exact ⟨_, rfl⟩

def selectedState (state : ApplicationReleaseState) (slot : ℕ) (degraded : Bool) :
    SelectedReleaseState :=
  { status := .valid, detail := text "STATE_DECODED", state, slot, redundancyDegraded := degraded }

lemma select_first {x : ApplicationReleaseState} (hx : Storable application crypto x) :
    selectReleaseState (stateBytes crypto x) [] crypto = selectedState x 1 true := by
  simp [selectReleaseState, hx.decode, decode_empty, DecodedReleaseState.ok, selectedState]

lemma select_second {y : ApplicationReleaseState} (hy : Storable application crypto y) :
    selectReleaseState [] (stateBytes crypto y) crypto = selectedState y 2 true := by
  simp [selectReleaseState, hy.decode, decode_empty, DecodedReleaseState.ok, selectedState]

lemma select_both {x y : ApplicationReleaseState} (hx : Storable application crypto x)
    (hy : Storable application crypto y) (h : ¬ (stateGeneration x = stateGeneration y ∧ x ≠ y)) :
    selectReleaseState (stateBytes crypto x) (stateBytes crypto y) crypto =
      if stateGeneration y ≤ stateGeneration x then selectedState x 1 false
      else selectedState y 2 false := by
  have hsplit : ¬ (x.generation = y.generation ∧ stateBytes crypto x ≠ stateBytes crypto y) := by
    rintro ⟨hg, hb⟩
    exact h ⟨congrArg UInt64.toNat hg, fun he => hb (he ▸ rfl)⟩
  have hle : stateGeneration y ≤ stateGeneration x ↔ y.generation ≤ x.generation :=
    UInt64.le_iff_toNat_le.symm
  rw [selectReleaseState, hx.decode, hy.decode, if_neg (by simp [DecodedReleaseState.ok]),
    if_neg (by simpa [DecodedReleaseState.ok] using hsplit)]
  by_cases hxy : y.generation ≤ x.generation
  · rw [if_pos (by simp [DecodedReleaseState.ok, hxy]), if_pos (hle.mpr hxy)]
    rfl
  · rw [if_neg (by simp [DecodedReleaseState.ok]; grind), if_neg (fun h => hxy (hle.mp h))]
    rfl

lemma load_encoded {slots : Slots ApplicationReleaseState}
    (hs : slots.All (Storable application crypto)) {state : ApplicationReleaseState}
    {degraded : Bool} (h : slots.newest stateGeneration = some (state, degraded)) :
    ∃ slot detail, loadReleaseState (slots.map (stateBytes crypto)) application crypto =
      { status := if degraded then .loadedDegraded else .loaded
        detail
        selected := selectedState state slot degraded } := by
  obtain ⟨a, b⟩ := slots
  have hok : ∀ s k d, (selectedState s k d).ok = true := fun _ _ _ => rfl
  cases a with
  | none =>
    cases b with
    | none => simp [Slots.newest] at h
    | some y =>
      have hy := hs .b y rfl
      simp only [Slots.newest, Option.some.injEq, Prod.mk.injEq] at h
      obtain ⟨rfl, rfl⟩ := h
      have hread := hy.contents
      exact ⟨2, loadSlots_selected (by simp [Slots.map, hread])
        (by simpa [Slots.map, hread] using select_second hy) (hok _ _ _) hy.appId⟩
  | some x =>
    have hx := hs .a x rfl
    have hreadA := hx.contents
    cases b with
    | none =>
      simp only [Slots.newest, Option.some.injEq, Prod.mk.injEq] at h
      obtain ⟨rfl, rfl⟩ := h
      exact ⟨1, loadSlots_selected (by simp [Slots.map, hreadA])
        (by simpa [Slots.map, hreadA] using select_first hx) (hok _ _ _) hx.appId⟩
    | some y =>
      have hy := hs .b y rfl
      have hreadB := hy.contents
      simp only [Slots.newest] at h
      split at h
      · simp at h
      rename_i hsplit
      have hselect := select_both hx hy hsplit
      split at h <;> rename_i hle
      · simp only [Option.some.injEq, Prod.mk.injEq] at h
        obtain ⟨rfl, rfl⟩ := h
        rw [if_pos hle] at hselect
        exact ⟨1, loadSlots_selected (by simp [Slots.map, hreadA])
          (by simpa [Slots.map, hreadA, hreadB] using hselect) (hok _ _ _) hx.appId⟩
      · simp only [Option.some.injEq, Prod.mk.injEq] at h
        obtain ⟨rfl, rfl⟩ := h
        rw [if_neg hle] at hselect
        exact ⟨2, loadSlots_selected (by simp [Slots.map, hreadA])
          (by simpa [Slots.map, hreadA, hreadB] using hselect) (hok _ _ _) hy.appId⟩

/-- The slots of a run hold encoded states, with the last replacement as the newest of them. -/
def Represents (application : Bytes) (crypto : CryptoProvider) (slots : PolicySlots)
    (last : Option ApplicationReleaseState) : Prop :=
  match last with
  | none => slots = Slots.empty
  | some state => ∃ states : Slots ApplicationReleaseState,
      slots = states.map (stateBytes crypto) ∧ states.All (Storable application crypto) ∧
        Slots.Holds stateGeneration states state

lemma Represents.load {slots : PolicySlots} {state : ApplicationReleaseState}
    (h : Represents application crypto slots (some state)) :
    ∃ slot detail degraded, loadReleaseState slots application crypto =
      { status := if degraded then .loadedDegraded else .loaded
        detail
        selected := selectedState state slot degraded } := by
  obtain ⟨states, rfl, hall, hholds⟩ := h
  obtain ⟨degraded, hnewest⟩ := hholds.newest
  obtain ⟨slot, detail, hload⟩ := load_encoded hall hnewest
  exact ⟨slot, detail, degraded, hload⟩

lemma Represents.status {slots : PolicySlots} {state : ApplicationReleaseState}
    (h : Represents application crypto slots (some state)) :
    ((loadReleaseState slots application crypto).status = .loaded ∨
      (loadReleaseState slots application crypto).status = .loadedDegraded) ∧
      (loadReleaseState slots application crypto).selected.state = state := by
  obtain ⟨slot, detail, degraded, hload⟩ := h.load
  rw [hload]
  cases degraded with
  | true => exact ⟨Or.inr rfl, rfl⟩
  | false => exact ⟨Or.inl rfl, rfl⟩

lemma StateStoreResult.ok_of_loaded {result : StateStoreResult}
    (h : result.status = .loaded ∨ result.status = .loadedDegraded) : result.ok = true := by
  rcases h with h | h
  · simp [StateStoreResult.ok, h]
  · simp [StateStoreResult.ok, h]

lemma Represents.continues {slots : PolicySlots} {last : Option ApplicationReleaseState}
    (h : Represents application crypto slots last) {persist : Persist}
    (hp : Admissible slots application crypto persist) :
    ∀ state, last = some state → persist.state = state ∨
      stateGeneration persist.state = stateGeneration state + 1 := by
  rintro state rfl
  obtain ⟨hstatus, hstate⟩ := h.status
  have hsucceeds := hp.succeeds
  rw [if_pos (StateStoreResult.ok_of_loaded hstatus), hstate] at hsucceeds
  rcases hsucceeds with heq | hnext
  · exact Or.inl heq
  · right
    have hwell := (validState_iff _).mp hp.valid
    rw [stateGeneration, stateGeneration, hnext, generation_succ (hnext ▸ hwell.generation)]

lemma persist_writes {slots : PolicySlots} {persist : Persist}
    (h : Storable application crypto persist.state) :
    persistReleaseState slots persist crypto =
      slots.write (stateGeneration persist.state) (stateBytes crypto persist.state)
        persist.replacements := by
  rw [persistReleaseState, if_neg]
  · rfl
  · simp [h.wellformed.appId, h.encodes]

lemma Represents.persist {slots : PolicySlots} {last : Option ApplicationReleaseState}
    (h : Represents application crypto slots last) {persist : Persist}
    (hp : Admissible slots application crypto persist)
    (hs : Storable application crypto persist.state) :
    Represents application crypto (persistReleaseState slots persist crypto)
      (if persist.replacements = 0 then last else some persist.state) := by
  have hcontinues := h.continues hp
  rw [persist_writes hs]
  cases hk : persist.replacements with
  | zero => exact h
  | succ k =>
    rw [if_neg (Nat.succ_ne_zero k)]
    cases last with
    | none =>
      obtain rfl : slots = Slots.empty := h
      refine ⟨Slots.empty.write (stateGeneration persist.state) persist.state (k + 1), ?_, ?_, .first _ k⟩
      · rw [Slots.map_write]
        rfl
      · refine Slots.All.write ?_ hs _ _
        rintro (_ | _) u hu <;> cases hu
    | some state =>
      obtain ⟨states, rfl, hall, hholds⟩ := h
      exact ⟨states.write (stateGeneration persist.state) persist.state (k + 1),
        (Slots.map_write _ _ _ _ _).symm, hall.write hs _ _, hholds.write (hcontinues state rfl) k⟩

end

lemma storable_of_admissible {application : Bytes} {crypto : CryptoProvider}
    (hcrypto : ∀ bytes, (crypto.sha256 bytes).isSome) {slots : PolicySlots} {persist : Persist}
    (h : Admissible slots application crypto persist) :
    Storable application crypto persist.state := by
  have hwell := (validState_iff _).mp h.valid
  obtain ⟨checksum, hsum⟩ := Option.isSome_iff_exists.mp (hcrypto (releaseFields persist.state).flatten)
  refine ⟨hwell, ?_, h.appId⟩
  rw [encode_ok hwell hsum]
  rfl

lemma PolicyRun.represents {application : Bytes} {crypto : CryptoProvider}
    (hcrypto : ∀ bytes, (crypto.sha256 bytes).isSome) {persists : List Persist} {slots : PolicySlots}
    {last : Option ApplicationReleaseState} (h : PolicyRun application crypto persists slots last) :
    Represents application crypto slots last := by
  induction h with
  | empty => rfl
  | persist next _ hnext ih => exact ih.persist hnext (storable_of_admissible hcrypto hnext)

theorem policy_store_returns_last_replacement (application : Bytes) (crypto : CryptoProvider)
    (hcrypto : ∀ bytes, (crypto.sha256 bytes).isSome) (persists : List Persist)
    (slots : PolicySlots) (last : ApplicationReleaseState)
    (h : PolicyRun application crypto persists slots (some last)) :
    ((loadReleaseState slots application crypto).status = .loaded ∨
      (loadReleaseState slots application crypto).status = .loadedDegraded) ∧
    (loadReleaseState slots application crypto).selected.state = last ∧
    ∀ next, Admissible slots application crypto next →
      (loadReleaseState (persistReleaseState slots next crypto) application crypto).ok = true ∧
      (loadReleaseState slots application crypto).selected.state.generation ≤
        (loadReleaseState (persistReleaseState slots next crypto)
          application crypto).selected.state.generation := by
  have hrep := h.represents hcrypto
  obtain ⟨hstatus, hstate⟩ := hrep.status
  refine ⟨hstatus, hstate, ?_⟩
  intro next hnext
  have hafter := hrep.persist hnext (storable_of_admissible hcrypto hnext)
  cases hk : next.replacements with
  | zero =>
    rw [if_pos hk] at hafter
    obtain ⟨hstatus', hstate'⟩ := hafter.status
    exact ⟨StateStoreResult.ok_of_loaded hstatus', by rw [hstate, hstate']; exact UInt64.le_refl _⟩
  | succ k =>
    rw [if_neg (by omega)] at hafter
    obtain ⟨hstatus', hstate'⟩ := hafter.status
    refine ⟨StateStoreResult.ok_of_loaded hstatus', ?_⟩
    rw [hstate, hstate', UInt64.le_iff_toNat_le]
    rcases hrep.continues hnext last rfl with heq | hsucc
    · rw [heq]
    · simp only [stateGeneration] at hsucc
      omega

def sampleFirst : ApplicationReleaseState where
  appId := text "org.pen.demo"
  signingKeyId := text "00112233445566778899aabbccddeeff"
  generation := 1
  currentRelease := 1
  highRelease := 1
  highSecurityEpoch := 1
  currentDigest := sampleDigest 1
  highDigest := sampleDigest 1

def sampleStoreCrypto : CryptoProvider where
  sha256 bytes := some <|
    if bytes = (releaseFields sampleFirst).flatten then
      bigEndian 32 0xf405c722c6ce96ed577cf91605166c952180e23054c6e5dd15ec36a794ae4f1d
    else if bytes = (releaseFields sampleUpdated).flatten then
      bigEndian 32 0x099d09415af007878729ac86df22d74189ecc0d31d77c1ad846d771274bb4fa6
    else zeroes 32
  sha512 _ := none
  verifyEd25519 _ _ _ := false

def samplePersists : List Persist := [⟨sampleFirst, 1⟩, ⟨sampleUpdated, 1⟩]

def sampleSlots : PolicySlots :=
  samplePersists.foldl (fun slots persist => persistReleaseState slots persist sampleStoreCrypto)
    Slots.empty

lemma samplePersists_run :
    PolicyRun (text "org.pen.demo") sampleStoreCrypto samplePersists sampleSlots
      (some sampleUpdated) :=
  .persist ⟨sampleUpdated, 1⟩
    (.persist ⟨sampleFirst, 1⟩ .empty
      ⟨by decide, by decide, by decide, by decide⟩)
    ⟨by decide, by decide, by decide +kernel, by decide +kernel⟩

theorem second_state_loaded_after_interrupted_persist :
    ((loadReleaseState sampleSlots (text "org.pen.demo") sampleStoreCrypto).status = .loaded ∨
      (loadReleaseState sampleSlots (text "org.pen.demo") sampleStoreCrypto).status =
        .loadedDegraded) ∧
    (loadReleaseState sampleSlots (text "org.pen.demo") sampleStoreCrypto).selected.state =
      sampleUpdated :=
  have h := policy_store_returns_last_replacement (text "org.pen.demo") sampleStoreCrypto
    (fun _ => rfl) samplePersists sampleSlots sampleUpdated samplePersists_run
  ⟨h.1, h.2.1⟩

end LvglPlatform
