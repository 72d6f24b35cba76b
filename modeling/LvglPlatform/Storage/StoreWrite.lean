import LvglPlatform.Foundation.FileCreation
import LvglPlatform.Storage.StoreDirectory

namespace LvglPlatform

open Foundation

inductive SlotWrite
  | written
  | randomFailed
  | ioFailed
  deriving DecidableEq, Repr

def temporarySlot (slot : Bytes) (random : ByteArr 16) : Bytes :=
  text "." ++ slot ++ text ".tmp-" ++ hexText random.toList

/-- A temporary file that is renamed over the slot; a directory cannot be renamed over. -/
def writeSlot (euid : ℕ) (random : Option (ByteArr 16)) (application : Node) (slot bytes : Bytes) :
    Node × SlotWrite :=
  match random with
  | none => (application, .randomFailed)
  | some random =>
    let file : Node := .file { uid := euid, mode := 0o400 } bytes
    match application.child (temporarySlot slot random) with
    | some _ => (application, .ioFailed)
    | none =>
      if ((application.child slot).map Node.isDirectory).getD false then
        (application.put (temporarySlot slot random) file, .ioFailed)
      else (application.put slot file, .written)

def storeResult (status : StateStoreStatus) (detail : String) : StateStoreResult :=
  { status, detail := text detail }

def slotA : Bytes := text "state.a"

def slotB : Bytes := text "state.b"

structure SlotRandoms where
  first : Option (ByteArr 16)
  second : Option (ByteArr 16)

def writeSlots (euid : ℕ) (randoms : SlotRandoms) (generation : UInt64) (bytes : Bytes)
    (application : Node) : Node × StateStoreResult :=
  let first := if generation % 2 = 0 then slotB else slotA
  let second := if generation % 2 = 0 then slotA else slotB
  match writeSlot euid randoms.first application first bytes with
  | (application, .randomFailed) =>
    (application, storeResult .randomUnavailable "STATE_STORE_RANDOM_UNAVAILABLE")
  | (application, .ioFailed) =>
    (application, storeResult .ioError "STATE_STORE_FIRST_SLOT_FAILED")
  | (application, .written) =>
    match writeSlot euid randoms.second application second bytes with
    | (application, .written) => (application, storeResult .written "STATE_STORE_WRITTEN")
    | (application, _) =>
      (application, storeResult .writtenDegraded "STATE_STORE_SECOND_SLOT_DEGRADED")

def persistReleaseStateTo (euid : ℕ) (randoms : SlotRandoms) (root : Option Node)
    (state : ApplicationReleaseState) (crypto : CryptoProvider) : Option Node × StateStoreResult :=
  let encoded := encodeReleaseState state crypto
  let untrusted := storeResult .rootUntrusted "STATE_STORE_PATH_UNTRUSTED"
  if !appId state.appId then (root, storeResult .invalidArgument "STATE_STORE_ARGUMENT_INVALID")
  else if !encoded.ok then (root, storeResult .stateInvalid "STATE_STORE_STATE_INVALID")
  else match root with
    | none => (none, untrusted)
    | some root =>
      if !root.trusted euid then (some root, untrusted)
      else
        let (root, result) := Node.inside euid 0o700 untrusted
          (writeSlots euid randoms state.generation encoded.bytes) root [text "apps", state.appId]
        (some root, result)

section

variable {crypto : CryptoProvider} {slot other : Bytes}

/-- The state is the newest one beside what a slot holds. -/
def Newest (crypto : CryptoProvider) (state : ApplicationReleaseState) (slot : Bytes) : Prop :=
  (decodeReleaseState slot crypto).ok = true →
    (decodeReleaseState slot crypto).state.generation < state.generation ∨
      slot = stateBytes crypto state

lemma stateBytes_size {state : ApplicationReleaseState} (h : (encodeReleaseState state crypto).ok = true) :
    0 < (stateBytes crypto state).length ∧ (stateBytes crypto state).length ≤ 512 := by
  obtain ⟨hwell, checksum, -, heq⟩ := encode_cases h
  obtain ⟨hmin, hmax, -⟩ := releaseSize_bounds hwell
  rw [stateBytes, heq, record_length]
  omega

lemma stateBytes_decoded (h : (decodeReleaseState slot crypto).ok = true) :
    slot = stateBytes crypto (decodeReleaseState slot crypto).state := by
  rw [stateBytes, encode_decode h]

lemma select_newest (h : (selectReleaseState slot other crypto).ok = true) :
    Newest crypto (selectReleaseState slot other crypto).state slot ∧
      Newest crypto (selectReleaseState slot other crypto).state other := by
  rw [selectReleaseState] at h ⊢
  by_cases ha : (decodeReleaseState slot crypto).ok = true
  · by_cases hb : (decodeReleaseState other crypto).ok = true
    · rw [if_neg (by simp [ha])] at h ⊢
      split at h <;> rename_i hsplit
      · cases h
      rw [if_neg hsplit]
      have hagree : (decodeReleaseState slot crypto).state.generation =
          (decodeReleaseState other crypto).state.generation → slot = other := by
        intro he
        by_contra hne
        exact hsplit (by simp [ha, hb, he, hne])
      by_cases hle : (decodeReleaseState other crypto).state.generation ≤
          (decodeReleaseState slot crypto).state.generation
      · rw [if_pos (by simp [ha, hle])]
        refine ⟨fun _ => Or.inr (stateBytes_decoded ha), fun _ => ?_⟩
        by_cases he : (decodeReleaseState slot crypto).state.generation =
            (decodeReleaseState other crypto).state.generation
        · right
          rw [← hagree he]
          exact stateBytes_decoded ha
        · left
          dsimp only
          grind
      · rw [if_neg (by simp [hb]; grind)]
        refine ⟨fun _ => Or.inl ?_, fun _ => Or.inr (stateBytes_decoded hb)⟩
        dsimp only
        grind
    · rw [if_neg (by simp [ha]), if_neg (by simp [hb]), if_pos (by simp [ha, hb])]
      exact ⟨fun _ => Or.inr (stateBytes_decoded ha), fun hother => absurd hother hb⟩
  · have hb : (decodeReleaseState other crypto).ok = true := by
      by_contra hb
      rw [if_pos (by simp [ha, hb])] at h
      cases h
    rw [if_neg (by simp [hb]), if_neg (by simp [ha]), if_neg (by simp [ha])]
    exact ⟨fun hslot => absurd hslot ha, fun _ => Or.inr (stateBytes_decoded hb)⟩

lemma select_of_newest {state : ApplicationReleaseState}
    (hencodes : (encodeReleaseState state crypto).ok = true) (h : Newest crypto state other) :
    ((selectReleaseState (stateBytes crypto state) other crypto).ok = true ∧
      (selectReleaseState (stateBytes crypto state) other crypto).state = state) ∧
    ((selectReleaseState other (stateBytes crypto state) crypto).ok = true ∧
      (selectReleaseState other (stateBytes crypto state) crypto).state = state) := by
  have hd : decodeReleaseState (stateBytes crypto state) crypto =
      { status := .valid, detail := text "STATE_DECODED", state } := decode_encode hencodes
  have hok : (decodeReleaseState (stateBytes crypto state) crypto).ok = true := by
    rw [hd]
    rfl
  have hstate : (decodeReleaseState (stateBytes crypto state) crypto).state = state := by rw [hd]
  by_cases hb : (decodeReleaseState other crypto).ok = true
  · rcases h hb with hlt | rfl
    · have hne : (decodeReleaseState other crypto).state.generation ≠ state.generation := by grind
      have hle : ¬ state.generation ≤ (decodeReleaseState other crypto).state.generation := by grind
      have hge : (decodeReleaseState other crypto).state.generation ≤ state.generation := by grind
      constructor
      · simp [selectReleaseState, hok, hstate, hb, hne.symm, hge]
      · simp [selectReleaseState, hok, hstate, hb, hne, hle]
    · simp [selectReleaseState, hok, hstate]
  · constructor
    · simp [selectReleaseState, hok, hstate, hb]
    · simp [selectReleaseState, hok, hstate, hb]

lemma newest_empty (state : ApplicationReleaseState) : Newest crypto state [] := by
  intro h
  rw [decode_empty] at h
  cases h

lemma Newest.succ {state next : ApplicationReleaseState} (h : Newest crypto state slot)
    (hencodes : (encodeReleaseState state crypto).ok = true)
    (hnext : state.generation < next.generation) : Newest crypto next slot := by
  intro hok
  left
  rcases h hok with hlt | rfl
  · grind
  · have hd : decodeReleaseState (stateBytes crypto state) crypto =
        { status := .valid, detail := text "STATE_DECODED", state } := decode_encode hencodes
    rw [hd]
    exact hnext

lemma loadSlots_newest {a b : SlotContents} {state : ApplicationReleaseState}
    (hencodes : (encodeReleaseState state crypto).ok = true)
    (hwritten : (a = { status := .read, bytes := stateBytes crypto state } ∧ Newest crypto state b.bytes) ∨
      (b = { status := .read, bytes := stateBytes crypto state } ∧ Newest crypto state a.bytes)) :
    (loadSlots a b state.appId crypto).isLoaded = true ∧
      (loadSlots a b state.appId crypto).selected.state = state := by
  have hselect : (selectReleaseState a.bytes b.bytes crypto).ok = true ∧
      (selectReleaseState a.bytes b.bytes crypto).state = state := by
    rcases hwritten with ⟨rfl, hnewest⟩ | ⟨rfl, hnewest⟩
    · exact (select_of_newest hencodes hnewest).1
    · exact (select_of_newest hencodes hnewest).2
  have hread : ¬ (a.status = .missing ∧ b.status = .missing) := by
    rintro ⟨ha, hb⟩
    rcases hwritten with ⟨rfl, -⟩ | ⟨rfl, -⟩
    · cases ha
    · cases hb
  obtain ⟨hok, hstate⟩ := hselect
  rw [loadSlots, if_neg hread]
  simp only [hok, hstate, Bool.not_true, ne_eq, not_true_eq_false, decide_false, Bool.or_self,
    Bool.false_eq_true, if_false]
  split <;> exact ⟨rfl, hstate⟩

lemma loadSlots_loaded {a b : SlotContents} {application : Bytes}
    (h : (loadSlots a b application crypto).isLoaded = true) :
    (encodeReleaseState (loadSlots a b application crypto).selected.state crypto).ok = true ∧
      Newest crypto (loadSlots a b application crypto).selected.state a.bytes ∧
      Newest crypto (loadSlots a b application crypto).selected.state b.bytes := by
  obtain ⟨hok, hselected, -⟩ := loadSlots_selected_ok h
  rw [hselected]
  refine ⟨?_, select_newest hok⟩
  obtain ⟨slot, hslot, hstate⟩ := select_decoded hok
  rw [hstate, encode_decode hslot]
  rfl

end

section

variable {crypto : CryptoProvider} {euid : ℕ} {application : Node} {slot bytes : Bytes}

lemma temporarySlot_ne (slot : Bytes) (random : ByteArr 16) :
    slotA ≠ temporarySlot slot random ∧ slotB ≠ temporarySlot slot random := by
  have hhead : (temporarySlot slot random).head? = some (chr '.') := rfl
  constructor
  · intro h
    rw [← h] at hhead
    exact absurd hhead (by decide)
  · intro h
    rw [← h] at hhead
    exact absurd hhead (by decide)

lemma readSlot_congr {other : Node} (h : application.child slot = other.child slot) :
    readSlot euid application slot = readSlot euid other slot := by
  rw [readSlot, readSlot, h]

lemma writeSlot_cases (euid : ℕ) (random : Option (ByteArr 16)) (application : Node)
    (slot bytes : Bytes) :
    ((writeSlot euid random application slot bytes).2 = .written ∧
        (writeSlot euid random application slot bytes).1 =
          application.put slot (.file { uid := euid, mode := 0o400 } bytes)) ∨
      ((writeSlot euid random application slot bytes).2 ≠ .written ∧
        ∀ name, (name = slotA ∨ name = slotB) →
          (writeSlot euid random application slot bytes).1.child name = application.child name) := by
  cases random with
  | none => exact Or.inr ⟨by simp [writeSlot], fun _ _ => rfl⟩
  | some random =>
    obtain ⟨hA, hB⟩ := temporarySlot_ne slot random
    cases ht : application.child (temporarySlot slot random) with
    | some found =>
      right
      simp only [writeSlot, ht]
      exact ⟨by simp, fun _ _ => trivial⟩
    | none =>
      by_cases hdir : ((application.child slot).map Node.isDirectory).getD false = true
      · right
        simp only [writeSlot, ht, hdir, if_true]
        refine ⟨by simp, ?_⟩
        rintro name (rfl | rfl)
        · exact Node.child_put_of_ne hA
        · exact Node.child_put_of_ne hB
      · left
        simp only [writeSlot, ht, hdir]
        exact ⟨rfl, rfl⟩

lemma readSlot_file (hc : application.child slot = some (.file { uid := euid, mode := 0o400 } bytes))
    (hsize : 0 < bytes.length ∧ bytes.length ≤ 512) :
    readSlot euid application slot = { status := .read, bytes } := by
  have hlength : ¬ (bytes.length = 0 ∨ bytes.length > 512) := by omega
  simp only [readSlot, hc, slotContents, if_neg hlength]
  simp

lemma readSlot_put (hd : application.isDirectory = true) (hsize : 0 < bytes.length ∧ bytes.length ≤ 512) :
    readSlot euid (application.put slot (.file { uid := euid, mode := 0o400 } bytes)) slot =
      { status := .read, bytes } := readSlot_file (Node.child_put_self hd) hsize

lemma readSlot_put_of_ne {other : Bytes} {content : Node} (hne : other ≠ slot) :
    readSlot euid (application.put slot content) other = readSlot euid application other :=
  readSlot_congr (Node.child_put_of_ne hne)

lemma writeTwo {first second : Bytes} (hne : first ≠ second) (hfirst : first = slotA ∨ first = slotB)
    (hsecond : second = slotA ∨ second = slotB) (hd : application.isDirectory = true)
    (hsize : 0 < bytes.length ∧ bytes.length ≤ 512) {random random' : Option (ByteArr 16)}
    (hwritten : (writeSlot euid random application first bytes).2 = .written) {after : Node}
    (hafter : after =
      (writeSlot euid random' (writeSlot euid random application first bytes).1 second bytes).1) :
    readSlot euid after first = { status := .read, bytes } ∧
      (readSlot euid after second = { status := .read, bytes } ∨
        readSlot euid after second = readSlot euid application second) := by
  obtain ⟨-, hput⟩ | ⟨hnot, -⟩ := writeSlot_cases euid random application first bytes
  · rw [hput] at hafter
    have hd' : (application.put first (.file { uid := euid, mode := 0o400 } bytes)).isDirectory = true :=
      Node.isDirectory_put.trans hd
    obtain ⟨-, hput'⟩ | ⟨-, hkept⟩ := writeSlot_cases euid random'
      (application.put first (.file { uid := euid, mode := 0o400 } bytes)) second bytes
    · rw [hafter, hput', readSlot_put_of_ne hne, readSlot_put hd hsize, readSlot_put hd' hsize]
      exact ⟨rfl, Or.inl rfl⟩
    · rw [hafter, readSlot_congr (hkept first hfirst), readSlot_congr (hkept second hsecond),
        readSlot_put hd hsize, readSlot_put_of_ne hne.symm]
      exact ⟨rfl, Or.inr rfl⟩
  · exact absurd hwritten hnot

/-- After a successful persist one slot holds the state, the other holds it too or is unchanged. -/
lemma writeSlots_ok {randoms : SlotRandoms} {generation : UInt64} (hd : application.isDirectory = true)
    (hsize : 0 < bytes.length ∧ bytes.length ≤ 512)
    (hok : (writeSlots euid randoms generation bytes application).2.ok = true) {after : Node}
    (hafter : after = (writeSlots euid randoms generation bytes application).1) :
    (readSlot euid after slotA = { status := .read, bytes } ∧
      (readSlot euid after slotB = { status := .read, bytes } ∨
        readSlot euid after slotB = readSlot euid application slotB)) ∨
    (readSlot euid after slotB = { status := .read, bytes } ∧
      (readSlot euid after slotA = { status := .read, bytes } ∨
        readSlot euid after slotA = readSlot euid application slotA)) := by
  have hne : slotA ≠ slotB := by decide
  have hwritten : (writeSlot euid randoms.first application
      (if generation % 2 = 0 then slotB else slotA) bytes).2 = .written := by
    simp only [writeSlots] at hok
    split at hok <;> rename_i heq
    · cases hok
    · cases hok
    · rw [heq]
  have hboth : after = (writeSlot euid randoms.second (writeSlot euid randoms.first application
      (if generation % 2 = 0 then slotB else slotA) bytes).1
      (if generation % 2 = 0 then slotA else slotB) bytes).1 := by
    rw [hafter]
    simp only [writeSlots]
    split <;> rename_i heq
    · rw [heq] at hwritten
      cases hwritten
    · rw [heq] at hwritten
      cases hwritten
    · split <;> rename_i heq'
      · rw [heq, heq']
      · rw [heq, heq']
  by_cases hparity : generation % 2 = 0
  · rw [if_pos hparity] at hwritten hboth
    rw [if_pos hparity] at hboth
    exact Or.inr (writeTwo hne.symm (Or.inr rfl) (Or.inl rfl) hd hsize hwritten hboth)
  · rw [if_neg hparity] at hwritten hboth
    rw [if_neg hparity] at hboth
    exact Or.inl (writeTwo hne (Or.inl rfl) (Or.inr rfl) hd hsize hwritten hboth)

lemma writeSlot_trusted (random : Option (ByteArr 16)) (ht : application.trusted euid = true) :
    (writeSlot euid random application slot bytes).1.trusted euid = true := by
  simp only [writeSlot]
  split
  · exact ht
  split
  · exact ht
  split
  · exact Node.trusted_put.trans ht
  · exact Node.trusted_put.trans ht

lemma writeSlots_trusted (randoms : SlotRandoms) (generation : UInt64)
    (ht : application.trusted euid = true) :
    (writeSlots euid randoms generation bytes application).1.trusted euid = true := by
  have hfirst : ∀ slot, (writeSlot euid randoms.first application slot bytes).1.trusted euid = true :=
    fun slot => writeSlot_trusted randoms.first ht
  simp only [writeSlots]
  split <;> rename_i heq
  · exact (congrArg Prod.fst heq) ▸ hfirst _
  · exact (congrArg Prod.fst heq) ▸ hfirst _
  · have htrusted := (congrArg Prod.fst heq) ▸ hfirst _
    split <;> rename_i heq'
    · exact (congrArg Prod.fst heq') ▸ writeSlot_trusted randoms.second htrusted
    · exact (congrArg Prod.fst heq') ▸ writeSlot_trusted randoms.second htrusted

def slotsPath (appId : Bytes) : Path := [text "apps", appId]

variable {node : Node} {appId : Bytes}

lemma openStore_opened {directory : Node} (h : node.openTrusted euid (slotsPath appId) = some directory) :
    openStore euid (some node) appId = .opened directory := by
  simp only [slotsPath, Node.openTrusted] at h
  obtain ⟨ht, h⟩ := Option.ite_none_right_eq_some.mp h
  cases happs : node.openDirectory (text "apps") with
  | missing => simp [happs] at h
  | refused => simp [happs] at h
  | directory apps =>
    rw [happs] at h
    obtain ⟨hat, h⟩ := Option.ite_none_right_eq_some.mp h
    cases happ : apps.openDirectory appId with
    | missing => simp [happ] at h
    | refused => simp [happ] at h
    | directory application =>
      rw [happ] at h
      obtain ⟨htrusted, h⟩ := Option.ite_none_right_eq_some.mp h
      obtain rfl := Option.some.inj h
      simp [openStore, ht, happs, hat, happ, htrusted]

lemma directoryAt_slots (ht : node.trusted euid = true) {directory : Node}
    (h : node.directoryAt euid 0o700 (slotsPath appId) = some directory) :
    openStore euid (some node) appId = .opened directory ∨
      ∀ name, directory.child name = none := by
  obtain ⟨apps, happs, hrest⟩ := Node.directoryAt_cons h
  obtain ⟨application, happlication, hlast⟩ := Node.directoryAt_cons hrest
  obtain rfl := Option.some.inj hlast
  have hat := Node.directoryFor_trusted (by decide) happs
  have htrusted := Node.directoryFor_trusted (by decide) happlication
  unfold Node.directoryFor at happlication
  cases hc : apps.child appId with
  | none =>
    rw [hc] at happlication
    obtain rfl := Option.some.inj happlication
    exact Or.inr fun _ => rfl
  | some found =>
    rw [hc] at happlication
    obtain rfl := Option.some.inj (Option.ite_none_right_eq_some.mp happlication).2
    -- a new `apps` directory has no child
    have hexisting : node.child (text "apps") = some apps := by
      unfold Node.directoryFor at happs
      cases hn : node.child (text "apps") with
      | none =>
        rw [hn] at happs
        obtain rfl := Option.some.inj happs
        cases hc
      | some existing =>
        rw [hn] at happs
        rw [Option.some.inj (Option.ite_none_right_eq_some.mp happs).2]
    left
    apply openStore_opened
    rw [slotsPath, Node.openTrusted_cons ht hexisting (Node.isDirectory_of_trusted hat),
      Node.openTrusted_cons hat hc (Node.isDirectory_of_trusted htrusted)]
    exact if_pos htrusted

lemma persist_ok {root : Option Node} {randoms : SlotRandoms} {state : ApplicationReleaseState}
    (hok : (persistReleaseStateTo euid randoms root state crypto).2.ok = true) :
    LvglPlatform.appId state.appId = true ∧ (encodeReleaseState state crypto).ok = true ∧
      ∃ node directory, root = some node ∧ node.trusted euid = true ∧
        node.directoryAt euid 0o700 (slotsPath state.appId) = some directory ∧
        (writeSlots euid randoms state.generation (stateBytes crypto state) directory).2.ok = true ∧
        openStore euid (persistReleaseStateTo euid randoms root state crypto).1 state.appId =
          .opened (writeSlots euid randoms state.generation (stateBytes crypto state) directory).1 := by
  unfold persistReleaseStateTo at hok ⊢
  dsimp only at hok ⊢
  split at hok <;> rename_i happ
  · cases hok
  split at hok <;> rename_i hencodes
  · cases hok
  cases root with
  | none => cases hok
  | some node =>
    dsimp only at hok
    split at hok <;> rename_i htrusted
    · cases hok
    rw [if_neg happ, if_neg hencodes]
    dsimp only
    rw [if_neg htrusted]
    have ht : node.trusted euid = true := by simpa using htrusted
    refine ⟨by simpa using happ, by simpa using hencodes, node, ?_⟩
    cases hd : node.directoryAt euid 0o700 (slotsPath state.appId) with
    | none =>
      rw [← slotsPath, Node.inside_none (by decide) ht hd] at hok
      cases hok
    | some directory =>
      rw [← slotsPath, Node.inside_some (by decide) ht hd] at hok
      refine ⟨directory, rfl, ht, rfl, hok, openStore_opened ?_⟩
      exact Node.openTrusted_inside (by decide) ht
        (fun _ htarget => writeSlots_trusted randoms state.generation htarget) hd

/-- Loading after a successful persist returns the state that was persisted. -/
lemma load_persisted {root : Option Node} {randoms : SlotRandoms} {state : ApplicationReleaseState}
    (hnewest : ∀ directory, openStore euid root state.appId = .opened directory →
      Newest crypto state (readSlot euid directory slotA).bytes ∧
        Newest crypto state (readSlot euid directory slotB).bytes)
    (hok : (persistReleaseStateTo euid randoms root state crypto).2.ok = true) :
    (loadReleaseStateFrom euid (persistReleaseStateTo euid randoms root state crypto).1 state.appId
        crypto).isLoaded = true ∧
      (loadReleaseStateFrom euid (persistReleaseStateTo euid randoms root state crypto).1 state.appId
        crypto).selected.state = state := by
  obtain ⟨happ, hencodes, node, directory, rfl, ht, hd, hwritten, hopen⟩ := persist_ok hok
  have hslots : Newest crypto state (readSlot euid directory slotA).bytes ∧
      Newest crypto state (readSlot euid directory slotB).bytes := by
    rcases directoryAt_slots ht hd with hopened | hempty
    · exact hnewest directory hopened
    · simp only [readSlot, hempty]
      exact ⟨newest_empty state, newest_empty state⟩
  have hself : Newest crypto state (stateBytes crypto state) := fun _ => Or.inr rfl
  rw [loadReleaseStateFrom, if_neg (by simp [happ]), hopen]
  apply loadSlots_newest hencodes
  have hdirectory := Node.isDirectory_of_trusted (Node.directoryAt_trusted (by decide) ht hd)
  rcases writeSlots_ok hdirectory (stateBytes_size hencodes) hwritten rfl with ⟨ha, hb | hb⟩ | ⟨hb, ha | ha⟩
  · exact Or.inl ⟨ha, hb ▸ hself⟩
  · exact Or.inl ⟨ha, hb ▸ hslots.2⟩
  · exact Or.inr ⟨hb, ha ▸ hself⟩
  · exact Or.inr ⟨hb, ha ▸ hslots.1⟩

/-- The slot that a persist replaces first. -/
def firstSlot (generation : UInt64) : Bytes := if generation % 2 = 0 then slotB else slotA

def Writable (random : Option (ByteArr 16)) (application : Node) (slot : Bytes) : Prop :=
  ∃ drawn, random = some drawn ∧ application.child (temporarySlot slot drawn) = none ∧
    ((application.child slot).map Node.isDirectory).getD false = false

lemma writeSlot_written (euid : ℕ) (bytes : Bytes) {random : Option (ByteArr 16)} :
    (writeSlot euid random application slot bytes).2 = .written ↔ Writable random application slot := by
  cases random with
  | none => simp [writeSlot, Writable]
  | some drawn =>
    cases ht : application.child (temporarySlot slot drawn) with
    | some found => simp [writeSlot, Writable, ht]
    | none =>
      by_cases hdir : ((application.child slot).map Node.isDirectory).getD false = true
      · simp [writeSlot, Writable, ht, hdir]
      · simp [writeSlot, Writable, ht, hdir]

/-- The second slot does not matter: a persist that replaced the first one succeeds. -/
lemma writeSlots_ok_iff {randoms : SlotRandoms} {generation : UInt64} :
    (writeSlots euid randoms generation bytes application).2.ok = true ↔
      Writable randoms.first application (firstSlot generation) := by
  rw [← writeSlot_written euid bytes, firstSlot, writeSlots]
  split <;> rename_i heq
  · simp [heq, storeResult, StateStoreResult.ok]
  · simp [heq, storeResult, StateStoreResult.ok]
  · rw [heq]
    split
    · simp [storeResult, StateStoreResult.ok]
    · simp [storeResult, StateStoreResult.ok]

def slotsDirectory (euid : ℕ) (root : Option Node) (appId : Bytes) : Option Node :=
  root.bind fun node =>
    if node.trusted euid then node.directoryAt euid 0o700 (slotsPath appId) else none

lemma slotsDirectory_some {root : Option Node} (h : openStore euid root appId ≠ .untrusted) :
    ∃ directory, slotsDirectory euid root appId = some directory := by
  cases root with
  | none => exact absurd rfl h
  | some node =>
    unfold openStore at h
    dsimp only at h
    split at h <;> rename_i ht
    · exact absurd rfl h
    have ht : node.trusted euid = true := by simpa using ht
    simp only [slotsDirectory, Option.bind_some, ht, if_true, slotsPath, Node.directoryAt]
    unfold Node.openDirectory at h
    unfold Node.directoryFor
    cases happs : node.child (text "apps") with
    | none => exact ⟨_, rfl⟩
    | some apps =>
      rw [happs] at h
      by_cases hat : apps.trusted euid = true
      · simp only [Node.isDirectory_of_trusted hat, hat, if_true, Bool.not_true, Bool.false_eq_true,
          if_false] at h ⊢
        cases hc : apps.child appId with
        | none => exact ⟨.directory { uid := euid, mode := 0o700 } [], by simp [hc]⟩
        | some found =>
          rw [hc] at h
          by_cases htrusted : found.trusted euid = true
          · exact ⟨found, by simp [hc, htrusted]⟩
          · by_cases hd : found.isDirectory = true <;> simp [hd, htrusted] at h
      · by_cases hd : apps.isDirectory = true <;> simp [hd, hat] at h

lemma persist_ok_iff {root : Option Node} {randoms : SlotRandoms} {state : ApplicationReleaseState}
    {directory : Node} (happ : LvglPlatform.appId state.appId = true)
    (hdirectory : slotsDirectory euid root state.appId = some directory) :
    (persistReleaseStateTo euid randoms root state crypto).2.ok = true ↔
      (encodeReleaseState state crypto).ok = true ∧
        Writable randoms.first directory (firstSlot state.generation) := by
  obtain ⟨node, rfl, hnode⟩ := Option.bind_eq_some_iff.mp hdirectory
  obtain ⟨ht, hd⟩ := Option.ite_none_right_eq_some.mp hnode
  unfold persistReleaseStateTo
  dsimp only
  rw [if_neg (by simp [happ])]
  by_cases hencodes : (encodeReleaseState state crypto).ok = true
  · rw [if_neg (by simp [hencodes]), if_neg (by simp [ht]), ← slotsPath,
      Node.inside_some (by decide) ht hd, writeSlots_ok_iff]
    simp [hencodes]
  · rw [if_pos (by simp [hencodes])]
    simp [hencodes, storeResult, StateStoreResult.ok]

end

end LvglPlatform
