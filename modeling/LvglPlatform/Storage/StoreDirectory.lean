import LvglPlatform.Foundation.FileTree
import LvglPlatform.Storage.StateStore

namespace LvglPlatform

open Foundation

inductive OpenStore
  | opened (application : Node)
  | missing
  | untrusted

/-- Opening `apps` and the directory of an application below a store root, without creating them. -/
def openStore (euid : ℕ) (root : Option Node) (appId : Bytes) : OpenStore :=
  match root with
  | none => .untrusted
  | some root =>
    if !root.trusted euid then .untrusted
    else match root.openDirectory (text "apps") with
      | .missing => .missing
      | .refused => .untrusted
      | .directory apps =>
        if !apps.trusted euid then .untrusted
        else match apps.openDirectory appId with
          | .missing => .missing
          | .refused => .untrusted
          | .directory application =>
            if !application.trusted euid then .untrusted else .opened application

def readSlot (euid : ℕ) (application : Node) (slot : Bytes) : SlotContents :=
  match application.child slot with
  | none => { status := .missing }
  | some (.file stat content) =>
    if stat.uid ≠ euid ∨ stat.mode &&& 0o222 ≠ 0 then { status := .invalid }
    else slotContents (some content)
  | some _ => { status := .invalid }

def loadReleaseStateFrom (euid : ℕ) (root : Option Node) (application : Bytes)
    (crypto : CryptoProvider) : StateStoreResult :=
  if !appId application then
    { status := .invalidArgument, detail := text "STATE_STORE_ARGUMENT_INVALID" }
  else match openStore euid root application with
    | .missing => { status := .notFound, detail := text "STATE_STORE_NOT_FOUND" }
    | .untrusted => { status := .rootUntrusted, detail := text "STATE_STORE_PATH_UNTRUSTED" }
    | .opened directory =>
      loadSlots (readSlot euid directory (text "state.a")) (readSlot euid directory (text "state.b"))
        application crypto

def Uninitialized (euid : ℕ) (policy : Option Node) (application : Bytes) : Prop :=
  ∃ directory, openStore euid policy application = .opened directory ∧
    directory.child (text "state.a") = none ∧ directory.child (text "state.b") = none

def StateStoreResult.isLoaded (result : StateStoreResult) : Bool :=
  result.status = .loaded || result.status = .loadedDegraded

section

variable {crypto : CryptoProvider}

lemma readSlot_missing {euid : ℕ} {application : Node} {slot : Bytes} :
    (readSlot euid application slot).status = .missing ↔ application.child slot = none := by
  unfold readSlot
  cases application.child slot with
  | none => simp
  | some found =>
    cases found with
    | file stat content =>
      dsimp only [slotContents]
      split_ifs <;> simp
    | directory stat entries => simp
    | other stat => simp

lemma loadSlots_uninitialized {slotA slotB : SlotContents} {application : Bytes} :
    (loadSlots slotA slotB application crypto).status = .uninitialized ↔
      slotA.status = .missing ∧ slotB.status = .missing := by
  by_cases hmissing : slotA.status = .missing ∧ slotB.status = .missing
  · rw [loadSlots, if_pos hmissing]
    exact iff_of_true rfl hmissing
  · refine iff_of_false ?_ hmissing
    rw [loadSlots, if_neg hmissing]
    dsimp only
    split_ifs <;> simp

lemma load_uninitialized {euid : ℕ} {policy : Option Node} {application : Bytes}
    (happ : appId application = true) :
    (loadReleaseStateFrom euid policy application crypto).status = .uninitialized ↔
      Uninitialized euid policy application := by
  rw [loadReleaseStateFrom, if_neg (by simp [happ]), Uninitialized]
  cases openStore euid policy application with
  | missing => simp
  | untrusted => simp
  | opened directory => simp [loadSlots_uninitialized, readSlot_missing]

lemma load_notFound {euid : ℕ} {policy : Option Node} {application : Bytes}
    (happ : appId application = true) :
    (loadReleaseStateFrom euid policy application crypto).status = .notFound ↔
      openStore euid policy application = .missing := by
  rw [loadReleaseStateFrom, if_neg (by simp [happ])]
  cases openStore euid policy application with
  | missing => simp
  | untrusted => simp
  | opened directory =>
    refine iff_of_false ?_ (by simp)
    unfold loadSlots
    dsimp only
    split_ifs <;> simp

lemma decode_valid {bytes : Bytes} (h : (decodeReleaseState bytes crypto).ok = true) :
    validState (decodeReleaseState bytes crypto).state = true := by
  obtain ⟨hstate, checksum, hdecodes⟩ := decode_cases h
  rw [hstate]
  exact hdecodes.valid

lemma select_decoded {slotA slotB : Bytes} (h : (selectReleaseState slotA slotB crypto).ok = true) :
    ∃ slot, (decodeReleaseState slot crypto).ok = true ∧
      (selectReleaseState slotA slotB crypto).state = (decodeReleaseState slot crypto).state := by
  rw [selectReleaseState] at h ⊢
  by_cases ha : (decodeReleaseState slotA crypto).ok = true
  · split
    · simp_all [DecodedReleaseState.ok]
    split
    · simp_all [DecodedReleaseState.ok]
    split
    · exact ⟨slotA, ha, rfl⟩
    · rename_i hsecond
      have hb : (decodeReleaseState slotB crypto).ok = true := by
        by_contra hb
        simp [ha, hb] at hsecond
      exact ⟨slotB, hb, rfl⟩
  · have hb : (decodeReleaseState slotB crypto).ok = true := by
      by_contra hb
      rw [if_pos (by simp [ha, hb])] at h
      cases h
    rw [if_neg (by simp [hb]), if_neg (by simp [ha]), if_neg (by simp [ha])]
    exact ⟨slotB, hb, rfl⟩

lemma select_valid {slotA slotB : Bytes} (h : (selectReleaseState slotA slotB crypto).ok = true) :
    validState (selectReleaseState slotA slotB crypto).state = true := by
  obtain ⟨slot, hslot, hstate⟩ := select_decoded h
  rw [hstate]
  exact decode_valid hslot

lemma loadSlots_selected_ok {slotA slotB : SlotContents} {application : Bytes}
    (h : (loadSlots slotA slotB application crypto).isLoaded = true) :
    (selectReleaseState slotA.bytes slotB.bytes crypto).ok = true ∧
      (loadSlots slotA slotB application crypto).selected =
        selectReleaseState slotA.bytes slotB.bytes crypto ∧
      (selectReleaseState slotA.bytes slotB.bytes crypto).state.appId = application := by
  rw [loadSlots] at h ⊢
  split at h
  · cases h
  rename_i hread
  rw [if_neg hread]
  dsimp only at h ⊢
  split at h
  · cases h
  rename_i hselected
  rw [if_neg hselected]
  simp only [Bool.or_eq_true, Bool.not_eq_true', decide_eq_true_eq, not_or, Bool.not_eq_false,
    not_not] at hselected
  refine ⟨hselected.1, ?_, hselected.2⟩
  split <;> rfl

lemma loadSlots_valid {slotA slotB : SlotContents} {application : Bytes}
    (h : (loadSlots slotA slotB application crypto).isLoaded = true) :
    validState (loadSlots slotA slotB application crypto).selected.state = true ∧
      (loadSlots slotA slotB application crypto).selected.state.appId = application := by
  obtain ⟨hok, hselected, happ⟩ := loadSlots_selected_ok h
  rw [hselected]
  exact ⟨select_valid hok, happ⟩

lemma loadReleaseStateFrom_valid {euid : ℕ} {root : Option Node} {application : Bytes}
    (h : (loadReleaseStateFrom euid root application crypto).isLoaded = true) :
    validState (loadReleaseStateFrom euid root application crypto).selected.state = true ∧
      (loadReleaseStateFrom euid root application crypto).selected.state.appId = application := by
  rw [loadReleaseStateFrom] at h ⊢
  split at h
  · cases h
  rename_i happ
  rw [if_neg happ]
  split at h
  · cases h
  · cases h
  · exact loadSlots_valid h

end

end LvglPlatform
