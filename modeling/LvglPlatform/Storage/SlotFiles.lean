import LvglPlatform.Foundation.TreeFrame
import LvglPlatform.Storage.InterruptedStore

/-! The slot files of the policy store against the two slots they stand for: a persist that stops after
any of its system calls replaced none, one or both of the slots. -/

namespace LvglPlatform

open Foundation

def slotName : Side → Bytes
  | .a => slotA
  | .b => slotB

def slotFile (euid : ℕ) (bytes : Bytes) : Node := .file { uid := euid, mode := 0o400 } bytes

structure HoldsSlots (euid : ℕ) (slots : PolicySlots) (directory : Node) : Prop where
  trusted : directory.trusted euid = true
  files : ∀ side, directory.child (slotName side) = (slots.get side).map (slotFile euid)

/-- The slots a policy store has for an application: none, or those in its directory. -/
def StoresSlots (euid : ℕ) (policy : Option Node) (appId : Bytes) (slots : PolicySlots) : Prop :=
  (openStore euid policy appId = .missing ∧ slots = Slots.empty) ∨
    ∃ directory, openStore euid policy appId = .opened directory ∧ HoldsSlots euid slots directory

def Replacing (euid : ℕ) (slots : PolicySlots) (generation : UInt64) (bytes : Bytes) (most : ℕ)
    (node : Node) : Prop :=
  ∃ replacements ≤ most, HoldsSlots euid (slots.write generation.toNat bytes replacements) node

section

variable {euid : ℕ} {slots : PolicySlots} {directory node : Node} {bytes appId : Bytes} {side : Side}
  {random : Option (ByteArr 16)} {randoms : SlotRandoms} {generation : UInt64} {crypto : CryptoProvider}
  {state : ApplicationReleaseState} {policy : Option Node}

lemma slotName_other (side : Side) : slotName side.other ≠ slotName side := by
  cases side <;> decide

lemma slotName_cases (side : Side) : slotName side = slotA ∨ slotName side = slotB := by
  cases side with
  | a => exact Or.inl rfl
  | b => exact Or.inr rfl

lemma HoldsSlots.temporary (h : HoldsSlots euid slots directory) (slot : Bytes) (random : ByteArr 16)
    (file : Node) : HoldsSlots euid slots (directory.put (temporarySlot slot random) file) := by
  obtain ⟨hA, hB⟩ := temporarySlot_ne slot random
  refine ⟨Node.trusted_put.trans h.trusted, fun side => ?_⟩
  rw [Node.child_put_of_ne, h.files side]
  rcases slotName_cases side with hname | hname
  · exact hname ▸ hA
  · exact hname ▸ hB

lemma HoldsSlots.written (h : HoldsSlots euid slots directory) (side : Side) (bytes : Bytes) :
    HoldsSlots euid (slots.put bytes side) (directory.put (slotName side) (slotFile euid bytes)) := by
  refine ⟨Node.trusted_put.trans h.trusted, fun other => ?_⟩
  by_cases hother : other = side
  · subst hother
    rw [Node.child_put_self (Node.isDirectory_of_trusted h.trusted), Slots.get_put]
    rfl
  · obtain rfl : other = side.other := by
      revert hother
      cases other <;> cases side <;> simp [Side.other]
    rw [Node.child_put_of_ne (slotName_other side), Slots.get_put_other, h.files]

/-- Writing a slot file replaces the slot in one step, or leaves the slots as they are. -/
lemma writeSlotSteps_slots (h : HoldsSlots euid slots directory) :
    Steps.Spec directory (writeSlotSteps euid random (slotName side) bytes)
      (fun node => HoldsSlots euid slots node ∨ HoldsSlots euid (slots.put bytes side) node)
      fun write node => if write = .written then HoldsSlots euid (slots.put bytes side) node
        else HoldsSlots euid slots node := by
  cases random with
  | none => exact Steps.spec_pure h
  | some random =>
    refine Steps.spec_bind (Steps.spec_current ?_)
    cases hc : directory.child (temporarySlot (slotName side) random) with
    | some found => exact Steps.spec_pure h
    | none =>
      refine Steps.spec_bind
        ((Node.writeSteps_spec fun stat written => Or.inl (h.temporary _ random _)).run ?_)
      rw [Node.run_writeSteps]
      split
      · exact Steps.spec_pure (h.temporary _ random _)
      · have hwritten := h.written side bytes
        rw [slotFile, ← Node.rename_put hc] at hwritten
        exact Steps.spec_bind (Steps.spec_step (Or.inr hwritten) (Steps.spec_pure hwritten))

/-- A failing call leaves the slot as it was, or replaced. -/
lemma writeSlotCalls_slots {failing : Option ℕ} (h : HoldsSlots euid slots directory) :
    Steps.Spec directory (writeSlotCalls euid random failing (slotName side) bytes)
      (fun node => HoldsSlots euid slots node ∨ HoldsSlots euid (slots.put bytes side) node)
      fun write node => HoldsSlots euid slots node ∧ write ≠ .written ∨
        HoldsSlots euid (slots.put bytes side) node ∧ (write = .written ↔ failing = none) := by
  unfold writeSlotCalls
  split
  · exact Steps.spec_pure (Or.inl ⟨h, nofun⟩)
  refine (writeSlotSteps_slots h).failing (Or.inl h) ?_ ?_ ?_
  · intro write node hwrite
    split at hwrite
    · exact Or.inr hwrite
    · exact Or.inl hwrite
  · intro hfailing node hcrash
    refine hcrash.imp (fun hkept => ⟨hkept, nofun⟩) fun hwritten => ⟨hwritten, ?_⟩
    exact iff_of_false nofun hfailing
  · intro write node hnone hwrite
    split at hwrite
    · rename_i hwritten
      exact Or.inr ⟨hwrite, iff_of_true hwritten hnone⟩
    · rename_i hnot
      exact Or.inl ⟨hwrite, hnot⟩

lemma firstSlot_name : (if generation % 2 = 0 then slotB else slotA) = slotName (Side.home generation.toNat) := by
  have hmod : generation % 2 = 0 ↔ generation.toNat % 2 = 0 := by
    rw [← UInt64.toNat_inj]
    simp
  by_cases h : generation % 2 = 0
  · rw [if_pos h, Side.home, if_pos (hmod.mp h)]
    rfl
  · rw [if_neg h, Side.home, if_neg fun he => h (hmod.mpr he)]
    rfl

lemma secondSlot_name :
    (if generation % 2 = 0 then slotA else slotB) = slotName (Side.home generation.toNat).other := by
  have hfirst : (if generation % 2 = 0 then slotB else slotA) = _ := firstSlot_name
  by_cases h : generation % 2 = 0
  · rw [if_pos h] at hfirst ⊢
    cases hside : Side.home generation.toNat with
    | a => exact absurd (hfirst.trans (congrArg slotName hside)) (by decide)
    | b => rfl
  · rw [if_neg h] at hfirst ⊢
    cases hside : Side.home generation.toNat with
    | a => rfl
    | b => exact absurd (hfirst.trans (congrArg slotName hside)) (by decide)

lemma writeSlotsCalls_slots {calls : PersistCalls} (h : HoldsSlots euid slots directory) :
    Steps.Spec directory (writeSlotsCalls euid calls generation bytes)
      (Replacing euid slots generation bytes 2)
      fun result node => ∃ replacements ≤ 2,
        HoldsSlots euid (slots.write generation.toNat bytes replacements) node ∧
          (result.ok = true ↔ replacements ≠ 0 ∧ calls.first = none) := by
  unfold writeSlotsCalls
  rw [firstSlot_name, secondSlot_name]
  refine Steps.spec_bind ((writeSlotCalls_slots h).weaken ?_ ?_)
  · rintro node (hkept | hfirst)
    · exact ⟨0, by decide, hkept⟩
    · exact ⟨1, by decide, hfirst⟩
  have hunwritten : ∀ (write : SlotWrite) (result : StateStoreResult) node, result.ok = false →
      write ≠ .written → (HoldsSlots euid slots node ∧ write ≠ .written ∨
        HoldsSlots euid (slots.put bytes (Side.home generation.toNat)) node ∧
          (write = .written ↔ calls.first = none)) →
      ∃ replacements ≤ 2, HoldsSlots euid (slots.write generation.toNat bytes replacements) node ∧
        (result.ok = true ↔ replacements ≠ 0 ∧ calls.first = none) := by
    rintro write result node hresult hwrite (⟨hkept, -⟩ | ⟨hfirst, hcalls⟩)
    · exact ⟨0, by decide, hkept, by simp [hresult]⟩
    · exact ⟨1, by decide, hfirst, by simp [hresult, mt hcalls.mpr hwrite]⟩
  intro write node hwrite
  cases write with
  | randomFailed => exact Steps.spec_pure (hunwritten .randomFailed _ node rfl nofun hwrite)
  | ioFailed => exact Steps.spec_pure (hunwritten .ioFailed _ node rfl nofun hwrite)
  | written =>
    obtain ⟨hfirst, hcalls⟩ := hwrite.resolve_left fun hkept => hkept.2 rfl
    have hcalls : calls.first = none := hcalls.mp rfl
    refine Steps.spec_bind ((writeSlotCalls_slots hfirst).weaken ?_ ?_)
    · rintro node (hkept | hboth)
      · exact ⟨1, by decide, hkept⟩
      · exact ⟨2, by decide, hboth⟩
    intro write node hwrite
    have hreplaced : ∃ replacements ≤ 2, replacements ≠ 0 ∧
        HoldsSlots euid (slots.write generation.toNat bytes replacements) node := by
      rcases hwrite with ⟨hkept, -⟩ | ⟨hboth, -⟩
      · exact ⟨1, by decide, by decide, hkept⟩
      · exact ⟨2, by decide, by decide, hboth⟩
    obtain ⟨replacements, hle, hsome, hslots⟩ := hreplaced
    have hdone : ∀ result : StateStoreResult, result.ok = true → ∃ replacements ≤ 2,
        HoldsSlots euid (slots.write generation.toNat bytes replacements) node ∧
          (result.ok = true ↔ replacements ≠ 0 ∧ calls.first = none) :=
      fun result hok => ⟨replacements, hle, hslots, iff_of_true hok ⟨hsome, hcalls⟩⟩
    split
    · exact Steps.spec_pure (hdone _ rfl)
    · cases write with
      | randomFailed => exact Steps.spec_pure (hdone _ rfl)
      | ioFailed => exact Steps.spec_pure (hdone _ rfl)
      | written => exact Steps.spec_pure (hdone _ rfl)

lemma holdsSlots_empty : HoldsSlots euid Slots.empty (.directory { uid := euid, mode := 0o700 } []) := by
  refine ⟨Node.trusted_directory (by decide) [], fun side => ?_⟩
  cases side <;> rfl

lemma storesSlots_some (hslots : StoresSlots euid policy appId slots) :
    ∃ node, policy = some node ∧ node.trusted euid = true ∧ ∃ directory,
      node.directoryAt euid 0o700 (slotsPath appId) = some directory ∧ HoldsSlots euid slots directory := by
  cases policy with
  | none =>
    rcases hslots with ⟨hmissing, -⟩ | ⟨directory, hopened, -⟩
    · cases hmissing
    · cases hopened
  | some node =>
    refine ⟨node, rfl, ?_⟩
    rcases hslots with ⟨hmissing, rfl⟩ | ⟨directory, hopened, hholds⟩
    · have hwalk := walk_missing hmissing
      exact ⟨Node.trusted_of_walk hwalk (by simp), _, Node.directoryAt_missing hwalk, holdsSlots_empty⟩
    · have hwalk : node.walk euid (slotsPath appId) = .directory directory := by
        rw [openStore_walk] at hopened
        split at hopened
        · cases hopened
        · cases hopened
        · rename_i found hfound
          rw [hfound, OpenStore.opened.inj hopened]
      exact ⟨Node.trusted_of_walk hwalk (by simp), directory, Node.directoryAt_walk hwalk, hholds⟩

lemma slotsPath_apart {other : Bytes} (hne : other ≠ appId) :
    Node.Apart (slotsPath appId) (slotsPath other) :=
  Node.apart_cons.mpr (Node.apart_of_ne hne)

lemma slots_empty (h : HoldsSlots euid slots (.directory { uid := euid, mode := 0o700 } [])) :
    slots = Slots.empty := by
  have hA := h.files .a
  have hB := h.files .b
  obtain ⟨a, b⟩ := slots
  cases a with
  | some bytes => cases hA
  | none =>
    cases b with
    | some bytes => cases hB
    | none => rfl

lemma storesSlots_at (ht : node.trusted euid = true)
    (hdirectory : node.directoryAt euid 0o700 (slotsPath appId) = some directory)
    (h : HoldsSlots euid slots directory) : StoresSlots euid (some node) appId slots := by
  rcases Node.directoryAt_cases ht hdirectory (by decide) with hwalk | ⟨hwalk, rfl⟩
  · exact Or.inr ⟨directory, by rw [openStore_walk, hwalk], h⟩
  · exact Or.inl ⟨by rw [openStore_walk, hwalk], slots_empty h⟩

lemma persistReleaseState_eq {replacements : ℕ} (happ : LvglPlatform.appId state.appId = true)
    (hencodes : (encodeReleaseState state crypto).ok = true) :
    persistReleaseState slots ⟨state, replacements⟩ crypto =
      slots.write state.generation.toNat (stateBytes crypto state) replacements := by
  rw [persistReleaseState, if_neg (by simp [happ, hencodes])]
  rfl

lemma persistReleaseState_zero : persistReleaseState slots ⟨state, 0⟩ crypto = slots := by
  rw [persistReleaseState]
  split <;> rfl

/-- A persist of a state that stops after any of its calls did so many of the slot replacements. -/
def PersistLeaves (euid : ℕ) (policy : Option Node) (state : ApplicationReleaseState)
    (crypto : CryptoProvider) (slots : PolicySlots) (replacements : ℕ) (after : Option Node) : Prop :=
  StoresSlots euid after state.appId (persistReleaseState slots ⟨state, replacements⟩ crypto) ∧
    ∀ other, other ≠ state.appId → openStore euid after other = openStore euid policy other

lemma persistLeaves_none (h : StoresSlots euid policy state.appId slots) :
    PersistLeaves euid policy state crypto slots 0 policy :=
  ⟨persistReleaseState_zero.symm ▸ h, fun _ _ => rfl⟩

lemma insideSlots_spec {action : Steps Node StateStoreResult} {most : ℕ}
    {reports : StateStoreResult → ℕ → Prop} (ht : node.trusted euid = true)
    (hdirectory : node.directoryAt euid 0o700 (slotsPath state.appId) = some directory)
    (hholds : HoldsSlots euid slots directory) (happ : LvglPlatform.appId state.appId = true)
    (hencodes : (encodeReleaseState state crypto).ok = true) (failed : StateStoreResult)
    (hwrites : Steps.Spec directory action
      (Replacing euid slots state.generation (stateBytes crypto state) most)
      fun result t => ∃ replacements ≤ most,
        HoldsSlots euid (slots.write state.generation.toNat (stateBytes crypto state) replacements) t ∧
          reports result replacements) :
    Steps.Spec node (Node.insideSteps euid 0o700 failed action (slotsPath state.appId))
      (fun after => ∃ replacements ≤ most,
        PersistLeaves euid (some node) state crypto slots replacements (some after))
      fun result after => ∃ replacements ≤ most,
        PersistLeaves euid (some node) state crypto slots replacements (some after) ∧
          reports result replacements := by
  have htrusted : ∀ t, Replacing euid slots state.generation (stateBytes crypto state) most t →
      t.trusted euid = true := fun t ⟨_, _, hslots⟩ => hslots.trusted
  have hkept : Steps.Spec directory action _
      fun _ => Replacing euid slots state.generation (stateBytes crypto state) most :=
    hwrites.weaken (fun _ => id) fun _ _ ⟨n, hn, hslots, _⟩ => ⟨n, hn, hslots⟩
  have hothers : ∀ after, Node.Beside euid (slotsPath state.appId) node after → ∀ other,
      other ≠ state.appId → openStore euid (some after) other = openStore euid (some node) other := by
    intro after hbeside other hother
    rw [openStore_walk, openStore_walk, hbeside.walk _ (slotsPath_apart hother)]
  -- where the path leads, what lies beside it, and what is at its end when the writes are done
  refine ((Node.insideSteps_leads (by decide) ht hdirectory ⟨0, Nat.zero_le _, hholds⟩ htrusted hkept).and
    ((Node.insideSteps_beside (by decide) ht ?_).and
      (Node.insideSteps_ends (by decide) ht hdirectory ?_ (hwrites.weaken (fun _ _ => trivial)
        fun _ _ => id)))).weaken ?_ ?_
  · intro target htarget
    obtain rfl := Option.some.inj (hdirectory.symm.trans htarget)
    exact hkept.weaken htrusted fun _ => htrusted
  · rintro result t ⟨n, -, hslots, -⟩
    exact hslots.trusted
  · rintro after ⟨⟨hat, found, hfound, n, hn, hslots⟩, hbeside, -⟩
    refine ⟨n, hn, ?_, hothers after hbeside⟩
    rw [persistReleaseState_eq happ hencodes]
    exact storesSlots_at hat hfound hslots
  · rintro result after ⟨-, hbeside, found, hfound, n, hn, hslots, hreports⟩
    refine ⟨n, hn, ⟨?_, hothers after hbeside⟩, hreports⟩
    rw [persistReleaseState_eq happ hencodes]
    exact Or.inr ⟨found, by rw [openStore_walk, hfound], hslots⟩

lemma persistReleaseStateCalls_slots {calls : PersistCalls} (h : StoresSlots euid policy state.appId slots) :
    Steps.Spec policy (persistReleaseStateCalls euid calls state crypto)
      (fun after => ∃ replacements ≤ 2, PersistLeaves euid policy state crypto slots replacements after)
      fun result after => ∃ replacements ≤ 2,
        PersistLeaves euid policy state crypto slots replacements after ∧
          (result.ok = true ↔ replacements ≠ 0 ∧ calls.first = none) := by
  have hnone : ∀ result : StateStoreResult, result.ok = false → ∃ replacements ≤ 2,
      PersistLeaves euid policy state crypto slots replacements policy ∧
        (result.ok = true ↔ replacements ≠ 0 ∧ calls.first = none) :=
    fun result hresult => ⟨0, by decide, persistLeaves_none h, by simp [hresult]⟩
  unfold persistReleaseStateCalls
  dsimp only
  split <;> rename_i happ
  · exact Steps.spec_pure (hnone _ rfl)
  split <;> rename_i hencodes
  · exact Steps.spec_pure (hnone _ rfl)
  refine Steps.spec_bind (Steps.spec_current ?_)
  obtain ⟨node, rfl, ht, directory, hdirectory, hholds⟩ := storesSlots_some h
  have happ : LvglPlatform.appId state.appId = true := by simpa using happ
  have hencodes : (encodeReleaseState state crypto).ok = true := by simpa using hencodes
  dsimp only
  rw [if_neg (by simp [ht])]
  refine Steps.spec_zoom ?_
  split
  · exact insideSlots_spec ht hdirectory hholds happ hencodes _ (writeSlotsCalls_slots hholds)
  -- no slot is written when the store cannot be opened
  · set untrusted := storeResult .rootUntrusted "STATE_STORE_PATH_UNTRUSTED"
    have hfailed : Steps.Spec directory (pure untrusted)
        (Replacing euid slots state.generation (stateBytes crypto state) 0)
        fun result t => ∃ replacements ≤ 0,
          HoldsSlots euid (slots.write state.generation.toNat (stateBytes crypto state) replacements) t ∧
            result.ok = false := Steps.spec_pure ⟨0, le_rfl, hholds, rfl⟩
    have hopening := insideSlots_spec ht hdirectory hholds happ hencodes untrusted hfailed
    have hleft : ∀ after, (∃ replacements ≤ 0,
        PersistLeaves euid (some node) state crypto slots replacements (some after)) →
        PersistLeaves euid (some node) state crypto slots 0 (some after) := by
      rintro after ⟨replacements, hle, hleaves⟩
      obtain rfl := Nat.le_zero.mp hle
      exact hleaves
    have hresult : ∀ (result : StateStoreResult) after, result.ok = false → (∃ replacements ≤ 0,
        PersistLeaves euid (some node) state crypto slots replacements (some after)) →
        ∃ replacements ≤ 2, PersistLeaves euid (some node) state crypto slots replacements (some after) ∧
          (result.ok = true ↔ replacements ≠ 0 ∧ calls.first = none) :=
      fun result after hok hleaves => ⟨0, by decide, hleft after hleaves, by simp [hok]⟩
    refine (hopening.failing ⟨0, le_rfl, persistLeaves_none h⟩ ?_ ?_ ?_).weaken ?_ fun _ _ => id
    · rintro result after ⟨replacements, hle, hleaves, -⟩
      exact ⟨replacements, hle, hleaves⟩
    · exact fun _ after => hresult _ after rfl
    · rintro result after - ⟨replacements, hle, hleaves, hok⟩
      exact hresult result after hok ⟨replacements, hle, hleaves⟩
    · exact fun after hleaves => ⟨0, by decide, hleft after hleaves⟩

lemma persistReleaseStateSteps_slots (h : StoresSlots euid policy state.appId slots) :
    Steps.Spec policy (persistReleaseStateSteps euid randoms state crypto)
      (fun after => ∃ replacements ≤ 2, PersistLeaves euid policy state crypto slots replacements after)
      fun result after => ∃ replacements ≤ 2,
        PersistLeaves euid policy state crypto slots replacements after ∧
          (result.ok = true ↔ replacements ≠ 0) := by
  rw [← persistReleaseStateCalls_none]
  refine (persistReleaseStateCalls_slots h).weaken (fun _ => id) ?_
  rintro result after ⟨replacements, hle, hleaves, hok⟩
  exact ⟨replacements, hle, hleaves, hok.trans (and_iff_left rfl)⟩

lemma StoresSlots.load (h : StoresSlots euid policy appId slots) (happ : LvglPlatform.appId appId = true) :
    ((loadReleaseStateFrom euid policy appId crypto).status = .notFound ∧ slots = Slots.empty) ∨
      loadReleaseStateFrom euid policy appId crypto = loadReleaseState slots appId crypto := by
  rcases h with ⟨hmissing, rfl⟩ | ⟨directory, hopened, hholds⟩
  · exact Or.inl ⟨(load_notFound happ).mpr hmissing, rfl⟩
  · right
    have hread : ∀ side, readSlot euid directory (slotName side) = slotContents (slots.get side) := by
      intro side
      rw [readSlot, hholds.files side]
      cases slots.get side with
      | none => rfl
      | some bytes => simp [slotFile]
    rw [loadReleaseStateFrom, if_neg (by simp [happ]), hopened]
    exact congrArg₂ (fun a b => loadSlots a b appId crypto) (hread .a) (hread .b)

end

/-- Persisting a state on disk is persisting it in the two slots: stopped after any of its system calls or
ended by failing ones, with some of the replacements done; and it reports success exactly when the first
one is done and no call of it has failed. -/
theorem interrupted_persist_refines (euid : ℕ) (calls : PersistCalls) (policy : Option Node)
    (state : ApplicationReleaseState) (crypto : CryptoProvider) (slots : PolicySlots)
    (cut : Option ℕ) (h : StoresSlots euid policy state.appId slots) :
    (∃ replacements ≤ 2, PersistLeaves euid policy state crypto slots replacements
      ((persistReleaseStateCalls euid calls state crypto).stop policy cut)) ∧
    ∃ replacements ≤ 2, PersistLeaves euid policy state crypto slots replacements
        ((persistReleaseStateCalls euid calls state crypto).run policy).1 ∧
      (((persistReleaseStateCalls euid calls state crypto).run policy).2.ok = true ↔
        replacements ≠ 0 ∧ calls.first = none) := by
  have hspec : Steps.Spec policy (persistReleaseStateCalls euid calls state crypto) _ _ :=
    persistReleaseStateCalls_slots h
  refine ⟨(hspec.weaken (fun _ => id) ?_).stop ⟨0, by decide, persistLeaves_none h⟩ cut, hspec.2⟩
  rintro result after ⟨replacements, hle, hleaves, -⟩
  exact ⟨replacements, hle, hleaves⟩

def unsyncedCalls : PersistCalls where
  randoms := ⟨some (List.Vector.replicate 16 2), none⟩
  first := some 1000

theorem unsynced_first_slot_stored :
    let persist := persistReleaseStateCalls 0 unsyncedCalls sampleFirst sampleStoreCrypto
    let policy := some (.directory { mode := 0o700 } [])
    ((persist.run policy).2.detail = text "STATE_STORE_FIRST_SLOT_FAILED" ∧
      (loadReleaseStateFrom 0 (persist.run policy).1 sampleFirst.appId sampleStoreCrypto).selected.state =
        sampleFirst) ∧
    (∃ replacements ≤ 2, PersistLeaves 0 policy sampleFirst sampleStoreCrypto Slots.empty replacements
      (persist.stop policy (some 40))) ∧
    ∃ replacements ≤ 2, PersistLeaves 0 policy sampleFirst sampleStoreCrypto Slots.empty replacements
        (persist.run policy).1 ∧
      ((persist.run policy).2.ok = true ↔ replacements ≠ 0 ∧ unsyncedCalls.first = none) :=
  ⟨by decide +kernel, interrupted_persist_refines 0 unsyncedCalls _ sampleFirst sampleStoreCrypto Slots.empty
    (some 40) (Or.inl ⟨rfl, rfl⟩)⟩

end LvglPlatform
