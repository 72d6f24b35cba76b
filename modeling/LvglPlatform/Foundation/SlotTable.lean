import Mathlib

namespace Foundation

structure SlotTable (κ : Type) (capacity : ℕ) where
  entries : List (κ × ℕ)
  keys_nodup : (entries.map Prod.fst).Nodup
  slots_nodup : (entries.map Prod.snd).Nodup
  below : ∀ entry ∈ entries, entry.2 < capacity
  deriving DecidableEq

namespace SlotTable

variable {κ : Type} {capacity : ℕ}

def empty : SlotTable κ capacity := ⟨[], List.nodup_nil, List.nodup_nil, nofun⟩

instance : EmptyCollection (SlotTable κ capacity) := ⟨empty⟩

def free (table : SlotTable κ capacity) : Option ℕ :=
  (List.range capacity).find? fun slot => slot ∉ table.entries.map Prod.snd

def Held (table : SlotTable κ capacity) (slot : ℕ) : Prop := slot ∈ table.entries.map Prod.snd

variable {table : SlotTable κ capacity} {key : κ} {slot : ℕ}

lemma free_spec (h : table.free = some slot) :
    slot < capacity ∧ slot ∉ table.entries.map Prod.snd := by
  have hfree := List.find?_some h
  exact ⟨List.mem_range.mp (List.mem_of_find?_eq_some h), of_decide_eq_true hfree⟩

@[simp] lemma entries_empty : (∅ : SlotTable κ capacity).entries = [] := rfl

lemma free_of_empty (hcapacity : 0 < capacity) (h : table.entries = []) : table.free = some 0 := by
  obtain ⟨n, rfl⟩ := Nat.exists_eq_add_one.mpr hcapacity
  rw [free, h, List.range_succ_eq_map]
  rfl

lemma le_length_of_full (h : table.free = none) : capacity ≤ table.entries.length := by
  have hsubset : List.range capacity ⊆ table.entries.map Prod.snd := by
    intro slot hslot
    by_contra hfree
    exact List.find?_eq_none.mp h slot hslot (decide_eq_true hfree)
  have hlength := (List.nodup_range.subperm hsubset).length_le
  rw [List.length_range, List.length_map] at hlength
  exact hlength

lemma key_unique {first second : κ} (hfirst : (first, slot) ∈ table.entries)
    (hsecond : (second, slot) ∈ table.entries) : first = second := by
  have hpair := List.inj_on_of_nodup_map table.slots_nodup hfirst hsecond rfl
  exact (Prod.mk.inj hpair).1

variable [DecidableEq κ]

def slot? (table : SlotTable κ capacity) (key : κ) : Option ℕ :=
  (table.entries.find? fun entry => entry.1 = key).map Prod.snd

lemma slot?_eq_none : table.slot? key = none ↔ key ∉ table.entries.map Prod.fst := by
  rw [slot?, Option.map_eq_none_iff, List.find?_eq_none, List.mem_map]
  constructor
  · rintro h ⟨entry, hentry, rfl⟩
    exact h entry hentry (decide_eq_true rfl)
  · intro h entry hentry hkey
    exact h ⟨entry, hentry, of_decide_eq_true hkey⟩

lemma mem_of_slot? (h : table.slot? key = some slot) : (key, slot) ∈ table.entries := by
  obtain ⟨entry, hentry, rfl⟩ := Option.map_eq_some_iff.mp h
  have hkey := List.find?_some hentry
  obtain rfl := of_decide_eq_true hkey
  exact List.mem_of_find?_eq_some hentry

def insert (table : SlotTable κ capacity) (key : κ) (slot : ℕ) (hkey : table.slot? key = none)
    (hslot : table.free = some slot) : SlotTable κ capacity where
  entries := table.entries ++ [(key, slot)]
  keys_nodup := by
    rw [List.map_append]
    exact table.keys_nodup.append (List.nodup_singleton _)
      (List.disjoint_singleton.mpr (slot?_eq_none.mp hkey))
  slots_nodup := by
    rw [List.map_append]
    exact table.slots_nodup.append (List.nodup_singleton _)
      (List.disjoint_singleton.mpr (free_spec hslot).2)
  below := by
    intro entry hentry
    rcases List.mem_append.mp hentry with hentry | hentry
    · exact table.below entry hentry
    · obtain rfl := List.mem_singleton.mp hentry
      exact (free_spec hslot).1

/-- The slot of a key, which gets the lowest free one if it has none. -/
def allocate (table : SlotTable κ capacity) (key : κ) : Option (ℕ × SlotTable κ capacity) :=
  match hkey : table.slot? key with
  | some slot => some (slot, table)
  | none =>
    match hslot : table.free with
    | none => none
    | some slot => some (slot, table.insert key slot hkey hslot)

def release (table : SlotTable κ capacity) (key : κ) : SlotTable κ capacity where
  entries := table.entries.filter fun entry => entry.1 ≠ key
  keys_nodup := table.keys_nodup.sublist (List.filter_sublist.map _)
  slots_nodup := table.slots_nodup.sublist (List.filter_sublist.map _)
  below := fun entry hentry => table.below entry (List.mem_of_mem_filter hentry)

lemma allocate_held (h : table.slot? key = some slot) : table.allocate key = some (slot, table) := by
  rw [allocate]
  split
  · rename_i other hother
    obtain rfl := Option.some.inj (h.symm.trans hother)
    rfl
  · rename_i hnone
    cases hnone.symm.trans h

lemma allocate_full (hkey : table.slot? key = none) (hfree : table.free = none) :
    table.allocate key = none := by
  rw [allocate]
  split
  · rename_i hsome
    cases hsome.symm.trans hkey
  · split
    · rfl
    · rename_i hsome
      cases hsome.symm.trans hfree

lemma allocate_new (hkey : table.slot? key = none) (hfree : table.free = some slot) :
    table.allocate key = some (slot, table.insert key slot hkey hfree) := by
  rw [allocate]
  split
  · rename_i hsome
    cases hsome.symm.trans hkey
  · split
    · rename_i hnone
      cases hnone.symm.trans hfree
    · rename_i other hother
      obtain rfl := Option.some.inj (hfree.symm.trans hother)
      rfl

lemma mem_insert {hkey : table.slot? key = none} {hslot : table.free = some slot} {entry : κ × ℕ} :
    entry ∈ (table.insert key slot hkey hslot).entries ↔ entry ∈ table.entries ∨ entry = (key, slot) := by
  rw [insert, List.mem_append, List.mem_singleton]

lemma mem_release {entry : κ × ℕ} :
    entry ∈ (table.release key).entries ↔ entry ∈ table.entries ∧ entry.1 ≠ key := by
  rw [release, List.mem_filter, decide_eq_true_eq]

lemma le_card_of_full {keys : Finset κ} (h : table.free = none)
    (hkeys : ∀ entry ∈ table.entries, entry.1 ∈ keys) : capacity ≤ keys.card := by
  calc
    capacity ≤ table.entries.length := le_length_of_full h
    _ = (table.entries.map Prod.fst).length := (List.length_map _).symm
    _ = (table.entries.map Prod.fst).toFinset.card := (List.toFinset_card_of_nodup table.keys_nodup).symm
    _ ≤ keys.card := by
      refine Finset.card_le_card fun key hkey => ?_
      obtain ⟨entry, hentry, rfl⟩ := List.mem_map.mp (List.mem_toFinset.mp hkey)
      exact hkeys entry hentry

end SlotTable

end Foundation
