import LvglPlatform.Foundation.FileTree

namespace Foundation

abbrev Folder := AList fun _ : Bytes => Node

namespace Folder

variable (weight : Bytes → Node → ℕ)

def weigh (folder : Folder) (name : Bytes) : ℕ := ((folder.lookup name).map (weight name)).getD 0

def total (folder : Folder) : ℕ := (folder.keys.map (folder.weigh weight)).sum

variable {weight} {folder : Folder} {name : Bytes} {node : Node}

lemma weigh_of_lookup (h : folder.lookup name = some node) :
    weigh weight folder name = weight name node := by
  rw [weigh, h]
  rfl

lemma weigh_of_missing (h : folder.lookup name = none) : weigh weight folder name = 0 := by
  rw [weigh, h]
  rfl

def totalBut (weight : Bytes → Node → ℕ) (folder : Folder) (name : Bytes) : ℕ :=
  ((folder.erase name).keys.map (weigh weight folder)).sum

lemma keys_insert : (folder.insert name node).keys = name :: (folder.erase name).keys := by
  rw [AList.keys_insert, AList.keys_erase]

lemma ne_of_mem_erase {other : Bytes} (h : other ∈ (folder.erase name).keys) : other ≠ name :=
  (AList.mem_erase.mp (AList.mem_keys.mpr h)).1

lemma mem_keys_erase {other : Bytes} :
    other ∈ (folder.erase name).keys ↔ other ≠ name ∧ other ∈ folder.keys := by
  rw [← AList.mem_keys, ← AList.mem_keys, AList.mem_erase]

lemma total_eq (folder : Folder) (name : Bytes) :
    total weight folder = weigh weight folder name + totalBut weight folder name := by
  have hnodup := (folder.erase name).keys_nodup
  by_cases hmem : name ∈ folder.keys
  · have hfresh : name ∉ (folder.erase name).keys := fun h => ne_of_mem_erase h rfl
    have hperm : folder.keys.Perm (name :: (folder.erase name).keys) := by
      rw [List.perm_ext_iff_of_nodup folder.keys_nodup (List.nodup_cons.mpr ⟨hfresh, hnodup⟩)]
      intro other
      rw [List.mem_cons, mem_keys_erase]
      by_cases he : other = name
      · simp [he, hmem]
      · simp [he]
    rw [total, (hperm.map _).sum_eq, List.map_cons, List.sum_cons, totalBut]
  · have hperm : folder.keys.Perm (folder.erase name).keys := by
      rw [List.perm_ext_iff_of_nodup folder.keys_nodup hnodup]
      intro other
      rw [mem_keys_erase]
      by_cases he : other = name
      · simp [he, hmem]
      · simp [he]
    rw [weigh_of_missing (AList.lookup_eq_none.mpr fun h => hmem (AList.mem_keys.mp h)), totalBut,
      Nat.zero_add, total, (hperm.map _).sum_eq]

lemma total_insert :
    total weight (folder.insert name node) = weight name node + totalBut weight folder name := by
  have hrest : (folder.erase name).keys.map (weigh weight (folder.insert name node)) =
      (folder.erase name).keys.map (weigh weight folder) := by
    apply List.map_congr_left
    intro other hother
    rw [weigh, weigh, AList.lookup_insert_ne (ne_of_mem_erase hother)]
  rw [total, keys_insert, List.map_cons, List.sum_cons, hrest,
    weigh_of_lookup (AList.lookup_insert folder), totalBut]

lemma total_replace : total weight (folder.insert name node) + weigh weight folder name =
    total weight folder + weight name node := by
  rw [total_insert, total_eq folder name]
  omega

lemma weigh_le_total (folder : Folder) (name : Bytes) :
    weigh weight folder name ≤ total weight folder := by
  rw [total_eq folder name]
  omega

lemma total_eq_sum {names : Finset Bytes} (h : folder.keys.toFinset ⊆ names) :
    total weight folder = ∑ name ∈ names, folder.weigh weight name := by
  rw [total, ← List.sum_toFinset _ folder.keys_nodup]
  apply Finset.sum_subset h
  intro name _ hname
  apply weigh_of_missing
  rw [AList.lookup_eq_none, AList.mem_keys, ← List.mem_toFinset]
  exact hname

lemma total_congr {other : Folder} (h : ∀ name, folder.weigh weight name = other.weigh weight name) :
    total weight folder = total weight other := by
  rw [total_eq_sum Finset.subset_union_left, total_eq_sum Finset.subset_union_right]
  exact Finset.sum_congr rfl fun name _ => h name

lemma total_of_perm {listing : List Bytes} (h : listing.Perm folder.keys) :
    (listing.map (weigh weight folder)).sum = total weight folder := (h.map _).sum_eq

end Folder

end Foundation
