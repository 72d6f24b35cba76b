import LvglPlatform.Foundation.FileCreation

/-! Removing what lies below a directory, files first and directories once they are empty, under a
limit on the depth and a limit on the number of names one call may look at. -/

namespace Foundation

mutual

def Node.size : Node → ℕ
  | .directory _ entries => listingSize entries + 1
  | .file _ _ => 1
  | .other _ => 1

def listingSize : List (Bytes × Node) → ℕ
  | [] => 0
  | entry :: entries => entrySize entry + listingSize entries

def entrySize : Bytes × Node → ℕ
  | (_, node) => node.size

end

inductive RemovalFailure
  | tooDeep
  | tooMany
  | refused
  deriving DecidableEq, Repr

/-- How a removal ended: the names counted so far, and what is left of the listing. -/
structure Removal where
  failure : Option RemovalFailure
  nodes : ℕ
  left : List (Bytes × Node)

structure ReadOrder where
  read : List (Bytes × Node) → List (Bytes × Node)
  perm : ∀ entries, (read entries).Perm entries

def ReadOrder.stored : ReadOrder := ⟨id, fun entries => List.Perm.refl entries⟩

/-- Which directories are entered, and how many names are looked at. -/
structure Remover where
  enters : Stat → Bool
  nodeLimit : ℕ

namespace Remover

variable (R : Remover)

def removeListing (descend : ℕ → List (Bytes × Node) → Removal) : ℕ → List (Bytes × Node) → Removal
  | nodes, [] => ⟨none, nodes, []⟩
  | nodes, (name, node) :: rest =>
    if R.nodeLimit < nodes + 1 then ⟨some .tooMany, nodes + 1, (name, node) :: rest⟩
    else match node with
      | .directory stat entries =>
        if R.enters stat then
          match descend (nodes + 1) entries with
          | ⟨none, nodes, _⟩ => removeListing descend nodes rest
          | ⟨some failure, nodes, left⟩ => ⟨some failure, nodes, (name, .directory stat left) :: rest⟩
        else ⟨some .refused, nodes + 1, (name, .directory stat entries) :: rest⟩
      | .file _ _ => removeListing descend (nodes + 1) rest
      | .other _ => removeListing descend (nodes + 1) rest

/-- Removal with so many levels of directories before the depth limit is exceeded. -/
def removeContents (order : ReadOrder) : ℕ → ℕ → List (Bytes × Node) → Removal
  | 0, nodes, entries => ⟨some .tooDeep, nodes, entries⟩
  | levels + 1, nodes, entries =>
    R.removeListing (removeContents order levels) nodes (order.read entries)

def Fits : ℕ → List (Bytes × Node) → Prop
  | 0, _ => False
  | levels + 1, entries => ∀ entry ∈ entries, ∀ stat below, entry.2 = .directory stat below →
      R.enters stat = true ∧ Fits levels below

end Remover

def Nested : ℕ → List (Bytes × Node) → Prop
  | 0, _ => True
  | levels + 1, entries => ∃ entry ∈ entries, ∃ stat below, entry.2 = .directory stat below ∧
      Nested levels below

@[simp] lemma listingSize_nil : listingSize [] = 0 := rfl

@[simp] lemma listingSize_cons (entry : Bytes × Node) (entries : List (Bytes × Node)) :
    listingSize (entry :: entries) = entry.2.size + listingSize entries := by
  cases entry
  rfl

@[simp] lemma size_directory (stat : Stat) (entries : List (Bytes × Node)) :
    (Node.directory stat entries).size = listingSize entries + 1 := rfl

lemma listingSize_perm {entries others : List (Bytes × Node)} (h : entries.Perm others) :
    listingSize entries = listingSize others := by
  induction h with
  | nil => rfl
  | cons entry _ ih => rw [listingSize_cons, listingSize_cons, ih]
  | swap first second entries =>
    simp only [listingSize_cons]
    omega
  | trans _ _ ihl ihr => exact ihl.trans ihr

namespace Remover

variable {R : Remover}

lemma Fits.perm {levels : ℕ} {entries others : List (Bytes × Node)} (h : R.Fits levels entries)
    (hperm : entries.Perm others) : R.Fits levels others := by
  cases levels with
  | zero => exact h
  | succ levels => exact fun entry hentry => h entry (hperm.mem_iff.mpr hentry)

lemma Nested.perm {levels : ℕ} {entries others : List (Bytes × Node)} (h : Nested levels entries)
    (hperm : entries.Perm others) : Nested levels others := by
  cases levels with
  | zero => trivial
  | succ levels =>
    obtain ⟨entry, hentry, hnested⟩ := h
    exact ⟨entry, hperm.mem_iff.mp hentry, hnested⟩

/-- A removal that ends early has only left names it looked at for the directories it is in. -/
structure Removes (R : Remover) (levels nodes : ℕ) (entries : List (Bytes × Node)) (r : Removal) :
    Prop where
  done : r.failure = none → r.left = [] ∧ r.nodes = nodes + listingSize entries
  failed : r.failure ≠ none → r.nodes + listingSize r.left ≤ nodes + listingSize entries + levels
  tooMany : r.failure = some .tooMany → R.nodeLimit < r.nodes
  fits : R.Fits levels entries →
    R.Fits levels r.left ∧ ∀ failure, r.failure = some failure → failure = .tooMany

lemma Fits.tail {levels : ℕ} {entry : Bytes × Node} {entries : List (Bytes × Node)}
    (h : R.Fits (levels + 1) (entry :: entries)) : R.Fits (levels + 1) entries :=
  fun other hother => h other (List.mem_cons_of_mem _ hother)

lemma Removes.skip {levels nodes later : ℕ} {entry : Bytes × Node} {entries : List (Bytes × Node)}
    {r : Removal} (hlater : later = nodes + entry.2.size)
    (h : Removes R (levels + 1) later entries r) : Removes R (levels + 1) nodes (entry :: entries) r := by
  subst hlater
  refine ⟨fun hd => ?_, fun hf => ?_, h.tooMany, fun hfits => h.fits hfits.tail⟩
  · obtain ⟨hleft, hnodes⟩ := h.done hd
    exact ⟨hleft, by rw [hnodes, listingSize_cons, Nat.add_assoc]⟩
  · have := h.failed hf
    rw [listingSize_cons]
    omega

lemma removeListing_removes {levels : ℕ} {descend : ℕ → List (Bytes × Node) → Removal}
    (hdescend : ∀ nodes entries, Removes R levels nodes entries (descend nodes entries))
    (nodes : ℕ) (entries : List (Bytes × Node)) :
    Removes R (levels + 1) nodes entries (R.removeListing descend nodes entries) := by
  induction entries generalizing nodes with
  | nil =>
    refine ⟨fun _ => ⟨rfl, rfl⟩, fun hf => absurd rfl hf, fun hf => (nomatch hf), ?_⟩
    exact fun hfits => ⟨hfits, fun failure hf => (nomatch hf)⟩
  | cons entry entries ih =>
    obtain ⟨name, node⟩ := entry
    rw [removeListing.eq_def]
    dsimp only
    split
    · rename_i hlimit
      refine ⟨fun hd => (nomatch hd), fun _ => by dsimp only; omega, fun _ => hlimit, ?_⟩
      exact fun hfits => ⟨hfits, fun failure hf => (Option.some.inj hf).symm⟩
    cases node with
    | file stat content => exact (ih (nodes + 1)).skip rfl
    | other stat => exact (ih (nodes + 1)).skip rfl
    | directory stat below =>
      dsimp only
      by_cases henters : R.enters stat = true
      · rw [if_pos henters]
        have hbelow := hdescend (nodes + 1) below
        match hr : descend (nodes + 1) below with
        | ⟨none, later, left⟩ =>
          rw [hr] at hbelow
          obtain ⟨-, hnodes⟩ := hbelow.done rfl
          refine (ih later).skip ?_
          dsimp only at hnodes
          rw [hnodes, size_directory]
          omega
        | ⟨some failure, later, left⟩ =>
          rw [hr] at hbelow
          refine ⟨fun hd => (nomatch hd), fun _ => ?_, hbelow.tooMany, fun hfits => ?_⟩
          · have hcount := hbelow.failed (by simp)
            simp only [listingSize_cons, size_directory] at hcount ⊢
            omega
          · obtain ⟨-, hdeep⟩ := hfits _ List.mem_cons_self stat below rfl
            obtain ⟨hleft, hcause⟩ := hbelow.fits hdeep
            refine ⟨?_, hcause⟩
            intro other hother stat' below' he
            rcases List.mem_cons.mp hother with rfl | hrest
            · cases he
              exact ⟨henters, hleft⟩
            · exact hfits other (List.mem_cons_of_mem _ hrest) stat' below' he
      · rw [if_neg henters]
        refine ⟨fun hd => (nomatch hd), fun _ => ?_, fun hf => (nomatch hf), fun hfits => ?_⟩
        · dsimp only
          omega
        · exact absurd (hfits _ List.mem_cons_self stat below rfl).1 henters

lemma removeContents_removes (order : ReadOrder) (levels nodes : ℕ) (entries : List (Bytes × Node)) :
    Removes R levels nodes entries (R.removeContents order levels nodes entries) := by
  induction levels generalizing nodes entries with
  | zero =>
    exact ⟨fun hd => (nomatch hd), fun _ => le_rfl, fun hf => (nomatch hf), fun hfits => hfits.elim⟩
  | succ levels ih =>
    have hperm := order.perm entries
    have h := removeListing_removes ih nodes (order.read entries)
    rw [removeContents]
    refine ⟨fun hd => ?_, fun hf => ?_, h.tooMany, fun hfits => h.fits (hfits.perm hperm.symm)⟩
    · rw [← listingSize_perm hperm]
      exact h.done hd
    · rw [← listingSize_perm hperm]
      exact h.failed hf

structure Sticks (levels : ℕ) (r : Removal) : Prop where
  failed : r.failure ≠ none
  nested : Nested levels r.left

lemma removeListing_sticks {levels : ℕ} {descend : ℕ → List (Bytes × Node) → Removal}
    (hdescend : ∀ nodes entries, Nested levels entries → Sticks levels (descend nodes entries))
    (nodes : ℕ) {entries : List (Bytes × Node)} (hnested : Nested (levels + 1) entries) :
    Sticks (levels + 1) (R.removeListing descend nodes entries) := by
  induction entries generalizing nodes with
  | nil =>
    obtain ⟨entry, hentry, -⟩ := hnested
    cases hentry
  | cons entry entries ih =>
    obtain ⟨name, node⟩ := entry
    -- the chain starts at this name or at a later one
    have hcases : (∃ stat below, node = .directory stat below ∧ Nested levels below) ∨
        Nested (levels + 1) entries := by
      obtain ⟨entry, hentry, stat, below, hnode, hbelow⟩ := hnested
      rcases List.mem_cons.mp hentry with rfl | hrest
      · exact Or.inl ⟨stat, below, hnode, hbelow⟩
      · exact Or.inr ⟨entry, hrest, stat, below, hnode, hbelow⟩
    rw [removeListing.eq_def]
    dsimp only
    split
    · exact ⟨nofun, hnested⟩
    cases node with
    | file stat content =>
      rcases hcases with ⟨stat', below', he, -⟩ | hrest
      · cases he
      · exact ih (nodes + 1) hrest
    | other stat =>
      rcases hcases with ⟨stat', below', he, -⟩ | hrest
      · cases he
      · exact ih (nodes + 1) hrest
    | directory stat below =>
      dsimp only
      split
      · match hr : descend (nodes + 1) below with
        | ⟨none, later, left⟩ =>
          refine ih later ?_
          rcases hcases with ⟨stat', below', he, hbelow⟩ | hrest
          · cases he
            have hsticks := (hdescend (nodes + 1) _ hbelow).failed
            rw [hr] at hsticks
            exact absurd rfl hsticks
          · exact hrest
        | ⟨some failure, later, left⟩ =>
          refine ⟨nofun, ?_⟩
          rcases hcases with ⟨stat', below', he, hbelow⟩ | ⟨entry, hentry, hchain⟩
          · cases he
            have hsticks := (hdescend (nodes + 1) _ hbelow).nested
            rw [hr] at hsticks
            exact ⟨_, List.mem_cons_self, stat, left, rfl, hsticks⟩
          · exact ⟨entry, List.mem_cons_of_mem _ hentry, hchain⟩
      · exact ⟨nofun, hnested⟩

/-- A chain of directories as long as the depth limit is never removed. -/
lemma removeContents_sticks (order : ReadOrder) (levels nodes : ℕ) {entries : List (Bytes × Node)}
    (hnested : Nested levels entries) : Sticks levels (R.removeContents order levels nodes entries) := by
  induction levels generalizing nodes entries with
  | zero => exact ⟨nofun, trivial⟩
  | succ levels ih =>
    exact removeListing_sticks (fun nodes _ => ih nodes) nodes
      (Nested.perm hnested (order.perm entries).symm)

def Enterable (R : Remover) : ℕ → List (Bytes × Node) → Prop
  | 0, _ => True
  | levels + 1, entries => ∀ entry ∈ entries, ∀ stat below, entry.2 = .directory stat below →
      R.enters stat = true ∧ R.Enterable levels below

lemma fits_iff_not_nested {levels : ℕ} {entries : List (Bytes × Node)}
    (h : R.Enterable levels entries) : R.Fits levels entries ↔ ¬ Nested levels entries := by
  induction levels generalizing entries with
  | zero => simp [Fits, Nested]
  | succ levels ih =>
    constructor
    · rintro hfits ⟨entry, hentry, stat, below, hnode, hbelow⟩
      have hdeep := hfits entry hentry stat below hnode
      exact (ih (h entry hentry stat below hnode).2).mp hdeep.2 hbelow
    · intro hflat entry hentry stat below hnode
      obtain ⟨henters, hbelow⟩ := h entry hentry stat below hnode
      refine ⟨henters, (ih hbelow).mpr fun hnested => ?_⟩
      exact hflat ⟨entry, hentry, stat, below, hnode, hnested⟩

lemma Fits.enterable {levels : ℕ} {entries : List (Bytes × Node)} (h : R.Fits levels entries)
    (n : ℕ) : R.Enterable n entries := by
  induction n generalizing levels entries with
  | zero => trivial
  | succ n ih =>
    cases levels with
    | zero => exact h.elim
    | succ levels =>
      intro entry hentry stat below hnode
      obtain ⟨henters, hbelow⟩ := h entry hentry stat below hnode
      exact ⟨henters, ih hbelow⟩

section

variable {levels : ℕ} {node child : Node} {name : Bytes}

lemma fits_nil (levels : ℕ) : R.Fits (levels + 1) [] := fun _ hentry => nomatch hentry

def Admits (R : Remover) (levels : ℕ) (child : Node) : Prop :=
  ∀ stat below, child = .directory stat below → R.enters stat = true ∧ R.Fits levels below

lemma admits_of_not_directory (h : child.isDirectory = false) : R.Admits levels child := by
  rintro stat below rfl
  cases h

lemma Fits.admits (h : R.Fits (levels + 1) node.entries) (hchild : node.child name = some child) :
    R.Admits levels child := by
  obtain ⟨entry, hfind, rfl⟩ := Option.map_eq_some_iff.mp hchild
  exact h entry (List.mem_of_find?_eq_some hfind)

lemma Fits.put (h : R.Fits (levels + 1) node.entries) (hchild : R.Admits levels child) :
    R.Fits (levels + 1) (node.put name child).entries := by
  have hput : ∀ entry ∈ (node.put name child).entries, entry = (name, child) ∨ entry ∈ node.entries := by
    intro entry hentry
    cases node with
    | file stat content => cases hentry
    | other stat => cases hentry
    | directory stat entries =>
      simp only [Node.put] at hentry
      split at hentry
      · obtain ⟨old, hold, rfl⟩ := List.mem_map.mp hentry
        by_cases he : old.1 = name
        · exact Or.inl (if_pos he)
        · rw [if_neg he]
          exact Or.inr hold
      · rcases List.mem_append.mp hentry with hold | hnew
        · exact Or.inr hold
        · exact Or.inl (List.mem_singleton.mp hnew)
  intro entry hentry stat below hnode
  rcases hput entry hentry with rfl | hold
  · exact hchild stat below hnode
  · exact h entry hold stat below hnode

variable {uid mode : ℕ} {file : Node} (henters : R.enters { uid, mode } = true)

include henters

lemma ensureDirectory_fits (h : R.Fits (levels + 2) node.entries) (name : Bytes) :
    R.Fits (levels + 2) (node.ensureDirectory uid mode name).1.entries ∧
      ∀ child, (node.ensureDirectory uid mode name).2 = some child → R.Admits (levels + 1) child := by
  have hempty : R.Admits (levels + 1) (.directory { uid, mode } []) := by
    rintro stat below he
    cases he
    exact ⟨henters, fits_nil levels⟩
  obtain ⟨hparent, hopened⟩ := @Node.ensureDirectory_cases uid mode node name
  have hfits : R.Fits (levels + 2) (node.ensureDirectory uid mode name).1.entries := by
    rcases hparent with he | he
    · rwa [he]
    · rw [he]
      exact h.put hempty
  exact ⟨hfits, fun child hchild => hfits.admits (hopened child hchild)⟩

omit henters in
lemma createFile_shape (path : Path) :
    (Node.createFile uid mode file node path).1.stat = node.stat ∧
      (Node.createFile uid mode file node path).1.isDirectory = node.isDirectory := by
  have hensure : ∀ name, (node.ensureDirectory uid mode name).1.stat = node.stat ∧
      (node.ensureDirectory uid mode name).1.isDirectory = node.isDirectory := by
    intro name
    rw [Node.ensureDirectory]
    split <;> cases node.child name <;> simp
  cases path with
  | nil => exact ⟨rfl, rfl⟩
  | cons name path =>
    cases path with
    | nil =>
      rw [Node.createFile]
      cases node.child name <;> simp
    | cons next path =>
      rw [Node.createFile, Node.within]
      have h := hensure name
      rcases hname : node.ensureDirectory uid mode name with ⟨parent, _ | child⟩
      · rw [hname] at h
        exact h
      · rw [hname] at h
        exact ⟨Node.stat_put.trans h.1, Node.isDirectory_put.trans h.2⟩

lemma createFile_fits (hfile : file.isDirectory = false) {path : Path} (hlength : path.length ≤ levels)
    (h : R.Fits levels node.entries) :
    R.Fits levels (Node.createFile uid mode file node path).1.entries := by
  induction path generalizing node levels with
  | nil => exact h
  | cons name path ih =>
    cases path with
    | nil =>
      rw [Node.createFile]
      cases levels with
      | zero => exact h.elim
      | succ levels =>
        cases node.child name with
        | none => exact h.put (admits_of_not_directory hfile)
        | some found => exact h
    | cons next path =>
      rw [Node.createFile, Node.within]
      obtain ⟨levels, rfl⟩ : ∃ n, levels = n + 2 := ⟨levels - 2, by
        simp only [List.length_cons] at hlength
        omega⟩
      obtain ⟨hparent, hchild⟩ := ensureDirectory_fits henters h name
      rcases hensure : node.ensureDirectory uid mode name with ⟨parent, _ | child⟩
      · rw [hensure] at hparent
        exact hparent
      · rw [hensure] at hparent hchild
        refine hparent.put fun stat below he => ?_
        have hshape : (Node.createFile uid mode file child (next :: path)).1.stat = child.stat ∧
            (Node.createFile uid mode file child (next :: path)).1.isDirectory = child.isDirectory :=
          createFile_shape (next :: path)
        obtain ⟨hstat, hdirectory⟩ := hshape
        rw [he] at hstat hdirectory
        cases child with
        | file stat' content => cases hdirectory
        | other stat' => cases hdirectory
        | directory stat' entries =>
          obtain ⟨hstat', hentries⟩ := hchild _ rfl stat' entries rfl
          have hrest : R.Fits (levels + 1) (Node.createFile uid mode file (.directory stat' entries)
              (next :: path)).1.entries := ih (by simpa using hlength) hentries
          rw [he] at hrest
          obtain rfl : stat = stat' := hstat
          exact ⟨hstat', hrest⟩

omit henters in
lemma createFiles_shape (files : List (Path × Node)) :
    (node.createFiles uid mode files).1.stat = node.stat ∧
      (node.createFiles uid mode files).1.isDirectory = node.isDirectory := by
  induction files generalizing node with
  | nil => exact ⟨rfl, rfl⟩
  | cons entry files ih =>
    obtain ⟨path, leaf⟩ := entry
    have hfirst : (Node.createFile uid mode leaf node path).1.stat = node.stat ∧
        (Node.createFile uid mode leaf node path).1.isDirectory = node.isDirectory :=
      createFile_shape path
    rw [Node.createFiles]
    rcases hcreate : Node.createFile uid mode leaf node path with ⟨created, _ | _⟩
    · rw [hcreate] at hfirst
      exact hfirst
    · rw [hcreate] at hfirst
      exact ⟨ih.1.trans hfirst.1, ih.2.trans hfirst.2⟩

lemma createFiles_fits {files : List (Path × Node)} (h : R.Fits levels node.entries)
    (hfiles : ∀ entry ∈ files, entry.2.isDirectory = false ∧ entry.1.length ≤ levels) :
    R.Fits levels (node.createFiles uid mode files).1.entries := by
  induction files generalizing node with
  | nil => exact h
  | cons entry files ih =>
    obtain ⟨path, leaf⟩ := entry
    obtain ⟨⟨hleaf, hlength⟩, hrest⟩ := List.forall_mem_cons.mp hfiles
    have hfirst := createFile_fits henters hleaf hlength h
    rw [Node.createFiles]
    rcases hcreate : Node.createFile uid mode leaf node path with ⟨created, _ | _⟩
    · rw [hcreate] at hfirst
      exact hfirst
    · rw [hcreate] at hfirst
      exact ih hfirst hrest

end

end Remover

lemma nested_of_openFile {uid levels : ℕ} {node target : Node} {path : Path}
    (hlength : levels < path.length) (h : node.openFile uid path = some target) :
    Nested levels node.entries := by
  induction path generalizing node levels with
  | nil => cases h
  | cons name path ih =>
    cases levels with
    | zero => trivial
    | succ levels =>
      cases path with
      | nil => simp at hlength
      | cons next path =>
        rw [Node.openFile] at h
        cases hc : node.child name with
        | none =>
          rw [hc] at h
          cases h
        | some child =>
          rw [hc] at h
          obtain ⟨ht, hopen⟩ := Option.ite_none_right_eq_some.mp h
          have hbelow := ih (by simpa using hlength) hopen
          obtain ⟨entry, hfind, hentry⟩ := Option.map_eq_some_iff.mp hc
          refine ⟨entry, List.mem_of_find?_eq_some hfind, ?_⟩
          cases child with
          | directory stat below => exact ⟨stat, below, hentry, hbelow⟩
          | file stat content => cases ht
          | other stat => cases ht

end Foundation
