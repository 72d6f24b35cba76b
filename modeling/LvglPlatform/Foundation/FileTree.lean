import LvglPlatform.Foundation.Bytes

/-! A tree of directories and files as a process sees it through descriptors: names are looked up
one at a time and links are never followed. -/

namespace Foundation

structure Stat where
  uid : ℕ := 0
  mode : ℕ
  links : ℕ := 1
  device : ℕ := 0
  inode : ℕ := 0
  changed : ℤ := 0
  deriving DecidableEq, Repr

inductive Node
  | directory (stat : Stat) (entries : List (Bytes × Node))
  | file (stat : Stat) (content : Bytes)
  /-- A symbolic link, a device, a socket. -/
  | other (stat : Stat)

abbrev Path := List Bytes

namespace Node

def stat : Node → Stat
  | .directory stat _ => stat
  | .file stat _ => stat
  | .other stat => stat

def isDirectory : Node → Bool
  | .directory _ _ => true
  | _ => false

def entries : Node → List (Bytes × Node)
  | .directory _ entries => entries
  | _ => []

def child (node : Node) (name : Bytes) : Option Node :=
  (node.entries.find? fun entry => entry.1 = name).map Prod.snd

/-- A directory with the node under the name, in place of what the name meant before. -/
def put (node : Node) (name : Bytes) (child : Node) : Node :=
  match node with
  | .directory stat entries =>
    if entries.any fun entry => entry.1 = name then
      .directory stat (entries.map fun entry => if entry.1 = name then (name, child) else entry)
    else .directory stat (entries ++ [(name, child)])
  | node => node

def update : Node → Path → (Node → Node) → Node
  | node, [], f => f node
  | node, name :: path, f =>
    match node.child name with
    | some child => node.put name (child.update path f)
    | none => node

def lookup : Node → Path → Option Node
  | node, [] => some node
  | node, name :: path =>
    match node.child name with
    | some child => child.lookup path
    | none => none

/-- A directory of a given owner that neither its group nor others may write. -/
def trusted (node : Node) (uid : ℕ) : Bool :=
  node.isDirectory && node.stat.uid = uid && node.stat.mode &&& 0o022 = 0

end Node

/-- What opening a name as a directory gives; `missing` is the error for an absent name. -/
inductive Opened
  | missing
  | refused
  | directory (node : Node)

def Node.openDirectory (parent : Node) (name : Bytes) : Opened :=
  match parent.child name with
  | none => .missing
  | some node => if node.isDirectory then .directory node else .refused

def Node.openTrusted (uid : ℕ) : Node → Path → Option Node
  | node, [] => if node.trusted uid then some node else none
  | node, name :: path =>
    if node.trusted uid then
      match node.openDirectory name with
      | .directory child => child.openTrusted uid path
      | _ => none
    else none

namespace Node

section

variable {node child : Node} {name : Bytes}

@[simp] lemma stat_put : (node.put name child).stat = node.stat := by
  cases node with
  | directory stat entries =>
    simp only [put]
    split <;> rfl
  | file stat content => rfl
  | other stat => rfl

@[simp] lemma isDirectory_put : (node.put name child).isDirectory = node.isDirectory := by
  cases node with
  | directory stat entries =>
    simp only [put]
    split <;> rfl
  | file stat content => rfl
  | other stat => rfl

@[simp] lemma trusted_put {uid : ℕ} : (node.put name child).trusted uid = node.trusted uid := by
  simp [trusted]

lemma child_of_empty (h : node.entries.isEmpty = true) (name : Bytes) : node.child name = none := by
  rw [Node.child, List.isEmpty_iff.mp h]
  rfl

lemma isDirectory_of_trusted {uid : ℕ} (h : node.trusted uid = true) : node.isDirectory = true := by
  simp only [trusted, Bool.and_eq_true] at h
  exact h.1.1

lemma isDirectory_of_child (h : node.child name = some child) : node.isDirectory = true := by
  cases node with
  | directory stat entries => rfl
  | file stat content => cases h
  | other stat => cases h

lemma child_put_self (hd : node.isDirectory = true) : (node.put name child).child name = some child := by
  cases node with
  | directory stat entries =>
    simp only [put]
    split <;> rename_i hany
    · obtain ⟨entry, hentry, hname⟩ := List.any_eq_true.mp hany
      simp only [Node.child, Node.entries, List.find?_map, Option.map_map]
      cases hfind : entries.find? fun entry => entry.1 = name with
      | none => exact absurd hname (by simpa using List.find?_eq_none.mp hfind entry hentry)
      | some found =>
        have hfound : found.1 = name := by simpa using List.find?_some hfind
        have hsame : ((fun entry : Bytes × Node => decide (entry.1 = name)) ∘ fun entry =>
            if entry.1 = name then (name, child) else entry) = fun entry => decide (entry.1 = name) := by
          funext entry
          by_cases h : entry.1 = name <;> simp [h]
        rw [hsame, hfind]
        simp [hfound]
    · have hnone : entries.find? (fun entry => entry.1 = name) = none := by
        apply List.find?_eq_none.mpr
        intro entry hentry he
        exact hany (List.any_eq_true.mpr ⟨entry, hentry, he⟩)
      simp [Node.child, Node.entries, List.find?_append, hnone]
  | file stat content => cases hd
  | other stat => cases hd

lemma child_put_of_ne {other : Bytes} (hne : other ≠ name) :
    (node.put name child).child other = node.child other := by
  cases node with
  | directory stat entries =>
    simp only [put]
    split
    · simp only [Node.child, Node.entries, List.find?_map, Option.map_map]
      have hsame : ((fun entry : Bytes × Node => decide (entry.1 = other)) ∘ fun entry =>
          if entry.1 = name then (name, child) else entry) = fun entry => decide (entry.1 = other) := by
        funext entry
        by_cases h : entry.1 = name
        · simp [h, hne.symm]
        · simp [h]
      rw [hsame]
      cases hfind : entries.find? fun entry => entry.1 = other with
      | none => rfl
      | some found =>
        have hfound : found.1 = other := by simpa using List.find?_some hfind
        simp [hfound, hne]
    · simp [Node.child, Node.entries, List.find?_append, hne.symm]
  | file stat content => rfl
  | other stat => rfl

end

section

variable {uid : ℕ} {node target : Node} {name : Bytes} {path : Path} {f : Node → Node}

lemma lookup_cons {child : Node} (h : node.child name = some child) :
    node.lookup (name :: path) = child.lookup path := by
  rw [lookup, h]

lemma lookup_append (rest : Path) :
    node.lookup (path ++ rest) = (node.lookup path).bind fun target => target.lookup rest := by
  induction path generalizing node with
  | nil => rfl
  | cons name path ih =>
    cases hc : node.child name with
    | none => simp [lookup, hc]
    | some child =>
      rw [List.cons_append, lookup_cons hc, lookup_cons hc]
      exact ih

lemma openTrusted_cons_iff :
    node.openTrusted uid (name :: path) = some target ↔
      node.trusted uid = true ∧ ∃ child, node.child name = some child ∧
        child.openTrusted uid path = some target := by
  rw [openTrusted]
  by_cases ht : node.trusted uid = true
  · rw [if_pos ht, openDirectory]
    cases hc : node.child name with
    | none => simp
    | some child =>
      by_cases hd : child.isDirectory = true
      · simp [hd, ht]
      · have hnone : ∀ rest, child.openTrusted uid rest ≠ some target := by
          intro rest hopen
          cases rest <;> simp [openTrusted, trusted, hd] at hopen
        simp [hd, hnone]
  · simp [ht]

lemma openTrusted_trusted (h : node.openTrusted uid path = some target) : target.trusted uid = true := by
  induction path generalizing node with
  | nil =>
    obtain ⟨ht, he⟩ := Option.ite_none_right_eq_some.mp h
    obtain rfl := Option.some.inj he
    exact ht
  | cons name path ih =>
    obtain ⟨-, child, -, hrest⟩ := openTrusted_cons_iff.mp h
    exact ih hrest

lemma openTrusted_lookup (h : node.openTrusted uid path = some target) : node.lookup path = some target := by
  induction path generalizing node with
  | nil => exact (Option.ite_none_right_eq_some.mp h).2
  | cons name path ih =>
    obtain ⟨-, child, hc, hrest⟩ := openTrusted_cons_iff.mp h
    rw [lookup_cons hc]
    exact ih hrest

lemma openTrusted_append (rest : Path) :
    node.openTrusted uid (path ++ rest) =
      (node.openTrusted uid path).bind fun target => target.openTrusted uid rest := by
  induction path generalizing node with
  | nil =>
    by_cases ht : node.trusted uid = true
    · simp [openTrusted, ht]
    · have hnone : node.openTrusted uid rest = none := by
        cases rest <;> simp [openTrusted, ht]
      simp [openTrusted, ht, hnone]
  | cons name path ih =>
    rw [List.cons_append, openTrusted, openTrusted]
    by_cases ht : node.trusted uid = true
    · rw [if_pos ht, if_pos ht]
      cases node.openDirectory name with
      | missing => rfl
      | refused => rfl
      | directory child => exact ih
    · rw [if_neg ht, if_neg ht]
      rfl

lemma trusted_update (hpath : path ≠ []) : (node.update path f).trusted uid = node.trusted uid := by
  cases path with
  | nil => exact absurd rfl hpath
  | cons name path =>
    rw [update]
    split
    · exact trusted_put
    · rfl

lemma openTrusted_update (h : node.openTrusted uid path = some target)
    (ht : (f target).trusted uid = true) : (node.update path f).openTrusted uid path = some (f target) := by
  induction path generalizing node with
  | nil =>
    obtain ⟨-, he⟩ := Option.ite_none_right_eq_some.mp h
    obtain rfl := Option.some.inj he
    exact if_pos ht
  | cons name path ih =>
    obtain ⟨htrusted, child, hc, hrest⟩ := openTrusted_cons_iff.mp h
    rw [update, hc]
    refine openTrusted_cons_iff.mpr ⟨trusted_put.trans htrusted, _, ?_, ih hrest⟩
    exact child_put_self (isDirectory_of_child hc)

lemma openTrusted_of_update {rest : Path} (hrest : rest ≠ [])
    (h : (node.update (path ++ rest) f).openTrusted uid path = some target) :
    ∃ before, node.openTrusted uid path = some before := by
  induction path generalizing node with
  | nil =>
    have ht := openTrusted_trusted h
    obtain rfl := Option.some.inj (Option.ite_none_right_eq_some.mp h).2
    exact ⟨node, if_pos ((trusted_update hrest).symm.trans ht)⟩
  | cons name path ih =>
    rw [List.cons_append, update] at h
    cases hc : node.child name with
    | none =>
      rw [hc] at h
      exact ⟨target, h⟩
    | some child =>
      rw [hc] at h
      obtain ⟨ht, updated, hupdated, hopen⟩ := openTrusted_cons_iff.mp h
      rw [child_put_self (isDirectory_of_child hc)] at hupdated
      obtain rfl := Option.some.inj hupdated
      obtain ⟨before, hbefore⟩ := ih hopen
      exact ⟨before, openTrusted_cons_iff.mpr ⟨trusted_put.symm.trans ht, child, hc, hbefore⟩⟩

end

lemma lookup_update_self {node target : Node} {path : Path} (h : node.lookup path = some target)
    (f : Node → Node) : (node.update path f).lookup path = some (f target) := by
  induction path generalizing node with
  | nil =>
    obtain rfl := Option.some.inj h
    rfl
  | cons name path ih =>
    rw [lookup] at h
    cases hc : node.child name with
    | none =>
      rw [hc] at h
      cases h
    | some child =>
      rw [hc] at h
      rw [update, hc, lookup, child_put_self (isDirectory_of_child hc)]
      exact ih h

end Node

end Foundation
