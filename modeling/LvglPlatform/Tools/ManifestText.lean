import LvglPlatform.Foundation.JsonObjects
import LvglPlatform.Package.Accepted
import LvglPlatform.Tools.JavaScript

namespace LvglPlatform

open Foundation

namespace Lvapp

/-- The manifest in the region that `parsePackage` cuts out, if its text is canonical. -/
def parseManifest (region : Bytes) : Option JsValue := do
  let manifestText ← decodeText region
  let manifest ← jsJson.parse manifestText
  if canonicalJson manifest = some manifestText then some manifest else none

lemma parseManifest_some {region : Bytes} {manifest : JsValue} (h : parseManifest region = some manifest) :
    ∃ manifestText, decodeText region = some manifestText ∧ jsJson.parse manifestText = some manifest ∧
      canonicalJson manifest = some manifestText := by
  obtain ⟨manifestText, hdecode, h⟩ := Option.bind_eq_some_iff.mp h
  obtain ⟨parsed, hparse, h⟩ := Option.bind_eq_some_iff.mp h
  split at h <;> rename_i htext
  · obtain rfl := Option.some.inj h
    exact ⟨manifestText, hdecode, hparse, htext⟩
  · simp at h

lemma setMember_subset (members : List (Units × JsValue)) (member : Units × JsValue) :
    setMember members member ⊆ member :: members := by
  intro m hm
  rw [setMember] at hm
  split at hm
  · obtain ⟨n, hn, rfl⟩ := List.mem_map.mp hm
    split
    · exact List.mem_cons_self
    · exact List.mem_cons_of_mem _ hn
  · simpa [or_comm] using hm

lemma setMember_nodup {members : List (Units × JsValue)} (h : (members.map Prod.fst).Nodup)
    (member : Units × JsValue) : ((setMember members member).map Prod.fst).Nodup := by
  rw [setMember]
  split <;> rename_i hmem
  · have hnames : (members.map fun m => if m.1 = member.1 then member else m).map Prod.fst =
        members.map Prod.fst := by
      rw [List.map_map]
      refine List.map_congr_left fun m _ => ?_
      rw [Function.comp_apply]
      split <;> rename_i he
      · exact he.symm
      · rfl
    rwa [hnames]
  · rw [List.map_append, List.map_singleton]
    exact List.nodup_append.mpr ⟨h, List.nodup_singleton _, fun a ha b hb =>
      fun he => hmem (List.mem_singleton.mp hb ▸ he ▸ ha)⟩

lemma jsJson_keeps : jsJson.Keeps List.Nodup where
  nil := List.nodup_nil
  names ms := by
    have hfold : ∀ before : List (Units × JsValue), (before.map Prod.fst).Nodup →
        ((ms.foldl setMember before).map Prod.fst).Nodup := by
      induction ms with
      | nil => exact fun _ h => h
      | cons m ms ih => exact fun before h => ih _ (setMember_nodup h m)
    exact hfold [] List.nodup_nil
  subset ms := by
    have hfold : ∀ before : List (Units × JsValue), ms.foldl setMember before ⊆ before ++ ms := by
      induction ms with
      | nil => simp
      | cons m ms ih =>
        intro before x hx
        rcases List.mem_append.mp (ih _ hx) with hx | hx
        · rcases List.mem_cons.mp (setMember_subset before m hx) with rfl | hx
          · simp
          · exact List.mem_append_left _ hx
        · exact List.mem_append_right _ (List.mem_cons_of_mem _ hx)
    exact hfold []

lemma unitsUtf8_injective {s t : Units} (hs : WellFormed s) (ht : WellFormed t)
    (h : unitsUtf8 s = unitsUtf8 t) : s = t := by
  obtain ⟨cs, rfl⟩ := wellFormed_iff.mp hs
  obtain ⟨ds, rfl⟩ := wellFormed_iff.mp ht
  rw [unitsUtf8_utf16, unitsUtf8_utf16] at h
  rw [utf8_injective h]

instance {β : Type} : IsTrans (Units × β) NotAfter := ⟨fun _ _ _ hab hbc => List.le_trans hab hbc⟩

instance {β : Type} : Std.Total (@NotAfter β) := ⟨fun _ _ => List.le_total _ _⟩

lemma sortMembers_ascending {members : List (Units × JsValue)} (hnames : (members.map Prod.fst).Nodup)
    (hw : ∀ m ∈ members, WellFormed m.1) :
    (sortMembers members).Pairwise fun a b => unitsUtf8 a.1 < unitsUtf8 b.1 := by
  have horder : (sortMembers members).Pairwise NotAfter := List.pairwise_insertionSort NotAfter members
  have hperm : (sortMembers members).Perm members := List.perm_insertionSort NotAfter members
  have hdistinct : (sortMembers members).Pairwise fun a b => a.1 ≠ b.1 :=
    List.pairwise_map.mp ((hperm.map Prod.fst).nodup_iff.mpr hnames)
  refine (horder.and hdistinct).imp_of_mem fun {a b} ha hb hab => ?_
  obtain ⟨hle, hne⟩ := hab
  refine List.not_le.mp fun hge => hne ?_
  exact unitsUtf8_injective (hw a (mem_sortMembers.mp ha)) (hw b (mem_sortMembers.mp hb))
    (List.le_antisymm hle hge)

lemma sortedFields_names (ms : List (Units × JsValue)) :
    (sortedFields ms).map Prod.fst = ms.map Prod.fst := by
  induction ms with
  | nil => rfl
  | cons m ms ih => rw [sortedFields, List.map_cons, List.map_cons, ih]

lemma canonicalMembers_of_forall {ms : List (Bytes × JsonValue)} (h : ∀ m ∈ ms, Canonical m.2) :
    CanonicalMembers ms := by
  induction ms with
  | nil => trivial
  | cons m ms ih =>
    obtain ⟨hm, hms⟩ := List.forall_mem_cons.mp h
    exact ⟨hm, ih hms⟩

mutual

/-- A value that the tool writes is canonical to the verifier, if its objects have no name twice. -/
lemma canonical_bytes : ∀ v : JsValue, v.All WellFormed → v.Objects List.Nodup → SafeNumbers v →
    Canonical (bytesValue v)
  | .null, _, _, _ => trivial
  | .bool _, _, _, _ => trivial
  | .string _, _, _, _ => trivial
  | .number .real, _, _, hn => hn.elim
  | .number (.integer _), _, _, hn => hn
  | .array items, hw, ho, hn => canonical_bytesItems items hw ho hn
  | .object members, hw, ho, hn => by
    have hfields := canonical_bytesFields members hw ho.2 hn
    have hnames : ∀ m ∈ sortedFields members, WellFormed m.1 := fun m hm =>
      (Json.allFields_iff.mp (all_sortedFields members hw) m hm).1
    have hnodup : ((sortedFields members).map Prod.fst).Nodup := sortedFields_names members ▸ ho.1
    refine ⟨?_, canonicalMembers_of_forall ?_⟩
    · rw [Json.mapFields_eq, List.map_map, Ascending, List.pairwise_map]
      exact sortMembers_ascending hnodup hnames
    · rw [Json.mapFields_eq]
      refine List.forall_mem_map.mpr fun m hm => ?_
      exact hfields m (mem_sortMembers.mp hm)

lemma canonical_bytesItems : ∀ vs : List JsValue, Json.AllItems WellFormed vs →
    Json.ObjectsItems List.Nodup vs → SafeItems vs →
    CanonicalItems (Json.mapItems unitsUtf8 (sortedItems vs))
  | [], _, _, _ => trivial
  | v :: vs, hw, ho, hn => ⟨canonical_bytes v hw.1 ho.1 hn.1, canonical_bytesItems vs hw.2 ho.2 hn.2⟩

lemma canonical_bytesFields : ∀ ms : List (Units × JsValue), Json.AllFields WellFormed ms →
    Json.ObjectsFields List.Nodup ms → SafeFields ms →
    ∀ m ∈ sortedFields ms, Canonical (m.2.map unitsUtf8)
  | [], _, _, _ => by simp [sortedFields]
  | (_, v) :: ms, hw, ho, hn =>
    List.forall_mem_cons.mpr
      ⟨canonical_bytes v hw.2.1 ho.1 hn.1, canonical_bytesFields ms hw.2.2 ho.2 hn.2⟩

end

lemma units_wellFormed (s : String) : WellFormed (units s) := wellFormed_iff.mpr ⟨s.toList, rfl⟩

lemma unitsOf_wellFormed (s : Bytes) : WellFormed (unitsOf s) := by
  rw [unitsOf]
  cases decodeUtf8 s with
  | none => exact wellFormed_iff.mpr ⟨[], rfl⟩
  | some cs => exact wellFormed_iff.mpr ⟨cs, rfl⟩

lemma bytesValue_utf8 {v : JsValue} (h : v.All WellFormed) : (bytesValue v).All IsUtf8 := by
  obtain ⟨c, hc⟩ := utf16_chars (all_sorted v h)
  rw [bytesValue, ← hc, map_unitsUtf8]
  exact Json.Value.all_map utf8 (fun cs => ⟨cs, rfl⟩) c

lemma unitsValue_bytesValue {v : JsValue} (h : v.All WellFormed) : unitsValue (bytesValue v) = sorted v := by
  obtain ⟨c, hc⟩ := utf16_chars (all_sorted v h)
  rw [bytesValue, ← hc, map_unitsUtf8, unitsValue_map]

lemma canonicalJson_chars {v : JsValue} {t : Units} (hv : v.All WellFormed) (ht : canonicalJson v = some t) :
    ∃ cs, utf16 cs = t := by
  obtain ⟨-, rfl⟩ := (canonicalJson_iff v t hv).mp ht
  obtain ⟨c, hc⟩ := utf16_chars (all_sorted v hv)
  rw [← hc]
  exact ⟨_, (jsJson_over.print c).symm⟩

lemma decodeText_utf8 {cs : List Char} (h : ¬ utf8 [byteOrderMark] <+: utf8 cs) :
    decodeText (utf8 cs) = some (utf16 cs) := by
  have hhead : cs.head? ≠ some byteOrderMark := by
    intro he
    obtain ⟨ds, rfl⟩ := List.head?_eq_some_iff.mp he
    exact h ⟨utf8 ds, by simp [utf8]⟩
  rw [decodeText, decodeUtf8_eq_some.mpr rfl, Option.map_some, if_neg hhead]

lemma unmarked_object (members : List (Bytes × JsonValue)) :
    ¬ utf8 [byteOrderMark] <+: rapidJson.print (.object members) := by
  rintro ⟨rest, hrest⟩
  exact absurd (List.cons.inj hrest).1 (by decide)

lemma parseManifest_print {members : List (Bytes × JsonValue)} (hc : Canonical (.object members))
    (hs : (Json.Value.object members).All IsUtf8) :
    parseManifest (rapidJson.print (.object members)) = some (unitsValue (.object members)) := by
  obtain ⟨cs, hprint, hparse, htext⟩ := canonical_read hc hs
  have hmark := unmarked_object members
  rw [hprint] at hmark
  simp only [parseManifest, hprint, decodeText_utf8 hmark, Option.bind_eq_bind, Option.bind_some, hparse,
    htext, if_true]

/-- The verifier takes a manifest region for canonical exactly when the tool does, the region does not
begin with a byte order mark, and the tool's manifest is an object in which no string has a lone
surrogate. Then both read the same document. -/
theorem canonical_manifests_agree (region : Bytes) (document : JsonValue) :
    canonicalDocument region = some document ↔
      ∃ manifest, parseManifest region = some manifest ∧ (∃ members, manifest = .object members) ∧
        manifest.All WellFormed ∧ ¬ utf8 [byteOrderMark] <+: region ∧ bytesValue manifest = document := by
  rw [canonicalDocument_some]
  constructor
  · rintro ⟨⟨members, rfl⟩, hc, hs, rfl⟩
    refine ⟨unitsValue (.object members), parseManifest_print hc hs, ⟨_, rfl⟩, ?_, unmarked_object members,
      bytesValue_unitsValue hc hs⟩
    exact Json.Value.all_map unitsOf unitsOf_wellFormed _
  · rintro ⟨_, hread, ⟨members, rfl⟩, hw, hmark, rfl⟩
    obtain ⟨manifestText, hdecode, hparse, htext⟩ := parseManifest_some hread
    obtain ⟨cs, hcs, -⟩ := Option.map_eq_some_iff.mp hdecode
    obtain rfl := decodeUtf8_eq_some.mp hcs
    rw [decodeText_utf8 hmark] at hdecode
    have hsafe := ((canonicalJson_iff _ manifestText hw).mp htext).1
    exact ⟨⟨_, rfl⟩, canonical_bytes _ hw (jsJson_keeps.parse hparse) hsafe, bytesValue_utf8 hw,
      canonicalJson_text hw htext (Option.some.inj hdecode)⟩

/-- The bytes that `buildDevelopmentPackage` and `signPackage` write for a manifest without lone surrogates
are read back by the verifier and by the tool, as the manifest with its members sorted. -/
theorem written_manifests_read_back {members : List (Units × JsValue)} {manifestText : Units}
    (hnames : (Json.Value.object members).Objects List.Nodup)
    (hw : (Json.Value.object members).All WellFormed)
    (htext : canonicalJson (.object members) = some manifestText) :
    canonicalDocument (unitsUtf8 manifestText) = some (bytesValue (.object members)) ∧
      parseManifest (unitsUtf8 manifestText) = some (sorted (.object members)) := by
  obtain ⟨cs, rfl⟩ := canonicalJson_chars hw htext
  have hsafe := ((canonicalJson_iff _ _ hw).mp htext).1
  have hc := canonical_bytes _ hw hnames hsafe
  have hs := bytesValue_utf8 hw
  have hprint := canonicalJson_text hw htext rfl
  rw [unitsUtf8_utf16, hprint]
  refine ⟨canonicalDocument_some.mpr ⟨⟨_, rfl⟩, hc, hs, rfl⟩, ?_⟩
  rw [← unitsValue_bytesValue hw]
  exact parseManifest_print hc hs

def unorderedManifest : List (Units × JsValue) :=
  [(units "version", .string (units "1.0.0")), (units "files", .array [.number (.integer 420)])]

def unorderedManifestText : Units := units "\x7b\"files\":[420],\"version\":\"1.0.0\"\x7d"

theorem unordered_manifest_read_back :
    canonicalDocument (unitsUtf8 unorderedManifestText) = some (bytesValue (.object unorderedManifest)) ∧
      parseManifest (unitsUtf8 unorderedManifestText) = some (sorted (.object unorderedManifest)) :=
  written_manifests_read_back ⟨by decide, trivial, ⟨trivial, trivial⟩, trivial⟩
    ⟨units_wellFormed _, units_wellFormed _, units_wellFormed _, ⟨trivial, trivial⟩, trivial⟩
    (by decide)

end Lvapp

end LvglPlatform
