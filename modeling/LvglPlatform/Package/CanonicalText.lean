import LvglPlatform.Foundation.JsonText
import LvglPlatform.Package.Accepted

/-! Two values with one canonical text are the same value, so a manifest is known by its bytes. -/

namespace LvglPlatform

open Foundation

mutual

lemma raw_printable_of_canonical : ∀ v : JsonValue, Canonical v → rapidJson.raw.Printable v
  | .null, _ => by simp [Json.Dialect.Printable]
  | .bool _, _ => by simp [Json.Dialect.Printable]
  | .string s, _ => by
    rw [Json.Dialect.Printable]
    exact Json.Dialect.raw_readable s
  | .number .real, hc => hc.elim
  | .number (.integer _), _ => by
    rw [Json.Dialect.Printable]
    rfl
  | .array items, hc => by
    rw [Json.Dialect.Printable]
    exact raw_printableItems_of_canonical items hc
  | .object members, hc => by
    rw [Json.Dialect.Printable]
    exact ⟨rfl, raw_printableFields_of_canonical members hc.2⟩

lemma raw_printableItems_of_canonical : ∀ vs : List JsonValue, CanonicalItems vs →
    rapidJson.raw.PrintableItems vs
  | [], _ => trivial
  | v :: vs, hc => ⟨raw_printable_of_canonical v hc.1, raw_printableItems_of_canonical vs hc.2⟩

lemma raw_printableFields_of_canonical : ∀ ms : List (Bytes × JsonValue), CanonicalMembers ms →
    rapidJson.raw.PrintableFields ms
  | [], _ => trivial
  | (name, v) :: ms, hc => ⟨Json.Dialect.raw_readable name, raw_printable_of_canonical v hc.1,
      raw_printableFields_of_canonical ms hc.2⟩

end

lemma canonicalJson_injective {v w : JsonValue} {t : Bytes} (hv : canonicalJson v = some t)
    (hw : canonicalJson w = some t) : v = w := by
  obtain ⟨hcv, htv⟩ := (canonicalJson_iff v t).mp hv
  obtain ⟨hcw, htw⟩ := (canonicalJson_iff w t).mp hw
  apply Json.Dialect.print_injective (D := rapidJson)
  · exact raw_printable_of_canonical v hcv
  · exact raw_printable_of_canonical w hcw
  · exact htv.symm.trans htw

lemma canonicalString_injective : Function.Injective canonicalString := by
  intro s t h
  rw [canonicalString_eq, canonicalString_eq] at h
  exact Json.Dialect.quote_injective h

lemma manifestText_injective {manifest other : VerifiedPackageManifest}
    (hm : ValidManifest manifest) (ho : ValidManifest other)
    (h : manifestText manifest = manifestText other) : manifest = other := by
  have hcm := manifestValue_canonical hm
  have hco := manifestValue_canonical ho
  have hvalue : manifestValue manifest = manifestValue other :=
    canonicalJson_injective ((canonicalJson_iff _ _).mpr ⟨hcm, rfl⟩)
      ((canonicalJson_iff _ _).mpr ⟨hco, h⟩)
  have hparse := (parseManifest_some hcm).mpr ⟨rfl, hm⟩
  rw [hvalue, (parseManifest_some hco).mpr ⟨rfl, ho⟩] at hparse
  exact (Option.some.inj hparse).symm

theorem canonical_text_determines_value :
    (∀ (v w : JsonValue) (t : Bytes), canonicalJson v = some t → canonicalJson w = some t → v = w) ∧
    Function.Injective canonicalString ∧
    (∀ (v : JsonValue) (t : Bytes), canonicalJson v = some t → Canonical v) ∧
    (∀ (members : List (Bytes × JsonValue)) (t : Bytes), canonicalJson (.object members) = some t →
      (members.map Prod.fst).Pairwise (· < ·) ∧ (members.map Prod.fst).Nodup) ∧
    (∀ manifest other : VerifiedPackageManifest, ValidManifest manifest → ValidManifest other →
      manifestText manifest = manifestText other → manifest = other) := by
  refine ⟨fun v w t => canonicalJson_injective, canonicalString_injective, ?_, ?_,
    fun manifest other => manifestText_injective⟩
  · intro v t h
    exact ((canonicalJson_iff v t).mp h).1
  · intro members t h
    obtain ⟨⟨hascending, -⟩, -⟩ := (canonicalJson_iff _ t).mp h
    refine ⟨hascending, List.Pairwise.imp ?_ hascending⟩
    rintro name _ hlt rfl
    exact List.lt_irrefl name hlt

def demoMembers : List (Bytes × JsonValue) := [(text "a", .null), (text "b", .bool true)]

theorem demo_members_ascend : canonicalJson (.object demoMembers) = some (text "\x7b\"a\":null,\"b\":true\x7d") ∧
    (demoMembers.map Prod.fst).Pairwise (· < ·) ∧ (demoMembers.map Prod.fst).Nodup := by
  have htext : canonicalJson (.object demoMembers) = some (text "\x7b\"a\":null,\"b\":true\x7d") := by
    decide
  exact ⟨htext, canonical_text_determines_value.2.2.2.1 demoMembers _ htext⟩

end LvglPlatform
