import LvglPlatform.Foundation.KeyLines

namespace Foundation

def setting (field : Bytes × Bytes) : Bytes := field.1 ++ chr '=' :: field.2

/-- What a process is passed of a string. -/
def cString (s : Bytes) : Bytes := s.takeWhile (· ≠ 0)

def getenv (environment : List Bytes) (name : Bytes) : Option Bytes :=
  ((environment.filterMap (splitFirst (chr '='))).find? fun field => field.1 = name).map Prod.snd

section

variable {s t name value : Bytes} {settings : List (Bytes × Bytes)}

lemma cString_eq (h : 0 ∉ s) : cString s = s := by
  rw [cString, List.takeWhile_eq_self_iff]
  intro c hc
  refine decide_eq_true ?_
  rintro rfl
  exact h hc

lemma cString_append (h : 0 ∉ s) : cString (s ++ t) = s ++ cString t := by
  refine List.takeWhile_append_of_pos fun c hc => decide_eq_true ?_
  rintro rfl
  exact h hc

lemma splitFirst_setting {field : Bytes × Bytes} (hseparator : chr '=' ∉ field.1) (hzero : 0 ∉ field.1) :
    splitFirst (chr '=') (cString (setting field)) = some (field.1, cString field.2) := by
  have hequals : cString (chr '=' :: field.2) = chr '=' :: cString field.2 := List.takeWhile_cons_of_pos (by decide)
  rw [setting, cString_append hzero, hequals, splitFirst_append hseparator]

lemma getenv_of_mem (hnames : (settings.map Prod.fst).Nodup)
    (hplain : ∀ other ∈ settings.map Prod.fst, chr '=' ∉ other ∧ 0 ∉ other) (h : (name, value) ∈ settings)
    (hvalue : 0 ∉ value) (rest : List Bytes) :
    getenv ((settings.map setting ++ rest).map cString) name = some value := by
  have hread : ((settings.map setting).map cString).filterMap (splitFirst (chr '=')) =
      settings.map fun field => (field.1, cString field.2) := by
    rw [List.map_map, List.filterMap_map, ← List.filterMap_eq_map]
    refine List.filterMap_congr fun field hfield => ?_
    obtain ⟨hseparator, hzero⟩ := hplain field.1 (List.mem_map_of_mem hfield)
    exact splitFirst_setting hseparator hzero
  have hfind := @find?_key _ _ _ (settings.map fun field => (field.1, cString field.2)) name value
    (by rwa [List.map_map]) (List.mem_map.mpr ⟨_, h, by rw [cString_eq hvalue]⟩)
  rw [getenv, List.map_append, List.filterMap_append, hread, List.find?_append, hfind]
  rfl

end

end Foundation
