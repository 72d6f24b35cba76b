import LvglPlatform.Package.InstallPolicy

namespace LvglPlatform

open Foundation

section

variable {c : UInt8} {number result : UInt64} {read component : Bytes}

lemma isDigit_iff : isDigit c = true ↔ ¬(c < chr '0' ∨ c > chr '9') := by
  rw [isDigit, Bool.and_eq_true, decide_eq_true_eq, decide_eq_true_eq, not_or, UInt8.not_lt, UInt8.not_lt]

lemma digit_toNat (h : isDigit c = true) :
    (c - chr '0').toUInt32.toNat = c.toNat - 48 ∧ c.toNat - 48 ≤ 9 := by
  rw [isDigit, Bool.and_eq_true, decide_eq_true_eq, decide_eq_true_eq] at h
  have hhigh : c.toNat ≤ 57 := UInt8.le_iff_toNat_le.mp h.2
  refine ⟨?_, by omega⟩
  rw [UInt8.toNat_toUInt32, UInt8.toNat_sub_of_le _ _ h.1]
  rfl

/-- The guard lets a digit pass exactly if the number with it fits. -/
lemma guard_iff (h : isDigit c = true) :
    number > ((4294967295 - (c - chr '0').toUInt32) / 10).toUInt64 ↔
      2 ^ 32 ≤ number.toNat * 10 + (c.toNat - 48) := by
  obtain ⟨hdigit, hle⟩ := digit_toNat h
  have hsub : (c - chr '0').toUInt32 ≤ 4294967295 := by
    apply UInt32.le_iff_toNat_le.mpr
    rw [hdigit]
    exact hle.trans (by decide)
  rw [gt_iff_lt, UInt64.lt_iff_toNat_lt, UInt32.toNat_toUInt64, UInt32.toNat_div, UInt32.toNat_sub_of_le _ _ hsub,
    hdigit]
  exact div_lt_iff_exceeds (hle.trans (by decide))

lemma next_toNat (h : isDigit c = true) (hnumber : number.toNat < 2 ^ 32) :
    (number * 10 + (c - chr '0').toUInt32.toUInt64).toNat = number.toNat * 10 + (c.toNat - 48) := by
  obtain ⟨hdigit, hle⟩ := digit_toNat h
  have hproduct : (number * 10).toNat = number.toNat * 10 := by
    rw [UInt64.toNat_mul]
    apply Nat.mod_eq_of_lt
    change number.toNat * 10 < 2 ^ 64
    omega
  rw [UInt64.toNat_add, hproduct, UInt32.toNat_toUInt64, hdigit, Nat.mod_eq_of_lt (by omega)]

lemma versionNumber_append (rest : Bytes) : versionNumber number (read ++ rest) =
    (versionNumber number read).bind fun next => versionNumber next rest := by
  induction read generalizing number with
  | nil => rfl
  | cons c read ih =>
    rw [List.cons_append, versionNumber, versionNumber]
    dsimp only
    split
    · rfl
    · split
      · rfl
      · exact ih

lemma versionNumber_eq_some (hnumber : number.toNat < 2 ^ 32) : versionNumber number component = some result ↔
    (∀ c ∈ component, isDigit c = true) ∧ digitsFrom number.toNat component < 2 ^ 32 ∧
      result.toNat = digitsFrom number.toNat component := by
  induction component generalizing number with
  | nil =>
    rw [versionNumber, Option.some_inj, ← UInt64.toNat_inj, eq_comm]
    exact ⟨fun h => ⟨List.forall_mem_nil _, hnumber, h⟩, fun h => h.2.2⟩
  | cons c component ih =>
    rw [versionNumber, List.forall_mem_cons, digitsFrom_cons, Nat.mul_comm]
    dsimp only
    by_cases hc : isDigit c = true
    · rw [if_neg (isDigit_iff.mp hc)]
      by_cases hfits : number.toNat * 10 + (c.toNat - 48) < 2 ^ 32
      · rw [if_neg (mt (guard_iff hc).mp (Nat.not_le.mpr hfits)), ih (by rwa [next_toNat hc hnumber]),
          next_toNat hc hnumber, and_iff_right hc]
      · have hle := le_digitsFrom (number.toNat * 10 + (c.toNat - 48)) component
        rw [if_pos ((guard_iff hc).mpr (Nat.not_lt.mp hfits))]
        exact iff_of_false (Option.some_ne_none _).symm fun h => hfits (hle.trans_lt h.2.1)
    · rw [if_pos (not_not.mp (mt isDigit_iff.mpr hc))]
      exact iff_of_false (Option.some_ne_none _).symm fun h => hc h.1.1

end

def DecimalPart (part : Bytes) : Prop := part ≠ [] ∧ ∀ c ∈ part, isDigit c = true

instance (part : Bytes) : Decidable (DecimalPart part) :=
  inferInstanceAs (Decidable (part ≠ [] ∧ ∀ c ∈ part, isDigit c = true))

lemma DecimalPart.dot_notMem {part : Bytes} (h : DecimalPart part) : chr '.' ∉ part :=
  fun hdot => absurd (h.2 _ hdot) (by decide)

def WordPart (part : Bytes) : Prop := DecimalPart part ∧ digitsValue part < 2 ^ 32

lemma wordPart_iff {part : Bytes} (hne : part ≠ []) :
    WordPart part ↔ ∃ number, versionNumber 0 part = some number := by
  constructor
  · rintro ⟨⟨-, hdigits⟩, hfits⟩
    refine ⟨UInt64.ofNat (digitsValue part), ?_⟩
    refine (versionNumber_eq_some (by decide)).mpr ⟨hdigits, hfits, ?_⟩
    exact UInt64.toNat_ofNat_of_lt' (hfits.trans (by decide))
  · rintro ⟨number, hnumber⟩
    obtain ⟨hdigits, hfits, -⟩ := (versionNumber_eq_some (by decide)).mp hnumber
    exact ⟨⟨hne, hdigits⟩, hfits⟩

lemma versionNumber_word {part : Bytes} {number : UInt64} (h : versionNumber 0 part = some number) :
    number.toUInt32 = UInt32.ofNat (digitsValue part) := by
  obtain ⟨-, hfits, hvalue⟩ := (versionNumber_eq_some (by decide)).mp h
  apply UInt32.toNat_inj.mp
  rw [UInt64.toNat_toUInt32, hvalue, UInt32.toNat_ofNat']
  rfl

section

variable {value field rest : Bytes} {part start : ℕ} {parts : List ℕ} {output result : Vector UInt32 3}

lemma versionComponents_round {stop : Option ℕ} (hstop : findFrom (chr '.') value start = stop)
    (hdots : ¬(part < 2 ∧ stop = none ∨ part = 2 ∧ stop ≠ none))
    (hfield : slice value start (stop.getD value.length - start) = field) :
    versionComponents value (part :: parts) start output = (true, result) ↔
      WordPart field ∧ versionComponents value parts ((stop.map (· + 1)).getD value.length)
        (output.setIfInBounds part (UInt32.ofNat (digitsValue field))) = (true, result) := by
  rw [versionComponents, hstop]
  dsimp only
  rw [if_neg hdots, hfield]
  by_cases hempty : field = []
  · rw [if_pos hempty]
    exact iff_of_false (fun h => Bool.false_ne_true (congrArg Prod.fst h)) fun h => h.1.1.1 hempty
  · rw [if_neg hempty, wordPart_iff hempty]
    cases hnumber : versionNumber 0 field with
    | none =>
      refine iff_of_false (fun h => Bool.false_ne_true (congrArg Prod.fst h)) ?_
      rintro ⟨⟨number, hsome⟩, -⟩
      cases hsome
    | some number =>
      dsimp only
      rw [versionNumber_word hnumber]
      exact ⟨fun h => ⟨⟨number, rfl⟩, h⟩, fun h => h.2⟩

lemma versionComponents_dotted (hfield : value.drop start = field ++ chr '.' :: rest) (hfree : chr '.' ∉ field)
    (hpart : part < 2) : versionComponents value (part :: parts) start output = (true, result) ↔
      WordPart field ∧ versionComponents value parts (start + field.length + 1)
        (output.setIfInBounds part (UInt32.ofNat (digitsValue field))) = (true, result) := by
  apply versionComponents_round (findFrom_of_field hfield hfree)
  · simp [hpart.ne]
  · rw [slice, hfield, Option.getD_some, Nat.add_sub_cancel_left, List.take_left]

lemma versionComponents_last (hfree : chr '.' ∉ value.drop start) :
    versionComponents value [2] start output = (true, result) ↔ WordPart (value.drop start) ∧
      output.setIfInBounds 2 (UInt32.ofNat (digitsValue (value.drop start))) = result := by
  have hfield : slice value start ((none : Option ℕ).getD value.length - start) = value.drop start := by
    rw [slice, Option.getD_none, List.take_of_length_le (List.length_drop).le]
  rw [versionComponents_round (findFrom_eq_none.mpr hfree) (by simp) hfield]
  simp only [versionComponents, Option.map_none, Option.getD_none, decide_true, Prod.mk.injEq, true_and]

lemma versionComponents_dots (h : (versionComponents value (part :: parts) start output).1 = true) :
    (part < 2 → chr '.' ∈ value.drop start) ∧ (part = 2 → chr '.' ∉ value.drop start) := by
  rw [versionComponents] at h
  dsimp only at h
  split at h <;> rename_i hstop
  · cases h
  · obtain ⟨hbefore, hlast⟩ := not_or.mp hstop
    refine ⟨fun hpart => ?_, fun hpart => ?_⟩
    · by_contra hfree
      exact hbefore ⟨hpart, findFrom_eq_none.mpr hfree⟩
    · exact findFrom_eq_none.mp (not_not.mp (not_and.mp hlast hpart))

lemma take_setIfInBounds (hpart : part < 3) (number : UInt32) :
    (output.setIfInBounds part number).toList.take (part + 1) = output.toList.take part ++ [number] := by
  have hlength : part < (output.toList.set part number).length := by
    rwa [List.length_set, Vector.length_toList]
  rw [Vector.toList_setIfInBounds, List.take_succ_eq_append_getElem hlength, List.take_set_of_le le_rfl,
    List.getElem_set_self]

lemma versionComponents_last_iff : versionComponents value [2] start output = (true, result) ↔
    WordPart (value.drop start) ∧
      result.toList = output.toList.take 2 ++ [UInt32.ofNat (digitsValue (value.drop start))] := by
  have htake : (output.setIfInBounds 2 (UInt32.ofNat (digitsValue (value.drop start)))).toList =
      output.toList.take 2 ++ [UInt32.ofNat (digitsValue (value.drop start))] := by
    rw [← take_setIfInBounds (by decide), List.take_of_length_le (by rw [Vector.length_toList])]
  rw [← htake, Vector.toList_inj]
  constructor
  · intro h
    obtain ⟨hword, hresult⟩ := (versionComponents_last ((versionComponents_dots (congrArg Prod.fst h)).2 rfl)).mp h
    exact ⟨hword, hresult.symm⟩
  · rintro ⟨hword, hresult⟩
    exact (versionComponents_last hword.1.dot_notMem).mpr ⟨hword, hresult.symm⟩

/-- What the rounds from a part on read, by induction on the number of parts that are left after it. -/
lemma versionComponents_iff {left : ℕ} (hleft : part + left = 2) :
    versionComponents value (List.range' part (left + 1)) start output = (true, result) ↔
      ∃ fields, value.drop start = [chr '.'].intercalate fields ∧ fields.length = left + 1 ∧
        (∀ field ∈ fields, WordPart field) ∧ result.toList =
          output.toList.take part ++ fields.map fun field => UInt32.ofNat (digitsValue field) := by
  induction left generalizing part start output with
  | zero =>
    obtain rfl : part = 2 := hleft
    refine versionComponents_last_iff.trans ?_
    constructor
    · rintro ⟨hword, hresult⟩
      exact ⟨[value.drop start], List.intercalate_singleton.symm, rfl, List.forall_mem_singleton.mpr hword, hresult⟩
    · rintro ⟨fields, hjoined, hlength, hwords, hresult⟩
      obtain ⟨field, rfl⟩ := List.length_eq_one_iff.mp hlength
      rw [List.intercalate_singleton] at hjoined
      rw [hjoined]
      exact ⟨List.forall_mem_singleton.mp hwords, hresult⟩
  | succ left ih =>
    have hpart : part < 2 := by omega
    rw [List.range'_succ]
    constructor
    · intro h
      have hdot := (versionComponents_dots (congrArg Prod.fst h)).1 hpart
      obtain ⟨field, rest, hfield, hfree⟩ := List.eq_append_cons_of_mem hdot
      obtain ⟨hword, hrest⟩ := (versionComponents_dotted hfield hfree hpart).mp h
      obtain ⟨fields, hjoined, hlength, hwords, hresult⟩ := (ih (by omega)).mp hrest
      have hfields : fields ≠ [] := List.ne_nil_of_length_eq_add_one hlength
      rw [drop_field hfield] at hjoined
      refine ⟨field :: fields, ?_, by rw [List.length_cons, hlength], List.forall_mem_cons.mpr ⟨hword, hwords⟩, ?_⟩
      · rw [hfield, List.intercalate_cons_of_ne_nil hfields, hjoined, List.append_assoc, List.singleton_append]
      · rw [hresult, take_setIfInBounds (by omega), List.append_assoc]
        rfl
    · rintro ⟨fields, hjoined, hlength, hwords, hresult⟩
      obtain ⟨field, others, rfl⟩ := List.exists_cons_of_length_eq_add_one hlength
      have hothers : others.length = left + 1 := Nat.succ.inj hlength
      obtain ⟨hword, hwords⟩ := List.forall_mem_cons.mp hwords
      rw [List.intercalate_cons_of_ne_nil (List.ne_nil_of_length_eq_add_one hothers), List.append_assoc,
        List.singleton_append] at hjoined
      rw [versionComponents_dotted hjoined hword.1.dot_notMem hpart]
      refine ⟨hword, (ih (by omega)).mpr ⟨others, drop_field hjoined, hothers, hwords, ?_⟩⟩
      rw [hresult, take_setIfInBounds (by omega), List.append_assoc]
      rfl

end

structure VersionText (value : Bytes) (parts : List Bytes) : Prop where
  joined : value = [chr '.'].intercalate parts
  three : parts.length = 3
  decimal : ∀ part ∈ parts, DecimalPart part

def VersionFits (parts : List Bytes) : Prop := ∀ part ∈ parts, digitsValue part < 2 ^ 32

instance (parts : List Bytes) : Decidable (VersionFits parts) :=
  inferInstanceAs (Decidable (∀ part ∈ parts, digitsValue part < 2 ^ 32))

section

variable {value : Bytes} {parts : List Bytes} {output result : Vector UInt32 3}

lemma VersionText.splitOn_eq (h : VersionText value parts) : value.splitOn (chr '.') = parts := by
  rw [h.joined]
  apply List.splitOn_intercalate
  · exact fun part hpart => (h.decimal part hpart).dot_notMem
  · exact List.ne_nil_of_length_eq_add_one h.three

lemma VersionText.unique {others : List Bytes} (h : VersionText value parts) (ho : VersionText value others) :
    parts = others :=
  h.splitOn_eq.symm.trans ho.splitOn_eq

lemma parseVersion_iff : parseVersion value output = (true, result) ↔
    ∃ parts, VersionText value parts ∧ VersionFits parts ∧
      result.toList = parts.map fun part => UInt32.ofNat (digitsValue part) := by
  rw [parseVersion, List.range_eq_range', versionComponents_iff (Nat.zero_add 2)]
  constructor
  · rintro ⟨parts, hjoined, hlength, hwords, hresult⟩
    exact ⟨parts, ⟨hjoined, hlength, fun part hpart => (hwords part hpart).1⟩,
      fun part hpart => (hwords part hpart).2, hresult⟩
  · rintro ⟨parts, ⟨hjoined, hlength, hdecimal⟩, hfits, hresult⟩
    exact ⟨parts, hjoined, hlength, fun part hpart => ⟨hdecimal part hpart, hfits part hpart⟩, hresult⟩

lemma parseVersion_accepts : (parseVersion value output).1 = true ↔
    ∃ parts, VersionText value parts ∧ VersionFits parts := by
  constructor
  · intro h
    obtain ⟨parts, htext, hfits, -⟩ := parseVersion_iff.mp (Prod.ext h rfl : _ = (true, (parseVersion value output).2))
    exact ⟨parts, htext, hfits⟩
  · rintro ⟨parts, htext, hfits⟩
    have hlength : (parts.map fun part => UInt32.ofNat (digitsValue part)).length = 3 := by
      rw [List.length_map, htext.three]
    have hparsed : parseVersion value output = (true, ⟨_, hlength⟩) :=
      parseVersion_iff.mpr ⟨parts, htext, hfits, rfl⟩
    exact congrArg Prod.fst hparsed

lemma parseVersion_values (htext : VersionText value parts) (h : (parseVersion value output).1 = true) :
    (parseVersion value output).2.toList.map UInt32.toNat = parts.map digitsValue := by
  obtain ⟨others, hothers, hfits, hresult⟩ :=
    parseVersion_iff.mp (Prod.ext h rfl : _ = (true, (parseVersion value output).2))
  obtain rfl := htext.unique hothers
  rw [hresult, List.map_map]
  refine List.map_congr_left fun part hpart => ?_
  exact UInt32.toNat_ofNat_of_lt' (hfits part hpart)

lemma versionAtLeast_iff {actual minimum : Bytes} {actualParts minimumParts : List Bytes}
    (hactual : VersionText actual actualParts) (hminimum : VersionText minimum minimumParts) :
    versionAtLeast actual minimum = true ↔ VersionFits actualParts ∧ VersionFits minimumParts ∧
      minimumParts.map digitsValue ≤ actualParts.map digitsValue := by
  have hfits : ∀ {value : Bytes} {parts : List Bytes}, VersionText value parts →
      ((parseVersion value (.replicate 3 0)).1 = true ↔ VersionFits parts) := by
    intro value parts htext
    rw [parseVersion_accepts]
    constructor
    · rintro ⟨others, hothers, hfits⟩
      exact htext.unique hothers ▸ hfits
    · exact fun hfits => ⟨parts, htext, hfits⟩
  rw [versionAtLeast, Bool.and_eq_true, Bool.and_eq_true, decide_eq_true_eq, and_assoc]
  rw [← hfits hactual, ← hfits hminimum]
  refine and_congr_right fun hactualFits => and_congr_right fun hminimumFits => ?_
  rw [← parseVersion_values hactual hactualFits, ← parseVersion_values hminimum hminimumFits]
  rw [← List.not_lt, ← not_lt]
  exact not_congr (map_lt_map UInt32.lt_iff_toNat_lt.symm fun _ _ => UInt32.toNat_inj.mp).symm

end

/-- The scan of the verifier, by the parts of what it has not seen yet. -/
lemma versionScan_iff {value first : Bytes} {others : List Bytes} {dots : ℕ} {digit : Bool}
    (hparts : value.splitOn (chr '.') = first :: others) : versionScan dots digit value = true ↔
      dots + others.length = 2 ∧ (digit = true ∨ first ≠ []) ∧ (∀ part ∈ others, part ≠ []) ∧
        ∀ part ∈ first :: others, ∀ c ∈ part, isDigit c = true := by
  induction value generalizing first others dots digit with
  | nil =>
    obtain ⟨rfl, rfl⟩ := List.cons.inj hparts
    rw [versionScan, Bool.and_eq_true, decide_eq_true_eq]
    simp
  | cons c value ih =>
    obtain ⟨next, rest, hnext⟩ := List.exists_cons_of_ne_nil (List.splitOn_ne_nil (chr '.') value)
    rw [List.splitOn_cons_eq_if_modifyHead, hnext] at hparts
    rw [versionScan]
    by_cases hdot : c = chr '.'
    · rw [if_pos (beq_iff_eq.mpr hdot)] at hparts
      obtain ⟨rfl, rfl⟩ := List.cons.inj hparts
      rw [if_pos hdot]
      cases digit with
      | false => simp
      | true =>
        rw [if_neg (by simp), ih hnext, List.length_cons, Nat.add_right_comm, Nat.add_assoc dots]
        simp only [Bool.false_eq_true, false_or, true_or, true_and, List.not_mem_nil, false_imp_iff, implies_true,
          List.forall_mem_cons, and_assoc]
    · rw [if_neg (by simpa using hdot), List.modifyHead_cons] at hparts
      obtain ⟨rfl, rfl⟩ := List.cons.inj hparts
      rw [if_neg hdot]
      by_cases hdigit : isDigit c = true
      · rw [if_pos hdigit, ih hnext]
        simp [hdigit]
      · rw [if_neg hdigit]
        exact iff_of_false Bool.false_ne_true fun h => hdigit (h.2.2.2 _ List.mem_cons_self _ List.mem_cons_self)

lemma semanticVersion_iff {value : Bytes} :
    semanticVersion value = true ↔ value.length ≤ 32 ∧ ∃ parts, VersionText value parts := by
  obtain ⟨first, others, hparts⟩ := List.exists_cons_of_ne_nil (List.splitOn_ne_nil (chr '.') value)
  have hscan : versionScan 0 false value = true ↔ ∃ parts, VersionText value parts := by
    rw [versionScan_iff hparts]
    constructor
    · rintro ⟨hlength, hfirst, hothers, hdigits⟩
      have hne : ∀ part ∈ first :: others, part ≠ [] :=
        List.forall_mem_cons.mpr ⟨hfirst.resolve_left Bool.false_ne_true, hothers⟩
      refine ⟨first :: others, ?_, by rw [List.length_cons]; omega, fun part hpart => ?_⟩
      · rw [← hparts, List.intercalate_splitOn]
      · exact ⟨hne part hpart, hdigits part hpart⟩
    · rintro ⟨parts, htext⟩
      obtain rfl : parts = first :: others := htext.splitOn_eq.symm.trans hparts
      obtain ⟨hfirst, hothers⟩ := List.forall_mem_cons.mp htext.decimal
      refine ⟨?_, .inr hfirst.1, fun part hpart => (hothers part hpart).1, fun part hpart =>
        (htext.decimal part hpart).2⟩
      rw [Nat.zero_add]
      exact Nat.succ.inj htext.three
  rw [semanticVersion]
  by_cases hsize : value = [] ∨ value.length > 32
  · rw [if_pos hsize]
    refine iff_of_false Bool.false_ne_true ?_
    rintro ⟨hlength, htext⟩
    obtain rfl := hsize.resolve_right (Nat.not_lt.mpr hlength)
    exact Bool.false_ne_true (hscan.mpr htext)
  · rw [if_neg hsize, hscan, and_iff_right (Nat.not_lt.mp (not_or.mp hsize).2)]

/-- `parse_version` reads the texts of three numbers that fit into 32 bits, and no others. The number in hand
after any digits is theirs, and one digit more does not wrap around. On what the verifier lets through the versions
are compared number by number, and a number that does not fit is refused. -/
theorem version_comparison :
    (∀ value output, (parseVersion value output).1 = true ↔
      ∃ parts, VersionText value parts ∧ VersionFits parts) ∧
    (∀ value output parts, VersionText value parts → VersionFits parts →
      (parseVersion value output).2.toList.map UInt32.toNat = parts.map digitsValue) ∧
    (∀ read number, versionNumber 0 read = some number →
      number.toNat = digitsValue read ∧ number.toNat < 2 ^ 32 ∧
        (∀ c, isDigit c = true → (number * 10 + (c - chr '0').toUInt32.toUInt64).toNat =
          number.toNat * 10 + (c.toNat - 48)) ∧
        ∀ rest, versionNumber 0 (read ++ rest) = versionNumber number rest) ∧
    ∀ actual minimum, semanticVersion actual = true → semanticVersion minimum = true →
      ∃ actualParts minimumParts, VersionText actual actualParts ∧ VersionText minimum minimumParts ∧
        (versionAtLeast actual minimum = true ↔ VersionFits actualParts ∧ VersionFits minimumParts ∧
          minimumParts.map digitsValue ≤ actualParts.map digitsValue) := by
  refine ⟨fun value output => parseVersion_accepts, fun value output parts htext hfits => ?_,
    fun read number hread => ?_, fun actual minimum hactual hminimum => ?_⟩
  · exact parseVersion_values htext (parseVersion_accepts.mpr ⟨parts, htext, hfits⟩)
  · obtain ⟨-, hfits, hvalue⟩ := (versionNumber_eq_some (by decide)).mp hread
    have hsmall : number.toNat < 2 ^ 32 := hvalue ▸ hfits
    refine ⟨hvalue, hsmall, fun c hc => next_toNat hc hsmall, fun rest => ?_⟩
    rw [versionNumber_append, hread, Option.bind_some]
  · obtain ⟨-, actualParts, hactual⟩ := semanticVersion_iff.mp hactual
    obtain ⟨-, minimumParts, hminimum⟩ := semanticVersion_iff.mp hminimum
    exact ⟨actualParts, minimumParts, hactual, hminimum, versionAtLeast_iff hactual hminimum⟩

theorem largest_version_read :
    (parseVersion (text "4294967295.0.01") (.replicate 3 0)).2.toList.map UInt32.toNat = [4294967295, 0, 1] :=
  version_comparison.2.1 _ _ [text "4294967295", text "0", text "01"]
    ⟨by decide +kernel, by decide, by decide +kernel⟩ (by decide +kernel)

end LvglPlatform
