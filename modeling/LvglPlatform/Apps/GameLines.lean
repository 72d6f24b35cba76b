import LvglPlatform.Apps.GameMoves
import LvglPlatform.Foundation.PairMerge

/-! The tiles of one line: the values and the motions of a move come from the same pairs of equal tiles. -/

namespace LvglPlatform

open Foundation

def mergedTile (value : UInt16) : UInt16 := if value ≤ 65535 / 2 then value * 2 else value

def landedTile : Piece UInt16 → UInt16
  | .single value => value
  | .pair value _ => mergedTile value

def pieceScore : Piece UInt16 → UInt32
  | .single _ => 0
  | .pair value _ => (mergedTile value).toUInt32

/-- The part of `collapseTiles` that a piece has. -/
def place (result : LineMove) (x : Piece UInt16 × ℕ) : LineMove :=
  match x.1 with
  | .single value => { result with values := result.values.setIfInBounds x.2 value }
  | .pair value _ => { result with
    values := result.values.setIfInBounds x.2 (mergedTile value)
    scoreDelta := result.scoreDelta + (mergedTile value).toUInt32
    mergeMask := result.mergeMask ||| (1 <<< UInt8.ofNat x.2) }

lemma collapseTiles_eq (result : LineMove) (output : ℕ) (compact : List UInt16) :
    collapseTiles result output compact = ((pieces id compact).zipIdx output).foldl place result := by
  induction result, output, compact using collapseTiles.induct with
  | case1 => rfl
  | case2 => rfl
  | case3 result output value rest merged ih =>
    rw [collapseTiles, if_pos rfl, pieces, if_pos rfl, List.zipIdx_cons, List.foldl_cons]
    exact ih
  | case4 result output value next rest hne ih =>
    have hkey : id next ≠ id value := hne
    rw [collapseTiles, if_neg hne, pieces, if_neg hkey, List.zipIdx_cons, List.foldl_cons]
    exact ih

lemma place_values (result : LineMove) (x : Piece UInt16 × ℕ) :
    (place result x).values = result.values.setIfInBounds x.2 (landedTile x.1) := by
  obtain ⟨p, k⟩ := x
  cases p <;> rfl

lemma place_score (result : LineMove) (x : Piece UInt16 × ℕ) :
    (place result x).scoreDelta = result.scoreDelta + pieceScore x.1 := by
  obtain ⟨p, k⟩ := x
  cases p
  · exact (UInt32.add_zero _).symm
  · rfl

lemma foldl_place_values (ps : List (Piece UInt16)) (result : LineMove) (output : ℕ) (k : Fin 4) :
    ((ps.zipIdx output).foldl place result).values.get k =
      if output ≤ k then (ps[k - output]?).elim (result.values.get k) landedTile else result.values.get k := by
  induction ps generalizing result output with
  | nil => simp
  | cons p ps ih =>
    rw [List.zipIdx_cons, List.foldl_cons, ih, place_values]
    have hset : (result.values.setIfInBounds output (landedTile p)).get k =
        if output = k then landedTile p else result.values.get k := Vector.getElem_setIfInBounds _
    dsimp only
    rw [hset]
    rcases lt_trichotomy output k.val with hlt | heq | hgt
    · rw [if_pos (by omega), if_pos hlt.le, if_neg hlt.ne, show k.val - output = (k.val - (output + 1)) + 1 by omega]
      rfl
    · rw [if_neg (by omega), if_pos heq, if_pos heq.le, heq, Nat.sub_self]
      rfl
    · rw [if_neg (by omega), if_neg hgt.ne', if_neg (by omega)]

lemma foldl_place_score (ps : List (Piece UInt16)) (result : LineMove) (output : ℕ) :
    ((ps.zipIdx output).foldl place result).scoreDelta = result.scoreDelta + (ps.map pieceScore).sum := by
  induction ps generalizing result output with
  | nil => exact (UInt32.add_zero _).symm
  | cons p ps ih =>
    rw [List.zipIdx_cons, List.foldl_cons, ih, place_score, List.map_cons, List.sum_cons, add_assoc]

def linePieces (input : Vector UInt16 4) : List (Piece UInt16) :=
  pieces id (input.toList.filter (· ≠ 0))

lemma collapseLine_get (input : Vector UInt16 4) (k : Fin 4) :
    (collapseLine input).values.get k = ((linePieces input)[k.val]?).elim 0 landedTile := by
  rw [collapseLine]
  dsimp only
  rw [collapseTiles_eq, foldl_place_values, if_pos (Nat.zero_le _), Nat.sub_zero, linePieces]
  congr 1
  exact Vector.getElem_replicate _

lemma collapseLine_score (input : Vector UInt16 4) :
    (collapseLine input).scoreDelta = ((linePieces input).map pieceScore).sum := by
  rw [collapseLine]
  dsimp only
  rw [collapseTiles_eq, foldl_place_score, linePieces]
  exact UInt32.zero_add _

lemma mergedTile_ne_zero {value : UInt16} (h : value ≠ 0) : mergedTile value ≠ 0 := by
  rw [mergedTile]
  split <;> rename_i hsmall
  · have hbound : value.toNat ≤ 32767 := UInt16.le_iff_toNat_le.mp hsmall
    have hpositive : value.toNat ≠ 0 := fun he => h (UInt16.toNat_inj.mp he)
    intro hzero
    have hdouble := congrArg UInt16.toNat hzero
    rw [UInt16.toNat_mul, Nat.mod_eq_of_lt (by simp; omega)] at hdouble
    simp only [UInt16.toNat_ofNat, Nat.reducePow, Nat.reduceMod] at hdouble
    omega
  · exact h

section

variable {input : Vector UInt16 4}

lemma landedTile_ne_zero {p : Piece UInt16} (h : p ∈ linePieces input) : landedTile p ≠ 0 := by
  have hfirst : p.first ∈ input.toList.filter (· ≠ 0) := by
    rw [← pieces_flatten id (input.toList.filter (· ≠ 0))]
    exact List.mem_flatMap.mpr ⟨p, h, p.first_mem⟩
  have hne : p.first ≠ 0 := by simpa using (List.mem_filter.mp hfirst).2
  cases p
  · exact hne
  · exact mergedTile_ne_zero hne

lemma linePieces_length_le : (linePieces input).length ≤ 4 :=
  (pieces_length_le _ _).trans ((List.length_filter_le _ _).trans_eq input.length_toList)

lemma collapseLine_toList (input : Vector UInt16 4) : (collapseLine input).values.toList =
    (linePieces input).map landedTile ++ List.replicate (4 - (linePieces input).length) 0 := by
  have hle : (linePieces input).length ≤ 4 := linePieces_length_le
  apply List.ext_getElem
  · simp only [Vector.length_toList, List.length_append, List.length_map, List.length_replicate]
    omega
  · intro k hk _
    rw [Vector.length_toList] at hk
    rw [Vector.getElem_toList]
    refine (collapseLine_get input ⟨k, hk⟩).trans ?_
    dsimp only
    by_cases hpiece : k < (linePieces input).length
    · rw [List.getElem?_eq_getElem hpiece, List.getElem_append_left (by simpa using hpiece), List.getElem_map]
      rfl
    · rw [List.getElem?_eq_none (by omega), List.getElem_append_right (by simpa using hpiece),
        List.getElem_replicate]
      rfl

lemma filter_collapseLine (input : Vector UInt16 4) :
    (collapseLine input).values.toList.filter (· ≠ 0) = (linePieces input).map landedTile := by
  rw [collapseLine_toList, List.filter_append, List.filter_replicate_of_neg (by decide), List.append_nil,
    List.filter_eq_self]
  intro value hvalue
  obtain ⟨p, hp, rfl⟩ := List.mem_map.mp hvalue
  exact decide_eq_true (landedTile_ne_zero hp)

lemma collapseLine_eq_iff : (collapseLine input).values = input ↔
    (input.toList.filter (· ≠ 0)).IsChain (fun a b => b ≠ a) ∧
      input.toList = input.toList.filter (· ≠ 0) ++
        List.replicate (4 - (input.toList.filter (· ≠ 0)).length) 0 := by
  have hsingle : (linePieces input).length = (input.toList.filter (· ≠ 0)).length →
      (collapseLine input).values.toList = input.toList.filter (· ≠ 0) ++
        List.replicate (4 - (input.toList.filter (· ≠ 0)).length) 0 := by
    intro hlength
    rw [collapseLine_toList, hlength, linePieces, pieces_eq_single hlength, List.map_map]
    exact congrArg (· ++ _) (List.map_id _)
  constructor
  · intro heq
    have hlength : (linePieces input).length = (input.toList.filter (· ≠ 0)).length := by
      conv_rhs => rw [← heq, filter_collapseLine, List.length_map]
    have hvalues := hsingle hlength
    rw [heq] at hvalues
    exact ⟨pieces_length_eq_iff.mp hlength, hvalues⟩
  · rintro ⟨hchain, hlist⟩
    apply Vector.toList_inj.mp
    rw [hsingle (pieces_length_eq_iff.mpr hchain), ← hlist]

lemma collapseLine_full (h : ∀ k : Fin 4, (collapseLine input).values.get k ≠ 0) :
    (collapseLine input).values = input := by
  have hlength : 4 ≤ (linePieces input).length := by
    by_contra! hshort
    apply h ⟨(linePieces input).length, hshort⟩
    rw [collapseLine_get, List.getElem?_eq_none (by simp)]
    rfl
  have hpieces : (linePieces input).length ≤ (input.toList.filter (· ≠ 0)).length := pieces_length_le _ _
  have hfilter := List.length_filter_le (· ≠ 0) input.toList
  rw [Vector.length_toList] at hfilter
  have hall : input.toList.filter (· ≠ 0) = input.toList := by
    rw [List.filter_eq_self, ← List.length_filter_eq_length_iff, Vector.length_toList]
    omega
  refine collapseLine_eq_iff.mpr ⟨pieces_length_eq_iff.mp ?_, ?_⟩
  · change (linePieces input).length = _
    omega
  · rw [hall, Vector.length_toList]
    exact (List.append_nil _).symm

lemma toList_get (input : Vector UInt16 4) (k : Fin 4) : input.toList[k.val]? = some (input.get k) := by
  rw [Vector.getElem?_toList]
  exact Vector.getElem?_eq_getElem k.isLt

lemma compact_ne_zero {k : ℕ} {value : UInt16} (h : (input.toList.filter (· ≠ 0))[k]? = some value) :
    value ≠ 0 := by
  simpa using (List.mem_filter.mp (List.mem_of_getElem? h)).2

lemma settled_get (h : (collapseLine input).values = input) (k : Fin 4) :
    input.get k = ((input.toList.filter (· ≠ 0))[k.val]?).getD 0 := by
  have hget := toList_get input k
  have hk := k.isLt
  rw [(collapseLine_eq_iff.mp h).2, List.getElem?_append] at hget
  split at hget <;> rename_i hlt
  · rw [hget]
    rfl
  · rw [List.getElem?_replicate, if_pos (by omega)] at hget
    rw [List.getElem?_eq_none (by omega)]
    exact (Option.some.inj hget).symm

lemma settled_zero (h : (collapseLine input).values = input) {i j : Fin 4} (hij : i ≤ j) (hzero : input.get i = 0) :
    input.get j = 0 := by
  rw [settled_get h] at hzero ⊢
  have hshort : (input.toList.filter (· ≠ 0)).length ≤ i.val := by
    by_contra! hlt
    rw [List.getElem?_eq_getElem hlt, Option.getD_some] at hzero
    exact compact_ne_zero (List.getElem?_eq_getElem hlt) hzero
  rw [List.getElem?_eq_none (by omega)]
  rfl

lemma settled_ne (h : (collapseLine input).values = input) {k : Fin 3} (hne : input.get k.succ ≠ 0) :
    input.get k.succ ≠ input.get k.castSucc := by
  have hchain := (collapseLine_eq_iff.mp h).1
  rw [settled_get h] at hne
  rw [settled_get h, settled_get h]
  by_cases hlt : k.val + 1 < (input.toList.filter (· ≠ 0)).length
  · have hpair := List.isChain_iff_getElem.mp hchain k.val hlt
    rw [List.getElem?_eq_getElem (i := k.succ.val) hlt,
      List.getElem?_eq_getElem (i := k.castSucc.val) (Nat.lt_of_succ_lt hlt)]
    exact hpair
  · rw [List.getElem?_eq_none (i := k.succ.val) (Nat.le_of_not_lt hlt)] at hne
    exact absurd rfl hne

lemma settled_of_full (hfull : ∀ k : Fin 4, input.get k ≠ 0)
    (hne : ∀ k : Fin 3, input.get k.succ ≠ input.get k.castSucc) : (collapseLine input).values = input := by
  have hall : input.toList.filter (· ≠ 0) = input.toList := by
    rw [List.filter_eq_self]
    intro value hvalue
    obtain ⟨k, hk, rfl⟩ := Vector.mem_iff_getElem.mp (Vector.mem_toList_iff.mp hvalue)
    exact decide_eq_true (hfull ⟨k, hk⟩)
  refine collapseLine_eq_iff.mpr ⟨?_, ?_⟩
  · rw [hall, List.isChain_iff_getElem]
    intro k hk
    rw [Vector.length_toList] at hk
    rw [Vector.getElem_toList, Vector.getElem_toList]
    exact hne ⟨k, by omega⟩
  · rw [hall, Vector.length_toList]
    exact (List.append_nil _).symm

lemma collapseLine_pair {value : UInt16} (h : value ≠ 0) :
    (collapseLine #v[value, value, 0, 0]).values.get 0 = mergedTile value := by
  have hpieces : linePieces #v[value, value, 0, 0] = [.pair value value] := by
    have hcompact : [value, value, 0, 0].filter (· ≠ 0) = [value, value] := by simp [h]
    change pieces id ([value, value, 0, 0].filter (· ≠ 0)) = _
    rw [hcompact, pieces, if_pos rfl]
    rfl
  refine (collapseLine_get _ 0).trans ?_
  rw [hpieces]
  rfl

end

section

variable (direction : MoveDirection) (line : Fin 4)

def pieceMotions (p : Piece (Fin 4 × UInt16)) (k : ℕ) : List TileMotion :=
  p.toList.map fun tile =>
    ⟨cell direction line tile.1, cell direction line (destinationAt k), p.first.2, p.isPair⟩

lemma lineMotions_eq (destination : ℕ) (tiles : List (Fin 4 × UInt16)) :
    lineMotions direction line (Fin.ofNat 4 destination) tiles =
      ((pieces Prod.snd tiles).zipIdx destination).flatMap fun x => pieceMotions direction line x.1 x.2 := by
  have hnext : ∀ n : ℕ, Fin.ofNat 4 n + 1 = Fin.ofNat 4 (n + 1) := fun n => by
    ext
    simp [Fin.ofNat, Fin.val_add]
  induction tiles using pieces.induct (Prod.snd : Fin 4 × UInt16 → UInt16) generalizing destination with
  | case1 => rfl
  | case2 tile => rfl
  | case3 first second rest h ih =>
    obtain ⟨first, value⟩ := first
    obtain ⟨second, next⟩ := second
    rw [lineMotions, if_pos h, hnext, ih, pieces, if_pos h, List.zipIdx_cons, List.flatMap_cons]
    rfl
  | case4 first second rest h ih =>
    obtain ⟨first, value⟩ := first
    obtain ⟨second, next⟩ := second
    rw [lineMotions, if_neg h, hnext, ih, pieces, if_neg h, List.zipIdx_cons, List.flatMap_cons]
    rfl

end

end LvglPlatform
