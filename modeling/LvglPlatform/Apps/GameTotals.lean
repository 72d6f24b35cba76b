import LvglPlatform.Apps.GameMotions

namespace LvglPlatform

open Foundation

def tileTotal (board : Board) : ℕ := ∑ c : Fin 16, (board.get c).toNat

def tileCount (board : Board) : ℕ := ∑ c : Fin 16, if board.get c = 0 then 0 else 1

/-- The cells where two tiles have become one. -/
def mergeCells (motions : List TileMotion) : Finset (Fin 16) :=
  Finset.univ.filter fun c => motions.any fun motion => motion.toCell = c && motion.merged

/-- Those where the tiles were of the largest value a cell can hold. -/
def fullMergeCells (motions : List TileMotion) : Finset (Fin 16) :=
  Finset.univ.filter fun c =>
    motions.any fun motion => motion.toCell = c && (motion.merged && motion.value = 32768)

lemma mergedTile_total {value : UInt16} (h : validTile value = true) :
    value.toNat + value.toNat = (mergedTile value).toNat + if value = 32768 then 32768 else 0 := by
  rw [mergedTile]
  split <;> rename_i hsmall
  · have hbound : value.toNat ≤ 32767 := UInt16.le_iff_toNat_le.mp hsmall
    have hne : value ≠ 32768 := by
      rintro rfl
      exact absurd hbound (by decide)
    rw [if_neg hne, UInt16.toNat_mul, Nat.mod_eq_of_lt (by simp; omega)]
    simp only [UInt16.toNat_ofNat, Nat.reducePow, Nat.reduceMod]
    omega
  · have hbound : 32767 < value.toNat := by
      by_contra! hle
      exact hsmall (UInt16.le_iff_toNat_le.mpr hle)
    have hvalue : value = 32768 := by
      rcases validTile_iff.mp h with rfl | ⟨-, k, hk⟩
      · exact absurd hbound (by decide)
      · have hlt := value.toNat_lt
        have hlow : 14 < k := (Nat.pow_lt_pow_iff_right (a := 2) (by omega)).mp (by omega)
        have hhigh : k < 16 := (Nat.pow_lt_pow_iff_right (a := 2) (by omega)).mp (by omega)
        obtain rfl : k = 15 := by omega
        exact UInt16.toNat_inj.mp hk
    rw [hvalue]
    rfl

section

variable {motions : List TileMotion} {tile : UInt16}

lemma Arrives.total (h : Arrives motions tile) (hvalid : ∀ motion ∈ motions, validTile motion.value = true) :
    (motions.map fun motion => motion.value.toNat).sum =
      tile.toNat + if motions.any (fun motion => motion.merged && motion.value = 32768) then 32768 else 0 := by
  cases h with
  | nothing => rfl
  | single motion hmerged => simp [hmerged]
  | merged first second hfirst hsecond hvalue hne =>
    have htotal := mergedTile_total (hvalid first List.mem_cons_self)
    rw [← hvalue, collapseLine_pair hne]
    simpa [hfirst, hsecond, ← hvalue] using htotal

lemma Arrives.count (h : Arrives motions tile) : motions.length =
    (if tile = 0 then 0 else 1) + if motions.any (·.merged) then 1 else 0 := by
  cases h with
  | nothing => rfl
  | single motion hmerged hvalue => simp [hmerged, hvalue]
  | merged first second hfirst hsecond hvalue hne =>
    rw [← hvalue, collapseLine_pair hne, if_neg (mergedTile_ne_zero hne)]
    simp [hfirst]

end

variable {board : Board} {direction : MoveDirection}

namespace Game2048

lemma sum_sources (f : UInt16 → ℕ) (hf : f 0 = 0) :
    ((moveLines board direction).2.motions.map fun motion => f motion.value).sum = ∑ c : Fin 16, f (board.get c) := by
  have hvalue : (moveLines board direction).2.motions.map (fun motion => f motion.value) =
      ((moveLines board direction).2.motions.map TileMotion.fromCell).map fun c => f (board.get c) := by
    rw [List.map_map]
    refine List.map_congr_left fun motion hmotion => ?_
    exact congrArg f (mem_moveLines_sources.mp (List.mem_map.mpr ⟨motion, hmotion, rfl⟩)).1
  rw [hvalue, ← List.sum_toFinset _ moveLines_sources_nodup]
  refine Finset.sum_subset (Finset.subset_univ _) fun c _ hc => ?_
  by_cases hzero : board.get c = 0
  · rw [hzero, hf]
  · refine absurd (List.mem_toFinset.mpr ?_) hc
    obtain ⟨motion, hmotion, heq⟩ := List.mem_map.mp (mem_moveLines_sources.mpr ⟨rfl, hzero⟩)
    exact List.mem_map.mpr ⟨motion, hmotion, (Prod.mk.inj heq).1⟩

lemma any_arriving (p : TileMotion → Bool) (motions : List TileMotion) (c : Fin 16) :
    (motions.filter (·.toCell = c)).any p = motions.any fun motion => motion.toCell = c && p motion :=
  List.any_filter

lemma moveLines_total (h : ValidTiles board) :
    tileTotal (moveLines board direction).1 +
        32768 * (fullMergeCells (moveLines board direction).2.motions).card = tileTotal board := by
  have hvalid : ∀ motion ∈ (moveLines board direction).2.motions, validTile motion.value = true := by
    intro motion hmotion
    rw [(mem_moveLines_sources.mp (List.mem_map.mpr ⟨motion, hmotion, rfl⟩)).1]
    exact h _ (Vector.getElem_mem _)
  have hcells : ∀ c : Fin 16,
      (((moveLines board direction).2.motions.filter (·.toCell = c)).map fun motion => motion.value.toNat).sum =
        ((moveLines board direction).1.get c).toNat +
          if c ∈ fullMergeCells (moveLines board direction).2.motions then 32768 else 0 := by
    intro c
    have htotal := (arrives_moveLines c).total fun motion hmotion => hvalid motion (List.mem_filter.mp hmotion).1
    rw [any_arriving] at htotal
    rw [htotal, fullMergeCells]
    simp only [Finset.mem_filter, Finset.mem_univ, true_and]
  calc tileTotal (moveLines board direction).1 +
        32768 * (fullMergeCells (moveLines board direction).2.motions).card
      = ∑ c : Fin 16, (((moveLines board direction).1.get c).toNat +
          if c ∈ fullMergeCells (moveLines board direction).2.motions then 32768 else 0) := by
        rw [Finset.sum_add_distrib, Finset.sum_ite_mem, Finset.univ_inter, Finset.sum_const, smul_eq_mul,
          Nat.mul_comm, tileTotal]
    _ = ((moveLines board direction).2.motions.map fun motion => motion.value.toNat).sum := by
        rw [← sum_map_fiber TileMotion.toCell]
        exact Finset.sum_congr rfl fun c _ => (hcells c).symm
    _ = tileTotal board := sum_sources UInt16.toNat rfl

lemma moveLines_count : tileCount (moveLines board direction).1 +
    (mergeCells (moveLines board direction).2.motions).card = tileCount board := by
  have hcells : ∀ c : Fin 16,
      (((moveLines board direction).2.motions.filter (·.toCell = c)).map fun _ => 1).sum =
        (if (moveLines board direction).1.get c = 0 then 0 else 1) +
          if c ∈ mergeCells (moveLines board direction).2.motions then 1 else 0 := by
    intro c
    have hcount := (@arrives_moveLines board direction c).count
    rw [any_arriving] at hcount
    rw [List.map_const', List.sum_replicate, smul_eq_mul, Nat.mul_one, hcount, mergeCells]
    simp only [Finset.mem_filter, Finset.mem_univ, true_and]
  have hone : (moveLines board direction).2.motions.map (fun _ => 1) =
      (moveLines board direction).2.motions.map fun motion => if motion.value = 0 then 0 else 1 := by
    refine List.map_congr_left fun motion hmotion => ?_
    rw [if_neg (mem_moveLines_sources.mp (List.mem_map.mpr ⟨motion, hmotion, rfl⟩)).2]
  calc tileCount (moveLines board direction).1 + (mergeCells (moveLines board direction).2.motions).card
      = ∑ c : Fin 16, ((if (moveLines board direction).1.get c = 0 then 0 else 1) +
          if c ∈ mergeCells (moveLines board direction).2.motions then 1 else 0) := by
        rw [Finset.sum_add_distrib, Finset.sum_ite_mem, Finset.univ_inter, Finset.sum_const, smul_eq_mul,
          Nat.mul_one, tileCount]
    _ = ((moveLines board direction).2.motions.map fun _ => 1).sum := by
        rw [← sum_map_fiber TileMotion.toCell]
        exact Finset.sum_congr rfl fun c _ => (hcells c).symm
    _ = tileCount board := by
        rw [hone]
        exact sum_sources (fun value => if value = 0 then 0 else 1) rfl

end Game2048

lemma toNat_sum_uint32 {l : List UInt32} (h : (l.map UInt32.toNat).sum < 2 ^ 32) :
    l.sum.toNat = (l.map UInt32.toNat).sum := by
  induction l with
  | nil => rfl
  | cons a l ih =>
    rw [List.map_cons, List.sum_cons] at h
    rw [List.sum_cons, UInt32.toNat_add, ih (by omega), List.map_cons, List.sum_cons, Nat.mod_eq_of_lt h]

lemma sum_cells (direction : MoveDirection) (f : Fin 16 → ℕ) :
    ∑ line, ∑ offset, f (cell direction line offset) = ∑ c, f c := by
  rw [← (cell_bijective direction).sum_comp f, Fintype.sum_prod_type]

lemma pieceScore_le (p : Piece UInt16) : (pieceScore p).toNat ≤ 65535 := by
  cases p with
  | single value => exact Nat.zero_le _
  | pair value second =>
    have hlt := (mergedTile value).toNat_lt
    change (mergedTile value).toUInt32.toNat ≤ _
    rw [UInt16.toNat_toUInt32]
    omega

lemma pieceScore_landed (line offset : Fin 4) :
    ((boardPieces board direction line)[offset.val]?).elim 0 (fun p => (pieceScore (p.map Prod.snd)).toNat) =
      if (Game2048.moveLines board direction).2.motions.any
          (fun motion => motion.toCell = cell direction line offset && motion.merged) then
        ((Game2048.moveLines board direction).1.get (cell direction line offset)).toNat
      else 0 := by
  rw [← Game2048.any_arriving, arriving_moveLines, Game2048.moveLines_get, landed]
  cases (boardPieces board direction line)[offset.val]? with
  | none => rfl
  | some p =>
    cases p with
    | single tile => rfl
    | pair first second => exact UInt16.toNat_toUInt32 _

namespace Game2048

lemma moveLines_score_total : (moveLines board direction).2.scoreDelta.toNat =
    ∑ c ∈ mergeCells (moveLines board direction).2.motions, ((moveLines board direction).1.get c).toNat := by
  -- the scores of all pieces, line after line
  have hlist : (moveLines board direction).2.scoreDelta =
      ((List.finRange 4).flatMap fun line =>
        (boardPieces board direction line).map fun p => pieceScore (p.map Prod.snd)).sum := by
    rw [moveLines_score, List.flatMap, List.sum_flatten, List.map_map]
    refine congrArg List.sum (List.map_congr_left fun line _ => ?_)
    rw [collapseLine_score, linePieces_boardLine, List.map_map]
    rfl
  have hnat : (((List.finRange 4).flatMap fun line =>
      (boardPieces board direction line).map fun p => pieceScore (p.map Prod.snd)).map UInt32.toNat).sum =
      ∑ line, ∑ offset : Fin 4,
        ((boardPieces board direction line)[offset.val]?).elim 0
          (fun p => (pieceScore (p.map Prod.snd)).toNat) := by
    rw [List.map_flatMap, List.flatMap, List.sum_flatten, List.map_map, Fin.sum_univ_def]
    refine congrArg List.sum (List.map_congr_left fun line _ => ?_)
    rw [← sum_map_eq_sum_fin _ boardPieces_length_le, Function.comp_apply, List.map_map]
    rfl
  have hbound : ∑ line, ∑ offset : Fin 4, ((boardPieces board direction line)[offset.val]?).elim 0
      (fun p => (pieceScore (p.map Prod.snd)).toNat) ≤ ∑ _line : Fin 4, ∑ _offset : Fin 4, 65535 := by
    refine Finset.sum_le_sum fun line _ => Finset.sum_le_sum fun offset _ => ?_
    cases (boardPieces board direction line)[offset.val]? with
    | none => exact Nat.zero_le _
    | some p => exact pieceScore_le _
  have hsmall : ∑ _line : Fin 4, ∑ _offset : Fin 4, 65535 < 2 ^ 32 := by decide
  rw [hlist, toNat_sum_uint32 (by rw [hnat]; exact hbound.trans_lt hsmall), hnat]
  simp only [pieceScore_landed]
  rw [sum_cells direction fun c => if (moveLines board direction).2.motions.any
    (fun motion => motion.toCell = c && motion.merged) then ((moveLines board direction).1.get c).toNat else 0,
    mergeCells, Finset.sum_filter]

lemma sum_set (f : UInt16 → ℕ) (hf : f 0 = 0) {c : Fin 16} (value : UInt16) (hzero : board.get c = 0) :
    ∑ i : Fin 16, f ((board.put c value).get i) = (∑ i : Fin 16, f (board.get i)) + f value := by
  have hcell : ∀ i : Fin 16, f ((board.put c value).get i) = f (board.get i) + if i = c then f value else 0 := by
    intro i
    by_cases h : i = c
    · subst h
      rw [if_pos rfl, hzero, hf, Nat.zero_add]
      exact congrArg f (Vector.getElem_set_self _)
    · rw [if_neg h]
      exact congrArg f (Vector.getElem_set_ne _ _ fun he => h (Fin.ext he.symm))
  simp only [hcell, Finset.sum_add_distrib, Finset.sum_ite_eq', Finset.mem_univ, if_true]

lemma merged_ne_zero {c : Fin 16} (h : c ∈ mergeCells (moveLines board direction).2.motions) :
    (moveLines board direction).1.get c ≠ 0 := by
  intro hzero
  have hmerged := (Finset.mem_filter.mp h).2
  have hcount := (@arrives_moveLines board direction c).count
  rw [← any_arriving] at hmerged
  have harrives := @arrives_moveLines board direction c
  rw [hzero] at harrives
  generalize (moveLines board direction).2.motions.filter (·.toCell = c) = arriving at harrives hmerged
  generalize htile : (0 : UInt16) = tile at harrives
  cases harrives with
  | nothing => exact Bool.false_ne_true hmerged
  | single motion hsingle hvalue => exact hvalue htile.symm
  | merged first second hfirst hsecond hvalue hne =>
    rw [← hvalue, collapseLine_pair hne] at htile
    exact mergedTile_ne_zero hne htile.symm

/-- A move adds the new tile to the tiles there are: two equal tiles become one of their sum, apart from two of
the largest value, which become one of them, and the score is what the merged tiles are now. -/
theorem tiles_conserved (game : Game2048) (direction : MoveDirection) (hvalid : validBoard game.board = true)
    (h : (game.move direction).1.changed = true) :
    let outcome := (game.move direction).1
    let after := (game.move direction).2.board
    tileTotal after + 32768 * (fullMergeCells outcome.motions).card =
        tileTotal game.board + outcome.spawnedValue.toNat ∧
      tileCount after + (mergeCells outcome.motions).card = tileCount game.board + 1 ∧
      outcome.scoreDelta.toNat = ∑ c ∈ mergeCells outcome.motions, (after.get c).toNat := by
  dsimp only
  obtain ⟨cell, -, hvalue, hzero, hboard⟩ := changed_board h
  obtain ⟨hmotions, hscore⟩ := changed_outcome h
  rw [hmotions, hscore, hboard]
  have htotal := @moveLines_total game.board direction (validBoard_iff.mp hvalid)
  have hcount := @moveLines_count game.board direction
  have hspawned : (game.move direction).1.spawnedValue ≠ 0 := by
    rcases hvalue with hvalue | hvalue
    all_goals
      rw [hvalue]
      decide
  refine ⟨?_, ?_, ?_⟩
  · rw [tileTotal, sum_set UInt16.toNat rfl _ hzero, ← tileTotal]
    omega
  · rw [tileCount, sum_set (fun tile => if tile = 0 then 0 else 1) rfl _ hzero, ← tileCount, if_neg hspawned]
    omega
  · rw [moveLines_score_total]
    refine Finset.sum_congr rfl fun c hc => ?_
    have hne : cell ≠ c := by
      rintro rfl
      exact merged_ne_zero hc hzero
    exact congrArg UInt16.toNat (Vector.getElem_set_ne _ _ fun he => hne (Fin.ext he)).symm

def fullGame : Game2048 where
  board := #v[32768, 32768, 0, 0, 0, 0, 0, 0, 0, 0, 0, 0, 0, 0, 0, 0]
  phase := .won
  randomState := 1

theorem full_game_loses_a_tile_value : validBoard fullGame.board = true ∧
    (fullGame.move .left).1.changed = true ∧
    tileTotal (fullGame.move .left).2.board ≠
      tileTotal fullGame.board + (fullGame.move .left).1.spawnedValue.toNat := by
  decide +kernel

def fullState : PersistentGameState := { board := fullGame.board, phase := .won }

theorem full_game_tiles : (Game2048.new 77).restoreState fullState = (true, fullGame) ∧
    tileTotal (fullGame.move .left).2.board +
        32768 * (fullMergeCells (fullGame.move .left).1.motions).card =
      tileTotal fullGame.board + (fullGame.move .left).1.spawnedValue.toNat :=
  ⟨by decide +kernel, (tiles_conserved fullGame .left (by decide +kernel) (by decide)).1⟩

end Game2048

end LvglPlatform
