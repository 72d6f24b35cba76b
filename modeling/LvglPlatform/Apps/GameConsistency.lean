import LvglPlatform.Apps.Game2048

namespace LvglPlatform

open Foundation

lemma eq_zero_of_mul_two_pow_mod {w k x : ℕ} (hk : 0 < k) (hlt : x < 2 ^ w)
    (h : x = x * 2 ^ k % 2 ^ w) : x = 0 := by
  have hle : x ≤ x * 2 ^ k := Nat.le_mul_of_pos_right x (Nat.two_pow_pos k)
  have hmod : x ≡ x * 2 ^ k [MOD 2 ^ w] := by
    rw [Nat.ModEq, ← h, Nat.mod_eq_of_lt hlt]
  have hdvd := (Nat.modEq_iff_dvd' hle).mp hmod
  rw [← Nat.mul_sub_one] at hdvd
  have hodd : Odd (2 ^ k - 1) :=
    Nat.Even.sub_odd Nat.one_le_two_pow (Nat.even_pow.mpr ⟨even_two, hk.ne'⟩) odd_one
  have hcoprime : Nat.Coprime (2 ^ w) (2 ^ k - 1) := (Nat.coprime_two_left.mpr hodd).pow_left w
  exact Nat.eq_zero_of_dvd_of_lt (hcoprime.dvd_of_dvd_mul_right hdvd) hlt

section

variable {value shift : UInt64}

lemma xor_shiftRight_ne_zero (hshift : 0 < shift.toNat % 64) (h : value ≠ 0) :
    value ^^^ (value >>> shift) ≠ 0 := by
  intro hzero
  have heq := congrArg UInt64.toNat (UInt64.xor_eq_zero_iff.mp hzero)
  rw [UInt64.toNat_shiftRight, Nat.shiftRight_eq_div_pow] at heq
  have hpositive : 0 < value.toNat := Nat.pos_of_ne_zero fun he => h (UInt64.toNat_inj.mp he)
  have hsmaller : value.toNat / 2 ^ (shift.toNat % 64) < value.toNat :=
    Nat.div_lt_self hpositive (Nat.one_lt_two_pow (by omega))
  omega

lemma xor_shiftLeft_ne_zero (hshift : 0 < shift.toNat % 64) (h : value ≠ 0) :
    value ^^^ (value <<< shift) ≠ 0 := by
  intro hzero
  have heq := congrArg UInt64.toNat (UInt64.xor_eq_zero_iff.mp hzero)
  rw [UInt64.toNat_shiftLeft, Nat.shiftLeft_eq] at heq
  exact h (UInt64.toNat_inj.mp (eq_zero_of_mul_two_pow_mod hshift value.toNat_lt heq))

lemma nextRandomState_ne_zero (h : value ≠ 0) : nextRandomState value ≠ 0 := by
  rw [nextRandomState]
  apply xor_shiftRight_ne_zero (by decide)
  apply xor_shiftLeft_ne_zero (by decide)
  exact xor_shiftRight_ne_zero (by decide) h

end

lemma validTile_iff {value : UInt16} :
    validTile value = true ↔ value = 0 ∨ 2 ≤ value.toNat ∧ value.toNat.isPowerOfTwo := by
  rw [validTile, Bool.or_eq_true, Bool.and_eq_true, decide_eq_true_eq, decide_eq_true_eq,
    decide_eq_true_eq, UInt16.le_iff_toNat_le]
  refine or_congr_right (and_congr_right fun hlow => ?_)
  have hlow : 2 ≤ value.toNat := hlow
  have hone : (1 : UInt16) ≤ value := UInt16.le_iff_toNat_le.mpr (by simp; omega)
  rw [← UInt16.toNat_inj, UInt16.toNat_and, UInt16.toNat_sub_of_le _ _ hone]
  exact Nat.and_sub_one_eq_zero_iff_isPowerOfTwo (by omega)

lemma validTile_double {value : UInt16} (h : validTile value = true) (hsmall : value ≤ 65535 / 2) :
    validTile (value * 2) = true := by
  rcases validTile_iff.mp h with rfl | ⟨hlow, hpower⟩
  · decide
  · have hbound : value.toNat ≤ 32767 := UInt16.le_iff_toNat_le.mp hsmall
    have hdouble : (value * 2).toNat = value.toNat * 2 := by
      rw [UInt16.toNat_mul]
      exact Nat.mod_eq_of_lt (by simp; omega)
    refine validTile_iff.mpr (.inr ?_)
    rw [hdouble]
    exact ⟨by omega, Nat.isPowerOfTwo_mul_two_of_isPowerOfTwo hpower⟩

section

variable {n : ℕ} {tiles : Vector UInt16 n} {i : ℕ} {value : UInt16}

def ValidTiles (tiles : Vector UInt16 n) : Prop := ∀ tile ∈ tiles, validTile tile = true

lemma validBoard_iff {board : Board} : validBoard board = true ↔ ValidTiles board :=
  Vector.all_eq_true_iff_forall_mem

lemma ValidTiles.setIfInBounds (h : ValidTiles tiles) (hvalue : validTile value = true) :
    ValidTiles (tiles.setIfInBounds i value) := by
  intro tile htile
  obtain ⟨j, hj, rfl⟩ := Vector.mem_iff_getElem.mp htile
  rw [Vector.getElem_setIfInBounds]
  split
  · exact hvalue
  · exact h _ (Vector.getElem_mem hj)

lemma ValidTiles.set (h : ValidTiles tiles) (hi : i < n) (hvalue : validTile value = true) :
    ValidTiles (tiles.set i value hi) := by
  intro tile htile
  rcases Vector.mem_or_eq_of_mem_set htile with htile | rfl
  · exact h tile htile
  · exact hvalue

lemma validTiles_empty : ValidTiles (.replicate n 0 : Vector UInt16 n) :=
  fun tile htile => by rw [Vector.eq_of_mem_replicate htile]; decide

end

lemma collapseTiles_valid {result : LineMove} {output : ℕ} {compact : List UInt16}
    (hresult : ValidTiles result.values) (h : ∀ tile ∈ compact, validTile tile = true) :
    ValidTiles (collapseTiles result output compact).values := by
  induction result, output, compact using collapseTiles.induct with
  | case1 => exact hresult
  | case2 result output value => exact hresult.setIfInBounds (h value List.mem_cons_self)
  | case3 result output value rest merged ih =>
    rw [collapseTiles, if_pos rfl]
    obtain ⟨hvalue, hrest⟩ := List.forall_mem_cons.mp h
    refine ih (hresult.setIfInBounds ?_) (List.forall_mem_cons.mp hrest).2
    dsimp only [merged]
    split <;> rename_i hsmall
    · exact validTile_double hvalue hsmall
    · exact hvalue
  | case4 result output value next rest hne ih =>
    rw [collapseTiles, if_neg hne]
    obtain ⟨hvalue, hrest⟩ := List.forall_mem_cons.mp h
    exact ih (hresult.setIfInBounds hvalue) hrest

lemma collapseLine_valid {input : Vector UInt16 4} (h : ValidTiles input) :
    ValidTiles (collapseLine input).values := by
  refine collapseTiles_valid validTiles_empty ?_
  intro tile htile
  exact h tile (Vector.mem_toList_iff.mp (List.mem_filter.mp htile).1)

lemma moveLine_valid {board : Board} {direction : MoveDirection} {state : Board × MoveOutcome}
    {line : Fin 4} (hboard : ValidTiles board) (hstate : ValidTiles state.1) :
    ValidTiles (moveLine board direction state line).1 := by
  have hline : ValidTiles (.ofFn fun offset => board[cell direction line offset] : Vector UInt16 4) := by
    intro tile htile
    obtain ⟨offset, rfl⟩ := Vector.mem_ofFn.mp htile
    exact hboard _ (Vector.getElem_mem _)
  have hcollapsed := collapseLine_valid hline
  rw [moveLine]
  dsimp only
  refine List.foldlRecOn (motive := fun next => ValidTiles next) (List.finRange 4) _ hstate ?_
  intro next hnext offset _
  exact hnext.set _ (hcollapsed _ (Vector.getElem_mem _))

lemma moveLines_valid {board : Board} (direction : MoveDirection) (h : ValidTiles board) :
    ValidTiles ((List.finRange 4).foldl (moveLine board direction) (board, {})).1 := by
  refine List.foldlRecOn (motive := fun state : Board × MoveOutcome => ValidTiles state.1)
    (List.finRange 4) _ h ?_
  intro state hstate line _
  exact moveLine_valid h hstate

lemma phaseForBoard_playing {board : Board} (hsmall : ∀ tile ∈ board, tile < 2048) {i : Fin 16}
    (hempty : board.get i = 0) : phaseForBoard board = .playing := by
  have hwon : board.any (· ≥ 2048) = false := by
    rw [Vector.any_eq_false']
    intro tile htile
    have hlt := hsmall tile htile
    simpa using hlt
  have hopen : board.any (· = 0) = true := by
    rw [Vector.any_eq_true']
    exact ⟨board.get i, Vector.getElem_mem _, by simpa using hempty⟩
  rw [phaseForBoard, hwon, hopen]
  rfl

lemma phaseForBoard_empty : phaseForBoard (.replicate 16 0) = .playing := by
  refine phaseForBoard_playing (i := 0) (fun tile htile => ?_) (Vector.getElem_replicate _)
  rw [Vector.eq_of_mem_replicate htile]
  decide

namespace Game2048

structure Spawned (before after : Game2048) : Prop where
  score : after.score = before.score
  bestScore : after.bestScore = before.bestScore
  phase : after.phase = before.phase
  undoSnapshot : after.undoSnapshot = before.undoSnapshot
  undoValid : after.undoValid = before.undoValid
  randomState : before.randomState ≠ 0 → after.randomState ≠ 0
  board : after.board = before.board ∨
    ∃ (cell : Fin 16) (value : UInt16), (value = 2 ∨ value = 4) ∧
      after.board = before.board.put cell value

lemma spawned_spawn (game : Game2048) : Spawned game game.spawn.2 := by
  rw [spawn]
  split
  · exact ⟨rfl, rfl, rfl, rfl, rfl, id, .inl rfl⟩
  · refine ⟨rfl, rfl, rfl, rfl, rfl, fun h => ?_, .inr ⟨_, _, ?_, rfl⟩⟩
    · exact nextRandomState_ne_zero (nextRandomState_ne_zero h)
    · split
      · exact .inr rfl
      · exact .inl rfl

lemma Spawned.valid {before after : Game2048} (h : Spawned before after)
    (hboard : ValidTiles before.board) : ValidTiles after.board := by
  rcases h.board with heq | ⟨cell, value, hvalue, heq⟩
  · rwa [heq]
  · rw [heq]
    refine hboard.set _ ?_
    rcases hvalue with rfl | rfl
    · decide
    · decide

/-- What the storage asks of a game that it restores, and what every game keeps. -/
structure Consistent (game : Game2048) : Prop where
  board : ValidTiles game.board
  phase : phaseForBoard game.board = game.phase
  score : game.score ≤ game.bestScore
  randomState : game.randomState ≠ 0
  undoBoard : ValidTiles game.undoSnapshot.board
  undoPhase : phaseForBoard game.undoSnapshot.board = game.undoSnapshot.phase
  undoScore : game.undoSnapshot.score ≤ game.bestScore
  undoRandomState : game.undoSnapshot.randomState ≠ 0

variable {game before after : Game2048}

lemma Spawned.small (h : Spawned before after) (hsmall : ∀ tile ∈ before.board, tile < 2048) :
    ∀ tile ∈ after.board, tile < 2048 := by
  rcases h.board with heq | ⟨cell, value, hvalue, heq⟩
  · rwa [heq]
  · intro tile htile
    rw [heq] at htile
    rcases Vector.mem_or_eq_of_mem_set htile with htile | rfl
    · exact hsmall tile htile
    · rcases hvalue with rfl | rfl
      · decide
      · decide

lemma Spawned.elsewhere (h : Spawned before after) :
    ∃ cell : Fin 16, ∀ i : Fin 16, i ≠ cell → after.board.get i = before.board.get i := by
  rcases h.board with heq | ⟨cell, value, -, heq⟩
  · exact ⟨0, fun i _ => by rw [heq]⟩
  · refine ⟨cell, fun i hi => ?_⟩
    rw [heq, Board.get_put, if_neg hi.symm]

lemma le_max_score (a b : UInt32) : a ≤ max a b ∧ b ≤ max a b := by
  change a ≤ (if a ≤ b then b else a) ∧ b ≤ (if a ≤ b then b else a)
  split <;> rename_i h
  · exact ⟨h, UInt32.le_refl b⟩
  · exact ⟨UInt32.le_refl a, (UInt32.le_total b a).resolve_right h⟩

structure ResetOf (before after : Game2048) : Prop where
  board : ValidTiles after.board
  played : phaseForBoard after.board = .playing
  score : after.score = 0
  bestScore : after.bestScore = before.bestScore
  phase : after.phase = .playing
  undoSnapshot : after.undoSnapshot = before.undoSnapshot
  randomState : before.randomState ≠ 0 → after.randomState ≠ 0

lemma resetOf_spawnTwice (game : Game2048) (hboard : game.board = .replicate 16 0)
    (hphase : game.phase = .playing) (hscore : game.score = 0) : ResetOf game game.spawnTwice := by
  have hfirst := spawned_spawn game
  have hsecond := spawned_spawn game.spawn.2
  rw [← spawnTwice] at hsecond
  have hzero : ∀ tile ∈ game.board, tile = 0 := by
    rw [hboard]
    exact fun tile => Vector.eq_of_mem_replicate
  have hvalid : ValidTiles game.board := by
    rw [hboard]
    exact validTiles_empty
  obtain ⟨cell, hcell⟩ := hfirst.elsewhere
  obtain ⟨cell', hcell'⟩ := hsecond.elsewhere
  -- two tiles do not fill the board
  obtain ⟨i, hi, hi'⟩ := Fin.exists_ne_and_ne_of_two_lt cell cell' (by decide)
  have hempty : game.spawnTwice.board.get i = 0 := by
    rw [hcell' i hi', hcell i hi]
    exact hzero _ (Vector.getElem_mem _)
  have hsmall := hsecond.small (hfirst.small fun tile htile => by rw [hzero tile htile]; decide)
  exact ⟨hsecond.valid (hfirst.valid hvalid), phaseForBoard_playing hsmall hempty,
    hsecond.score.trans (hfirst.score.trans hscore), hsecond.bestScore.trans hfirst.bestScore,
    hsecond.phase.trans (hfirst.phase.trans hphase), hsecond.undoSnapshot.trans hfirst.undoSnapshot,
    fun h => hsecond.randomState (hfirst.randomState h)⟩

lemma resetOf_reset (game : Game2048) : ResetOf game game.reset := by
  rw [reset]
  obtain ⟨hboard, hplayed, hscore, hbest, hphase, hundo, hrandom⟩ := resetOf_spawnTwice
    { game with board := .replicate 16 0, score := 0, phase := .playing, undoValid := false } rfl rfl rfl
  exact ⟨hboard, hplayed, hscore, hbest, hphase, hundo, hrandom⟩

lemma setBestScore_fields (value : UInt32) : (game.setBestScore value).board = game.board ∧
    (game.setBestScore value).phase = game.phase ∧ (game.setBestScore value).score = game.score ∧
    (game.setBestScore value).bestScore = max value game.score ∧
    (game.setBestScore value).randomState = game.randomState ∧
    (game.setBestScore value).undoSnapshot = game.undoSnapshot := ⟨rfl, rfl, rfl, rfl, rfl, rfl⟩

lemma Consistent.restart (h : Consistent game) : Consistent game.confirmRestart := by
  have hreset := resetOf_reset game
  obtain ⟨hboard, hphase, hscore, hbest, hrandom, hundo⟩ := game.reset.setBestScore_fields game.bestScore
  rw [← confirmRestart] at hboard hphase hscore hbest hrandom hundo
  rw [hreset.undoSnapshot] at hundo
  have hkept : game.bestScore ≤ game.confirmRestart.bestScore := by
    rw [hbest]
    exact (le_max_score _ _).1
  constructor
  · rw [hboard]
    exact hreset.board
  · rw [hboard, hphase]
    exact hreset.played.trans hreset.phase.symm
  · rw [hscore, hreset.score]
    exact UInt32.zero_le
  · rw [hrandom]
    exact hreset.randomState h.randomState
  · rw [hundo]
    exact h.undoBoard
  · rw [hundo]
    exact h.undoPhase
  · rw [hundo]
    exact UInt32.le_trans h.undoScore hkept
  · rw [hundo]
    exact h.undoRandomState

lemma consistent_new (seed : UInt64) : Consistent (.new seed) := by
  have hseed : (if seed = 0 then 1 else seed) ≠ 0 := by
    split
    · decide
    · assumption
  have hreset : ResetOf { randomState := if seed = 0 then 1 else seed } (.new seed) := resetOf_reset _
  have hundo : (Game2048.new seed).undoSnapshot = {} := hreset.undoSnapshot
  constructor
  · exact hreset.board
  · exact hreset.played.trans hreset.phase.symm
  · rw [hreset.score]
    exact UInt32.zero_le
  · exact hreset.randomState hseed
  · rw [hundo]
    exact validTiles_empty
  · rw [hundo]
    exact phaseForBoard_empty
  · rw [hundo]
    exact UInt32.zero_le
  · rw [hundo]
    decide

lemma Consistent.undo (h : Consistent game) : Consistent game.undo.2 := by
  rw [Game2048.undo]
  split
  · exact h
  · exact ⟨h.undoBoard, h.undoPhase, h.undoScore, h.undoRandomState, h.undoBoard, h.undoPhase, h.undoScore,
      h.undoRandomState⟩

lemma Consistent.restore (h : Consistent game) (state : PersistentGameState) :
    Consistent (game.restoreState state).2 := by
  rw [restoreState]
  split <;> rename_i hstate
  · exact h
  · simp only [not_or, Bool.not_eq_true', Bool.not_eq_false, UInt32.not_lt, gt_iff_lt, not_not] at hstate
    obtain ⟨hboard, hrandom, hscore, hphase, hundoBoard, hundoRandom, hundoScore, hundoPhase⟩ := hstate
    exact ⟨validBoard_iff.mp hboard, hphase, hscore, hrandom, validBoard_iff.mp hundoBoard, hundoPhase,
      hundoScore, hundoRandom⟩

lemma Consistent.restoreState_eq (h : Consistent game) (other : Game2048) :
    other.restoreState game.persistentState = (true, game) := by
  rw [restoreState, if_neg]
  · rfl
  · simp only [not_or, Bool.not_eq_true', Bool.not_eq_false, UInt32.not_lt, gt_iff_lt, not_not]
    exact ⟨validBoard_iff.mpr h.board, h.randomState, h.score, h.phase, validBoard_iff.mpr h.undoBoard,
      h.undoRandomState, h.undoScore, h.undoPhase⟩

lemma Consistent.updatePhase (h : Consistent game) : game.updatePhase = game := by
  rw [Game2048.updatePhase, h.phase]

structure Played (before after : Game2048) : Prop where
  board : ValidTiles after.board
  phase : after.phase = phaseForBoard after.board
  bestScore : after.bestScore = max before.bestScore after.score
  randomState : after.randomState ≠ 0
  undoSnapshot : after.undoSnapshot = ⟨before.board, before.score, before.phase, before.randomState⟩

lemma Consistent.move_cases (h : Consistent game) (direction : MoveDirection) :
    (game.move direction).2 = game ∨ Played game (game.move direction).2 := by
  rw [move]
  split
  · exact .inl rfl
  have hvalid := moveLines_valid direction h.board
  generalize (List.finRange 4).foldl (moveLine game.board direction) (game.board, {}) = moved at hvalid
  obtain ⟨next, outcome⟩ := moved
  dsimp only
  split
  · exact .inl h.updatePhase
  · right
    have hspawned := spawned_spawn { game with
      board := next
      score := game.score + outcome.scoreDelta
      bestScore := max game.bestScore (game.score + outcome.scoreDelta)
      undoSnapshot := ⟨game.board, game.score, game.phase, game.randomState⟩
      undoValid := true }
    refine ⟨hspawned.valid hvalid, rfl, ?_, hspawned.randomState h.randomState, hspawned.undoSnapshot⟩
    exact hspawned.bestScore.trans (congrArg (max game.bestScore) hspawned.score.symm)

lemma Consistent.move (h : Consistent game) (direction : MoveDirection) :
    Consistent (game.move direction).2 := by
  rcases h.move_cases direction with heq | hplayed
  · rwa [heq]
  obtain ⟨hbest, hscore⟩ := le_max_score game.bestScore (game.move direction).2.score
  rw [← hplayed.bestScore] at hbest hscore
  refine ⟨hplayed.board, hplayed.phase.symm, hscore, hplayed.randomState, ?_, ?_, ?_, ?_⟩
  all_goals rw [hplayed.undoSnapshot]
  · exact h.board
  · exact h.phase
  · exact UInt32.le_trans h.score hbest
  · exact h.randomState

lemma Consistent.operate (h : Consistent game) (operation : GameOperation) :
    Consistent (game.operate operation).2 := by
  cases operation with
  | move direction => exact h.move direction
  | undo => exact h.undo
  | restart => exact h.restart
  | restore state => exact h.restore state

lemma consistent_run (seed : UInt64) (operations : List GameOperation) :
    Consistent ((machine seed).run operations) := by
  have hpreserves : (machine seed).Preserves Consistent := fun game operation h => h.operate operation
  exact hpreserves.run (consistent_new seed) operations

end Game2048

end LvglPlatform
