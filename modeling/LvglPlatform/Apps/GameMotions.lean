import LvglPlatform.Apps.GameLines

namespace LvglPlatform

open Foundation

lemma cell_bijective (direction : MoveDirection) :
    Function.Bijective fun p : Fin 4 × Fin 4 => cell direction p.1 p.2 := by
  rw [Fintype.bijective_iff_injective_and_card]
  refine ⟨?_, rfl⟩
  cases direction <;> decide

section

variable {direction : MoveDirection} {line line' offset offset' : Fin 4}

lemma cell_inj : cell direction line offset = cell direction line' offset' ↔
    line = line' ∧ offset = offset' := by
  rw [← Prod.mk.injEq]
  exact (cell_bijective direction).injective.eq_iff (a := (line, offset)) (b := (line', offset'))

lemma exists_cell (direction : MoveDirection) (c : Fin 16) :
    ∃ line offset, cell direction line offset = c := by
  obtain ⟨⟨line, offset⟩, hcell⟩ := (cell_bijective direction).surjective c
  exact ⟨line, offset, hcell⟩

end

variable (board : Board) (direction : MoveDirection) (line : Fin 4)

def boardLine : Vector UInt16 4 := .ofFn fun offset => board.get (cell direction line offset)

def lineTiles : List (Fin 4 × UInt16) :=
  ((List.finRange 4).filter fun offset => (boardLine board direction line).get offset ≠ 0).map fun offset =>
    (offset, (boardLine board direction line).get offset)

def boardPieces : List (Piece (Fin 4 × UInt16)) := pieces Prod.snd (lineTiles board direction line)

lemma boardLine_get (offset : Fin 4) :
    (boardLine board direction line).get offset = board.get (cell direction line offset) := by
  rw [boardLine]
  exact Vector.getElem_ofFn _

lemma lineTiles_values : (lineTiles board direction line).map Prod.snd =
    (boardLine board direction line).toList.filter (· ≠ 0) := by
  have hlist : (boardLine board direction line).toList =
      (List.finRange 4).map fun offset => (boardLine board direction line).get offset := by
    conv_lhs => rw [boardLine, Vector.toList_ofFn, List.ofFn_eq_map]
    exact List.map_congr_left fun offset _ => (boardLine_get board direction line offset).symm
  rw [hlist, List.filter_map, lineTiles, List.map_map]
  rfl

lemma linePieces_boardLine :
    linePieces (boardLine board direction line) = (boardPieces board direction line).map (.map Prod.snd) := by
  rw [linePieces, ← lineTiles_values, pieces_map]
  rfl

lemma mem_lineTiles {tile : Fin 4 × UInt16} : tile ∈ lineTiles board direction line ↔
    tile.2 = board.get (cell direction line tile.1) ∧ tile.2 ≠ 0 := by
  rw [lineTiles, List.mem_map]
  constructor
  · rintro ⟨offset, hoffset, rfl⟩
    have hne : (boardLine board direction line).get offset ≠ 0 := by simpa using hoffset
    exact ⟨boardLine_get board direction line offset, hne⟩
  · rintro ⟨hvalue, hne⟩
    rw [← boardLine_get] at hvalue
    refine ⟨tile.1, ?_, Prod.ext rfl hvalue.symm⟩
    rw [List.mem_filter]
    exact ⟨List.mem_finRange _, decide_eq_true (by rwa [← hvalue])⟩

lemma lineTiles_nodup : ((lineTiles board direction line).map Prod.fst).Nodup := by
  rw [lineTiles, List.map_map]
  change (List.map id _).Nodup
  rw [List.map_id]
  exact (List.nodup_finRange 4).filter _

def landed (offset : Fin 4) : UInt16 :=
  ((boardPieces board direction line)[offset.val]?).elim 0 fun p => landedTile (p.map Prod.snd)

lemma collapseLine_boardLine (offset : Fin 4) :
    (collapseLine (boardLine board direction line)).values.get offset = landed board direction line offset := by
  rw [collapseLine_get, linePieces_boardLine, List.getElem?_map, landed]
  cases (boardPieces board direction line)[offset.val]? <;> rfl

def boardMotions : List TileMotion :=
  (boardPieces board direction line).zipIdx.flatMap fun x => pieceMotions direction line x.1 x.2

lemma moveLine_eq (state : Board × MoveOutcome) : moveLine board direction state line =
    ((List.finRange 4).foldl (fun next offset =>
        next.put (cell direction line offset) (landed board direction line offset)) state.1,
      { state.2 with
        scoreDelta := state.2.scoreDelta + (collapseLine (boardLine board direction line)).scoreDelta
        motions := state.2.motions ++ boardMotions board direction line }) := by
  have hmotions : lineMotions direction line 0 (lineTiles board direction line) =
      boardMotions board direction line := lineMotions_eq direction line 0 _
  rw [← hmotions]
  simp only [← collapseLine_boardLine]
  rfl

section

variable {direction line} {offset line' : Fin 4} {tile : Fin 4 → UInt16}

lemma put_cell_get (next : Board) (value : UInt16) (offset' : Fin 4) :
    (next.put (cell direction line offset) value).get (cell direction line' offset') =
      if line = line' ∧ offset = offset' then value else next.get (cell direction line' offset') := by
  simp only [Board.get_put, cell_inj]

lemma foldl_put_cell_get (offsets : List (Fin 4)) (next : Board) :
    (offsets.foldl (fun next offset => next.put (cell direction line offset) (tile offset))
      next).get (cell direction line' offset) =
      if line = line' ∧ offset ∈ offsets then tile offset else next.get (cell direction line' offset) := by
  induction offsets generalizing next with
  | nil => simp
  | cons first offsets ih =>
    rw [List.foldl_cons, ih, put_cell_get]
    by_cases hline : line = line'
    · by_cases hmem : offset ∈ offsets
      · rw [if_pos ⟨hline, hmem⟩, if_pos ⟨hline, List.mem_cons_of_mem _ hmem⟩]
      · by_cases hfirst : first = offset
        · rw [if_neg (fun h => hmem h.2), if_pos ⟨hline, hfirst⟩,
            if_pos ⟨hline, List.mem_cons.mpr (.inl hfirst.symm)⟩, hfirst]
        · rw [if_neg (fun h => hmem h.2), if_neg (fun h => hfirst h.2),
            if_neg fun h => (List.mem_cons.mp h.2).elim (fun he => hfirst he.symm) hmem]
    · rw [if_neg (fun h => hline h.1), if_neg (fun h => hline h.1), if_neg (fun h => hline h.1)]

end

lemma moveLines_fold (lines : List (Fin 4)) (state : Board × MoveOutcome) :
    let moved := lines.foldl (moveLine board direction) state
    (∀ line offset, moved.1.get (cell direction line offset) =
      if line ∈ lines then landed board direction line offset else state.1.get (cell direction line offset)) ∧
    moved.2.scoreDelta = state.2.scoreDelta +
      (lines.map fun line => (collapseLine (boardLine board direction line)).scoreDelta).sum ∧
    moved.2.motions = state.2.motions ++ lines.flatMap (boardMotions board direction) := by
  induction lines generalizing state with
  | nil => exact ⟨fun line offset => rfl, (UInt32.add_zero _).symm, (List.append_nil _).symm⟩
  | cons first lines ih =>
    obtain ⟨hboard, hscore, hmotions⟩ := ih (moveLine board direction state first)
    rw [moveLine_eq] at hboard hscore hmotions
    rw [List.foldl_cons, moveLine_eq]
    refine ⟨fun line offset => ?_, ?_, ?_⟩
    · rw [hboard, foldl_put_cell_get]
      by_cases hmem : line ∈ lines
      · rw [if_pos hmem, if_pos (List.mem_cons_of_mem _ hmem)]
      · by_cases hfirst : first = line
        · rw [if_neg hmem, if_pos ⟨hfirst, List.mem_finRange _⟩,
            if_pos (List.mem_cons.mpr (.inl hfirst.symm)), hfirst]
        · rw [if_neg hmem, if_neg (fun h => hfirst h.1),
            if_neg fun h => (List.mem_cons.mp h).elim (fun he => hfirst he.symm) hmem]
    · rw [hscore, List.map_cons, List.sum_cons, add_assoc]
    · rw [hmotions, List.flatMap_cons, List.append_assoc]

namespace Game2048

lemma moveLines_get (offset : Fin 4) :
    (moveLines board direction).1.get (cell direction line offset) = landed board direction line offset := by
  obtain ⟨hboard, -, -⟩ := moveLines_fold board direction (List.finRange 4) (board, {})
  rw [← moveLines] at hboard
  rw [hboard, if_pos (List.mem_finRange line)]

lemma moveLines_score : (moveLines board direction).2.scoreDelta =
    ((List.finRange 4).map fun line => (collapseLine (boardLine board direction line)).scoreDelta).sum := by
  obtain ⟨-, hscore, -⟩ := moveLines_fold board direction (List.finRange 4) (board, {})
  rw [← moveLines] at hscore
  exact hscore.trans (UInt32.zero_add _)

lemma moveLines_motions : (moveLines board direction).2.motions =
    (List.finRange 4).flatMap (boardMotions board direction) := by
  obtain ⟨-, -, hmotions⟩ := moveLines_fold board direction (List.finRange 4) (board, {})
  rw [← moveLines] at hmotions
  exact hmotions

end Game2048

section

variable {board direction line}

lemma boardPieces_length_le : (boardPieces board direction line).length ≤ 4 := by
  have hlength := congrArg List.length (linePieces_boardLine board direction line)
  rw [List.length_map] at hlength
  exact hlength ▸ linePieces_length_le

lemma arriving_boardMotions (line' offset : Fin 4) :
    (boardMotions board direction line').filter (·.toCell = cell direction line offset) =
      if line' = line then
        ((boardPieces board direction line)[offset.val]?).elim [] (pieceMotions direction line · offset)
      else [] := by
  split <;> rename_i hline
  · subst hline
    rw [boardMotions, filter_flatMap_zipIdx (k := offset.val), if_pos (Nat.zero_le _), Nat.sub_zero]
    intro x hx motion hmotion
    obtain ⟨tile, -, rfl⟩ := List.mem_map.mp hmotion
    have hle : (boardPieces board direction line').length ≤ 4 := boardPieces_length_le
    have hlt : x.2 < 4 := (List.snd_lt_of_mem_zipIdx hx).trans_le hle
    rw [decide_eq_true_eq, cell_inj, and_iff_right rfl, Fin.ext_iff]
    change x.2 % 4 = _ ↔ _
    rw [Nat.mod_eq_of_lt hlt]
  · rw [List.filter_eq_nil_iff]
    intro motion hmotion hcell
    obtain ⟨x, -, hx⟩ := List.mem_flatMap.mp hmotion
    obtain ⟨tile, -, rfl⟩ := List.mem_map.mp hx
    exact hline (cell_inj.mp (of_decide_eq_true hcell)).1

lemma arriving_moveLines (offset : Fin 4) :
    (Game2048.moveLines board direction).2.motions.filter (·.toCell = cell direction line offset) =
      ((boardPieces board direction line)[offset.val]?).elim [] (pieceMotions direction line · offset) := by
  rw [Game2048.moveLines_motions, List.filter_flatMap]
  rw [flatMap_eq_of_unique (List.nodup_finRange 4) (List.mem_finRange line), arriving_boardMotions, if_pos rfl]
  intro line' _ hne
  rw [arriving_boardMotions, if_neg hne]

lemma boardMotions_sources : (boardMotions board direction line).map (fun motion => (motion.fromCell, motion.value)) =
    (lineTiles board direction line).map fun tile => (cell direction line tile.1, tile.2) := by
  have hpiece : ∀ x ∈ (boardPieces board direction line).zipIdx,
      (pieceMotions direction line x.1 x.2).map (fun motion => (motion.fromCell, motion.value)) =
        x.1.toList.map fun tile => (cell direction line tile.1, tile.2) := by
    rintro ⟨p, k⟩ hx
    rw [pieceMotions, List.map_map]
    refine List.map_congr_left fun tile htile => ?_
    have hp : p ∈ boardPieces board direction line := List.fst_mem_of_mem_zipIdx hx
    cases p with
    | single first =>
      obtain rfl := List.mem_singleton.mp htile
      rfl
    | pair first second =>
      rcases List.mem_pair.mp htile with rfl | rfl
      · rfl
      · exact Prod.ext rfl (key_of_pair hp).symm
  rw [boardMotions, List.map_flatMap, List.flatMap_congr hpiece]
  conv_rhs => rw [← pieces_flatten Prod.snd (lineTiles board direction line), List.map_flatMap]
  rw [← boardPieces, ← List.flatMap_map (fun x : Piece (Fin 4 × UInt16) × ℕ => x.1)
    (fun p => p.toList.map fun tile => (cell direction line tile.1, tile.2)), List.zipIdx_map_fst]

end

namespace Game2048

variable {board direction}

lemma moveLines_eq_iff : (moveLines board direction).1 = board ↔
    ∀ line, (collapseLine (boardLine board direction line)).values = boardLine board direction line := by
  constructor
  · intro heq line
    apply Vector.ext
    intro k hk
    have hlanded := collapseLine_boardLine board direction line ⟨k, hk⟩
    have hline := boardLine_get board direction line ⟨k, hk⟩
    rw [← moveLines_get, heq, ← hline] at hlanded
    exact hlanded
  · intro h
    have hcells : ∀ c : Fin 16, (moveLines board direction).1.get c = board.get c := by
      intro c
      obtain ⟨line, offset, rfl⟩ := exists_cell direction c
      rw [moveLines_get, ← collapseLine_boardLine, h, boardLine_get]
    apply Vector.ext
    intro i hi
    exact hcells ⟨i, hi⟩

lemma moveLines_empty (h : (moveLines board direction).1 ≠ board) :
    ∃ c : Fin 16, (moveLines board direction).1.get c = 0 := by
  by_contra! hfull
  refine h (moveLines_eq_iff.mpr fun line => collapseLine_full fun k => ?_)
  rw [collapseLine_boardLine, ← moveLines_get]
  exact hfull _

lemma getD_mod_mem {cells : List (Fin 16)} (h : cells ≠ []) (n : ℕ) (default : Fin 16) :
    cells.getD (n % cells.length) default ∈ cells := by
  rw [List.getD_eq_getElem _ _ (Nat.mod_lt _ (List.length_pos_of_ne_nil h))]
  exact List.getElem_mem _

lemma spawn_of_empty {game : Game2048} (h : ∃ c : Fin 16, game.board.get c = 0) :
    ∃ (c : Fin 16) (value : UInt16), game.spawn.1 = some (c, value) ∧ (value = 2 ∨ value = 4) ∧
      game.board.get c = 0 ∧ game.spawn.2.board = game.board.put c value := by
  have hempty : (List.finRange 16).filter (fun index => game.board[index] = 0) ≠ [] := by
    obtain ⟨c, hc⟩ := h
    exact List.ne_nil_of_mem (List.mem_filter.mpr ⟨List.mem_finRange c, decide_eq_true hc⟩)
  rw [spawn]
  dsimp only
  rw [if_neg hempty]
  refine ⟨_, _, rfl, ?_, ?_, rfl⟩
  · split
    · exact .inr rfl
    · exact .inl rfl
  · have hselected := getD_mod_mem hempty game.random.1.toNat 0
    exact of_decide_eq_true (List.mem_filter.mp hselected).2

lemma changed_board {game : Game2048} (h : (game.move direction).1.changed = true) :
    ∃ c : Fin 16, (game.move direction).1.spawnedCell = c.val ∧
      ((game.move direction).1.spawnedValue = 2 ∨ (game.move direction).1.spawnedValue = 4) ∧
      (moveLines game.board direction).1.get c = 0 ∧
      (game.move direction).2.board =
        (moveLines game.board direction).1.put c (game.move direction).1.spawnedValue := by
  obtain ⟨hlost, hmoved⟩ := changed_iff.mp h
  rw [move_changed hlost hmoved]
  have hempty : ∃ c : Fin 16, (game.advance (moveLines game.board direction)).board.get c = 0 :=
    moveLines_empty hmoved
  obtain ⟨c, value, hspawned, hvalue, hzero, hboard⟩ := spawn_of_empty hempty
  rw [hspawned]
  generalize moveLines game.board direction = moved at hzero hboard
  exact ⟨c, rfl, hvalue, hzero, hboard⟩

lemma changed_outcome {game : Game2048} (h : (game.move direction).1.changed = true) :
    (game.move direction).1.motions = (moveLines game.board direction).2.motions ∧
      (game.move direction).1.scoreDelta = (moveLines game.board direction).2.scoreDelta := by
  obtain ⟨hlost, hmoved⟩ := changed_iff.mp h
  rw [move_changed hlost hmoved]
  obtain ⟨-, hscore, hmotions⟩ := withSpawned_fields (moveLines game.board direction).2
    (game.advance (moveLines game.board direction)).spawn.1
  exact ⟨hmotions, hscore⟩

end Game2048

/-- The motions that end in one cell, and the tile that the cell then holds. -/
inductive Arrives : List TileMotion → UInt16 → Prop
  | nothing : Arrives [] 0
  | single (motion : TileMotion) (hmerged : motion.merged = false) (hvalue : motion.value ≠ 0) :
    Arrives [motion] motion.value
  | merged (first second : TileMotion) (hfirst : first.merged = true) (hsecond : second.merged = true)
    (hvalue : first.value = second.value) (hne : first.value ≠ 0) :
    Arrives [first, second] ((collapseLine #v[first.value, second.value, 0, 0]).values.get 0)

section

variable {board direction line} {offset : Fin 4}

lemma arrives_landed : Arrives
    (((boardPieces board direction line)[offset.val]?).elim [] (pieceMotions direction line · offset))
    (landed board direction line offset) := by
  rw [landed]
  cases hpiece : (boardPieces board direction line)[offset.val]? with
  | none => exact .nothing
  | some p =>
    have hp := List.mem_of_getElem? hpiece
    have hfirst : p.first.2 ≠ 0 := by
      refine ((mem_lineTiles board direction line).mp ?_).2
      rw [← pieces_flatten Prod.snd (lineTiles board direction line)]
      exact List.mem_flatMap.mpr ⟨p, hp, p.first_mem⟩
    cases p with
    | single tile => exact .single _ rfl hfirst
    | pair first second =>
      have hmerged := Arrives.merged
        ⟨cell direction line first.1, cell direction line (Fin.ofNat 4 offset), first.2, true⟩
        ⟨cell direction line second.1, cell direction line (Fin.ofNat 4 offset), first.2, true⟩ rfl rfl rfl hfirst
      have hvalue : first.2 ≠ 0 := hfirst
      dsimp only at hmerged
      rw [collapseLine_pair hvalue] at hmerged
      exact hmerged

end

namespace Game2048

variable {board direction}

lemma arrives_moveLines (c : Fin 16) :
    Arrives ((moveLines board direction).2.motions.filter (·.toCell = c)) ((moveLines board direction).1.get c) := by
  obtain ⟨line, offset, rfl⟩ := exists_cell direction c
  rw [arriving_moveLines, moveLines_get]
  exact arrives_landed

lemma moveLines_sources :
    (moveLines board direction).2.motions.map (fun motion => (motion.fromCell, motion.value)) =
      (List.finRange 4).flatMap fun line =>
        (lineTiles board direction line).map fun tile => (cell direction line tile.1, tile.2) := by
  rw [moveLines_motions, List.map_flatMap]
  exact List.flatMap_congr fun line _ => boardMotions_sources

lemma mem_moveLines_sources {c : Fin 16} {value : UInt16} :
    (c, value) ∈ (moveLines board direction).2.motions.map (fun motion => (motion.fromCell, motion.value)) ↔
      value = board.get c ∧ value ≠ 0 := by
  rw [moveLines_sources, List.mem_flatMap]
  constructor
  · rintro ⟨line, -, hline⟩
    obtain ⟨tile, htile, heq⟩ := List.mem_map.mp hline
    obtain ⟨rfl, rfl⟩ := Prod.mk.inj heq
    exact (mem_lineTiles board direction line).mp htile
  · intro h
    obtain ⟨line, offset, rfl⟩ := exists_cell direction c
    exact ⟨line, List.mem_finRange line, List.mem_map.mpr
      ⟨(offset, value), (mem_lineTiles board direction line).mpr h, rfl⟩⟩

lemma moveLines_sources_nodup :
    ((moveLines board direction).2.motions.map TileMotion.fromCell).Nodup := by
  have hmap : (moveLines board direction).2.motions.map TileMotion.fromCell =
      (List.finRange 4).flatMap fun line =>
        ((lineTiles board direction line).map Prod.fst).map (cell direction line) := by
    have hsources := congrArg (List.map Prod.fst) (@moveLines_sources board direction)
    simp only [List.map_flatMap, List.map_map] at hsources ⊢
    exact hsources
  rw [hmap, List.nodup_flatMap]
  refine ⟨fun line _ => ?_, ?_⟩
  · exact (lineTiles_nodup board direction line).map fun a b h => (cell_inj.mp h).2
  · refine (List.nodup_finRange 4).imp fun {line line'} hne => ?_
    intro c hc hc'
    obtain ⟨offset, -, rfl⟩ := List.mem_map.mp hc
    obtain ⟨offset', -, heq⟩ := List.mem_map.mp hc'
    exact hne (cell_inj.mp heq).1.symm

/-- The motions of a move that changes the board: every tile moves once, one or two equal ones come to a cell,
and what they leave there is the board of the collapsed lines, to which the new tile is added. -/
theorem motions_agree (game : Game2048) (direction : MoveDirection)
    (h : (game.move direction).1.changed = true) :
    let outcome := (game.move direction).1
    outcome.motions.length ≤ 16 ∧ (outcome.motions.map TileMotion.fromCell).Nodup ∧
      (∀ c : Fin 16, game.board.get c ≠ 0 ↔ c ∈ outcome.motions.map TileMotion.fromCell) ∧
      (∀ motion ∈ outcome.motions, motion.value = game.board.get motion.fromCell) ∧
      ∃ next : Board,
        (∀ c : Fin 16, Arrives (outcome.motions.filter (·.toCell = c)) (next.get c)) ∧
        (∀ line offset, next.get (cell direction line offset) =
          (collapseLine (.ofFn fun offset => game.board.get (cell direction line offset))).values.get offset) ∧
        outcome.scoreDelta = ((List.finRange 4).map fun line =>
          (collapseLine (.ofFn fun offset => game.board.get (cell direction line offset))).scoreDelta).sum ∧
        ∃ c : Fin 16, outcome.spawnedCell = c.val ∧ next.get c = 0 ∧
          (game.move direction).2.board = next.put c outcome.spawnedValue := by
  dsimp only
  obtain ⟨c, hcell, -, hzero, hboard⟩ := changed_board h
  obtain ⟨hmotions, hscore⟩ := changed_outcome h
  rw [hmotions, hscore]
  have hnodup := @moveLines_sources_nodup game.board direction
  have hsource : ∀ motion ∈ (moveLines game.board direction).2.motions,
      motion.value = game.board.get motion.fromCell ∧ motion.value ≠ 0 := fun motion hmotion =>
    mem_moveLines_sources.mp (List.mem_map.mpr ⟨motion, hmotion, rfl⟩)
  refine ⟨?_, hnodup, fun c => ⟨fun hne => ?_, fun hmem => ?_⟩, fun motion hmotion => (hsource motion hmotion).1,
    (moveLines game.board direction).1, arrives_moveLines, fun line offset => ?_, moveLines_score _ _,
    c, hcell, hzero, hboard⟩
  · have hlength := hnodup.length_le_card
    rwa [List.length_map, Fintype.card_fin] at hlength
  · obtain ⟨motion, hmotion, heq⟩ := List.mem_map.mp (mem_moveLines_sources.mpr ⟨rfl, hne⟩)
    exact List.mem_map.mpr ⟨motion, hmotion, (Prod.mk.inj heq).1⟩
  · obtain ⟨motion, hmotion, rfl⟩ := List.mem_map.mp hmem
    obtain ⟨hvalue, hne⟩ := hsource motion hmotion
    rwa [← hvalue]
  · rw [moveLines_get, ← collapseLine_boardLine]
    rfl

def pairedGame : Game2048 := { board := #v[2, 2, 0, 0, 4, 0, 4, 0, 0, 0, 0, 0, 0, 0, 0, 0] }

theorem paired_game_motions_agree : (pairedGame.move .left).1.changed = true ∧
    ((pairedGame.move .left).1.motions.map TileMotion.fromCell).Nodup := by
  have hchanged : (pairedGame.move .left).1.changed = true := by decide
  exact ⟨hchanged, (motions_agree pairedGame .left hchanged).2.1⟩

end Game2048

end LvglPlatform
