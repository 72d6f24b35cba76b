import LvglPlatform.Foundation.Raster
import LvglPlatform.Profile.Transform

/-! The copy of a picture into the buffer of an overlay plane. The screen is turned, and so is the picture. -/

namespace LvglPlatform

open Foundation

def mulInt (a b : ℤ) : Option ℤ := checkedInt (a * b)

def bufferSize (rotation : ℤ) (logical : Size) : Size where
  width := if rotation = 90 ∨ rotation = 270 then logical.height else logical.width
  height := if rotation = 90 ∨ rotation = 270 then logical.width else logical.height

def overlayTarget (rotation : ℤ) (point : Point) (size : Size) : Option Point :=
  if rotation = 90 then do
    return ⟨← subInt (← subInt size.height 1) point.y, point.x⟩
  else if rotation = 180 then do
    return ⟨← subInt (← subInt size.width 1) point.x, ← subInt (← subInt size.height 1) point.y⟩
  else if rotation = 270 then do
    return ⟨point.y, ← subInt (← subInt size.width 1) point.x⟩
  else some point

/-- The points of the two loops, in their order. -/
def loopPoints (size : Size) : List Point :=
  ((List.range size.height.toNat).product (List.range size.width.toNat)).map fun cell => ⟨cell.2, cell.1⟩

/-- `target_y * stride + target_x`, in unsigned arithmetic. -/
def targetWord (stride : ℕ) (target : Point) : ℕ := ((target.y * stride + target.x) % 2 ^ 32).toNat

/-- A step of the loops. What is not there is neither read nor written. -/
def copyPixel (rotation : ℤ) (pixels : List UInt32) (size : Size) (stride : ℕ) (output : List UInt32)
    (point : Point) : Option (List UInt32) := do
  let target ← overlayTarget rotation point size
  let source ← addInt (← mulInt point.y size.width) point.x
  let pixel ← pixels[source.toNat]?
  if targetWord stride target < output.length then some (output.set (targetWord stride target) pixel) else none

/-- The words of a buffer after the loops. They have been cleared before. -/
def copyOverlay (rotation : ℤ) (pixels : List UInt32) (size : Size) (stride : ℕ) (buffer : List UInt32) :
    Option (List UInt32) :=
  (loopPoints size).foldlM (copyPixel rotation pixels size stride) (buffer.map fun _ => 0)

section

variable {degrees : ℕ} {point point' target : Point} {size : Size}

lemma mem_loopPoints : point ∈ loopPoints size ↔ OnScreen point size := by
  rw [loopPoints, List.mem_map]
  constructor
  · rintro ⟨⟨y, x⟩, hcell, rfl⟩
    obtain ⟨hy, hx⟩ := List.mem_product.mp hcell
    rw [List.mem_range] at hy hx
    exact ⟨by dsimp only; omega, by dsimp only; omega⟩
  · rintro ⟨hx, hy⟩
    refine ⟨(point.y.toNat, point.x.toNat), List.mem_product.mpr ⟨?_, ?_⟩, ?_⟩
    · rw [List.mem_range]
      omega
    · rw [List.mem_range]
      omega
    · rw [Point.mk.injEq]
      exact ⟨Int.toNat_of_nonneg hx.1, Int.toNat_of_nonneg hy.1⟩

lemma nodup_loopPoints : (loopPoints size).Nodup := by
  refine (List.nodup_range.product List.nodup_range).map ?_
  rintro ⟨y, x⟩ ⟨y', x'⟩ h
  rw [Point.mk.injEq] at h
  rw [Prod.mk.injEq]
  omega

def turned (degrees : ℕ) (size : Size) (point : Point) : Point := rotated point size ⟨degrees, 0, 0⟩

def opposite (degrees : ℕ) : ℕ := (360 - degrees) % 360

variable (hdegrees : degrees ∈ [0, 90, 180, 270])

include hdegrees

lemma opposite_mem : opposite degrees ∈ [0, 90, 180, 270] := by
  revert degrees
  decide

lemma opposite_opposite : opposite (opposite degrees) = degrees := by
  revert degrees
  decide

lemma bufferSize_opposite : bufferSize (opposite degrees) (bufferSize degrees size) = size := by
  simp only [List.mem_cons, List.not_mem_nil, or_false] at hdegrees
  rcases hdegrees with rfl | rfl | rfl | rfl <;> simp [bufferSize, opposite]

lemma turned_opposite :
    turned (opposite degrees) (bufferSize degrees size) (turned degrees size point) = point := by
  simp only [List.mem_cons, List.not_mem_nil, or_false] at hdegrees
  rcases hdegrees with rfl | rfl | rfl | rfl <;> simp [turned, rotated, bufferSize, opposite]

lemma onScreen_turned (h : OnScreen point size) :
    OnScreen (turned degrees size point) (bufferSize degrees size) := by
  obtain ⟨hx, hy⟩ := h
  simp only [List.mem_cons, List.not_mem_nil, or_false] at hdegrees
  rcases hdegrees with rfl | rfl | rfl | rfl
  all_goals
    refine ⟨?_, ?_⟩
    all_goals
      simp only [turned, rotated, bufferSize]
      norm_num
      omega

lemma turned_injective : Function.Injective (turned degrees size) :=
  Function.LeftInverse.injective fun _ => turned_opposite hdegrees

lemma onScreen_bufferSize : OnScreen target (bufferSize degrees size) ↔
    ∃ point, OnScreen point size ∧ turned degrees size point = target := by
  constructor
  · intro h
    have hopposite := opposite_mem hdegrees
    have hback := onScreen_turned hopposite h
    have hforth := @turned_opposite _ target (bufferSize degrees size) hopposite
    rw [bufferSize_opposite hdegrees] at hback hforth
    rw [opposite_opposite hdegrees] at hforth
    exact ⟨_, hback, hforth⟩
  · rintro ⟨point, h, rfl⟩
    exact onScreen_turned hdegrees h

variable (hwidth : size.width < 2 ^ 31) (hheight : size.height < 2 ^ 31)

include hwidth hheight

lemma overlayTarget_eq (h : OnScreen point size) :
    overlayTarget degrees point size = some (turned degrees size point) := by
  obtain ⟨x, y⟩ := point
  obtain ⟨width, height⟩ := size
  obtain ⟨hx, hy⟩ := h
  dsimp only at hx hy hwidth hheight
  simp only [List.mem_cons, List.not_mem_nil, or_false] at hdegrees
  rcases hdegrees with rfl | rfl | rfl | rfl
  all_goals
    rw [overlayTarget]
    simp (disch := omega) [subInt_eq, turned, rotated]

lemma rotateLogical_turned (h : OnScreen point size) :
    rotateLogical point size ⟨degrees, 0, 0⟩ = some (turned degrees size point) := by
  have hx := h.x
  have hy := h.y
  have hrepresentable : Representable size ⟨degrees, 0, 0⟩ :=
    ⟨by omega, by omega, by dsimp only; omega, by dsimp only; omega, hdegrees⟩
  rw [rotateLogical_eq hrepresentable, clamped_eq h, turned]

end

def wordOf (stride : ℕ) (point : Point) : ℕ := (point.y * stride + point.x).toNat

section

variable {point point' : Point} {size : Size} {stride : ℕ}

lemma wordOf_eq (h : OnScreen point size) : wordOf stride point = rowMajor stride point.y.toNat point.x.toNat := by
  have hx := Int.toNat_of_nonneg h.x.1
  have hy := Int.toNat_of_nonneg h.y.1
  rw [wordOf, rowMajor, ← hx, ← hy]
  exact Int.toNat_natCast (point.y.toNat * stride + point.x.toNat)

variable (hstride : size.width ≤ stride)

include hstride

lemma wordOf_lt (h : OnScreen point size) : wordOf stride point < stride * size.height.toNat := by
  obtain ⟨hx, hy⟩ := h
  rw [wordOf_eq ⟨hx, hy⟩]
  apply rowMajor_lt
  · omega
  · omega

lemma wordOf_inj (h : OnScreen point size) (h' : OnScreen point' size)
    (heq : wordOf stride point = wordOf stride point') : point = point' := by
  obtain ⟨hx, hy⟩ := h
  obtain ⟨hx', hy'⟩ := h'
  rw [wordOf_eq ⟨hx, hy⟩, wordOf_eq ⟨hx', hy'⟩, rowMajor_inj (by omega) (by omega)] at heq
  obtain ⟨x, y⟩ := point
  obtain ⟨x', y'⟩ := point'
  dsimp only at hx hy hx' hy' heq
  rw [Point.mk.injEq]
  omega

end

lemma wordOf_cast {point : Point} {size : Size} (h : OnScreen point size) :
    (wordOf size.width.toNat point : ℤ) = point.y * size.width + point.x := by
  have hx := h.x
  rw [wordOf, Int.toNat_of_nonneg (a := size.width) (by omega)]
  exact Int.toNat_of_nonneg (add_nonneg (Int.mul_nonneg h.y.1 (by omega)) hx.1)

lemma targetWord_eq {point : Point} {size : Size} (stride : ℕ) (h : OnScreen point size) :
    targetWord stride point = wordOf stride point % 2 ^ 32 := by
  have hword : 0 ≤ point.y * stride + point.x := by
    have hrow := Int.mul_nonneg h.y.1 (Int.natCast_nonneg stride)
    have hx := h.x.1
    omega
  rw [targetWord, wordOf]
  omega

/-- The words of the buffer are the pixels of the turned picture; the others are cleared. -/
structure ShowsTurned (degrees : ℕ) (pixels : List UInt32) (size : Size) (stride : ℕ) (output : List UInt32) :
    Prop where
  pixels : ∀ point, OnScreen point size → ∃ target, rotateLogical point size ⟨degrees, 0, 0⟩ = some target ∧
    output[wordOf stride target]? = pixels[wordOf size.width.toNat point]?
  cleared : ∀ word < output.length,
    (∀ target, OnScreen target (bufferSize degrees size) → word ≠ wordOf stride target) → output[word]? = some 0

section

variable {degrees : ℕ} {size : Size} {stride : ℕ} {pixels buffer output : List UInt32}
  (hdegrees : degrees ∈ [0, 90, 180, 270]) (hwidth : size.width < 2 ^ 31) (hheight : size.height < 2 ^ 31)
  (hstride : (bufferSize degrees size).width ≤ stride)
  (hbuffer : stride * (bufferSize degrees size).height.toNat ≤ buffer.length)
  (hwords : stride * (bufferSize degrees size).height.toNat ≤ 2 ^ 32)
  (hpixels : pixels.length = size.width.toNat * size.height.toNat)
  (hread : size.width.toNat * size.height.toNat ≤ 2 ^ 31)

include hdegrees hwidth hheight hstride hbuffer hwords hpixels hread

lemma copyPixel_eq {point : Point} (h : OnScreen point size) (houtput : output.length = buffer.length) :
    copyPixel degrees pixels size stride output point =
      some (output.set (wordOf stride (turned degrees size point))
        (pixels[wordOf size.width.toNat point]?.getD 0)) := by
  have hturned := onScreen_turned hdegrees h
  have hlt := wordOf_lt hstride hturned
  have hsource : wordOf size.width.toNat point < pixels.length := by
    rw [hpixels]
    exact wordOf_lt (Int.self_le_toNat _) h
  have hcast := wordOf_cast h
  have hrow := Int.mul_nonneg h.y.1 (h.x.1.trans h.x.2.le)
  have hleft := h.x.1
  have hmul : mulInt point.y size.width = some (point.y * size.width) := checkedInt_eq (by omega)
  have hword : targetWord stride (turned degrees size point) = wordOf stride (turned degrees size point) := by
    rw [targetWord_eq stride hturned]
    exact Nat.mod_eq_of_lt (by omega)
  rw [copyPixel, overlayTarget_eq hdegrees hwidth hheight h, hmul]
  simp only [Option.bind_eq_bind, Option.bind_some]
  rw [addInt_eq (by omega), ← hcast, Option.bind_some, Int.toNat_natCast, List.getElem?_eq_getElem hsource,
    Option.bind_some, Option.getD_some, hword, houtput, if_pos (hlt.trans_le hbuffer)]

lemma copyOverlay_eq : copyOverlay degrees pixels size stride buffer =
    some (writeAll ((loopPoints size).map fun point =>
      (wordOf stride (turned degrees size point), pixels[wordOf size.width.toNat point]?.getD 0))
      (buffer.map fun _ => 0)) := by
  refine foldlM_eq_writeAll fun point hpoint other hother => ?_
  rw [List.length_map] at hother
  exact copyPixel_eq hdegrees hwidth hheight hstride hbuffer hwords hpixels hread (mem_loopPoints.mp hpoint)
    hother

lemma copyOverlay_shows : ∃ output, copyOverlay degrees pixels size stride buffer = some output ∧
    output.length = buffer.length ∧ ShowsTurned degrees pixels size stride output := by
  refine ⟨_, copyOverlay_eq hdegrees hwidth hheight hstride hbuffer hwords hpixels hread, ?_, ?_, ?_⟩
  · rw [length_writeAll, List.length_map]
  · intro point hpoint
    refine ⟨_, rotateLogical_turned hdegrees hwidth hheight hpoint, ?_⟩
    have hsource : wordOf size.width.toNat point < pixels.length := by
      rw [hpixels]
      exact wordOf_lt (Int.self_le_toNat _) hpoint
    rw [List.getElem?_eq_getElem hsource]
    apply writeAll_of_mem
    · rw [List.map_map]
      refine nodup_loopPoints.map_on fun p hp q hq heq => ?_
      have hp := onScreen_turned hdegrees (mem_loopPoints.mp hp)
      have hq := onScreen_turned hdegrees (mem_loopPoints.mp hq)
      exact turned_injective hdegrees (wordOf_inj hstride hp hq heq)
    · refine List.mem_map.mpr ⟨point, mem_loopPoints.mpr hpoint, ?_⟩
      rw [List.getElem?_eq_getElem hsource, Option.getD_some]
    · rw [List.length_map]
      exact (wordOf_lt hstride (onScreen_turned hdegrees hpoint)).trans_le hbuffer
  · intro word hword hcleared
    rw [length_writeAll, List.length_map] at hword
    rw [writeAll_of_notMem, List.getElem?_map, List.getElem?_eq_getElem hword, Option.map_some]
    intro hmem
    simp only [List.map_map, List.mem_map, Function.comp_apply] at hmem
    obtain ⟨point, hpoint, rfl⟩ := hmem
    exact hcleared _ (onScreen_turned hdegrees (mem_loopPoints.mp hpoint)) rfl

end

/-- The copy writes every point of the buffer once and no other, each where the rotation of a profile puts it. If
the words of the buffer can be counted in 32 bits, they are the turned picture afterwards. -/
theorem overlay_copy_rotates (degrees : ℕ) (size : Size) (hdegrees : degrees ∈ [0, 90, 180, 270])
    (hwidth : size.width < 2 ^ 31) (hheight : size.height < 2 ^ 31) :
    (∀ point, OnScreen point size →
      overlayTarget degrees point size = rotateLogical point size ⟨degrees, 0, 0⟩) ∧
    (∃ targets, (loopPoints size).Forall₂ (fun point target => overlayTarget degrees point size = some target)
        targets ∧
      targets.Nodup ∧ (∀ target, target ∈ targets ↔ OnScreen target (bufferSize degrees size)) ∧
      ∀ stride : ℕ, (bufferSize degrees size).width ≤ stride → ∀ target ∈ targets,
        targetWord stride target < stride * (bufferSize degrees size).height.toNat) ∧
    ∀ (stride : ℕ) (pixels buffer : List UInt32), (bufferSize degrees size).width ≤ stride →
      stride * (bufferSize degrees size).height.toNat ≤ buffer.length →
      stride * (bufferSize degrees size).height.toNat ≤ 2 ^ 32 →
      pixels.length = size.width.toNat * size.height.toNat → size.width.toNat * size.height.toNat ≤ 2 ^ 31 →
      ∃ output, copyOverlay degrees pixels size stride buffer = some output ∧ output.length = buffer.length ∧
        ShowsTurned degrees pixels size stride output := by
  refine ⟨?_, ⟨(loopPoints size).map (turned degrees size), ?_, ?_, ?_, ?_⟩, ?_⟩
  · intro point hpoint
    rw [overlayTarget_eq hdegrees hwidth hheight hpoint, rotateLogical_turned hdegrees hwidth hheight hpoint]
  · rw [List.forall₂_map_right_iff, List.forall₂_same]
    exact fun point hpoint => overlayTarget_eq hdegrees hwidth hheight (mem_loopPoints.mp hpoint)
  · exact nodup_loopPoints.map (turned_injective hdegrees)
  · intro target
    simp only [List.mem_map, mem_loopPoints, onScreen_bufferSize hdegrees]
  · intro stride hstride target htarget
    obtain ⟨point, hpoint, rfl⟩ := List.mem_map.mp htarget
    have hturned := onScreen_turned hdegrees (mem_loopPoints.mp hpoint)
    rw [targetWord_eq stride hturned]
    exact (Nat.mod_le _ _).trans_lt (wordOf_lt hstride hturned)
  · intro stride pixels buffer hstride hbuffer hwords hpixels hread
    exact copyOverlay_shows hdegrees hwidth hheight hstride hbuffer hwords hpixels hread

theorem small_picture_turned :
    ∃ output, copyOverlay 90 [1, 2, 3, 4, 5, 6] ⟨3, 2⟩ 4 (List.replicate 13 9) = some output ∧
      output.length = 13 ∧ ShowsTurned 90 [1, 2, 3, 4, 5, 6] ⟨3, 2⟩ 4 output :=
  (overlay_copy_rotates 90 ⟨3, 2⟩ (by decide) (by decide) (by decide)).2.2 4 _ _ (by decide) (by decide)
    (by decide) (by decide) (by decide)

example : copyOverlay 90 [1, 2, 3, 4, 5, 6] ⟨3, 2⟩ 4 (List.replicate 13 9) =
    some [4, 1, 0, 0, 5, 2, 0, 0, 6, 3, 0, 0, 0] := by
  decide

end LvglPlatform
