import Mathlib

/-! The rotations between the logical and the physical screen. The arithmetic is that of 32-bit integers, where
an overflow has no result. -/

namespace LvglPlatform

structure Point where
  x : ℤ := 0
  y : ℤ := 0
  deriving DecidableEq

structure Size where
  width : ℤ := 0
  height : ℤ := 0
  deriving DecidableEq

structure Transform where
  clockwiseDegrees : ℕ := 0
  offsetX : ℤ := 0
  offsetY : ℤ := 0
  deriving DecidableEq

def checkedInt (n : ℤ) : Option ℤ := if -(2 ^ 31) ≤ n ∧ n < 2 ^ 31 then some n else none

def addInt (a b : ℤ) : Option ℤ := checkedInt (a + b)

def subInt (a b : ℤ) : Option ℤ := checkedInt (a - b)

def clamp (value low high : ℤ) : ℤ := if value < low then low else if high < value then high else value

def clampAxis (value length : ℤ) : Option ℤ := do
  let last ← subInt length 1
  return clamp value 0 last

def rotateLogical (point : Point) (logical : Size) (transform : Transform) : Option Point := do
  let x ← clampAxis point.x logical.width
  let y ← clampAxis point.y logical.height
  match transform.clockwiseDegrees with
  | 0 => return ⟨← addInt transform.offsetX x, ← addInt transform.offsetY y⟩
  | 90 =>
    let right ← subInt (← addInt transform.offsetX logical.height) 1
    return ⟨← subInt right y, ← addInt transform.offsetY x⟩
  | 180 =>
    let right ← subInt (← addInt transform.offsetX logical.width) 1
    let bottom ← subInt (← addInt transform.offsetY logical.height) 1
    return ⟨← subInt right x, ← subInt bottom y⟩
  | 270 =>
    let bottom ← subInt (← addInt transform.offsetY logical.width) 1
    return ⟨← addInt transform.offsetX y, ← subInt bottom x⟩
  | _ => return {}

def inverseRotate (point : Point) (logical : Size) (transform : Transform) : Option Point := do
  let x ← subInt point.x transform.offsetX
  let y ← subInt point.y transform.offsetY
  match transform.clockwiseDegrees with
  | 0 => clampPoint ⟨x, y⟩
  | 90 => clampPoint ⟨y, ← subInt (← subInt logical.height 1) x⟩
  | 180 =>
    clampPoint ⟨← subInt (← subInt logical.width 1) x, ← subInt (← subInt logical.height 1) y⟩
  | 270 => clampPoint ⟨← subInt (← subInt logical.width 1) y, x⟩
  | _ => return {}
where
  clampPoint (point : Point) : Option Point := do
    return ⟨← clampAxis point.x logical.width, ← clampAxis point.y logical.height⟩

lemma checkedInt_eq {n : ℤ} (h : -(2 ^ 31) ≤ n ∧ n < 2 ^ 31) : checkedInt n = some n := if_pos h

/-- The sizes and the offsets that a profile can have. -/
structure Rotatable (logical : Size) (transform : Transform) : Prop where
  width : 1 ≤ logical.width ∧ logical.width ≤ 8192
  height : 1 ≤ logical.height ∧ logical.height ≤ 8192
  offsetX : -8192 ≤ transform.offsetX ∧ transform.offsetX ≤ 8192
  offsetY : -8192 ≤ transform.offsetY ∧ transform.offsetY ≤ 8192
  degrees : transform.clockwiseDegrees ∈ [0, 90, 180, 270]

structure OnScreen (point : Point) (logical : Size) : Prop where
  x : 0 ≤ point.x ∧ point.x < logical.width
  y : 0 ≤ point.y ∧ point.y < logical.height

def clamped (point : Point) (logical : Size) : Point :=
  ⟨clamp point.x 0 (logical.width - 1), clamp point.y 0 (logical.height - 1)⟩

def rotated (point : Point) (logical : Size) (transform : Transform) : Point :=
  match transform.clockwiseDegrees with
  | 0 => ⟨transform.offsetX + point.x, transform.offsetY + point.y⟩
  | 90 => ⟨transform.offsetX + logical.height - 1 - point.y, transform.offsetY + point.x⟩
  | 180 => ⟨transform.offsetX + logical.width - 1 - point.x, transform.offsetY + logical.height - 1 - point.y⟩
  | 270 => ⟨transform.offsetX + point.y, transform.offsetY + logical.width - 1 - point.x⟩
  | _ => {}

lemma clamp_range {value high : ℤ} (h : 0 ≤ high) : 0 ≤ clamp value 0 high ∧ clamp value 0 high ≤ high := by
  rw [clamp]
  split
  · exact ⟨le_rfl, h⟩
  · split <;> omega

lemma clamp_eq {value high : ℤ} (h : 0 ≤ value ∧ value ≤ high) : clamp value 0 high = value := by
  rw [clamp, if_neg (by omega), if_neg (by omega)]

section

variable {point : Point} {logical : Size} {transform : Transform}

lemma clamped_eq (h : OnScreen point logical) : clamped point logical = point := by
  obtain ⟨hx, hy⟩ := h
  rw [clamped, clamp_eq (by omega), clamp_eq (by omega)]

lemma clampAxis_eq {value length : ℤ} (h : 1 ≤ length ∧ length < 2 ^ 31) :
    clampAxis value length = some (clamp value 0 (length - 1)) := by
  rw [clampAxis, subInt, checkedInt_eq (by omega)]
  rfl

lemma addInt_eq {a b : ℤ} (h : -(2 ^ 31) ≤ a + b ∧ a + b < 2 ^ 31) : addInt a b = some (a + b) :=
  checkedInt_eq h

lemma subInt_eq {a b : ℤ} (h : -(2 ^ 31) ≤ a - b ∧ a - b < 2 ^ 31) : subInt a b = some (a - b) :=
  checkedInt_eq h

/-- Sizes and offsets whose sums are integers. -/
structure Representable (logical : Size) (transform : Transform) : Prop where
  width : 1 ≤ logical.width ∧ logical.width < 2 ^ 31
  height : 1 ≤ logical.height ∧ logical.height < 2 ^ 31
  offsetX : -(2 ^ 31) ≤ transform.offsetX ∧ transform.offsetX + max logical.width logical.height < 2 ^ 31
  offsetY : -(2 ^ 31) ≤ transform.offsetY ∧ transform.offsetY + max logical.width logical.height < 2 ^ 31
  degrees : transform.clockwiseDegrees ∈ [0, 90, 180, 270]

lemma Rotatable.representable (h : Rotatable logical transform) : Representable logical transform := by
  obtain ⟨hwidth, hheight, hoffsetX, hoffsetY, hdegrees⟩ := h
  exact ⟨by omega, by omega, by omega, by omega, hdegrees⟩

lemma onScreen_clamped (h : Representable logical transform) : OnScreen (clamped point logical) logical := by
  obtain ⟨hwidth, -⟩ := h.width
  obtain ⟨hheight, -⟩ := h.height
  have hx := @clamp_range point.x (logical.width - 1) (by omega)
  have hy := @clamp_range point.y (logical.height - 1) (by omega)
  exact ⟨⟨hx.1, by change clamp point.x 0 (logical.width - 1) < _; omega⟩,
    ⟨hy.1, by change clamp point.y 0 (logical.height - 1) < _; omega⟩⟩

lemma rotateLogical_eq (h : Representable logical transform) :
    rotateLogical point logical transform = some (rotated (clamped point logical) logical transform) := by
  have hscreen := @onScreen_clamped point logical transform h
  obtain ⟨hwidth, hheight, hoffsetX, hoffsetY, hdegrees⟩ := h
  rw [rotateLogical, clampAxis_eq hwidth, clampAxis_eq hheight, Option.bind_eq_bind, Option.bind_some,
    Option.bind_some]
  obtain ⟨⟨hleft, hright⟩, htop, hbottom⟩ := hscreen
  rw [clamped] at hleft hright htop hbottom ⊢
  generalize clamp point.x 0 (logical.width - 1) = x at hleft hright ⊢
  generalize clamp point.y 0 (logical.height - 1) = y at htop hbottom ⊢
  obtain ⟨degrees, offsetX, offsetY⟩ := transform
  dsimp only at hleft hright htop hbottom hoffsetX hoffsetY hdegrees ⊢
  simp only [List.mem_cons, List.not_mem_nil, or_false] at hdegrees
  rcases hdegrees with rfl | rfl | rfl | rfl
  all_goals
    simp (disch := omega) only [addInt_eq, subInt_eq, Option.bind_some]
    rfl

lemma inverseRotate_rotated (h : Rotatable logical transform) (hpoint : OnScreen point logical) :
    inverseRotate (rotated point logical transform) logical transform = some point := by
  have hclamp : ∀ x y, x = point.x → y = point.y → inverseRotate.clampPoint logical ⟨x, y⟩ = some point := by
    rintro x y rfl rfl
    rw [inverseRotate.clampPoint, clampAxis_eq h.representable.width, clampAxis_eq h.representable.height]
    exact congrArg some (clamped_eq hpoint)
  obtain ⟨⟨hleft, hright⟩, htop, hbottom⟩ := hpoint
  obtain ⟨hwidth, hheight, hoffsetX, hoffsetY, hdegrees⟩ := h
  obtain ⟨degrees, offsetX, offsetY⟩ := transform
  dsimp only at hoffsetX hoffsetY hdegrees
  simp only [List.mem_cons, List.not_mem_nil, or_false] at hdegrees
  rw [inverseRotate, rotated]
  rcases hdegrees with rfl | rfl | rfl | rfl
  all_goals
    simp (disch := omega) only [subInt_eq, Option.bind_eq_bind, Option.bind_some]
    exact hclamp _ _ (by omega) (by omega)

/-- The physical screen holds every point as soon as it holds the corners. -/
lemma onScreen_rotated {physical : Size} (h : Rotatable logical transform)
    (hcorners : ∀ x ∈ [0, logical.width - 1], ∀ y ∈ [0, logical.height - 1],
      OnScreen (rotated ⟨x, y⟩ logical transform) physical) (hpoint : OnScreen point logical) :
    OnScreen (rotated point logical transform) physical := by
  obtain ⟨hx, hy⟩ := hcorners 0 List.mem_cons_self 0 List.mem_cons_self
  obtain ⟨hx', hy'⟩ := hcorners (logical.width - 1) (List.mem_cons_of_mem _ List.mem_cons_self)
    (logical.height - 1) (List.mem_cons_of_mem _ List.mem_cons_self)
  obtain ⟨⟨hleft, hright⟩, htop, hbottom⟩ := hpoint
  have hdegrees := h.degrees
  obtain ⟨degrees, offsetX, offsetY⟩ := transform
  simp only [List.mem_cons, List.not_mem_nil, or_false] at hdegrees
  -- each coordinate of the image runs with one coordinate of the point or against it
  rcases hdegrees with rfl | rfl | rfl | rfl
  all_goals
    simp only [rotated] at hx hy hx' hy' ⊢
    exact ⟨by dsimp only; omega, by dsimp only; omega⟩

end

end LvglPlatform
