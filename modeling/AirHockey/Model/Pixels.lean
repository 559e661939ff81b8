import AirHockey.Lib.RowMajor
import AirHockey.Model.Contact

/-! # The collision test is exact

`detect_collision` goes through a rectangle that it computes from the borders of two sprites, and
reads both maps at offsets that it computes from the screen position. `Sprite.Shows` says in terms
of the picture alone which pixels of the screen a sprite covers; the test is true exactly if two
sprites show a common one.

`scannedPixels` lists the pixels that the loops visit: they are those of the intersection of the
two rectangles (`mem_scannedPixels`). `pixelPosition_eq` identifies the offset that is computed
for one of them with that of its line and column, so that every read stays inside the map
(`Sprite.Covers.offset_inside`). `detectCollision_exact` is the sum of both. -/

namespace AirHockey

/-- The sprite, with its upper left corner at `(left, top)`, has the screen pixel `(x, y)` in its
rectangle, and there its map is not transparent. -/
def Sprite.Shows (s : Sprite) (left top : Int) (bytesPerPixel : Nat) (x y : Int) : Prop :=
  ∃ row col : Nat, row < s.height ∧ col < s.width ∧ x = left + col ∧ y = top + row ∧
    colorAt s.map (RowMajor.offset s.width bytesPerPixel row col) bytesPerPixel ≠ transparent

/-- The screen pixel `(x, y)` is in the rectangle of the sprite put at `(left, top)`. -/
def Sprite.Covers (s : Sprite) (left top x y : Int) : Prop :=
  (left ≤ x ∧ x < left + s.width) ∧ top ≤ y ∧ y < top + s.height

/-- The screen pixels that `detect_collision` looks at if it finds nothing, in order. -/
def scannedPixels (object1 : Sprite) (newX newY : Int) (object2 : Sprite) : List (Int × Int) :=
  let leftBorder := max newX object2.x
  let rightBorder := min (newX + object1.width) (object2.x + object2.width)
  let topBorder := max newY object2.y
  let bottomBorder := min (newY + object1.height) (object2.y + object2.height)
  if rightBorder ≥ leftBorder ∧ topBorder ≤ bottomBorder then
    (List.range (rightBorder - leftBorder).toNat).flatMap fun (i : Nat) =>
      (List.range (bottomBorder - topBorder).toNat).map fun (j : Nat) =>
        (leftBorder + i, topBorder + j)
  else []

/-- The offsets at which the maps of the two sprites are read for a pixel of the screen. -/
def mapOffsets (object1 : Sprite) (newX newY : Int) (object2 : Sprite) (bytesPerPixel : Nat)
    (pixel : Int × Int) : Int × Int :=
  (pixelPosition object1.width newX newY pixel.1 pixel.2 bytesPerPixel,
   pixelPosition object2.width object2.x object2.y pixel.1 pixel.2 bytesPerPixel)

/-! ## The scan -/

variable {o₁ o₂ : Sprite} {newX newY x y : Int} {bytesPerPixel : Nat}

/-- A range of the loop, as an interval. -/
theorem exists_range {left right x : Int} :
    (∃ i : Nat, i ∈ List.range (right - left).toNat ∧ left + i = x) ↔ left ≤ x ∧ x < right := by
  constructor
  · rintro ⟨i, hi, rfl⟩
    have := List.mem_range.mp hi
    omega
  · rintro ⟨hle, hlt⟩
    exact ⟨(x - left).toNat, List.mem_range.mpr (by omega), by omega⟩

/-- **The scan is the intersection** of the two rectangles. The test before the loops lets pass what
touches from outside, but then the loops have nothing to go through. -/
theorem mem_scannedPixels :
    (x, y) ∈ scannedPixels o₁ newX newY o₂ ↔
      o₁.Covers newX newY x y ∧ o₂.Covers o₂.x o₂.y x y := by
  -- first the loops, with the borders as they are computed …
  have hscan : (x, y) ∈ scannedPixels o₁ newX newY o₂ ↔
      (max newX o₂.x ≤ x ∧ x < min (newX + o₁.width) (o₂.x + o₂.width)) ∧
        max newY o₂.y ≤ y ∧ y < min (newY + o₁.height) (o₂.y + o₂.height) := by
    unfold scannedPixels
    dsimp only
    split
    · rw [← exists_range, ← exists_range, List.mem_flatMap]
      constructor
      · rintro ⟨i, hi, hj⟩
        obtain ⟨j, hj, heq⟩ := List.mem_map.mp hj
        obtain ⟨hx, hy⟩ := Prod.mk.inj heq
        exact ⟨⟨i, hi, hx⟩, j, hj, hy⟩
      · rintro ⟨⟨i, hi, hx⟩, j, hj, hy⟩
        exact ⟨i, hi, List.mem_map.mpr ⟨j, hj, Prod.ext hx hy⟩⟩
    · next hbox =>
        refine ⟨fun h => absurd h List.not_mem_nil, fun h => absurd ?_ hbox⟩
        omega
  -- … then the borders, as maximum and minimum of the sides
  rw [hscan, max_le_iff, lt_min_iff, max_le_iff, lt_min_iff]
  unfold Sprite.Covers
  grind

/-- The result is that of the test at each pixel of the scan. -/
theorem detectCollision_iff_scan :
    detectCollision o₁ newX newY o₂ bytesPerPixel = true ↔
      ∃ pixel ∈ scannedPixels o₁ newX newY o₂,
        let offsets := mapOffsets o₁ newX newY o₂ bytesPerPixel pixel
        colorAt o₁.map offsets.1.toNat bytesPerPixel ≠ transparent ∧
          colorAt o₂.map offsets.2.toNat bytesPerPixel ≠ transparent := by
  unfold detectCollision scannedPixels
  dsimp only
  -- the loops run over the scan, the outer one over columns
  split
  · unfold pixelDetection mapOffsets
    simp [List.any_eq_true, List.mem_flatMap]
  · simp

/-! ## The offsets -/

/-- The offset that is computed is that of the pixel's line and column. -/
theorem pixelPosition_eq {left top : Int} {row col width : Nat} :
    pixelPosition width left top (left + col) (top + row) bytesPerPixel =
      RowMajor.offset width bytesPerPixel row col := by
  unfold pixelPosition RowMajor.offset
  push_cast
  ring

/-- A pixel of the rectangle has a line and a column. -/
theorem Sprite.covers_iff {s : Sprite} {left top : Int} :
    s.Covers left top x y ↔
      ∃ row col : Nat, row < s.height ∧ col < s.width ∧ x = left + col ∧ y = top + row := by
  unfold Sprite.Covers
  constructor
  · rintro ⟨⟨hleft, hright⟩, htop, hbottom⟩
    exact ⟨(y - top).toNat, (x - left).toNat, by omega, by omega, by omega, by omega⟩
  · rintro ⟨row, col, hrow, hcol, rfl, rfl⟩
    omega

/-- Inside the rectangle, no byte outside the map is read. -/
theorem Sprite.Covers.offset_inside {s : Sprite} {left top : Int} (h : s.Covers left top x y)
    (bytesPerPixel : Nat) :
    0 ≤ pixelPosition s.width left top x y bytesPerPixel ∧
      pixelPosition s.width left top x y bytesPerPixel + bytesPerPixel ≤
        s.width * s.height * bytesPerPixel := by
  obtain ⟨row, col, hrow, hcol, rfl, rfl⟩ := Sprite.covers_iff.mp h
  rw [pixelPosition_eq]
  have hle := RowMajor.offset_add_le hrow hcol bytesPerPixel
  exact ⟨Int.natCast_nonneg _, by exact_mod_cast hle⟩

/-- What is shown is what is covered and read as a colour. -/
theorem Sprite.shows_iff {s : Sprite} {left top : Int} :
    s.Shows left top bytesPerPixel x y ↔
      s.Covers left top x y ∧
        colorAt s.map (pixelPosition s.width left top x y bytesPerPixel).toNat bytesPerPixel ≠
          transparent := by
  rw [Sprite.covers_iff]
  constructor
  · rintro ⟨row, col, hrow, hcol, rfl, rfl, hcolor⟩
    rw [pixelPosition_eq, Int.toNat_natCast]
    exact ⟨⟨row, col, hrow, hcol, rfl, rfl⟩, hcolor⟩
  · rintro ⟨⟨row, col, hrow, hcol, rfl, rfl⟩, hcolor⟩
    rw [pixelPosition_eq, Int.toNat_natCast] at hcolor
    exact ⟨row, col, hrow, hcol, rfl, rfl, hcolor⟩

/-! ## Exactness -/

/-- **The collision test is exact**, reads inside the two maps only, and is symmetric. -/
theorem detectCollision_exact (o₁ o₂ : Sprite) (newX newY : Int) (bytesPerPixel : Nat) :
    (detectCollision o₁ newX newY o₂ bytesPerPixel = true ↔
      ∃ x y, o₁.Shows newX newY bytesPerPixel x y ∧ o₂.Shows o₂.x o₂.y bytesPerPixel x y) ∧
    (∀ pixel ∈ scannedPixels o₁ newX newY o₂,
      let offsets := mapOffsets o₁ newX newY o₂ bytesPerPixel pixel
      (0 ≤ offsets.1 ∧ offsets.1 + bytesPerPixel ≤ o₁.width * o₁.height * bytesPerPixel) ∧
        0 ≤ offsets.2 ∧ offsets.2 + bytesPerPixel ≤ o₂.width * o₂.height * bytesPerPixel) ∧
    detectCollision o₁ newX newY o₂ bytesPerPixel =
      detectCollision o₂ o₂.x o₂.y { o₁ with x := newX, y := newY } bytesPerPixel := by
  refine ⟨?_, ?_, ?_⟩
  · rw [detectCollision_iff_scan]
    constructor
    -- a pixel at which both tests succeed is shown by both
    · rintro ⟨⟨x, y⟩, hscan, hcolor₁, hcolor₂⟩
      obtain ⟨hcover₁, hcover₂⟩ := mem_scannedPixels.mp hscan
      exact ⟨x, y, Sprite.shows_iff.mpr ⟨hcover₁, hcolor₁⟩,
        Sprite.shows_iff.mpr ⟨hcover₂, hcolor₂⟩⟩
    · rintro ⟨x, y, hshow₁, hshow₂⟩
      obtain ⟨hcover₁, hcolor₁⟩ := Sprite.shows_iff.mp hshow₁
      obtain ⟨hcover₂, hcolor₂⟩ := Sprite.shows_iff.mp hshow₂
      exact ⟨(x, y), mem_scannedPixels.mpr ⟨hcover₁, hcover₂⟩, hcolor₁, hcolor₂⟩
  · rintro ⟨x, y⟩ hscan
    obtain ⟨hcover₁, hcover₂⟩ := mem_scannedPixels.mp hscan
    exact ⟨hcover₁.offset_inside bytesPerPixel, hcover₂.offset_inside bytesPerPixel⟩
  · exact detectCollision_comm { o₁ with x := newX, y := newY } o₂ bytesPerPixel

end AirHockey
