import Mathlib.Data.Nat.Basic
import Mathlib.Tactic.Ring

/-! # Pictures in memory

A picture of `height` lines of `width` pixels is stored line by line, `depth` bytes a pixel.
`offset` is where a pixel begins. Going through the pixels in order is going through the bytes in
order (`offset_succ`, `offset_width`), every pixel is inside the picture (`offset_add_le`), and no
byte belongs to two of them (`offset_inj`), for an offset is a number with the digits row, column
and byte. -/

namespace RowMajor

variable {width height depth row col row' col' k k' : Nat}

/-- Where the pixel in the column `col` of the line `row` begins. -/
def offset (width depth row col : Nat) : Nat := (row * width + col) * depth

@[simp] theorem offset_zero (width depth : Nat) : offset width depth 0 0 = 0 := by
  simp [offset]

/-- The next pixel of the line. -/
theorem offset_succ (width depth row col : Nat) :
    offset width depth row (col + 1) = offset width depth row col + depth := by
  unfold offset
  ring

/-- After the last pixel of a line comes the next line. -/
theorem offset_width (width depth row : Nat) :
    offset width depth row width = offset width depth (row + 1) 0 := by
  unfold offset
  ring

/-- A pixel of the picture, or the end of one of its lines, is not behind the end of the picture. -/
theorem offset_le (hrow : row < height) (hcol : col ≤ width) (depth : Nat) :
    offset width depth row col ≤ width * height * depth := by
  calc offset width depth row col ≤ offset width depth row width :=
        Nat.mul_le_mul_right depth (Nat.add_le_add_left hcol _)
    _ = (row + 1) * width * depth := by
        unfold offset
        ring
    _ ≤ height * width * depth := Nat.mul_le_mul_right depth (Nat.mul_le_mul_right width hrow)
    _ = width * height * depth := by rw [Nat.mul_comm height]

/-- A pixel that is in the picture is stored in the picture. -/
theorem offset_add_le (hrow : row < height) (hcol : col < width) (depth : Nat) :
    offset width depth row col + depth ≤ width * height * depth := by
  rw [← offset_succ]
  exact offset_le hrow hcol depth

/-- Quotient and remainder of a sum of this form. -/
theorem digits_unique {n a b i j : Nat} (hi : i < n) (hj : j < n) (h : a * n + i = b * n + j) :
    a = b ∧ i = j := by
  have hn : 0 < n := Nat.lt_of_le_of_lt (Nat.zero_le i) hi
  obtain ⟨hquot, hrem⟩ := (Nat.div_mod_unique hn).mpr
    ⟨show i + n * a = a * n + i by rw [Nat.add_comm, Nat.mul_comm], hi⟩
  obtain ⟨hquot', hrem'⟩ := (Nat.div_mod_unique hn).mpr
    ⟨show j + n * b = b * n + j by rw [Nat.add_comm, Nat.mul_comm], hj⟩
  rw [h] at hquot hrem
  exact ⟨hquot.symm.trans hquot', hrem.symm.trans hrem'⟩

/-- No byte belongs to two pixels. -/
theorem offset_inj (hcol : col < width) (hcol' : col' < width) (hk : k < depth) (hk' : k' < depth)
    (h : offset width depth row col + k = offset width depth row' col' + k') :
    (row = row' ∧ col = col') ∧ k = k' := by
  obtain ⟨hpixel, hbyte⟩ := digits_unique hk hk' h
  exact ⟨digits_unique hcol hcol' hpixel, hbyte⟩

end RowMajor
