import AirHockey.Lib.RowMajor

/-! # Copying one picture into another

A small picture is copied into a window of a large one, pixel by pixel and line by line, except
for the pixels that are left out. Both are blocks of memory with the same number of bytes a pixel.

`Painted w solid src row col b b'` is the invariant of the two nested loops: of the pixels before
`(row, col)` the solid ones have been copied, and nothing else has changed. It starts with no
pixel at all (`Painted.start`), is kept by a pixel that is left out (`skip`), by one that is
copied (`copy`), by the end of a line (`nextLine`) and by a whole line copied at once
(`copyLine`). No copy disturbs an earlier one because no two pixels share a byte
(`Window.target_inj`). -/

/-- A block of memory. -/
structure Block (β : Type*) where
  size : Nat
  byte : Nat → β

/-- Copy `n` bytes; `none` if one of them is outside its block. -/
def Block.memcpy {β : Type*} (dst : Block β) (p : Nat) (src : Block β) (q n : Nat) :
    Option (Block β) :=
  if p + n ≤ dst.size ∧ q + n ≤ src.size then
    some { dst with
      byte := fun i => if p ≤ i ∧ i < p + n then src.byte (q + (i - p)) else dst.byte i }
  else none

namespace Block

variable {β : Type*} (dst src : Block β) (p q n m : Nat)

theorem memcpy_zero (hp : p ≤ dst.size) (hq : q ≤ src.size) : dst.memcpy p src q 0 = some dst := by
  rw [memcpy, if_pos ⟨hp, hq⟩]
  congr
  funext i
  exact if_neg (by omega)

/-- Bytes can be copied in two parts. -/
theorem memcpy_add : dst.memcpy p src q (n + m) =
    (dst.memcpy p src q n).bind fun dst => dst.memcpy (p + n) src (q + n) m := by
  unfold memcpy
  -- the two copies need what the one copy needs, so both sides are refused together
  by_cases hfirst : p + n ≤ dst.size ∧ q + n ≤ src.size
  · rw [if_pos hfirst, Option.bind_some]
    by_cases hsecond : p + n + m ≤ dst.size ∧ q + n + m ≤ src.size
    · rw [if_pos hsecond, if_pos (by omega)]
      congr
      funext i
      dsimp only
      -- the byte is of the second part, of the first one, or of neither
      by_cases hright : p + n ≤ i ∧ i < p + n + m
      · rw [if_pos hright, if_pos (by omega)]
        congr 1
        omega
      · rw [if_neg hright]
        by_cases hleft : p ≤ i ∧ i < p + n
        · rw [if_pos hleft, if_pos (by omega)]
        · rw [if_neg hleft, if_neg (by omega)]
    · rw [if_neg hsecond, if_neg (by omega)]
  · rw [if_neg hfirst, if_neg (by omega)]
    rfl

end Block

namespace Blit

/-- A window of `height` lines of `width` pixels in a picture of `lines` lines of `line` pixels. -/
structure Window where
  line : Nat
  lines : Nat
  left : Nat
  top : Nat
  width : Nat
  height : Nat
  depth : Nat
  left_le : left + width ≤ line
  top_le : top + height ≤ lines

namespace Window

variable {w : Window} {row col r c k k' : Nat}

/-- Where a pixel is in the small picture … -/
def source (w : Window) (row col : Nat) : Nat := RowMajor.offset w.width w.depth row col

/-- … and where it goes. -/
def target (w : Window) (row col : Nat) : Nat :=
  RowMajor.offset w.line w.depth (w.top + row) (w.left + col)

/-! ### The two pointers -/

theorem source_zero : w.source 0 0 = 0 := RowMajor.offset_zero _ _

theorem source_succ : w.source row (col + 1) = w.source row col + w.depth :=
  RowMajor.offset_succ _ _ _ _

/-- After the last pixel of a line the source goes on with the next one. -/
theorem source_width : w.source row w.width = w.source (row + 1) 0 :=
  RowMajor.offset_width _ _ _

theorem target_succ : w.target row (col + 1) = w.target row col + w.depth :=
  RowMajor.offset_succ _ _ _ _

/-- A pixel from the beginning of its line. -/
theorem target_eq (w : Window) (row col : Nat) :
    w.target row col = w.target row 0 + col * w.depth := by
  unfold target RowMajor.offset
  ring

theorem source_add_le (hrow : row < w.height) (hcol : col < w.width) :
    w.source row col + w.depth ≤ w.width * w.height * w.depth :=
  RowMajor.offset_add_le hrow hcol w.depth

theorem target_add_le (hrow : row < w.height) (hcol : col < w.width) :
    w.target row col + w.depth ≤ w.line * w.lines * w.depth := by
  have hleft := w.left_le
  have htop := w.top_le
  exact RowMajor.offset_add_le (by omega) (by omega) w.depth

/-- Where a line of the window begins. -/
theorem target_le (hrow : row < w.height) :
    w.target row 0 ≤ w.line * w.lines * w.depth := by
  have hleft := w.left_le
  have htop := w.top_le
  exact RowMajor.offset_le (by omega) (by omega) w.depth

/-- No two pixels go to the same place. -/
theorem target_inj (hcol : col < w.width) (hc : c < w.width) (hk : k < w.depth)
    (hk' : k' < w.depth) (h : w.target row col + k = w.target r c + k') :
    (row = r ∧ col = c) ∧ k = k' := by
  have hleft := w.left_le
  obtain ⟨⟨hrow, hcol⟩, hk⟩ := RowMajor.offset_inj (by omega) (by omega) hk hk' h
  exact ⟨⟨by omega, by omega⟩, hk⟩

/-! ### The order of the pixels -/

/-- The pixel `(r, c)` comes before `(row, col)`. -/
def Before (w : Window) (row col r c : Nat) : Prop := c < w.width ∧ (r < row ∨ r = row ∧ c < col)

theorem before_zero : ¬w.Before 0 0 r c := by
  unfold Before
  omega

theorem before_succ (hcol : col < w.width) :
    w.Before row (col + 1) r c ↔ w.Before row col r c ∨ r = row ∧ c = col := by
  unfold Before
  omega

theorem before_width : w.Before row w.width r c ↔ w.Before (row + 1) 0 r c := by
  unfold Before
  omega

theorem before_height : w.Before w.height 0 r c ↔ r < w.height ∧ c < w.width := by
  unfold Before
  omega

end Window

variable {β : Type*} {w : Window} {solid : Nat → Nat → Prop} {src b b' b'' : Block β}
  {row col : Nat}

/-- Of the pixels before `(row, col)` the solid ones have been copied, and no other byte has
changed. -/
structure Painted (w : Window) (solid : Nat → Nat → Prop) (src : Block β) (row col : Nat)
    (b b' : Block β) : Prop where
  size : b'.size = b.size
  shown : ∀ r c k, w.Before row col r c → solid r c → k < w.depth →
    b'.byte (w.target r c + k) = src.byte (w.source r c + k)
  frame : ∀ i, (∀ r c k, w.Before row col r c → solid r c → k < w.depth →
    i ≠ w.target r c + k) → b'.byte i = b.byte i

namespace Painted

theorem start : Painted w solid src 0 0 b b where
  size := rfl
  shown _ _ _ h := absurd h Window.before_zero
  frame _ _ := rfl

theorem nextLine (h : Painted w solid src row w.width b b') :
    Painted w solid src (row + 1) 0 b b' where
  size := h.size
  shown r c k hbefore := h.shown r c k (Window.before_width.mpr hbefore)
  frame i hi := h.frame i fun r c k hbefore => hi r c k (Window.before_width.mp hbefore)

/-- A pixel that is left out. -/
theorem skip (h : Painted w solid src row col b b') (hcol : col < w.width)
    (hclear : ¬solid row col) : Painted w solid src row (col + 1) b b' where
  size := h.size
  shown r c k hbefore hsolid := by
    rcases (Window.before_succ hcol).mp hbefore with hbefore | ⟨rfl, rfl⟩
    · exact h.shown r c k hbefore hsolid
    · exact absurd hsolid hclear
  frame i hi := h.frame i fun r c k hbefore =>
    hi r c k ((Window.before_succ hcol).mpr (.inl hbefore))

/-- A pixel that is copied: both of its places are in range, and it overwrites no other. -/
theorem copy (h : Painted w solid src row col b b') (hrow : row < w.height) (hcol : col < w.width)
    (hsolid : solid row col) (hdst : w.line * w.lines * w.depth ≤ b.size)
    (hsrc : w.width * w.height * w.depth ≤ src.size) :
    ∃ b'', b'.memcpy (w.target row col) src (w.source row col) w.depth = some b'' ∧
      Painted w solid src row (col + 1) b b'' := by
  have htarget := Window.target_add_le hrow hcol
  have hsource := Window.source_add_le hrow hcol
  have hsize := h.size
  refine ⟨_, if_pos ⟨by omega, by omega⟩, hsize, ?_, ?_⟩
  · intro r c k hbefore hshown hk
    dsimp only
    rcases (Window.before_succ hcol).mp hbefore with hearlier | ⟨rfl, rfl⟩
    · rw [if_neg, h.shown r c k hearlier hshown hk]
      rintro ⟨hle, hlt⟩
      have hsame : w.target row col + (w.target r c + k - w.target row col) =
          w.target r c + k := by omega
      obtain ⟨⟨rfl, rfl⟩, -⟩ := Window.target_inj hcol hearlier.1 (by omega) hk hsame
      have hnot := hearlier.2
      omega
    -- the pixel that has just been copied
    · rw [if_pos ⟨by omega, by omega⟩, Nat.add_sub_cancel_left]
  · intro i hi
    dsimp only
    -- a byte of no solid pixel was left alone by the earlier ones, and is outside of this one
    have hearlier := h.frame i fun r c k hbefore =>
      hi r c k ((Window.before_succ hcol).mpr (.inl hbefore))
    rw [if_neg, hearlier]
    rintro ⟨hle, hlt⟩
    have hhit := hi row col (i - w.target row col) ((Window.before_succ hcol).mpr (.inr ⟨rfl, rfl⟩))
      hsolid (by omega)
    omega

/-- The first pixels of a line, all of them solid, copied at once. -/
theorem copyPart (h : Painted w solid src row 0 b b') (hrow : row < w.height)
    (hsolid : ∀ col < w.width, solid row col) (hdst : w.line * w.lines * w.depth ≤ b.size)
    (hsrc : w.width * w.height * w.depth ≤ src.size) (hcol : col ≤ w.width) :
    ∃ b'', b'.memcpy (w.target row 0) src (w.source row 0) (col * w.depth) = some b'' ∧
      Painted w solid src row col b b'' := by
  induction col with
  | zero =>
      have htarget := w.target_le hrow
      have hsource : w.source row 0 ≤ w.width * w.height * w.depth :=
        RowMajor.offset_le hrow (Nat.zero_le _) _
      have hsize := h.size
      refine ⟨b', ?_, h⟩
      rw [Nat.zero_mul]
      exact Block.memcpy_zero _ _ _ _ (by omega) (by omega)
  | succ col ih =>
      -- a longer part is a shorter one and one pixel more
      obtain ⟨b₁, hfirst, hpainted⟩ := ih (Nat.le_of_succ_le hcol)
      obtain ⟨b₂, hnext, hpainted'⟩ :=
        hpainted.copy hrow (Nat.lt_of_succ_le hcol) (hsolid col hcol) hdst hsrc
      have hsource : w.source row 0 + col * w.depth = w.source row col := by
        unfold Window.source RowMajor.offset
        ring
      refine ⟨b₂, ?_, hpainted'⟩
      rw [Nat.succ_mul, Block.memcpy_add, hfirst, Option.bind_some, ← Window.target_eq, hsource]
      exact hnext

/-- A line whose pixels are all solid, copied at once. -/
theorem copyLine (h : Painted w solid src row 0 b b') (hrow : row < w.height)
    (hsolid : ∀ col < w.width, solid row col) (hdst : w.line * w.lines * w.depth ≤ b.size)
    (hsrc : w.width * w.height * w.depth ≤ src.size) :
    ∃ b'', b'.memcpy (w.target row 0) src (w.source row 0) (w.width * w.depth) = some b'' ∧
      Painted w solid src (row + 1) 0 b b'' := by
  obtain ⟨b'', hcopy, hpainted⟩ := h.copyPart hrow hsolid hdst hsrc (Nat.le_refl _)
  exact ⟨b'', hcopy, hpainted.nextLine⟩

end Painted

end Blit
