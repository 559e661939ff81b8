import Mathlib.Data.List.Basic
import Mathlib.Data.Nat.ModEq

/-! # Ring buffers

`cells` is the storage of a ring, `front` the index of its oldest element and `size` the number of
elements in it. `window` reads them out in order of arrival; the two theorems `window_push` and
`window_pop` say what writing the cell behind the last element and leaving the first one behind do
to it. The indices run around the ring, so two offsets meet in one cell only if they are equal
(`offset_inj`). -/

namespace Ring

variable {α : Type*} [Inhabited α]

/-- The `size` elements of a ring from `front` on, oldest first. -/
def window (cells : List α) (front size : Nat) : List α :=
  (List.range size).map fun i => cells.getD ((front + i) % cells.length) default

@[simp] theorem window_zero (cells : List α) (front : Nat) : window cells front 0 = [] := rfl

@[simp] theorem length_window (cells : List α) (front size : Nat) :
    (window cells front size).length = size := by
  simp [window]

/-- Two offsets below the capacity that land on one cell are equal. -/
theorem offset_inj {cap front i j : Nat} (hi : i < cap) (hj : j < cap)
    (h : (front + i) % cap = (front + j) % cap) : i = j := by
  have hmod : i % cap = j % cap := Nat.ModEq.add_left_cancel' front h
  rwa [Nat.mod_eq_of_lt hi, Nat.mod_eq_of_lt hj] at hmod

/-- Writing the cell behind the last element appends to the window, as long as there is room. -/
theorem window_push {cells : List α} {front size : Nat} (h : size < cells.length) (x : α) :
    window (cells.set ((front + size) % cells.length) x) front (size + 1) =
      window cells front size ++ [x] := by
  have hpos : 0 < cells.length := Nat.lt_of_le_of_lt (Nat.zero_le _) h
  unfold window
  rw [List.range_succ, List.map_append, List.length_set]
  congr 1
  -- the elements that were there: none of their cells is the one that is written
  · apply List.map_congr_left
    intro i hi
    have hne : (front + size) % cells.length ≠ (front + i) % cells.length := by
      intro heq
      have := offset_inj h (Nat.lt_trans (List.mem_range.mp hi) h) heq
      have := List.mem_range.mp hi
      omega
    rw [List.getD_eq_getElem?_getD, List.getElem?_set_ne hne, ← List.getD_eq_getElem?_getD]
  · have hlt := Nat.mod_lt (front + size) hpos
    simp [hlt]

/-- Leaving the first element behind drops it from the window. -/
theorem window_pop {cells : List α} {front size : Nat} (h : 0 < size) :
    window cells front size =
      cells.getD (front % cells.length) default ::
        window cells ((front + 1) % cells.length) (size - 1) := by
  -- the first element is the head, and the others are the window one cell further on
  obtain ⟨n, rfl⟩ : ∃ n, size = n + 1 := ⟨size - 1, by omega⟩
  unfold window
  rw [List.range_succ_eq_map, List.map_cons, List.map_map]
  congr 1
  apply List.map_congr_left
  intro i _
  have : (front + (i + 1)) % cells.length = ((front + 1) % cells.length + i) % cells.length := by
    rw [Nat.mod_add_mod, Nat.add_assoc, Nat.add_comm 1 i]
  simp only [Function.comp_apply, Nat.succ_eq_add_one, this]

end Ring
