import Mathlib.Data.List.Basic

/-! # One of many

A list of flags of which exactly one is set. Clearing it and setting another leaves exactly one
(`oneHot.set_set`). In any other list of flags, a marker that clears the flag it leaves and sets
the one it comes to puts right all that it passes: `Settled V i` is this invariant, for the flags
in `V`, and `Settled.eq` what it comes to when all of them have been passed. -/

/-- `n` flags, the one with the index `i` set. -/
def oneHot (n i : Nat) : List Bool := (List.range n).map (· == i)

namespace oneHot

variable {n i j : Nat}

@[simp] theorem length_eq : (oneHot n i).length = n := by simp [oneHot]

@[simp] theorem getElem_eq {k : Nat} (h : k < (oneHot n i).length) :
    (oneHot n i)[k] = (k == i) := by
  simp [oneHot]

/-- What is read of a flag that may not exist. -/
theorem getD_eq (hi : i < n) (k : Nat) : (oneHot n i).getD k false = (k == i) := by
  rw [List.getD_eq_getElem?_getD]
  by_cases hk : k < n
  · rw [List.getElem?_eq_getElem (by simpa using hk)]
    simp
  · rw [List.getElem?_eq_none (by simpa using hk)]
    have hne : k ≠ i := by omega
    simp [hne]

/-- **Moving the flag.** -/
theorem set_set : ((oneHot n i).set i false).set j true = oneHot n j := by
  apply List.ext_getElem
  · simp
  · intro k hk _
    rw [List.getElem_set, List.getElem_set]
    grind [getElem_eq]

theorem inj (hi : i < n) (h : oneHot n i = oneHot n j) : i = j := by
  have hflag := getD_eq hi i
  rw [h] at hflag
  by_cases hj : j < n
  · rw [getD_eq hj] at hflag
    simpa using hflag
  -- an index that is out of range would leave every flag clear, but the one of `i` is set
  · have hfalse : (oneHot n j).getD i false = false := by
      rw [List.getD_eq_getElem?_getD, List.getElem?_eq_getElem (by simpa using hi)]
      have hne : i ≠ j := by omega
      simp [hne]
    rw [hfalse] at hflag
    simp at hflag

/-! ## Flags put right one by one -/

/-- Among the flags in `V`, that of `i` is set and no other. -/
def Settled (V : Nat → Prop) (i : Nat) (flags : List Bool) : Prop :=
  ∀ k (hk : k < flags.length), V k → flags[k] = (k == i)

variable {V : Nat → Prop} {flags : List Bool}

theorem settled_empty : Settled (fun _ => False) i flags := fun _ _ hV => hV.elim

/-- A move puts right the flag that it clears and the one that it sets. -/
theorem Settled.move (h : Settled V i flags) :
    Settled (fun k => V k ∨ k = i ∨ k = j) j ((flags.set i false).set j true) := by
  intro k hk hV
  rw [List.length_set, List.length_set] at hk
  have hflag : V k → flags[k] = (k == i) := h k hk
  rw [List.getElem_set, List.getElem_set]
  grind

/-- Flags that are all right are one of many. -/
theorem Settled.eq (h : Settled V i flags) (hall : ∀ k < flags.length, V k) :
    flags = oneHot flags.length i := by
  apply List.ext_getElem
  · simp
  · intro k hk _
    rw [getElem_eq]
    exact h k hk (hall k hk)

end oneHot
