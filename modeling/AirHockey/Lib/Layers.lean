import Mathlib.Data.Set.Basic

/-! # Pictures in layers

A picture gives every place something to see; a layer does so for some places only. Layers are
painted one over another, and of those that have something at a place the last one is seen there.

All facts go through `paint_eq_onto_top`, by induction on the layers: painting many layers is
painting the one that is seen of them. What is seen is the last layer that has something
(`paint_of_last`), or the picture behind all of them (`paint_of_none`); and layers that cover a
set hide whatever was painted inside it (`paint_paint`). -/

/-- A picture that is transparent wherever it has nothing. -/
abbrev Layer (ι β : Type*) := ι → Option β

namespace Layer

variable {ι β : Type*}

/-- A layer painted over a picture. -/
def onto (l : Layer ι β) (f : ι → β) : ι → β := fun i => (l i).getD (f i)

/-- Layers painted over a picture, in this order. -/
def paint (ls : List (Layer ι β)) (f : ι → β) : ι → β := ls.foldl (fun f l => l.onto f) f

/-- What is seen of layers that are painted in this order. -/
def top : List (Layer ι β) → Layer ι β
  | [], _ => none
  | l :: ls, i => (top ls i).or (l i)

variable {l : Layer ι β} {ls ms : List (Layer ι β)} {f g : ι → β} {s : Set ι} {i : ι} {v : β}

theorem onto_of_some (h : l i = some v) : l.onto f i = v := by
  rw [onto, h, Option.getD_some]

theorem onto_of_none (h : l i = none) : l.onto f i = f i := by
  rw [onto, h, Option.getD_none]

@[simp] theorem paint_nil (f : ι → β) : paint [] f = f := rfl

@[simp] theorem paint_cons (l : Layer ι β) (ls : List (Layer ι β)) (f : ι → β) :
    paint (l :: ls) f = paint ls (l.onto f) := rfl

theorem paint_append (ls ms : List (Layer ι β)) (f : ι → β) :
    paint (ls ++ ms) f = paint ms (paint ls f) := List.foldl_append

/-- Painting layers is painting what is seen of them. -/
theorem paint_eq_onto_top (ls : List (Layer ι β)) (f : ι → β) : paint ls f = (top ls).onto f := by
  induction ls generalizing f with
  | nil => rfl
  | cons l ls ih =>
      rw [paint_cons, ih]
      funext i
      show (top ls i).getD ((l i).getD (f i)) = ((top ls i).or (l i)).getD (f i)
      cases top ls i with
      | none => rfl
      | some v => rfl

theorem top_eq_none (h : ∀ l ∈ ls, l i = none) : top ls i = none := by
  induction ls with
  | nil => rfl
  | cons l ls ih =>
      show (top ls i).or (l i) = none
      rw [ih fun m hm => h m (List.mem_cons_of_mem _ hm), h l List.mem_cons_self]
      rfl

/-- **The last layer is seen**: what a layer has at a place is seen there if no later one has
anything. -/
theorem paint_of_last (hl : l i = some v) (hms : ∀ m ∈ ms, m i = none) :
    paint (ls ++ l :: ms) f i = v := by
  rw [paint_append, paint_cons, paint_eq_onto_top, onto_of_none (top_eq_none hms), onto_of_some hl]

/-- Where no layer has anything, the picture shows through. -/
theorem paint_of_none (h : ∀ l ∈ ls, l i = none) : paint ls f i = f i := by
  rw [paint_eq_onto_top, onto_of_none (top_eq_none h)]

/-! ## What layers cover -/

/-- Some layer has something at every place of the set. -/
def Covers (ls : List (Layer ι β)) (s : Set ι) : Prop := ∀ i ∈ s, ∃ l ∈ ls, (l i).isSome

/-- No layer has anything at a place outside of the set. -/
def Within (ls : List (Layer ι β)) (s : Set ι) : Prop := ∀ l ∈ ls, ∀ i, i ∉ s → l i = none

theorem isSome_top (hl : l ∈ ls) (hi : (l i).isSome) : (top ls i).isSome := by
  induction ls with
  | nil => cases hl
  | cons m ls ih =>
      show ((top ls i).or (m i)).isSome
      rcases List.mem_cons.mp hl with rfl | hl
      · simp [hi]
      · simp [ih hl]

/-- What is under layers does not matter where they cover it. -/
theorem paint_congr (hcovers : Covers ls s) (h : ∀ i, i ∉ s → f i = g i) :
    paint ls f = paint ls g := by
  funext i
  rw [paint_eq_onto_top, paint_eq_onto_top]
  -- inside the set some layer hides the difference, outside of it there is none
  by_cases hi : i ∈ s
  · obtain ⟨l, hl, hsome⟩ := hcovers i hi
    obtain ⟨v, hv⟩ := Option.isSome_iff_exists.mp (isSome_top hl hsome)
    rw [onto_of_some hv, onto_of_some hv]
  · unfold onto
    rw [h i hi]

/-- **Repainting.** Layers hide what was painted inside the set that they cover. -/
theorem paint_paint (hwithin : Within ls s) (hcovers : Covers ms s) :
    paint ms (paint ls f) = paint ms f :=
  paint_congr hcovers fun i hi => paint_of_none fun l hl => hwithin l hl i hi

end Layer
