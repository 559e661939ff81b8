import Mathlib.Algebra.BigOperators.Group.List.Basic

/-! # Travelling by steps

A position that changes by steps, and the replica that takes the opposite steps: it is the image
of the first under a point reflection, as long as each of the two carries its steps out
(`travel_reflect`). The same holds of every stop on the way (`stops_reflect`). -/

namespace Travel

variable {G : Type*} [AddCommGroup G]

/-- The end of the journey from `p` with the steps `ds`. -/
def travel (p : G) (ds : List G) : G := p + ds.sum

/-- Where each step ends. -/
def stops : G → List G → List G
  | _, [] => []
  | p, d :: ds => (p + d) :: stops (p + d) ds

@[simp] theorem travel_nil (p : G) : travel p [] = p := by simp [travel]

@[simp] theorem stops_nil (p : G) : stops p [] = [] := rfl

theorem travel_cons (p d : G) (ds : List G) : travel p (d :: ds) = travel (p + d) ds := by
  simp only [travel, List.sum_cons, add_assoc]

/-- One more step. -/
theorem travel_concat (p : G) (ds : List G) (d : G) : travel p (ds ++ [d]) = travel p ds + d := by
  simp only [travel, List.sum_append, List.sum_singleton, add_assoc]

theorem stops_concat (p : G) (ds : List G) (d : G) :
    stops p (ds ++ [d]) = stops p ds ++ [travel p ds + d] := by
  induction ds generalizing p with
  | nil => simp [stops]
  | cons e ds ih =>
      rw [List.cons_append, stops, stops, ih, travel_cons]
      rfl

theorem forall_stops_concat {P : G → Prop} {p : G} {ds : List G} {d : G} :
    (∀ q ∈ stops p (ds ++ [d]), P q) ↔ (∀ q ∈ stops p ds, P q) ∧ P (travel p ds + d) := by
  rw [stops_concat, List.forall_mem_append, List.forall_mem_singleton]

/-- One is where one started or where the last step ended. -/
theorem travel_eq_or_mem (p : G) (ds : List G) : travel p ds = p ∨ travel p ds ∈ stops p ds := by
  rcases List.eq_nil_or_concat ds with rfl | ⟨ds, d, rfl⟩
  · exact .inl (travel_nil p)
  · right
    rw [List.concat_eq_append, travel_concat, stops_concat]
    exact List.mem_append_right _ List.mem_cons_self

/-! ## The point reflection `p ↦ c - p` -/

theorem travel_reflect (c p : G) (ds : List G) :
    travel (c - p) (ds.map (- ·)) = c - travel p ds := by
  induction ds generalizing p with
  | nil => simp
  | cons d ds ih =>
      rw [List.map_cons, travel_cons, travel_cons, ← ih, sub_add_eq_sub_sub, sub_eq_add_neg (c - p)]

theorem stops_reflect (c p : G) (ds : List G) :
    stops (c - p) (ds.map (- ·)) = (stops p ds).map (c - ·) := by
  induction ds generalizing p with
  | nil => rfl
  | cons d ds ih =>
      have hstep : c - p + -d = c - (p + d) := by
        rw [sub_add_eq_sub_sub, ← sub_eq_add_neg]
      rw [List.map_cons, stops, stops, List.map_cons, hstep, ih]

end Travel
