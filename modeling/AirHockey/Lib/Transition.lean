import Mathlib.Data.List.Basic

/-! # Runs of a partial transition system

A system is a function `step : σ → ε → Option σ`: the label `ε` is what happens, `none` says that
it has no defined outcome. Everything here is about finite runs, from a given state and along a
given list of labels; nothing is assumed about `σ` and `ε`.

`Along` is a guard on every step of a run and `Always` a property of every state of it. The rules,
each an induction on the labels:

* `invariant`, `invariant_along`: what one step preserves, a run preserves.
* `invariant_total`: the same with a number that the steps add up.
* `always_iff_guarded`, `always_iff_along`: when a guard is not only enough for a property but
  exact.
* `simulation`: what a pair of steps preserves, a pair of runs preserves. -/

namespace Transition

variable {σ τ ε : Type*} (step : σ → ε → Option σ)

/-- The state in which the labels of `es` lead, taken in order; `none` as soon as one of them has
no outcome. -/
def run : σ → List ε → Option σ
  | s, [] => some s
  | s, e :: es => (step s e).bind fun s' => run s' es

/-- Every label of `es` is taken in a state in which `ok` allows it. -/
def Along (ok : σ → ε → Prop) : σ → List ε → Prop
  | _, [] => True
  | s, e :: es => ok s e ∧ ∀ s', step s e = some s' → Along ok s' es

/-- `P` holds of the first state and of every state that the run along `es` goes through. -/
def Always (P : σ → Prop) : σ → List ε → Prop
  | s, [] => P s
  | s, e :: es => P s ∧ ∀ s', step s e = some s' → Always P s' es

/-- What `f` counts at the steps of a run, taken together. -/
def total (f : σ → ε → Nat) : σ → List ε → Nat
  | _, [] => 0
  | s, e :: es => f s e + ((step s e).map fun s' => total f s' es).getD 0

/-! ## Computing with runs -/

@[simp] theorem run_nil (s : σ) : run step s [] = some s := rfl

theorem run_cons_eq_some {s s' : σ} {e : ε} {es : List ε} :
    run step s (e :: es) = some s' ↔ ∃ t, step s e = some t ∧ run step t es = some s' := by
  simp only [run, Option.bind_eq_some_iff]

theorem run_append (s : σ) (es fs : List ε) :
    run step s (es ++ fs) = (run step s es).bind fun t => run step t fs := by
  induction es generalizing s with
  | nil => rfl
  | cons e es ih =>
      simp only [List.cons_append, run]
      cases step s e with
      | none => rfl
      | some t => exact ih t

theorem run_append_eq_some {s s' : σ} {es fs : List ε} :
    run step s (es ++ fs) = some s' ↔
      ∃ t, run step s es = some t ∧ run step t fs = some s' := by
  rw [run_append, Option.bind_eq_some_iff]

theorem run_singleton (s : σ) (e : ε) : run step s [e] = step s e := by
  cases h : step s e <;> simp [run, h]

/-- The state just before the last label of a run. -/
theorem run_snoc_eq_some {s s' : σ} {es : List ε} {e : ε} :
    run step s (es ++ [e]) = some s' ↔
      ∃ t, run step s es = some t ∧ step t e = some s' := by
  simp only [run_append_eq_some, run_singleton]

variable {step}

/-! ## Deciding

What can be decided of a state can be decided of the end of a run, and a guard that can be decided
in each state can be decided along a run. -/

/-- A run that ends in a state with the decidable property `P`. -/
theorem reaches_of_any {P : σ → Prop} [DecidablePred P] {s : σ} {es : List ε}
    (h : (run step s es).any (fun t => decide (P t)) = true) :
    ∃ t, run step s es = some t ∧ P t := by
  cases hrun : run step s es with
  | none => rw [hrun] at h; cases h
  | some t =>
      rw [hrun] at h
      exact ⟨t, rfl, of_decide_eq_true h⟩

instance Along.instDecidable (ok : σ → ε → Prop) [∀ s e, Decidable (ok s e)] :
    ∀ s es, Decidable (Along step ok s es)
  | _, [] => isTrue trivial
  | s, e :: es =>
    match h : step s e with
    -- without an outcome the guard is about this one step
    | none => decidable_of_iff (ok s e) ⟨fun hok => ⟨hok, by simp [h]⟩, And.left⟩
    | some t =>
      have := Along.instDecidable ok t es
      decidable_of_iff (ok s e ∧ Along step ok t es)
        ⟨fun hok => ⟨hok.1, by rintro s' hs'; cases h.symm.trans hs'; exact hok.2⟩,
          fun hok => ⟨hok.1, hok.2 t h⟩⟩

instance Always.instDecidable (P : σ → Prop) [DecidablePred P] :
    ∀ s es, Decidable (Always step P s es)
  | s, [] => inferInstanceAs (Decidable (P s))
  | s, e :: es =>
    match h : step s e with
    | none => decidable_of_iff (P s) ⟨fun hP => ⟨hP, by simp [h]⟩, And.left⟩
    | some t =>
      have := Always.instDecidable P t es
      decidable_of_iff (P s ∧ Always step P t es)
        ⟨fun hP => ⟨hP.1, by rintro s' hs'; cases h.symm.trans hs'; exact hP.2⟩,
          fun hP => ⟨hP.1, hP.2 t h⟩⟩

/-! ## Invariants -/

/-- **The invariant rule.** What one step preserves, a whole run preserves. -/
theorem invariant (inv : σ → Prop)
    (hstep : ∀ s e s', inv s → step s e = some s' → inv s')
    {s s' : σ} {es : List ε} (h : inv s) (hrun : run step s es = some s') : inv s' := by
  induction es generalizing s with
  | nil => cases hrun; exact h
  | cons e es ih =>
      obtain ⟨t, ht, hrest⟩ := (run_cons_eq_some step).mp hrun
      exact ih (hstep s e t h ht) hrest

/-- The invariant rule on a guarded run: only the steps that `ok` allows have to preserve `inv`. -/
theorem invariant_along {ok : σ → ε → Prop} (inv : σ → Prop)
    (hstep : ∀ s e s', inv s → ok s e → step s e = some s' → inv s')
    {s s' : σ} {es : List ε} (h : inv s) (hok : Along step ok s es)
    (hrun : run step s es = some s') : inv s' := by
  induction es generalizing s with
  | nil => cases hrun; exact h
  | cons e es ih =>
      obtain ⟨t, ht, hrest⟩ := (run_cons_eq_some step).mp hrun
      exact ih (hstep s e t h hok.1 ht) (hok.2 t ht) hrest

/-- The invariant rule with a count: what one step adds, a whole run adds up. -/
theorem invariant_total {ok : σ → ε → Prop} (f : σ → ε → Nat) (inv : Nat → σ → Prop)
    (hstep : ∀ n s e s', inv n s → ok s e → step s e = some s' → inv (n + f s e) s')
    {n : Nat} {s s' : σ} {es : List ε} (h : inv n s) (hok : Along step ok s es)
    (hrun : run step s es = some s') : inv (n + total step f s es) s' := by
  induction es generalizing n s with
  | nil => cases hrun; exact h
  | cons e es ih =>
      obtain ⟨t, ht, hrest⟩ := (run_cons_eq_some step).mp hrun
      have htotal : total step f s (e :: es) = f s e + total step f t es := by
        rw [total, ht]
        rfl
      rw [htotal, ← Nat.add_assoc]
      exact ih (hstep n s e t h hok.1 ht) (hok.2 t ht) hrest

/-- A guard on a whole run is a guard on its first part. -/
theorem Along.left {ok : σ → ε → Prop} {s : σ} {es fs : List ε}
    (h : Along step ok s (es ++ fs)) : Along step ok s es := by
  induction es generalizing s with
  | nil => trivial
  | cons e es ih => exact ⟨h.1, fun t ht => ih (h.2 t ht)⟩

/-- A guard on a whole run is a guard on the rest of it. -/
theorem Along.right {ok : σ → ε → Prop} {s t : σ} {es fs : List ε}
    (h : Along step ok s (es ++ fs)) (hrun : run step s es = some t) : Along step ok t fs := by
  induction es generalizing s with
  | nil => cases hrun; exact h
  | cons e es ih =>
      obtain ⟨u, hu, hrest⟩ := (run_cons_eq_some step).mp hrun
      exact ih (h.2 u hu) hrest

/-- Guards on two parts are a guard on the whole. -/
theorem Along.append {ok : σ → ε → Prop} {s : σ} {es fs : List ε} (h : Along step ok s es)
    (hrest : ∀ t, run step s es = some t → Along step ok t fs) :
    Along step ok s (es ++ fs) := by
  induction es generalizing s with
  | nil => exact hrest s rfl
  | cons e es ih =>
      refine ⟨h.1, fun u hu => ih (h.2 u hu) fun t ht => ?_⟩
      exact hrest t ((run_cons_eq_some step).mpr ⟨u, hu, ht⟩)

/-- Guards that agree wherever an invariant holds agree along a run. -/
theorem along_congr {ok ok' : σ → ε → Prop} (inv : σ → Prop)
    (hinv : ∀ s e s', inv s → step s e = some s' → inv s')
    (hiff : ∀ s e, inv s → (ok s e ↔ ok' s e)) {s : σ} {es : List ε} (h : inv s) :
    Along step ok s es ↔ Along step ok' s es := by
  induction es generalizing s with
  | nil => exact Iff.rfl
  | cons e es ih =>
      apply and_congr (hiff s e h)
      apply forall_congr'
      intro t
      apply imp_congr_right
      intro ht
      exact ih (hinv s e t h ht)

/-- A condition on the labels alone can be added to a guard. -/
theorem Along.and_mem {ok : σ → ε → Prop} {q : ε → Prop} {s : σ} {es : List ε}
    (h : Along step ok s es) (hq : ∀ e ∈ es, q e) : Along step (fun s e => ok s e ∧ q e) s es := by
  induction es generalizing s with
  | nil => trivial
  | cons e es ih =>
      refine ⟨⟨h.1, hq e List.mem_cons_self⟩, fun t ht => ih (h.2 t ht) fun e' he' => ?_⟩
      exact hq e' (List.mem_cons_of_mem _ he')

/-- What always holds, holds at first. -/
theorem Always.head {P : σ → Prop} {s : σ} {es : List ε} (h : Always step P s es) : P s := by
  cases es with
  | nil => exact h
  | cons _ _ => exact h.1

/-- What always holds, holds at last. -/
theorem Always.last {P : σ → Prop} {s s' : σ} {es : List ε} (h : Always step P s es)
    (hrun : run step s es = some s') : P s' := by
  induction es generalizing s with
  | nil => cases hrun; exact h
  | cons e es ih =>
      obtain ⟨t, ht, hrest⟩ := (run_cons_eq_some step).mp hrun
      exact ih (h.2 t ht) hrest

/-- What holds of a state allows what is guarded by it. -/
theorem Always.along {P : σ → Prop} {ok : σ → ε → Prop} (himp : ∀ s e, P s → ok s e) {s : σ}
    {es : List ε} (h : Always step P s es) : Along step ok s es := by
  induction es generalizing s with
  | nil => trivial
  | cons e es ih => exact ⟨himp s e h.1, fun t ht => ih (h.2 t ht)⟩

/-- **Exact guards.** If allowed steps keep an invariant that implies `P`, and a step that is not
allowed leads to a state without `P`, then `P` holds along a run exactly when every step of it is
allowed. -/
theorem always_iff_guarded (ok : σ → ε → Prop) (P inv : σ → Prop) (hP : ∀ s, inv s → P s)
    (hkeep : ∀ s e s', inv s → ok s e → step s e = some s' → inv s')
    (hbreak : ∀ s e, inv s → ¬ok s e → ∃ s', step s e = some s' ∧ ¬P s')
    {s : σ} {es : List ε} (h : inv s) : Always step P s es ↔ Along step ok s es := by
  induction es generalizing s with
  | nil => exact ⟨fun _ => trivial, fun _ => hP s h⟩
  | cons e es ih =>
      -- an allowed step hands both sides on to the rest, one that is not allowed refutes both
      by_cases hok : ok s e
      · constructor
        · intro halways
          exact ⟨hok, fun t ht => (ih (hkeep s e t h hok ht)).mp (halways.2 t ht)⟩
        · intro halong
          exact ⟨hP s h, fun t ht => (ih (hkeep s e t h hok ht)).mpr (halong.2 t ht)⟩
      · refine iff_of_false (fun halways => ?_) fun halong => hok halong.1
        obtain ⟨t, ht, hbad⟩ := hbreak s e h hok
        have hafter := halways.2 t ht
        -- the state after the step is the first one of the rest, empty or not
        cases es with
        | nil => exact hbad hafter
        | cons _ _ => exact hbad hafter.1

/-- The same where the invariant is kept by every step, and `P` by the allowed ones. -/
theorem always_iff_along (ok : σ → ε → Prop) (P inv : σ → Prop)
    (hinv : ∀ s e s', inv s → step s e = some s' → inv s')
    (hdef : ∀ s e, inv s → P s → ok s e ∨ ∃ s', step s e = some s')
    (hstep : ∀ s e s', inv s → P s → step s e = some s' → (P s' ↔ ok s e))
    {s : σ} {es : List ε} (hi : inv s) (hP : P s) :
    Always step P s es ↔ Along step ok s es := by
  refine always_iff_guarded ok P (fun s => inv s ∧ P s) (fun _ h => h.2) ?_ ?_ ⟨hi, hP⟩
  · rintro s e s' ⟨hi, hP⟩ hok hs
    exact ⟨hinv s e s' hi hs, (hstep s e s' hi hP hs).mpr hok⟩
  · rintro s e ⟨hi, hP⟩ hok
    obtain ⟨s', hs⟩ := (hdef s e hi hP).resolve_left hok
    exact ⟨s', hs, fun hP' => hok ((hstep s e s' hi hP hs).mp hP')⟩

/-! ## Two runs -/

/-- **The simulation rule.** A relation that one common label preserves, as long as `ok` allows it
on the left, relates the ends of two runs along the same labels. -/
theorem simulation {step' : τ → ε → Option τ} {ok : σ → ε → Prop} {R : σ → τ → Prop}
    (hstep : ∀ s t e s' t', R s t → ok s e → step s e = some s' → step' t e = some t' → R s' t')
    {s s' : σ} {t t' : τ} {es : List ε} (h : R s t) (hok : Along step ok s es)
    (hs : run step s es = some s') (ht : run step' t es = some t') : R s' t' := by
  induction es generalizing s t with
  | nil => cases hs; cases ht; exact h
  | cons e es ih =>
      obtain ⟨u, hu, hu'⟩ := (run_cons_eq_some step).mp hs
      obtain ⟨v, hv, hv'⟩ := (run_cons_eq_some step').mp ht
      exact ih (hstep s t e u v h hok.1 hu hv) (hok.2 u hu) hu' hv'

end Transition
