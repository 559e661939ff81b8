import AirHockey.Lib.Transition

/-! # Event loops

A program that waits for messages does for each of them some steps of a transition system, and
looks only between two messages whether it has come to an end.

`loop_taken` says which messages the loop takes and which steps it has made by then, and
`loop_eq_some` that it gets as far as the steps are defined; both by induction on the messages.
The end itself is told apart step by step: `Ending` says which steps lead to it and that it stays,
and `Ending.run` that a run ends exactly if one of its steps is such a step. -/

namespace EventLoop

open Transition

variable {σ ε μ : Type*} (step : σ → ε → Option σ) (labels : μ → List ε) (halt : σ → Prop)

/-- The loop on the messages `ms`: the state that it is left in and the messages that it has not
taken; after the last message it waits. -/
def loop [DecidablePred halt] : List μ → σ → Option (σ × List μ)
  | [], s => some (s, [])
  | m :: ms, s =>
    if halt s then some (s, m :: ms) else (run step s (labels m)).bind (loop ms)

/-- `ends` tells which steps bring the system to an end, and at the end it stays, wherever the
invariant `inv` holds. -/
structure Ending (inv : σ → Prop) (ends : σ → ε → Prop) : Prop where
  keeps : ∀ s e s', inv s → step s e = some s' → inv s'
  stays : ∀ s e s', inv s → halt s → step s e = some s' → halt s'
  exact : ∀ s e s', inv s → ¬halt s → step s e = some s' → (halt s' ↔ ends s e)

variable {step labels halt} {inv : σ → Prop} {ends : σ → ε → Prop} {s s' : σ} {es : List ε}

/-- A run comes to an end with the first step that is one. -/
theorem Ending.run (h : Ending step halt inv ends) (hinv : inv s) (hs : ¬halt s)
    (hrun : Transition.run step s es = some s') :
    halt s' ↔ ¬Along step (fun s e => ¬ends s e) s es := by
  induction es generalizing s with
  | nil =>
      cases hrun
      exact iff_of_false hs fun hnot => hnot trivial
  | cons e es ih =>
      obtain ⟨t, hstep, hrest⟩ := (run_cons_eq_some step).mp hrun
      by_cases hend : ends s e
      -- from the step that brings the end on, the system stays there
      · have ht : halt t := (h.exact s e t hinv hs hstep).mpr hend
        have hstays : inv s' ∧ halt s' := by
          refine invariant (fun u => inv u ∧ halt u) ?_ ⟨h.keeps s e t hinv hstep, ht⟩ hrest
          rintro u e' u' ⟨hu, hhalt⟩ hstep'
          exact ⟨h.keeps u e' u' hu hstep', h.stays u e' u' hu hhalt hstep'⟩
        exact iff_of_true hstays.2 fun halong => halong.1 hend
      · have ht : ¬halt t := fun ht => hend ((h.exact s e t hinv hs hstep).mp ht)
        rw [ih (h.keeps s e t hinv hstep) ht hrest, not_iff_not]
        constructor
        · intro halong
          refine ⟨hend, fun u hu => ?_⟩
          cases hstep.symm.trans hu
          exact halong
        · exact fun halong => halong.2 t hstep

variable [DecidablePred halt] {ms rest : List μ}

/-- **Which messages are taken**: all, or those up to the first after which the system has come to
an end; and the loop has made all the steps that they ask for. -/
theorem loop_taken (halt : σ → Prop) [DecidablePred halt] (hs : ¬halt s)
    (hloop : loop step labels halt ms s = some (s', rest)) :
    ∃ taken, ms = taken ++ rest ∧ run step s (taken.flatMap labels) = some s' ∧
      (¬halt s' → rest = []) ∧
      ∀ before m, taken = before ++ [m] →
        ∃ t, run step s (before.flatMap labels) = some t ∧ ¬halt t := by
  induction ms generalizing s with
  | nil =>
      cases hloop
      exact ⟨[], rfl, rfl, fun _ => rfl, fun before m heq => by simp at heq⟩
  | cons m ms ih =>
      rw [loop, if_neg hs] at hloop
      obtain ⟨t, hm, hloop⟩ := Option.bind_eq_some_iff.mp hloop
      by_cases ht : halt t
      · -- the next look at the state leaves the loop
        have hleft : loop step labels halt ms t = some (t, ms) := by
          cases ms with
          | nil => rfl
          | cons _ _ => exact if_pos ht
        cases hleft.symm.trans hloop
        refine ⟨[m], rfl, ?_, fun hnot => absurd ht hnot, fun before m' heq => ?_⟩
        · rw [List.flatMap_singleton]
          exact hm
        · obtain ⟨rfl, -⟩ := List.append_eq_singleton_iff.mp heq.symm |>.resolve_right (by simp)
          exact ⟨s, rfl, hs⟩
      · obtain ⟨taken, hms, hrun, hrest, hbefore⟩ := ih ht hloop
        have hcons : ∀ (ms : List μ) (u : σ), run step t (ms.flatMap labels) = some u →
            run step s ((m :: ms).flatMap labels) = some u := by
          intro ms u hu
          rw [List.flatMap_cons, run_append_eq_some]
          exact ⟨t, hm, hu⟩
        refine ⟨m :: taken, by rw [hms, List.cons_append], hcons taken s' hrun, hrest,
          fun before m' heq => ?_⟩
        -- before the first message the loop has looked at `s`, before a later one see the rest
        cases before with
        | nil => exact ⟨s, rfl, hs⟩
        | cons m'' before =>
            obtain ⟨rfl, htail⟩ := List.cons.inj heq
            obtain ⟨u, hu, hnot⟩ := hbefore before m' htail
            exact ⟨u, hcons before u hu, hnot⟩

/-- The loop gets as far as its messages do. -/
theorem loop_eq_some (hrun : run step s (ms.flatMap labels) = some s') :
    ∃ r, loop step labels halt ms s = some r := by
  induction ms generalizing s with
  | nil => exact ⟨(s, []), rfl⟩
  | cons m ms ih =>
      rw [List.flatMap_cons] at hrun
      obtain ⟨t, hm, hrest⟩ := (run_append_eq_some step).mp hrun
      rw [loop]
      by_cases hs : halt s
      -- the loop may stop early, but it never asks for more steps than the whole run
      · exact ⟨_, if_pos hs⟩
      · obtain ⟨r, hr⟩ := ih hrest
        exact ⟨r, by rw [if_neg hs, hm, Option.bind_some, hr]⟩

end EventLoop
