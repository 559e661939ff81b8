import AirHockey.Lib.Transition

/-! # What a run shows

Each step of a run may show something. A log that grows by what is shown ends up as the log at the
start and the whole trace (`log_trace`); and a view that changes only with what is shown is
decided, at the end, by the view at the start and the trace (`view_trace`). The second fact is the
one behind two runs that cannot be told apart. Both are inductions on the run; the step that is
asked for may use an invariant `inv` and a guard `ok`. -/

namespace Transition

variable {σ ε β ω : Type*} (step : σ → ε → Option σ)

/-- What the run along `es` shows, oldest first; `out` sees the state before, the label and the
state after. -/
def trace (out : σ → ε → σ → Option β) : σ → List ε → List β
  | _, [] => []
  | s, e :: es =>
    match step s e with
    | none => []
    | some t => (out s e t).toList ++ trace out t es

variable {step} {out : σ → ε → σ → Option β}

@[simp] theorem trace_nil (s : σ) : trace step out s [] = [] := rfl

theorem trace_cons {s t : σ} {e : ε} (h : step s e = some t) (es : List ε) :
    trace step out s (e :: es) = (out s e t).toList ++ trace step out t es := by
  rw [trace, h]

/-- What holds of everything that can be shown holds of the whole trace. -/
theorem forall_mem_trace {ok : σ → ε → Prop} {P : β → Prop} (inv : σ → Prop)
    (hstep : ∀ s e s', inv s → ok s e → step s e = some s' →
      inv s' ∧ ∀ b, out s e s' = some b → P b)
    {s s' : σ} {es : List ε} (h : inv s) (hok : Along step ok s es)
    (hrun : run step s es = some s') : ∀ b ∈ trace step out s es, P b := by
  induction es generalizing s with
  | nil => simp
  | cons e es ih =>
      obtain ⟨t, ht, hrest⟩ := (run_cons_eq_some step).mp hrun
      obtain ⟨hinv, hshown⟩ := hstep s e t h hok.1 ht
      rw [trace_cons ht]
      intro b hb
      rcases List.mem_append.mp hb with hb | hb
      · exact hshown b (Option.mem_toList.mp hb)
      · exact ih hinv (hok.2 t ht) hrest b hb

/-- **The log rule.** A log to which each step adds what it shows ends up with the trace added. -/
theorem log_trace {ok : σ → ε → Prop} (log : σ → List β) (inv : σ → Prop)
    (hstep : ∀ s e s', inv s → ok s e → step s e = some s' →
      inv s' ∧ log s' = log s ++ (out s e s').toList)
    {s s' : σ} {es : List ε} (h : inv s) (hok : Along step ok s es)
    (hrun : run step s es = some s') : log s' = log s ++ trace step out s es := by
  induction es generalizing s with
  | nil =>
      cases hrun
      exact (List.append_nil _).symm
  | cons e es ih =>
      obtain ⟨t, ht, hrest⟩ := (run_cons_eq_some step).mp hrun
      obtain ⟨hinv, hlog⟩ := hstep s e t h hok.1 ht
      rw [ih hinv (hok.2 t ht) hrest, hlog, trace_cons ht, List.append_assoc]

/-- **The relation rule.** A relation between two states that composes along what is shown between
them holds between the ends of a run, with the trace. -/
theorem related_trace {ok : σ → ε → Prop} (R : List β → σ → σ → Prop) (inv : σ → Prop)
    (hrefl : ∀ s, R [] s s)
    (happend : ∀ bs cs s t u, R bs s t → R cs t u → R (bs ++ cs) s u)
    (hstep : ∀ s e s', inv s → ok s e → step s e = some s' →
      inv s' ∧ R (out s e s').toList s s')
    {s s' : σ} {es : List ε} (h : inv s) (hok : Along step ok s es)
    (hrun : run step s es = some s') : R (trace step out s es) s s' := by
  induction es generalizing s with
  | nil =>
      cases hrun
      exact hrefl _
  | cons e es ih =>
      obtain ⟨t, ht, hrest⟩ := (run_cons_eq_some step).mp hrun
      obtain ⟨hinv, hrel⟩ := hstep s e t h hok.1 ht
      rw [trace_cons ht]
      exact happend _ _ s t s' hrel (ih hinv (hok.2 t ht) hrest)

/-- **The view rule.** A view that reacts to what is shown, and to nothing else, is decided by the
trace. -/
theorem view_trace {ok : σ → ε → Prop} (view : σ → ω) (react : ω → β → ω) (inv : σ → Prop)
    (hstep : ∀ s e s', inv s → ok s e → step s e = some s' →
      inv s' ∧ view s' = (out s e s').toList.foldl react (view s))
    {s s' : σ} {es : List ε} (h : inv s) (hok : Along step ok s es)
    (hrun : run step s es = some s') :
    view s' = (trace step out s es).foldl react (view s) := by
  induction es generalizing s with
  | nil =>
      cases hrun
      rfl
  | cons e es ih =>
      obtain ⟨t, ht, hrest⟩ := (run_cons_eq_some step).mp hrun
      obtain ⟨hinv, hview⟩ := hstep s e t h hok.1 ht
      rw [ih hinv (hok.2 t ht) hrest, hview, trace_cons ht, List.foldl_append]

end Transition
