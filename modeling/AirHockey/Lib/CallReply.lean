import Mathlib.Data.List.Basic

/-! # Components that answer calls

A component is a function `call : σ → ι → ο × σ`: in the state `σ` the call `ι` is answered by `ο`
and leaves a new state. What a user of the component can tell of it is the list of the replies,
and two components are the same to every user if a relation between their states is kept by every
call and gives equal replies.

`after_keeps` is the induction over a list of calls for an invariant of one component, and
`replies_eq` the one for a relation between two. -/

namespace CallReply

variable {σ τ ι ο : Type*}

/-- The replies to the calls of `is`, made in order from `s`. -/
def replies (call : σ → ι → ο × σ) : σ → List ι → List ο
  | _, [] => []
  | s, i :: is => (call s i).1 :: replies call (call s i).2 is

/-- The state that the calls of `is` leave behind. -/
def after (call : σ → ι → ο × σ) (s : σ) (is : List ι) : σ :=
  is.foldl (fun s i => (call s i).2) s

variable {call : σ → ι → ο × σ} {spec : τ → ι → ο × τ}

@[simp] theorem after_nil (s : σ) : after call s [] = s := rfl

@[simp] theorem after_cons (s : σ) (i : ι) (is : List ι) :
    after call s (i :: is) = after call (call s i).2 is := rfl

/-- What one call keeps, any list of calls keeps. -/
theorem after_keeps {P : σ → Prop} (hcall : ∀ s i, P s → P (call s i).2)
    {s : σ} (h : P s) (is : List ι) : P (after call s is) := by
  induction is generalizing s with
  | nil => exact h
  | cons i is ih => exact ih (hcall s i h)

/-- **The simulation rule.** A relation that every call keeps, with the same reply on both sides,
makes the two components indistinguishable. -/
theorem replies_eq {R : σ → τ → Prop}
    (hcall : ∀ s t i, R s t →
      (call s i).1 = (spec t i).1 ∧ R (call s i).2 (spec t i).2)
    {s : σ} {t : τ} (h : R s t) (is : List ι) : replies call s is = replies spec t is := by
  induction is generalizing s t with
  | nil => rfl
  | cons i is ih =>
      obtain ⟨hreply, hrel⟩ := hcall s t i h
      rw [replies, replies, hreply, ih hrel]

end CallReply
