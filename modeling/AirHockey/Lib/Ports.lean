import Mathlib.Data.List.Basic

/-! # Programs that access ports

A program reads and writes ports, and any access can fail. What it does next depends on what it is
answered: so it is a tree that branches over the answers, and a run of it is the list of accesses
along one branch. Nothing is assumed about the device; a device in particular picks one branch.

There is a rule for each way to put a program together, and each is an equivalence: `run_inb` and
`run_outb` for one access, `run_bind` for a sequence, by induction on the first program, and
`run_retry` for repeated attempts, by induction on how many are left. `run_of_replay` lets a given
list of accesses be checked by computation. -/

namespace Ports

variable {P V α β : Type*}

/-- An access, with the answer; `none` and `false` are failures. -/
inductive Access (P V : Type*) where
  | inb (port : P) (answer : Option V)
  | outb (port : P) (value : V) (ok : Bool)
  deriving DecidableEq, Repr

inductive Prog (P V : Type*) (α : Type*) where
  | done (result : α)
  | inb (port : P) (next : Option V → Prog P V α)
  | outb (port : P) (value : V) (next : Bool → Prog P V α)

namespace Prog

def bind : Prog P V α → (α → Prog P V β) → Prog P V β
  | done a, f => f a
  | inb port next, f => inb port fun answer => (next answer).bind f
  | outb port value next, f => outb port value fun ok => (next ok).bind f

/-- `x.Run t a`: answered as in `t`, the program `x` makes the accesses `t` and returns `a`. -/
inductive Run : Prog P V α → List (Access P V) → α → Prop where
  | done (a : α) : Run (done a) [] a
  | inb {port : P} {next : Option V → Prog P V α} {t : List (Access P V)} {a : α}
      (answer : Option V) (h : Run (next answer) t a) :
      Run (inb port next) (.inb port answer :: t) a
  | outb {port : P} {value : V} {next : Bool → Prog P V α} {t : List (Access P V)} {a : α}
      (ok : Bool) (h : Run (next ok) t a) : Run (outb port value next) (.outb port value ok :: t) a

/-! ## The rules -/

theorem run_done {t : List (Access P V)} {a b : α} :
    (done a : Prog P V α).Run t b ↔ t = [] ∧ b = a := by
  constructor
  · intro h
    cases h
    exact ⟨rfl, rfl⟩
  · rintro ⟨rfl, rfl⟩
    exact .done b

theorem run_inb {port : P} {next : Option V → Prog P V α} {t : List (Access P V)} {a : α} :
    (inb port next).Run t a ↔
      ∃ answer t', t = .inb port answer :: t' ∧ (next answer).Run t' a := by
  constructor
  · intro h
    cases h with
    | inb answer h => exact ⟨answer, _, rfl, h⟩
  · rintro ⟨answer, t', rfl, h⟩
    exact .inb answer h

theorem run_outb {port : P} {value : V} {next : Bool → Prog P V α} {t : List (Access P V)} {a : α} :
    (outb port value next).Run t a ↔
      ∃ ok t', t = .outb port value ok :: t' ∧ (next ok).Run t' a := by
  constructor
  · intro h
    cases h with
    | outb ok h => exact ⟨ok, _, rfl, h⟩
  · rintro ⟨ok, t', rfl, h⟩
    exact .outb ok h

/-- **The sequence rule.** -/
theorem run_bind {x : Prog P V α} {f : α → Prog P V β} {t : List (Access P V)} {b : β} :
    (x.bind f).Run t b ↔ ∃ t₁ t₂ a, t = t₁ ++ t₂ ∧ x.Run t₁ a ∧ (f a).Run t₂ b := by
  constructor
  · intro h
    -- a run of the whole is split where the first program is done
    induction x generalizing t with
    | done a => exact ⟨[], t, a, rfl, .done a, h⟩
    | inb port next ih =>
        obtain ⟨answer, t', rfl, hnext⟩ := run_inb.mp h
        obtain ⟨t₁, t₂, a, rfl, h₁, h₂⟩ := ih answer hnext
        exact ⟨_ :: t₁, t₂, a, rfl, .inb answer h₁, h₂⟩
    | outb port value next ih =>
        obtain ⟨ok, t', rfl, hnext⟩ := run_outb.mp h
        obtain ⟨t₁, t₂, a, rfl, h₁, h₂⟩ := ih ok hnext
        exact ⟨_ :: t₁, t₂, a, rfl, .outb ok h₁, h₂⟩
  · rintro ⟨t₁, t₂, a, rfl, h₁, h₂⟩
    -- conversely, the second run takes over at the end of the first
    induction h₁ with
    | done a => exact h₂
    | inb answer _ ih => exact .inb answer (ih h₂)
    | outb ok _ ih => exact .outb ok (ih h₂)

/-- The accesses of a program whose result is only put in another form. -/
theorem run_bind_done {x : Prog P V α} {f : α → β} {t : List (Access P V)} {b : β} :
    (x.bind fun a => done (f a)).Run t b ↔ ∃ a, b = f a ∧ x.Run t a := by
  constructor
  · intro h
    obtain ⟨t₁, t₂, a, rfl, h₁, h₂⟩ := run_bind.mp h
    obtain ⟨rfl, rfl⟩ := run_done.mp h₂
    exact ⟨a, rfl, by rwa [List.append_nil]⟩
  · rintro ⟨a, rfl, h⟩
    exact run_bind.mpr ⟨t, [], a, (List.append_nil t).symm, h, .done _⟩

/-- Go through the accesses of a run; `none` if they are not those of the program. -/
def replay [DecidableEq P] [DecidableEq V] : Prog P V α → List (Access P V) → Option α
  | done a, [] => some a
  | inb port next, .inb port' answer :: t => if port = port' then (next answer).replay t else none
  | outb port value next, .outb port' value' ok :: t =>
    if port = port' ∧ value = value' then (next ok).replay t else none
  | _, _ => none

/-- Whether a list of accesses is a run can be computed. -/
theorem run_of_replay [DecidableEq P] [DecidableEq V] {x : Prog P V α} {t : List (Access P V)}
    {a : α} (h : x.replay t = some a) : x.Run t a := by
  induction x generalizing t with
  | done b =>
      cases t with
      | nil =>
          cases h
          exact .done a
      | cons _ _ => cases h
  -- the next access of the list has to be the one that the program makes
  | inb port next ih =>
      cases t with
      | nil => cases h
      | cons access t =>
          cases access with
          | inb port' answer =>
              rw [replay] at h
              split at h
              · next hport =>
                rw [← hport]
                exact .inb answer (ih answer h)
              · cases h
          | outb _ _ _ => cases h
  | outb port value next ih =>
      cases t with
      | nil => cases h
      | cons access t =>
          cases access with
          | inb _ _ => cases h
          | outb port' value' ok =>
              rw [replay] at h
              split at h
              · next hsame =>
                rw [← hsame.1, ← hsame.2]
                exact .outb ok (ih ok h)
              · cases h

/-! ## Trying again and again -/

/-- At most `n` attempts at `x`, until the result is `good`; `none` if there was no good one. -/
def retry (x : Prog P V α) (good : α → Bool) : Nat → Prog P V (Option α)
  | 0 => done none
  | n + 1 => x.bind fun a => if good a then done (some a) else retry x good n

/-- **The rule for attempts**: a run consists of attempts, all but possibly the last of them in
vain. -/
theorem run_retry {x : Prog P V α} {good : α → Bool} {n : Nat} {t : List (Access P V)}
    {r : Option α} : (retry x good n).Run t r ↔
      ∃ vain : List (List (Access P V)), (∀ u ∈ vain, ∃ a, x.Run u a ∧ good a = false) ∧
        ((r = none ∧ vain.length = n ∧ t = vain.flatten) ∨
          ∃ a u, r = some a ∧ good a = true ∧ x.Run u a ∧ vain.length < n ∧
            t = vain.flatten ++ u) := by
  induction n generalizing t with
  | zero =>
      rw [retry, run_done]
      constructor
      · rintro ⟨rfl, rfl⟩
        exact ⟨[], by simp, .inl ⟨rfl, rfl, rfl⟩⟩
      · rintro ⟨vain, -, ⟨rfl, hlength, rfl⟩ | ⟨_, _, _, _, _, hlength, _⟩⟩
        · rw [List.eq_nil_of_length_eq_zero hlength]
          exact ⟨rfl, rfl⟩
        · omega
  | succ n ih =>
      rw [retry, run_bind]
      constructor
      · rintro ⟨t₁, t₂, a, rfl, h₁, h₂⟩
        cases hgood : good a with
        | true =>
            rw [hgood, if_pos rfl, run_done] at h₂
            obtain ⟨rfl, rfl⟩ := h₂
            exact ⟨[], by simp, .inr ⟨a, t₁, rfl, hgood, h₁, by simp, by simp⟩⟩
        | false =>
            rw [hgood, if_neg Bool.false_ne_true] at h₂
            obtain ⟨vain, hvain, hrest⟩ := ih.mp h₂
            refine ⟨t₁ :: vain, ?_, ?_⟩
            · intro u hu
              rcases List.mem_cons.mp hu with rfl | hu
              · exact ⟨a, h₁, hgood⟩
              · exact hvain u hu
            · rcases hrest with ⟨rfl, hlength, rfl⟩ | ⟨b, u, rfl, hb, hu, hlength, rfl⟩
              · exact .inl ⟨rfl, by simp [hlength], by simp⟩
              · exact .inr ⟨b, u, rfl, hb, hu, by simpa using hlength, by simp⟩
      · rintro ⟨vain, hvain, hrest⟩
        -- no attempt in vain: the good one comes first, for at least one attempt is left
        cases vain with
        | nil =>
            rcases hrest with ⟨-, hlength, -⟩ | ⟨a, u, rfl, hgood, hu, -, rfl⟩
            · cases hlength
            · refine ⟨t, [], a, by simp, hu, ?_⟩
              rw [hgood, if_pos rfl]
              exact .done _
        | cons t₁ vain =>
            obtain ⟨a, h₁, hgood⟩ := hvain t₁ List.mem_cons_self
            have hvain : ∀ u ∈ vain, ∃ a, x.Run u a ∧ good a = false :=
              fun u hu => hvain u (List.mem_cons_of_mem _ hu)
            -- after an attempt in vain the program goes on with the others
            have hcont : ∀ t₂, (retry x good n).Run t₂ r →
                ((if good a then done (some a) else retry x good n) : Prog P V _).Run t₂ r := by
              intro t₂ h
              rw [hgood, if_neg Bool.false_ne_true]
              exact h
            rcases hrest with ⟨rfl, hlength, rfl⟩ | ⟨b, u, rfl, hb, hu, hlength, rfl⟩
            · refine ⟨t₁, vain.flatten, a, by simp, h₁, hcont _ (ih.mpr ⟨vain, hvain, .inl ?_⟩)⟩
              exact ⟨rfl, by simpa using hlength, rfl⟩
            · refine ⟨t₁, vain.flatten ++ u, a, by simp, h₁,
                hcont _ (ih.mpr ⟨vain, hvain, .inr ?_⟩)⟩
              exact ⟨b, u, rfl, hb, hu, by simpa using hlength, rfl⟩

end Prog

end Ports
