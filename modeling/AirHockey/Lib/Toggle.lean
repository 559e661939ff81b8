import Mathlib.Data.Bool.Basic

/-! # Two parties that toggle each other

Two parties are each on or off. A party that changes over by itself announces it to the other one;
an announcement that is heard makes its hearer change over, too, and is not announced in turn.
There is one kind of announcement only: it says that something has changed, not to what.

Announcements may be under way in both directions for as long as they like. What holds throughout
is a parity: the two parties differ exactly when an odd number of announcements has not been
heard.

There are three invariants, each with a lemma for a party that announces and one for a party that
hears:

* `Balanced`, the parity itself; with nothing left to hear, the parties agree (`Balanced.agree`).
* `Tilted`, the parity when announcements can be lost; it counts the lost ones.
* `Led`, for announcements that do not cross: then exactly one of two parties that are on has the
  lead.

A system is shown to be one of these by `Turn`: its steps are turns of one party, of which the
other one is told (`Turn.outcome`). -/

/-- One of two parties. -/
inductive Side where
  | one
  | two
  deriving DecidableEq, Repr

namespace Side

def other : Side → Side
  | one => two
  | two => one

@[simp] theorem other_other (p : Side) : p.other.other = p := by cases p <;> rfl

@[simp] theorem other_ne (p : Side) : p.other ≠ p := by cases p <;> decide

@[simp] theorem ne_other (p : Side) : p ≠ p.other := by cases p <;> decide

theorem eq_or_other (p q : Side) : q = p ∨ q = p.other := by
  cases p <;> cases q <;> decide

end Side

namespace Toggle

/-- A party takes the lead when it turns itself on, and cedes it when it is turned on by the other
one. `unread` counts the announcements it has not heard yet. -/
structure Party where
  on : Bool
  lead : Bool
  unread : Nat

/-- The two parties. -/
abbrev State := Side → Party

/-- `p` changes over by itself. -/
def announce (p : Side) (s : State) : State := fun q =>
  if q = p then { s p with on := !(s p).on, lead := (s p).lead || !(s p).on }
  else { s q with unread := (s q).unread + 1 }

/-- `p` hears the oldest announcement. -/
def hear (p : Side) (s : State) : State := fun q =>
  if q = p then
    { on := !(s p).on, lead := (s p).lead && (s p).on, unread := (s p).unread - 1 }
  else s q

/-- What a step does to the party that takes it; the number is that of the announcements it
makes. -/
inductive Turn (a b : Party) : Nat → Prop where
  | rest (h : b = a) : Turn a b 0
  | announce (h : b = { a with on := !a.on, lead := a.lead || !a.on }) : Turn a b 1
  | hear (hpos : 0 < a.unread)
      (h : b = { on := !a.on, lead := a.lead && a.on, unread := a.unread - 1 }) : Turn a b 0

/-- A turn of one party, of which the other one is told. -/
theorem Turn.outcome {s t : State} {p : Side} {n : Nat} (h : Turn (s p) (t p) n)
    (hother : t p.other = { s p.other with unread := (s p.other).unread + n }) :
    t = s ∨ (n = 1 ∧ t = Toggle.announce p s) ∨ (0 < (s p).unread ∧ t = Toggle.hear p s) := by
  cases h with
  | rest h =>
      left
      funext q
      rcases p.eq_or_other q with rfl | rfl
      · exact h
      · exact hother
  | announce h =>
      right
      left
      refine ⟨rfl, funext fun q => ?_⟩
      rcases p.eq_or_other q with rfl | rfl
      · exact h.trans (if_pos rfl).symm
      · exact hother.trans (if_neg p.other_ne).symm
  | hear hpos h =>
      right
      right
      refine ⟨hpos, funext fun q => ?_⟩
      rcases p.eq_or_other q with rfl | rfl
      · exact h.trans (if_pos rfl).symm
      · exact hother.trans (if_neg p.other_ne).symm

/-! ## Agreement -/

/-- The parties agree exactly when an even number of announcements has not been heard. -/
def Balanced (s : State) : Prop :=
  (s .one).on = (s .two).on ↔ ((s .one).unread + (s .two).unread) % 2 = 0

theorem Balanced.announce {s : State} (h : Balanced s) (p : Side) : Balanced (announce p s) := by
  unfold Balanced at h ⊢
  cases p with
  | one =>
      show (!(s .one).on) = (s .two).on ↔ ((s .one).unread + ((s .two).unread + 1)) % 2 = 0
      -- one flag and one count change, so the parity of both sides does
      cases hone : (s .one).on <;> cases htwo : (s .two).on <;> simp [hone, htwo] at h ⊢ <;> omega
  | two =>
      show (s .one).on = (!(s .two).on) ↔ (((s .one).unread + 1) + (s .two).unread) % 2 = 0
      cases hone : (s .one).on <;> cases htwo : (s .two).on <;> simp [hone, htwo] at h ⊢ <;> omega

theorem Balanced.hear {s : State} (h : Balanced s) {p : Side} (hp : 0 < (s p).unread) :
    Balanced (hear p s) := by
  unfold Balanced at h ⊢
  cases p with
  | one =>
      show (!(s .one).on) = (s .two).on ↔ (((s .one).unread - 1) + (s .two).unread) % 2 = 0
      cases hone : (s .one).on <;> cases htwo : (s .two).on <;> simp [hone, htwo] at h ⊢ <;> omega
  | two =>
      show (s .one).on = (!(s .two).on) ↔ ((s .one).unread + ((s .two).unread - 1)) % 2 = 0
      cases hone : (s .one).on <;> cases htwo : (s .two).on <;> simp [hone, htwo] at h ⊢ <;> omega

/-- Parties with nothing to hear agree. -/
theorem Balanced.agree {s : State} (h : Balanced s) (hquiet : ∀ p, (s p).unread = 0) :
    (s .one).on = (s .two).on :=
  h.mpr (by rw [hquiet .one, hquiet .two])

/-! ## Losses

An announcement that is lost is never heard, and the parity goes on counting it. -/

/-- `n` announcements to `p` are lost. -/
def lose (p : Side) (n : Nat) (s : State) : State := fun q =>
  if q = p then { s p with unread := (s p).unread - n } else s q

/-- The parties agree exactly when an even number of announcements is unheard or lost. -/
def Tilted (lost : Nat) (s : State) : Prop :=
  (s .one).on = (s .two).on ↔ ((s .one).unread + (s .two).unread + lost) % 2 = 0

theorem Balanced.tilted {s : State} (h : Balanced s) : Tilted 0 s := h

/-- A party that changes over tilts the balance, and one announcement more or less rights it. -/
theorem Tilted.change {s t : State} {k l : Nat} (h : Tilted k s) {p : Side}
    (hself : (t p).on = !(s p).on) (hother : (t p.other).on = (s p.other).on)
    (hcount : ((t .one).unread + (t .two).unread + l) % 2 ≠
      ((s .one).unread + (s .two).unread + k) % 2) : Tilted l t := by
  -- the flag of one side only has changed, whichever side it is
  have hdiffer : (t .one).on = (t .two).on ↔ ¬(s .one).on = (s .two).on := by
    cases p with
    | one =>
        rw [hself, show (t .two).on = (s .two).on from hother]
        cases (s .one).on <;> cases (s .two).on <;> decide
    | two =>
        rw [hself, show (t .one).on = (s .one).on from hother]
        cases (s .one).on <;> cases (s .two).on <;> decide
  unfold Tilted at h ⊢
  rw [hdiffer, h]
  omega

theorem Tilted.announce {s : State} {k : Nat} (h : Tilted k s) (p : Side) :
    Tilted k (announce p s) := by
  have hself : Toggle.announce p s p =
      { s p with on := !(s p).on, lead := (s p).lead || !(s p).on } := if_pos rfl
  have hother : Toggle.announce p s p.other =
      { s p.other with unread := (s p.other).unread + 1 } := if_neg p.other_ne
  refine h.change (congrArg Party.on hself) (by rw [hother]) ?_
  have hself := congrArg Party.unread hself
  have hother := congrArg Party.unread hother
  cases p <;> dsimp only [Side.other] at hself hother <;> omega

theorem Tilted.hear {s : State} {k : Nat} (h : Tilted k s) {p : Side} (hp : 0 < (s p).unread) :
    Tilted k (hear p s) := by
  have hself : Toggle.hear p s p =
      { on := !(s p).on, lead := (s p).lead && (s p).on, unread := (s p).unread - 1 } := if_pos rfl
  have hother : Toggle.hear p s p.other = s p.other := if_neg p.other_ne
  refine h.change (congrArg Party.on hself) (congrArg Party.on hother) ?_
  have hself := congrArg Party.unread hself
  have hother := congrArg Party.unread hother
  cases p <;> dsimp only [Side.other] at hself hother <;> omega

/-- What is lost was unheard before. -/
theorem Tilted.lose {s : State} {k n : Nat} (h : Tilted k s) {p : Side} (hn : n ≤ (s p).unread) :
    Tilted (k + n) (lose p n s) := by
  unfold Tilted at h ⊢
  cases p with
  | one =>
      show (s .one).on = (s .two).on ↔ ((s .one).unread - n + (s .two).unread + (k + n)) % 2 = 0
      rw [h]
      omega
  | two =>
      show (s .one).on = (s .two).on ↔ ((s .one).unread + ((s .two).unread - n) + (k + n)) % 2 = 0
      rw [h]
      omega

/-- A turn of a party to which something has just been lost, and of which the other one is told. -/
theorem Tilted.turn {s t : State} {p : Side} {k n m : Nat} (h : Tilted k s)
    (hn : n ≤ (s p).unread) (hturn : Turn (Toggle.lose p n s p) (t p) m)
    (hother : t p.other = { s p.other with unread := (s p.other).unread + m }) :
    Tilted (k + n) t := by
  have hkept : Toggle.lose p n s p.other = s p.other := if_neg p.other_ne
  rw [← hkept] at hother
  rcases hturn.outcome hother with rfl | ⟨-, rfl⟩ | ⟨hpos, rfl⟩
  · exact h.lose hn
  · exact (h.lose hn).announce p
  · exact (h.lose hn).hear hpos

/-- Parties with nothing to hear agree when an even number has been lost. -/
theorem Tilted.agree_iff {s : State} {k : Nat} (h : Tilted k s)
    (hquiet : ∀ p, (s p).unread = 0) : (s .one).on = (s .two).on ↔ k % 2 = 0 := by
  unfold Tilted at h
  rw [h, hquiet .one, hquiet .two, Nat.zero_add]

/-! ## The lead

As long as announcements do not cross, exactly one of two parties that are on has the lead. -/

structure Led (s : State) : Prop where
  balanced : Balanced s
  oneWay : ∀ p, 0 < (s p).unread → (s p.other).unread = 0
  announcer : ∀ p, 0 < (s p.other).unread → (s p).on = true → (s p).lead = true
  unique : (∀ p, (s p).unread = 0) → (∀ p, (s p).on = true) → (s .one).lead = !(s .two).lead

/-- Only a party with nothing to hear announces. -/
theorem Led.announce {s : State} (h : Led s) {p : Side} (hp : (s p).unread = 0) :
    Led (announce p s) := by
  have hself : Toggle.announce p s p =
      { s p with on := !(s p).on, lead := (s p).lead || !(s p).on } := if_pos rfl
  have hother : Toggle.announce p s p.other =
      { s p.other with unread := (s p.other).unread + 1 } := if_neg p.other_ne
  refine ⟨h.balanced.announce p, fun q hq => ?_, fun q hq hon => ?_, fun hquiet _ => ?_⟩
  · rcases p.eq_or_other q with rfl | rfl
    · -- the announcer has nothing to hear
      rw [hself] at hq
      exact absurd hp (Nat.ne_of_gt hq)
    · rw [Side.other_other, hself]
      exact hp
  · rcases p.eq_or_other q with rfl | rfl
    · -- it has turned itself on
      rw [hself] at hon ⊢
      show ((s q).lead || !(s q).on) = true
      rw [show (!(s q).on) = true from hon, Bool.or_true]
    · rw [Side.other_other, hself] at hq
      exact absurd hp (Nat.ne_of_gt hq)
  -- the announcement has not been heard, so the last clause is about no such state
  · have := hquiet p.other
    rw [hother] at this
    cases this

theorem Led.hear {s : State} (h : Led s) {p : Side} (hp : 0 < (s p).unread) : Led (hear p s) := by
  have hself : Toggle.hear p s p =
      { on := !(s p).on, lead := (s p).lead && (s p).on, unread := (s p).unread - 1 } := if_pos rfl
  have hother : Toggle.hear p s p.other = s p.other := if_neg p.other_ne
  have hback := h.oneWay p hp
  refine ⟨h.balanced.hear hp, fun q hq => ?_, fun q hq hon => ?_, fun hquiet hon => ?_⟩
  -- an announcement on its way to one party excludes those to the other one
  · rcases p.eq_or_other q with rfl | rfl
    · rw [hother]
      exact hback
    · rw [hother] at hq
      exact absurd hback (Nat.ne_of_gt hq)
  · rcases p.eq_or_other q with rfl | rfl
    · rw [hother] at hq
      exact absurd hback (Nat.ne_of_gt hq)
    · -- the other one announced, so it leads if it is on
      rw [hother] at hon ⊢
      exact h.announcer p.other (by rwa [Side.other_other]) hon
  · -- the hearer has been turned on by the other one, which leads
    have hlead := h.announcer p.other (by rwa [Side.other_other])
      (by have := hon p.other; rwa [hother] at this)
    have hoff : (s p).on = false := by
      have := hon p
      rw [hself] at this
      exact Bool.not_eq_true' _ ▸ this
    have hmine : (Toggle.hear p s p).lead = false := by
      rw [hself]
      show ((s p).lead && (s p).on) = false
      rw [hoff, Bool.and_false]
    have hyours : (Toggle.hear p s p.other).lead = true := by
      rw [hother]
      exact hlead
    cases p with
    | one => rw [hmine, show (Toggle.hear .one s .two).lead = true from hyours]; rfl
    | two => rw [hmine, show (Toggle.hear .two s .one).lead = true from hyours]; rfl

end Toggle
