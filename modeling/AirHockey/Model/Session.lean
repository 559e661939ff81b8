import AirHockey.Lib.Toggle
import AirHockey.Model.Steps

/-! # Two PCs

Two copies of the program, each sending to the other over a link that loses nothing and keeps the
order. A byte that has been sent stays on the link until it is delivered into the receive FIFO of
the other PC; interrupts and deliveries happen in any order.

`stepOf` turns a step into what it says of the two halves of the state, and every later proof
about two PCs is a case analysis over it. `run_forall` lifts an invariant of one PC to both. -/

namespace AirHockey

/-- A PC, and how many of the bytes that the other one has sent it have arrived. -/
structure Peer where
  pc : Pc
  arrived : Nat

structure Session where
  one : Peer
  two : Peer

/-- What can happen: an interrupt of one PC, or the arrival of the next byte at it. -/
inductive Event where
  | interrupt (p : Side) (i : Interrupt)
  | deliver (p : Side)

namespace Session

def get (σ : Session) : Side → Peer
  | .one => σ.one
  | .two => σ.two

def set (σ : Session) (p : Side) (peer : Peer) : Session :=
  match p with
  | .one => { σ with one := peer }
  | .two => { σ with two := peer }

def pc (σ : Session) (p : Side) : Pc := (σ.get p).pc

def arrived (σ : Session) (p : Side) : Nat := (σ.get p).arrived

/-- The bytes that have been sent to `p`. -/
def sentTo (σ : Session) (p : Side) : List UInt8 := (σ.pc p.other).table.tx.sent

/-- The messages that have been sent to `p`. -/
def historyTo (σ : Session) (p : Side) : List Message := (σ.pc p.other).table.tx.history

/-- The bytes on the link to `p`. -/
def inFlight (σ : Session) (p : Side) : List UInt8 := (σ.sentTo p).drop (σ.arrived p)

def step (σ : Session) : Event → Option Session
  | .interrupt p i => ((σ.pc p).handle i).map fun s => σ.set p ⟨s, σ.arrived p⟩
  -- the oldest byte that has not arrived; it is delivered without a line error
  | .deliver p =>
    (σ.inFlight p).head?.map fun b =>
      σ.set p ⟨(σ.pc p).receive [RxSlot.clean b], σ.arrived p + 1⟩

/-- Both programs have just started. -/
def init (S : Side → Setup) : Session :=
  ⟨⟨AirHockey.init (S .one), 0⟩, ⟨AirHockey.init (S .two), 0⟩⟩

/-! ## The two halves of a state -/

@[simp] theorem pc_init (S : Side → Setup) (p : Side) : (init S).pc p = AirHockey.init (S p) := by
  cases p <;> rfl

@[simp] theorem arrived_init (S : Side → Setup) (p : Side) : (init S).arrived p = 0 := by
  cases p <;> rfl

@[simp] theorem pc_set_self (σ : Session) (p : Side) (peer : Peer) :
    (σ.set p peer).pc p = peer.pc := by
  cases p <;> rfl

@[simp] theorem pc_set_other (σ : Session) (p : Side) (peer : Peer) :
    (σ.set p peer).pc p.other = σ.pc p.other := by
  cases p <;> rfl

@[simp] theorem arrived_set_self (σ : Session) (p : Side) (peer : Peer) :
    (σ.set p peer).arrived p = peer.arrived := by
  cases p <;> rfl

@[simp] theorem arrived_set_other (σ : Session) (p : Side) (peer : Peer) :
    (σ.set p peer).arrived p.other = σ.arrived p.other := by
  cases p <;> rfl

/-! ## What a step does -/

/-- A step is a step of one PC; the other one is left alone. -/
inductive StepOf (σ σ' : Session) : Event → Prop where
  | interrupt (p : Side) (i : Interrupt) (hpc : (σ.pc p).handle i = some (σ'.pc p))
      (hother : σ'.pc p.other = σ.pc p.other) (harrived : ∀ q, σ'.arrived q = σ.arrived q) :
      StepOf σ σ' (.interrupt p i)
  | deliver (p : Side) (b : UInt8) (hb : (σ.inFlight p).head? = some b)
      (hpc : σ'.pc p = (σ.pc p).receive [RxSlot.clean b]) (hother : σ'.pc p.other = σ.pc p.other)
      (harrived : σ'.arrived p = σ.arrived p + 1)
      (harrivedOther : σ'.arrived p.other = σ.arrived p.other) : StepOf σ σ' (.deliver p)

theorem stepOf {σ σ' : Session} {e : Event} (h : σ.step e = some σ') : StepOf σ σ' e := by
  cases e with
  | interrupt p i =>
      -- the PC that is interrupted has a new state, and nothing has arrived meanwhile
      obtain ⟨s, hs, rfl⟩ := Option.map_eq_some_iff.mp h
      refine .interrupt p i (by rw [pc_set_self, hs]) (pc_set_other ..) fun q => ?_
      rcases p.eq_or_other q with rfl | rfl
      · exact arrived_set_self ..
      · exact arrived_set_other ..
  | deliver p =>
      obtain ⟨b, hb, rfl⟩ := Option.map_eq_some_iff.mp h
      exact .deliver p b hb (pc_set_self ..) (pc_set_other ..) (arrived_set_self ..)
        (arrived_set_other ..)

/-- What every step of a PC preserves, every step of two PCs preserves. -/
theorem step_forall {inv : Pc → Prop}
    (hstep : ∀ s i s', inv s → Pc.step s i = some s' → inv s') {σ σ' : Session} {e : Event}
    (h : ∀ p, inv (σ.pc p)) (hs : σ.step e = some σ') (p : Side) : inv (σ'.pc p) := by
  cases stepOf hs with
  | interrupt q i hpc hother _ =>
      rcases q.eq_or_other p with rfl | rfl
      · exact hstep _ (.interrupt i) _ (h p) hpc
      · exact hother ▸ h q.other
  | deliver q b _ hpc hother _ _ =>
      rcases q.eq_or_other p with rfl | rfl
      · exact hstep _ (.arrive [RxSlot.clean b]) _ (h p) (congrArg some hpc.symm)
      · exact hother ▸ h q.other

/-- … and so does every run. -/
theorem run_forall {inv : Pc → Prop}
    (hstep : ∀ s i s', inv s → Pc.step s i = some s' → inv s') {σ σ' : Session} {es : List Event}
    (h : ∀ p, inv (σ.pc p)) (hrun : Transition.run step σ es = some σ') (p : Side) :
    inv (σ'.pc p) :=
  Transition.invariant (fun σ : Session => ∀ p, inv (σ.pc p))
    (fun _ _ _ h hs => step_forall hstep h hs) h hrun p

end Session

end AirHockey
