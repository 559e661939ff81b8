import Mathlib.Data.List.Basic

/-! # Reading messages from a stream that arrives in pieces

A reader keeps the symbols it has received and not yet used. Each chunk that arrives is appended
to them, and then at most **one** item is taken off the front by `split`. What was sent is a list
of messages, `encode` says how each is written, and `read` what a reader makes of it.

The two laws in `Decodes` are all that the theorems need: a whole message is read off whatever
follows it, and a message that is not complete is left alone. `split_prefix` draws from them what
one call of `split` does to a received prefix of the stream. `feed_prefix` follows by induction on
the chunks, for any cutting of the stream, and `feed_all` by induction on the number of calls, for
a stream that has arrived. -/

namespace Framing

variable {μ ρ β : Type*}

/-- The items taken and the symbols left over, after the chunks have arrived one by one. -/
def feed (split : List β → Option (ρ × List β)) : List β → List (List β) → List ρ × List β
  | buf, [] => ([], buf)
  | buf, c :: cs =>
    match split (buf ++ c) with
    | none => feed split (buf ++ c) cs
    | some (x, rest) => (x :: (feed split rest cs).1, (feed split rest cs).2)

/-- `split` reads the messages that satisfy `valid`. -/
structure Decodes (encode : μ → List β) (split : List β → Option (ρ × List β)) (read : μ → ρ)
    (valid : μ → Prop) : Prop where
  whole : ∀ m rest, valid m → split (encode m ++ rest) = some (read m, rest)
  short : ∀ m bs rest, valid m → encode m = bs ++ rest → rest ≠ [] → split bs = none
  empty : split [] = none

variable {encode : μ → List β} {split : List β → Option (ρ × List β)} {read : μ → ρ}
  {valid : μ → Prop}

theorem feed_cons_none {buf c : List β} {cs : List (List β)} (h : split (buf ++ c) = none) :
    feed split buf (c :: cs) = feed split (buf ++ c) cs := by
  rw [feed, h]

theorem feed_cons_some {buf c rest : List β} {cs : List (List β)} {x : ρ}
    (h : split (buf ++ c) = some (x, rest)) :
    feed split buf (c :: cs) = (x :: (feed split rest cs).1, (feed split rest cs).2) := by
  rw [feed, h]

/-- Where a received prefix of the stream ends: behind its first message, or inside it. -/
theorem Decodes.split_prefix (h : Decodes encode split read valid) {bs future : List β}
    {ms : List μ} (hv : ∀ m ∈ ms, valid m) (hbs : bs ++ future = ms.flatMap encode) :
    (∃ m ms' rest, ms = m :: ms' ∧ split bs = some (read m, rest) ∧
      rest ++ future = ms'.flatMap encode) ∨ split bs = none := by
  cases ms with
  | nil =>
      right
      rw [List.flatMap_nil, List.append_eq_nil_iff] at hbs
      rw [hbs.1]
      exact h.empty
  | cons m ms' =>
      have hm := hv m List.mem_cons_self
      rw [List.flatMap_cons] at hbs
      rcases List.append_eq_append_iff.mp hbs with ⟨as, hmsg, hrest⟩ | ⟨as, hbs', hrest⟩
      · -- `bs` ends inside the message, or just behind it
        by_cases has : as = []
        · left
          subst has
          rw [List.append_nil] at hmsg
          refine ⟨m, ms', [], rfl, ?_, by simpa using hrest⟩
          rw [← hmsg]
          simpa using h.whole m [] hm
        · exact .inr (h.short m bs as hm hmsg has)
      -- the first message is complete, and `as` is what has arrived of the others
      · left
        exact ⟨m, ms', as, rfl, by rw [hbs', h.whole m as hm], hrest.symm⟩

/-- **Reading undoes writing, whatever the chunks.** The items taken are those of a prefix of the
messages, in order, and what is left over is exactly the part of the others that has arrived. -/
theorem Decodes.feed_prefix (h : Decodes encode split read valid) {cs : List (List β)}
    {buf future : List β} {ms : List μ} (hv : ∀ m ∈ ms, valid m)
    (hstream : buf ++ cs.flatten ++ future = ms.flatMap encode) :
    ∃ done rest, ms = done ++ rest ∧ (feed split buf cs).1 = done.map read ∧
      (feed split buf cs).2 ++ future = rest.flatMap encode := by
  induction cs generalizing buf ms with
  | nil => exact ⟨[], ms, rfl, rfl, by simpa [feed] using hstream⟩
  | cons c cs ih =>
      have hstream' : (buf ++ c) ++ (cs.flatten ++ future) = ms.flatMap encode := by
        simpa [List.append_assoc] using hstream
      rcases h.split_prefix hv hstream' with ⟨m, ms', rest, rfl, hsplit, hrest⟩ | hnone
      -- a message is taken, and the rest of the chunks meet the rest of the messages
      · rw [← List.append_assoc] at hrest
        obtain ⟨done, rest', hms, hdone, hleft⟩ :=
          ih (fun x hx => hv x (List.mem_cons_of_mem _ hx)) hrest
        refine ⟨m :: done, rest', by rw [hms, List.cons_append], ?_, ?_⟩
        · rw [feed_cons_some hsplit, hdone, List.map_cons]
        · rw [feed_cons_some hsplit, hleft]
      -- nothing is taken, and the chunk stays in the buffer for the next one
      · rw [feed_cons_none hnone]
        exact ih hv (by rwa [List.append_assoc])

/-- Once everything has arrived, as many further calls as there are messages read them all. -/
theorem Decodes.feed_all (h : Decodes encode split read valid) {buf : List β} {ms : List μ}
    (hv : ∀ m ∈ ms, valid m) (hbuf : buf = ms.flatMap encode) {n : Nat} (hn : ms.length ≤ n) :
    feed split buf (List.replicate n []) = (ms.map read, []) := by
  induction n generalizing buf ms with
  | zero =>
      obtain rfl := List.length_eq_zero_iff.mp (Nat.le_zero.mp hn)
      subst hbuf
      rfl
  | succ n ih =>
      rw [List.replicate_succ]
      cases ms with
      | nil =>
          subst hbuf
          rw [feed_cons_none h.empty]
          exact ih hv rfl (Nat.zero_le _)
      | cons m ms =>
          have hsplit : split (buf ++ []) = some (read m, ms.flatMap encode) := by
            rw [List.append_nil, hbuf, List.flatMap_cons]
            exact h.whole m _ (hv m List.mem_cons_self)
          have hrest := ih (fun x hx => hv x (List.mem_cons_of_mem _ hx)) rfl
            (Nat.le_of_succ_le_succ hn)
          rw [feed_cons_some hsplit, hrest, List.map_cons]

end Framing
