import Mathlib.Data.List.Chain
import Mathlib.Data.List.Nodup

/-!
# Chains of links

A link leads from a place to another, as a pointer field of a node does; the places it leads
through are a list of which each has a link to the one after it (`List.IsChain`). A place
is put between two neighbours, or taken out from between them, by changing the links of these
alone (`isChain_insert`, `isChain_erase`). With links back, a chain is `Linked` both ways.

Links that are followed step by step may end nowhere; what they end in is an `Except`.

* `Linked.insert`, `Linked.erase` — what has to change.
* `walk_eq` — following the links visits the chain.
-/

namespace AotOpt.Lib

universe u v

variable {α : Type u} {link link' : α → α → Prop} {p q : List α} {a b n : α}

/-! ### Changing a chain -/

/-- All places but the last keep their links. -/
theorem isChain_init (h : (p ++ [a]).IsChain link) (hkeep : ∀ c ∈ p, ∀ d, link c d → link' c d) :
    (p ++ [a]).IsChain link' := by
  rw [← List.isChain_reverse, List.reverse_append] at h ⊢
  refine h.imp_of_mem_tail_imp fun d c _ hc hlink => ?_
  exact hkeep c (List.mem_reverse.mp hc) d hlink

/-- **A place is put between** two neighbours. -/
theorem isChain_insert (h : (p ++ a :: b :: q).IsChain link) (ha : link' a n) (hn : link' n b)
    (hkeep : ∀ c ∈ p ++ b :: q, ∀ d, link c d → link' c d) :
    (p ++ a :: n :: b :: q).IsChain link' := by
  rw [List.isChain_append_cons_cons] at h ⊢
  obtain ⟨hinit, -, hrest⟩ := h
  refine ⟨?_, ha, List.isChain_cons_cons.mpr ⟨hn, ?_⟩⟩
  · exact isChain_init hinit fun c hc => hkeep c (List.mem_append_left _ hc)
  · exact hrest.imp_of_mem_imp fun c d hc _ => hkeep c (List.mem_append_right _ hc) d

/-- **A place is taken out** from between its neighbours. -/
theorem isChain_erase (h : (p ++ a :: n :: b :: q).IsChain link) (ha : link' a b)
    (hkeep : ∀ c ∈ p ++ b :: q, ∀ d, link c d → link' c d) :
    (p ++ a :: b :: q).IsChain link' := by
  rw [List.isChain_append_cons_cons] at h ⊢
  obtain ⟨hinit, -, hrest⟩ := h
  refine ⟨?_, ha, ?_⟩
  · exact isChain_init hinit fun c hc => hkeep c (List.mem_append_left _ hc)
  · have htail := (List.isChain_cons_cons.mp hrest).2
    exact htail.imp_of_mem_imp fun c d hc _ => hkeep c (List.mem_append_right _ hc) d

/-! ### Links both ways -/

/-- A list of different places that are linked forwards, and backwards in the reverse order. -/
structure Linked (next prev : α → α → Prop) (l : List α) : Prop where
  forward : l.IsChain next
  backward : l.reverse.IsChain prev
  nodup : l.Nodup

theorem reverse_between (p q : List α) (a b : α) :
    (p ++ a :: b :: q).reverse = q.reverse ++ b :: a :: p.reverse := by simp

theorem reverse_between_three (p q : List α) (a n b : α) :
    (p ++ a :: n :: b :: q).reverse = q.reverse ++ b :: n :: a :: p.reverse := by simp

namespace Linked

variable {next next' prev prev' : α → α → Prop} {l : List α}

/-- The other direction. -/
theorem symm (h : Linked next prev l) : Linked prev next l.reverse where
  forward := h.backward
  backward := by
    rw [List.reverse_reverse]
    exact h.forward
  nodup := List.nodup_reverse.mpr h.nodup

/-- A place has a link to the one after it. -/
theorem next_mid (h : Linked next prev (p ++ a :: b :: q)) : next a b :=
  (List.isChain_append_cons_cons.mp h.forward).2.1

/-- And the one after it has a link back. -/
theorem prev_mid (h : Linked next prev (p ++ a :: b :: q)) : prev b a := by
  have hsymm := h.symm
  rw [reverse_between] at hsymm
  exact hsymm.next_mid

/-- No place is twice in the list. -/
theorem notMem (h : Linked next prev (p ++ a :: q)) : a ∉ p ++ q :=
  (List.nodup_cons.mp (List.nodup_middle.mp h.nodup)).1

theorem forward_insert (h : Linked next prev (p ++ a :: b :: q)) (hn : n ∉ p ++ a :: b :: q)
    (ha : next' a n) (hnb : next' n b) (hkeep : ∀ c, c ≠ a → c ≠ n → ∀ d, next c d → next' c d) :
    (p ++ a :: n :: b :: q).IsChain next' := by
  refine isChain_insert h.forward ha hnb fun c hc => hkeep c ?_ ?_
  · rintro rfl
    exact h.notMem hc
  · rintro rfl
    exact hn (List.mem_append.mpr ((List.mem_append.mp hc).imp_right (List.mem_cons_of_mem _)))

theorem forward_erase (h : Linked next prev (p ++ a :: n :: b :: q)) (ha : next' a b)
    (hkeep : ∀ c, c ≠ a → c ≠ n → ∀ d, next c d → next' c d) :
    (p ++ a :: b :: q).IsChain next' := by
  refine isChain_erase h.forward ha fun c hc => hkeep c ?_ ?_
  · rintro rfl
    exact h.notMem (List.mem_append.mpr ((List.mem_append.mp hc).imp_right (List.mem_cons_of_mem _)))
  · rintro rfl
    rw [List.append_cons] at h
    refine h.notMem (List.mem_append.mpr ((List.mem_append.mp hc).imp_left ?_))
    exact List.mem_append_left _

/-- **Links to and from a new place** take the place of those between two neighbours. -/
theorem insert (h : Linked next prev (p ++ a :: b :: q)) (hn : n ∉ p ++ a :: b :: q)
    (hnext : next' a n ∧ next' n b) (hprev : prev' b n ∧ prev' n a)
    (hkeep : ∀ c, c ≠ a → c ≠ n → ∀ d, next c d → next' c d)
    (hkeep' : ∀ c, c ≠ b → c ≠ n → ∀ d, prev c d → prev' c d) :
    Linked next' prev' (p ++ a :: n :: b :: q) where
  forward := h.forward_insert hn hnext.1 hnext.2 hkeep
  backward := by
    have hsymm := h.symm
    have hn' : n ∉ (p ++ a :: b :: q).reverse := fun hmem => hn (List.mem_reverse.mp hmem)
    rw [reverse_between] at hsymm hn'
    rw [reverse_between_three]
    exact hsymm.forward_insert hn' hprev.1 hprev.2 hkeep'
  nodup := by
    rw [List.append_cons, List.nodup_middle, ← List.append_cons]
    exact List.nodup_cons.mpr ⟨hn, h.nodup⟩

/-- **Links between the neighbours** of a place take it out. -/
theorem erase (h : Linked next prev (p ++ a :: n :: b :: q)) (hnext : next' a b) (hprev : prev' b a)
    (hkeep : ∀ c, c ≠ a → c ≠ n → ∀ d, next c d → next' c d)
    (hkeep' : ∀ c, c ≠ b → c ≠ n → ∀ d, prev c d → prev' c d) :
    Linked next' prev' (p ++ a :: b :: q) where
  forward := h.forward_erase hnext hkeep
  backward := by
    have hsymm := h.symm
    rw [reverse_between_three] at hsymm
    rw [reverse_between]
    exact hsymm.forward_erase hprev hkeep'
  nodup := by
    have hold := h.nodup
    rw [List.append_cons, List.nodup_middle, ← List.append_cons] at hold
    exact (List.nodup_cons.mp hold).2

end Linked

/-! ### Following the links -/

variable {ε : Type v}

/-- The places from the first one on, to the one that is not visited any more. -/
def walk (link : α → Except ε α) (out : ε) [DecidableEq α] (stop : α) : ℕ → α → Except ε (List α)
  | 0, _ => .error out
  | fuel + 1, a =>
    if a = stop then .ok []
    else do
      let b ← link a
      let rest ← walk link out stop fuel b
      return a :: rest

/-- **A walk** visits the chain, however large the bound is. -/
theorem walk_eq [DecidableEq α] {link : α → Except ε α} {out : ε} {stop : α} :
    ∀ {xs : List α} {a : α} {rest : List α} {fuel : ℕ}, xs ++ [stop] = a :: rest →
      (a :: rest).IsChain (fun c d => link c = .ok d) → stop ∉ xs → xs.length < fuel →
        walk link out stop fuel a = .ok xs
  | _, _, _, 0, _, _, _, hfuel => absurd hfuel (Nat.not_lt_zero _)
  | [], a, _, fuel + 1, heq, _, _, _ => by
    obtain ⟨rfl, -⟩ := List.cons.inj heq
    exact if_pos rfl
  | x :: xs, a, rest, fuel + 1, heq, hchain, hstop, hfuel => by
    obtain ⟨rfl, rfl⟩ := List.cons.inj heq
    obtain ⟨b, rest, hrest⟩ : ∃ b rest, xs ++ [stop] = b :: rest :=
      List.exists_cons_of_ne_nil (by simp)
    rw [List.append_eq, hrest, List.isChain_cons_cons] at hchain
    obtain ⟨hlink, hchain⟩ := hchain
    have ih : walk link out stop fuel b = .ok xs :=
      walk_eq hrest hchain (fun h => hstop (List.mem_cons_of_mem _ h)) (Nat.lt_of_succ_lt_succ hfuel)
    have hne : x ≠ stop := fun h => hstop (List.mem_cons.mpr (.inl h.symm))
    rw [walk, if_neg hne, hlink]
    show (walk link out stop fuel b >>= fun rest => Except.ok (x :: rest)) = _
    rw [ih]
    rfl

/-- So many links further. -/
def advance (link : α → Except ε α) : ℕ → α → Except ε α
  | 0, a => .ok a
  | k + 1, a => do
    let b ← link a
    advance link k b

theorem advance_eq {link : α → Except ε α} : ∀ {k : ℕ} {a b : α} {rest : List α},
    (a :: rest).IsChain (fun c d => link c = .ok d) → (a :: rest)[k]? = some b →
      advance link k a = .ok b
  | 0, a, b, rest, _, hk => congrArg Except.ok (Option.some.inj hk)
  | k + 1, a, b, [], _, hk => by cases hk
  | k + 1, a, b, c :: rest, hchain, hk => by
    rw [List.isChain_cons_cons] at hchain
    rw [advance, hchain.1]
    exact advance_eq hchain.2 hk

end AotOpt.Lib
