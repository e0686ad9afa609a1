import AotOpt.Lib.Position
import Mathlib.Data.Int.Basic
import Mathlib.Order.Lattice
import Mathlib.Tactic.SplitIfs

/-!
# Removing the marked entries of a list

Some entries of a list are marked and removed. `unmarked ms l` is what is left, and
`rank ms k` is where the entry at `k` goes, if it is left: the number of unmarked entries in
front of `k`.

* `getElem?_unmarked` — an unmarked entry is read at its rank.
* `find?_unmarked` — the entry at the rank of `k` is the first one from `k` on that is left.
* `rank_eq_iff`, `rank_sub_iff` — the distance between two positions stays if and only if nothing between
  them is marked.
-/

namespace AotOpt.Lib

universe u v

variable {α : Type u} {β : Type v}

/-- The entries that are not marked. -/
def unmarked : List Bool → List α → List α
  | m :: ms, a :: l => if m then unmarked ms l else a :: unmarked ms l
  | _, _ => []

/-- How many entries in front of position `k` are not marked. -/
def rank (ms : List Bool) (k : ℕ) : ℕ := (ms.take k).count false

theorem map_unmarked (f : α → β) : ∀ (ms : List Bool) (l : List α),
    (unmarked ms l).map f = unmarked ms (l.map f)
  | m :: ms, a :: l => by
    rw [List.map_cons, unmarked, unmarked, ← map_unmarked f ms l]
    split_ifs
    · rfl
    · rfl
  | [], l => by cases l <;> rfl
  | _ :: _, [] => rfl

theorem unmarked_sublist : ∀ (ms : List Bool) (l : List α), (unmarked ms l).Sublist l
  | m :: ms, a :: l => by
    rw [unmarked]
    split_ifs
    · exact (unmarked_sublist ms l).cons a
    · exact (unmarked_sublist ms l).cons_cons a
  | [], l => by cases l <;> exact List.nil_sublist _
  | _ :: _, [] => List.nil_sublist _

/-! ### Where an entry goes -/

theorem rank_cons_succ (m : Bool) (ms : List Bool) (k : ℕ) :
    rank (m :: ms) (k + 1) = rank ms k + if m then 0 else 1 := by
  cases m <;> simp [rank]

/-- From the rank of `q` on stands what is left of the entries from `q` on. -/
theorem drop_unmarked : ∀ (ms : List Bool) (l : List α) (q : ℕ),
    (unmarked ms l).drop (rank ms q) = unmarked (ms.drop q) (l.drop q)
  | ms, l, 0 => by simp [rank]
  | m :: ms, a :: l, q + 1 => by
    rw [unmarked, rank_cons_succ, List.drop_succ_cons, List.drop_succ_cons, ← drop_unmarked ms l q]
    split_ifs
    · rfl
    · exact List.drop_succ_cons
  | [], l, q + 1 => by cases l <;> simp [unmarked]
  | m :: ms, [], q + 1 => by simp [unmarked]

/-- **An unmarked entry** is read at its rank. -/
theorem getElem?_unmarked {ms : List Bool} (l : List α) {k : ℕ} (h : ms[k]? = some false) :
    (unmarked ms l)[rank ms k]? = l[k]? := by
  have hk := (List.getElem?_eq_some_iff.mp h).1
  have hm : ms.drop k = false :: ms.drop (k + 1) := by
    rw [← List.getElem_cons_drop hk, (List.getElem?_eq_some_iff.mp h).2]
  rw [← List.head?_drop, drop_unmarked, hm, ← List.head?_drop]
  cases l.drop k <;> rfl

/-- In a list without repetition an entry is left if and only if it is not marked. -/
theorem mem_unmarked_iff : ∀ {ms : List Bool} {l : List α}, l.Nodup → ms.length = l.length →
    ∀ {k : ℕ} {a : α}, l[k]? = some a → (a ∈ unmarked ms l ↔ ms[k]? = some false)
  | m :: ms, b :: l, hl, hlen, k, a, ha => by
    have hlen' : ms.length = l.length := by simpa using hlen
    have hb : b ∉ unmarked ms l := fun h =>
      (List.nodup_cons.mp hl).1 ((unmarked_sublist ms l).subset h)
    cases k with
    | zero =>
      obtain rfl : b = a := by simpa using ha
      cases m <;> simp [unmarked, hb]
    | succ k =>
      rw [List.getElem?_cons_succ] at ha ⊢
      have hne : a ≠ b := by
        rintro rfl
        exact (List.nodup_cons.mp hl).1 (List.mem_of_getElem? ha)
      rw [← mem_unmarked_iff (List.nodup_cons.mp hl).2 hlen' ha]
      cases m <;> simp [unmarked, hne]
  | [], [], _, _, _, _, ha => by simp at ha

/-- The first entry that is left, looked for by membership. -/
theorem find?_eq_head?_unmarked {P : α → Bool} : ∀ {ms : List Bool} {l : List α},
    (∀ (k : ℕ) (a : α), l[k]? = some a → (P a = true ↔ ms[k]? = some false)) →
      l.find? P = (unmarked ms l).head?
  | m :: ms, a :: l, h => by
    have h0 := h 0 a rfl
    have ih : l.find? P = (unmarked ms l).head? := find?_eq_head?_unmarked fun k b hb => h (k + 1) b hb
    cases m with
    | false =>
      rw [List.find?_cons_of_pos (h0.mpr rfl)]
      rfl
    | true =>
      rw [List.find?_cons_of_neg fun hP => by simpa using h0.mp hP, ih]
      rfl
  | [], [], _ => rfl
  | _ :: _, [], _ => rfl
  | [], a :: l, h => by
    have hP : ∀ b ∈ a :: l, ¬P b = true := fun b hb hP => by
      obtain ⟨k, hk⟩ := List.mem_iff_getElem?.mp hb
      simpa using (h k b hk).mp hP
    rw [List.find?_eq_none.mpr hP]
    rfl

/-- **The entry at the rank of `q`** is the first one from `q` on that is left. -/
theorem find?_unmarked [DecidableEq α] {ms : List Bool} {l : List α} (hl : l.Nodup)
    (hlen : ms.length = l.length) (q : ℕ) :
    (l.drop q).find? (fun a => a ∈ unmarked ms l) = (unmarked ms l)[rank ms q]? := by
  rw [← List.head?_drop, drop_unmarked]
  refine find?_eq_head?_unmarked fun k a ha => ?_
  rw [List.getElem?_drop] at ha
  rw [decide_eq_true_iff, mem_unmarked_iff hl hlen ha, List.getElem?_drop]

/-! ### Distances -/

theorem rank_add (ms : List Bool) {p q : ℕ} (h : p ≤ q) :
    rank ms q = rank ms p + (slice ms p (q - p)).count false := by
  have hq : q = p + (q - p) := by omega
  rw [rank, rank, slice, ← List.count_append]
  conv_lhs => rw [hq, List.take_add]

/-- **The distance** between two positions stays if and only if nothing between them is
marked. -/
theorem rank_eq_iff {ms : List Bool} {p q : ℕ} (h : p ≤ q) (hq : q ≤ ms.length) :
    rank ms q = rank ms p + (q - p) ↔ ∀ k, p ≤ k → k < q → ms[k]? = some false := by
  have hlen : (slice ms p (q - p)).length = q - p := by
    rw [slice, List.length_take, List.length_drop]
    omega
  have hall : (slice ms p (q - p)).count false = q - p ↔ ∀ b ∈ slice ms p (q - p), false = b := by
    rw [← List.count_eq_length, hlen]
  rw [rank_add ms h, Nat.add_left_cancel_iff, hall]
  constructor
  · intro hall k hpk hkq
    have hk : k < ms.length := by omega
    have hmem : ms[k] ∈ slice ms p (q - p) :=
      mem_slice_iff.mpr ⟨k, hpk, by omega, List.getElem?_eq_getElem hk⟩
    rw [List.getElem?_eq_getElem hk, ← hall _ hmem]
  · intro hall b hb
    obtain ⟨k, h1, h2, h3⟩ := mem_slice_iff.mp hb
    have hk := hall k h1 (by omega)
    rw [h3, Option.some.injEq] at hk
    exact hk.symm

/-- The same for a distance in either direction. -/
theorem rank_sub_iff {ms : List Bool} {p q : ℕ} (hp : p ≤ ms.length) (hq : q ≤ ms.length) :
    (rank ms q : ℤ) = rank ms p + (q - p) ↔
      ∀ k, min p q ≤ k → k < max p q → ms[k]? = some false := by
  rcases Nat.le_total p q with h | h
  · rw [min_eq_left h, max_eq_right h, ← rank_eq_iff h hq]
    omega
  · rw [min_eq_right h, max_eq_left h, ← rank_eq_iff h hp]
    omega

end AotOpt.Lib
