import Mathlib.Algebra.Order.Ring.Int
import Mathlib.Data.List.Basic
import Mathlib.Data.List.Nodup

/-!
# Positions in a list that is edited

A table of positions kept beside a list — the index of an entry, the range an
annotation covers, the places where a predicate holds — has to move when the list
is edited. This module says how: `shiftDel q` and `shiftIns p` are where a position
goes when the entry at `q` is deleted and when an entry is inserted at `p`, and the
lemmas say that the list read at the moved position is the list read at the old one.

* `getElem?_eraseIdx_shift`, `getElem?_insertIdx_shift` — one position.
* `slice` and its lemmas — a range of positions.
* `cut`, `insertIdx_stays_iff`, `cut_stays_iff` — which entries stay at their position.
* `posTable` and its lemmas — all positions where a predicate holds.
-/

namespace AotOpt.Lib

universe u

variable {α : Type u}

/-! ### One position -/

/-- Where position `k` goes when the entry at `q` is deleted (`q` itself stays). -/
def shiftDel (q k : ℕ) : ℕ := if q < k then k - 1 else k

/-- Where position `k` goes when an entry is inserted at `p`. -/
def shiftIns (p k : ℕ) : ℕ := if p ≤ k then k + 1 else k

theorem shiftDel_of_lt {q k : ℕ} (h : q < k) : shiftDel q k = k - 1 := by simp [shiftDel, h]

theorem shiftDel_of_le {q k : ℕ} (h : k ≤ q) : shiftDel q k = k := by
  simp [shiftDel, Nat.not_lt.mpr h]

theorem shiftIns_of_le {p k : ℕ} (h : p ≤ k) : shiftIns p k = k + 1 := by simp [shiftIns, h]

theorem shiftIns_of_lt {p k : ℕ} (h : k < p) : shiftIns p k = k := by
  simp [shiftIns, Nat.not_le.mpr h]

/-- An entry other than the deleted one is read at the moved position. -/
theorem getElem?_eraseIdx_shift (l : List α) {q k : ℕ} (h : k ≠ q) :
    (l.eraseIdx q)[shiftDel q k]? = l[k]? := by
  rw [List.getElem?_eraseIdx]
  by_cases hk : q < k
  · rw [shiftDel_of_lt hk, if_neg (by omega), Nat.sub_add_cancel (by omega)]
  · rw [shiftDel_of_le (by omega), if_pos (by omega)]

/-- Every entry is read at the moved position after an insertion. -/
theorem getElem?_insertIdx_shift (l : List α) (x : α) (p k : ℕ) :
    (l.insertIdx p x)[shiftIns p k]? = l[k]? := by
  by_cases h : p ≤ k
  · rw [shiftIns_of_le h, List.getElem?_insertIdx_of_gt (by omega), Nat.add_sub_cancel]
  · rw [shiftIns_of_lt (by omega), List.getElem?_insertIdx_of_lt (by omega)]

theorem insertIdx_eq_take_drop {l : List α} {k : ℕ} (hk : k ≤ l.length) (x : α) :
    l.insertIdx k x = l.take k ++ x :: l.drop k := by
  induction l generalizing k with
  | nil =>
    obtain rfl : k = 0 := Nat.le_zero.mp hk
    rfl
  | cons y l ih =>
    cases k with
    | zero => rfl
    | succ k => rw [List.insertIdx_succ_cons, ih (Nat.le_of_succ_le_succ hk)]; rfl

/-- In a list without repetition an entry has one position. -/
theorem pos_unique {l : List α} (h : l.Nodup) {i j : ℕ} {a : α} (hi : l[i]? = some a)
    (hj : l[j]? = some a) : i = j := by
  obtain ⟨hi', ei⟩ := List.getElem?_eq_some_iff.mp hi
  obtain ⟨hj', ej⟩ := List.getElem?_eq_some_iff.mp hj
  exact (h.getElem_inj_iff).mp (ei.trans ej.symm)

/-! ### A range of positions -/

/-- The `c` entries from position `s` on. -/
def slice (l : List α) (s c : ℕ) : List α := (l.drop s).take c

theorem getElem?_slice (l : List α) (s c i : ℕ) :
    (slice l s c)[i]? = if i < c then l[s + i]? else none := by
  simp [slice, List.getElem?_take, List.getElem?_drop]

theorem mem_slice_iff {l : List α} {s c : ℕ} {a : α} :
    a ∈ slice l s c ↔ ∃ k, s ≤ k ∧ k < s + c ∧ l[k]? = some a := by
  rw [List.mem_iff_getElem?]
  constructor
  · rintro ⟨i, hi⟩
    rw [getElem?_slice] at hi
    split_ifs at hi with h
    exact ⟨s + i, by omega, by omega, hi⟩
  · rintro ⟨k, h1, h2, h3⟩
    refine ⟨k - s, ?_⟩
    rw [getElem?_slice, if_pos (by omega), Nat.add_sub_cancel' h1, h3]

/-- The range without its first entry. -/
theorem slice_succ {l : List α} {q : ℕ} {a : α} (h : l[q]? = some a) (c : ℕ) :
    slice l q (c + 1) = a :: slice (l.eraseIdx q) q c := by
  obtain ⟨hlt, rfl⟩ := List.getElem?_eq_some_iff.mp h
  have hlen : (l.take q).length = q := List.length_take_of_le (Nat.le_of_lt hlt)
  rw [slice, slice, ← List.getElem_cons_drop hlt, List.take_succ_cons, List.eraseIdx_eq_take_drop_succ,
    List.drop_left' hlen]

/-- A deletion in front of a range moves the range one back. -/
theorem slice_eraseIdx_of_lt (l : List α) {q s : ℕ} (c : ℕ) (h : q < s) :
    slice (l.eraseIdx q) (s - 1) c = slice l s c := by
  apply List.ext_getElem?
  intro i
  rw [getElem?_slice, getElem?_slice]
  split_ifs with hi
  · rw [List.getElem?_eraseIdx, if_neg (by omega), show s - 1 + i + 1 = s + i by omega]
  · rfl

/-- A deletion behind a range leaves it. -/
theorem slice_eraseIdx_of_le (l : List α) {q s c : ℕ} (h : s + c ≤ q) :
    slice (l.eraseIdx q) s c = slice l s c := by
  apply List.ext_getElem?
  intro i
  rw [getElem?_slice, getElem?_slice]
  split_ifs with hi
  · rw [List.getElem?_eraseIdx, if_pos (by omega)]
  · rfl

/-- An insertion in front of a range moves the range one on. -/
theorem slice_insertIdx_of_le (l : List α) (x : α) {p s : ℕ} (c : ℕ) (h : p ≤ s) :
    slice (l.insertIdx p x) (s + 1) c = slice l s c := by
  apply List.ext_getElem?
  intro i
  rw [getElem?_slice, getElem?_slice, List.getElem?_insertIdx_of_gt (by omega),
    show s + 1 + i - 1 = s + i by omega]

/-- An insertion behind a range leaves it. -/
theorem slice_insertIdx_of_ge (l : List α) (x : α) {p s c : ℕ} (h : s + c ≤ p) :
    slice (l.insertIdx p x) s c = slice l s c := by
  apply List.ext_getElem?
  intro i
  rw [getElem?_slice, getElem?_slice]
  split_ifs with hi
  · rw [List.getElem?_insertIdx_of_lt (by omega)]
  · rfl

/-! ### Entries that stay -/

/-- The list without its `c` entries from position `q` on. -/
def cut (l : List α) (q c : ℕ) : List α := l.take q ++ l.drop (q + c)

theorem cut_zero (l : List α) (q : ℕ) : cut l q 0 = l := by simp [cut]

theorem cut_one (l : List α) (q : ℕ) : cut l q 1 = l.eraseIdx q := by
  rw [cut, List.eraseIdx_eq_take_drop_succ]

theorem cut_eraseIdx {l : List α} {q : ℕ} (hq : q < l.length) (c : ℕ) :
    cut (l.eraseIdx q) q c = cut l q (c + 1) := by
  rw [cut, cut, List.eraseIdx_eq_take_drop_succ, List.take_append_of_le_length (by simp; omega),
    List.take_take, Nat.min_self, List.drop_append, List.length_take, Nat.min_eq_left (Nat.le_of_lt hq),
    List.drop_eq_nil_of_le (by rw [List.length_take]; omega), List.nil_append, Nat.add_sub_cancel_left,
    List.drop_drop]
  congr 2
  omega

/-- An entry stays at its position under an insertion if and only if the insertion is
behind it. -/
theorem insertIdx_stays_iff {l : List α} {a x : α} {k p : ℕ} (hl : (l.insertIdx p x).Nodup)
    (ha : l[k]? = some a) : (l.insertIdx p x)[k]? = some a ↔ k < p := by
  constructor
  · intro h
    by_contra hp
    have h' := getElem?_insertIdx_shift l x p k
    rw [ha] at h'
    have := pos_unique hl h h'
    rw [shiftIns_of_le (by omega)] at this
    omega
  · intro hp
    have h' := getElem?_insertIdx_shift l x p k
    rwa [shiftIns_of_lt hp, ha] at h'

theorem getElem?_cut {l : List α} {q c i : ℕ} (hq : q ≤ l.length) :
    (cut l q c)[i]? = if i < q then l[i]? else l[i + c]? := by
  rw [cut, List.getElem?_append, List.length_take, Nat.min_eq_left hq]
  split_ifs with h
  · rw [List.getElem?_take, if_pos h]
  · rw [List.getElem?_drop]
    congr 1
    omega

/-- An entry that is not cut out stays at its position if and only if nothing was cut out in
front of it. -/
theorem cut_stays_iff {l : List α} (hl : l.Nodup) {a : α} {k q c : ℕ} (ha : l[k]? = some a) :
    (a ∈ cut l q c → (cut l q c)[k]? = some a) ↔ c = 0 ∨ k < q + c := by
  have hk := (List.getElem?_eq_some_iff.mp ha).1
  by_cases hq : q ≤ l.length
  · constructor
    · intro h
      by_contra hc
      have hmem : a ∈ cut l q c := by
        refine List.mem_iff_getElem?.mpr ⟨k - c, ?_⟩
        rw [getElem?_cut hq, if_neg (by omega), Nat.sub_add_cancel (by omega)]
        exact ha
      have h' := h hmem
      rw [getElem?_cut hq, if_neg (by omega)] at h'
      have := pos_unique hl ha h'
      omega
    · intro hc hmem
      obtain ⟨i, hi⟩ := List.mem_iff_getElem?.mp hmem
      rw [getElem?_cut hq] at hi ⊢
      split_ifs at hi with hiq
      · have := pos_unique hl ha hi
        rw [if_pos (by omega)]
        exact ha
      · have := pos_unique hl ha hi
        rw [if_neg (by omega), show c = 0 by omega]
        exact ha
  · have hcut : cut l q c = l := by
      rw [cut, List.take_of_length_le (by omega), List.drop_eq_nil_of_le (by omega),
        List.append_nil]
    rw [hcut]
    simp only [ha, implies_true, true_iff]
    omega

/-! ### The positions where a predicate holds -/

/-- The entries where `P` holds, each with its position. -/
def posTable (P : α → Bool) (l : List α) : List (α × ℕ) := l.zipIdx.filter fun e => P e.1

theorem mem_posTable {P : α → Bool} {l : List α} {a : α} {k : ℕ} :
    (a, k) ∈ posTable P l ↔ l[k]? = some a ∧ P a := by
  simp [posTable, List.mem_zipIdx_iff_getElem?]

theorem snd_lt_of_mem_posTable {P : α → Bool} {l : List α} {e : α × ℕ} (h : e ∈ posTable P l) :
    e.2 < l.length := by
  obtain ⟨h1, -⟩ := mem_posTable.mp (show (e.1, e.2) ∈ posTable P l from h)
  exact (List.getElem?_eq_some_iff.mp h1).1

theorem posTable_append (P : α → Bool) (l₁ l₂ : List α) :
    posTable P (l₁ ++ l₂) =
      posTable P l₁ ++ (posTable P l₂).map fun e => (e.1, l₁.length + e.2) := by
  simp only [posTable, List.zipIdx_append, List.filter_append, Nat.zero_add]
  congr 1
  rw [List.zipIdx_eq_map_add, List.filter_map]
  rfl

theorem posTable_cons (P : α → Bool) (a : α) (l : List α) :
    posTable P (a :: l) =
      (if P a then [(a, 0)] else []) ++ (posTable P l).map fun e => (e.1, 1 + e.2) := by
  rw [← List.singleton_append, posTable_append]
  congr 1
  cases h : P a <;> simp [posTable, h]

/-- The positions of the table grow. -/
theorem pairwise_snd_posTable (P : α → Bool) (l : List α) :
    ((posTable P l).map (·.2)).Pairwise (· < ·) := by
  have h : ((posTable P l).map (·.2)).Sublist (l.zipIdx.map (·.2)) :=
    (List.filter_sublist).map _
  refine List.Pairwise.sublist h ?_
  rw [List.zipIdx_map_snd]
  exact List.pairwise_lt_range'

/-- No two entries of the table have the same position. -/
theorem nodup_snd_posTable (P : α → Bool) (l : List α) : ((posTable P l).map (·.2)).Nodup :=
  (pairwise_snd_posTable P l).imp Nat.ne_of_lt

/-- **The table after a deletion**: the entry at `q` goes, the positions behind it
move one back. -/
theorem posTable_eraseIdx (P : α → Bool) (l : List α) (q : ℕ) :
    posTable P (l.eraseIdx q) =
      ((posTable P l).filter fun e => e.2 ≠ q).map fun e => (e.1, shiftDel q e.2) := by
  induction l generalizing q with
  | nil => rfl
  | cons a l ih =>
    cases q with
    | zero =>
      rw [List.eraseIdx_cons_zero, posTable_cons, List.filter_append, List.map_append]
      have h0 : ((if P a then [(a, 0)] else []).filter fun e : α × ℕ => e.2 ≠ 0) = [] := by
        split <;> simp
      rw [h0, List.map_nil, List.nil_append, List.filter_map, List.map_map,
        List.filter_eq_self.mpr (by intro e _; simp)]
      symm
      conv_rhs => rw [← List.map_id (posTable P l)]
      refine List.map_congr_left fun e _ => ?_
      simp only [Function.comp, id_eq]
      rw [shiftDel_of_lt (by omega), Nat.add_sub_cancel_left]
    | succ q =>
      rw [List.eraseIdx_cons_succ, posTable_cons, posTable_cons, ih, List.filter_append,
        List.map_append, List.filter_map, List.map_map, List.map_map]
      congr 1
      · split <;> simp [shiftDel]
      · have hf : ((fun e : α × ℕ => decide (e.2 ≠ q + 1)) ∘ fun e : α × ℕ => (e.1, 1 + e.2)) =
            fun e => decide (e.2 ≠ q) := by
          funext e; simp only [Function.comp]; congr 1; rw [eq_iff_iff]; omega
        rw [hf]
        refine List.map_congr_left fun e _ => ?_
        simp only [Function.comp, shiftDel, Prod.mk.injEq, true_and]
        split_ifs <;> omega

/-- **The table after an insertion**: the positions from `p` on move one up, and the
new entry is in the table if the predicate holds of it. -/
theorem posTable_insertIdx (P : α → Bool) (l : List α) (x : α) {p : ℕ} (hp : p ≤ l.length) :
    (posTable P (l.insertIdx p x)).Perm
      (((posTable P l).map fun e => (e.1, shiftIns p e.2)) ++ if P x then [(x, p)] else []) := by
  induction l generalizing p with
  | nil =>
    obtain rfl : p = 0 := by simpa using hp
    rw [List.insertIdx_zero, posTable_cons]
    simp [posTable]
  | cons a l ih =>
    cases p with
    | zero =>
      rw [List.insertIdx_zero, posTable_cons]
      refine List.perm_append_comm.trans ?_
      refine List.Perm.append_right _ (List.Perm.of_eq ?_)
      refine List.map_congr_left fun e _ => ?_
      simp [shiftIns, Nat.add_comm]
    | succ p =>
      rw [List.insertIdx_succ_cons, posTable_cons, posTable_cons, List.map_append, List.append_assoc]
      have h1 : ((if P a then [(a, 0)] else []).map fun e : α × ℕ => (e.1, shiftIns (p + 1) e.2)) =
          if P a then [(a, 0)] else [] := by split <;> simp [shiftIns]
      rw [h1]
      refine List.Perm.append_left _ ?_
      refine ((ih (by simpa using hp)).map _).trans (List.Perm.of_eq ?_)
      rw [List.map_append, List.map_map, List.map_map]
      congr 1
      · refine List.map_congr_left fun e _ => ?_
        simp only [Function.comp, shiftIns, Prod.mk.injEq, true_and]
        split_ifs <;> omega
      · split <;> simp [Nat.add_comm]

/-- Erasing the first entry with key `k` is dropping all entries with key `k`, when
keys do not repeat. -/
theorem eraseP_eq_filter_of_nodup {β : Type*} [DecidableEq β] (f : α → β) (k : β) {l : List α}
    (h : (l.map f).Nodup) : l.eraseP (fun e => f e = k) = l.filter fun e => f e ≠ k := by
  induction l with
  | nil => rfl
  | cons a l ih =>
    rw [List.map_cons, List.nodup_cons] at h
    by_cases ha : f a = k
    · rw [List.eraseP_cons_of_pos (by simpa using ha), List.filter_cons_of_neg (by simpa using ha),
        List.filter_eq_self.mpr]
      intro b hb
      have : f b ∈ l.map f := List.mem_map_of_mem hb
      simp only [ne_eq, decide_not, Bool.not_eq_eq_eq_not, Bool.not_true, decide_eq_false_iff_not]
      rintro e
      exact h.1 (ha ▸ e ▸ this)
    · rw [List.eraseP_cons_of_neg (by simpa using ha), List.filter_cons_of_pos (by simpa using ha),
        ih h.2]

/-- Erasing an entry is dropping all entries with its key, when keys do not repeat. -/
theorem eraseIdx_eq_filter {β : Type*} [DecidableEq β] {f : α → β} {l : List α} (h : (l.map f).Nodup)
    {q : ℕ} {a : α} (ha : l[q]? = some a) : l.eraseIdx q = l.filter fun b => f b ∉ [f a] := by
  induction l generalizing q with
  | nil => cases ha
  | cons b l ih =>
    rw [List.map_cons, List.nodup_cons] at h
    cases q with
    | zero =>
      rw [List.getElem?_cons_zero, Option.some.injEq] at ha
      subst ha
      rw [List.eraseIdx_cons_zero, List.filter_cons_of_neg (by simp), List.filter_eq_self.mpr]
      intro c hc
      have hmem : f c ∈ l.map f := List.mem_map_of_mem hc
      rw [decide_eq_true_eq, List.mem_singleton]
      intro e
      exact h.1 (e ▸ hmem)
    | succ q =>
      rw [List.getElem?_cons_succ] at ha
      have hmem : f a ∈ l.map f := List.mem_map_of_mem (List.mem_of_getElem? ha)
      have hne : f b ∉ [f a] := by
        rw [List.mem_singleton]
        intro e
        exact h.1 (e ▸ hmem)
      rw [List.eraseIdx_cons_succ, List.filter_cons_of_pos (by simpa using hne), ih h.2 ha]

/-- A filter that keeps an entry and all behind it. -/
theorem drop_filter {l : List α} (h : l.Nodup) {p : α → Bool} {i j : ℕ} {a : α} (hi : l[i]? = some a)
    (hj : (l.filter p)[j]? = some a) (hp : ∀ b ∈ l.drop (i + 1), p b = true) :
    (l.filter p).drop (j + 1) = l.drop (i + 1) := by
  obtain ⟨hlt, heq⟩ := List.getElem?_eq_some_iff.mp hi
  have ha : p a = true := (List.mem_filter.mp (List.mem_of_getElem? hj)).2
  have hsplit : l.filter p = (l.take i).filter p ++ a :: l.drop (i + 1) := by
    conv_lhs => rw [← List.take_append_drop i l, List.filter_append, ← List.getElem_cons_drop hlt, heq,
      List.filter_cons_of_pos ha, List.filter_eq_self.mpr hp]
  have hmid : (l.filter p)[((l.take i).filter p).length]? = some a := by
    rw [hsplit, List.getElem?_append_right (Nat.le_refl _), Nat.sub_self]
    rfl
  rw [pos_unique (h.filter p) hj hmid, hsplit, List.drop_append, List.drop_of_length_le (by omega)]
  simp

end AotOpt.Lib
