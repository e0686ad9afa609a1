import Mathlib.Algebra.Order.Ring.Int
import Mathlib.Data.List.Basic

/-!
# Layout

Items of one size that lie one behind the other (`placed`), and extents of which each begins
where the one before it ends (`Tiles`).

* `Tiles.pairwise`, `Tiles.inside`, `Tiles.exists_has` — extents that tile an interval do not
  overlap, lie inside it and leave no gap.
* `Tiles.written_apart`, `Tiles.written_inside`, `Tiles.exists_written` — the same of slots that
  are not written to their ends, where the gaps are the padding of the slots.
-/

namespace AotOpt.Lib

variable {α : Type}

/-! ### Items one behind the other -/

/-- Items of a size from `off` on, each with where it is. -/
def placed (size : ℕ) : ℕ → List α → List (ℕ × α)
  | _, [] => []
  | off, a :: as => (off, a) :: placed size (off + size) as

section Placed

variable {size off : ℕ}

@[simp] theorem placed_nil : placed size off ([] : List α) = [] := rfl

theorem placed_append : ∀ (off : ℕ) (as as' : List α),
    placed size off (as ++ as') = placed size off as ++ placed size (off + size * as.length) as'
  | _, [], _ => rfl
  | off, a :: as, as' => by
    rw [List.cons_append, placed, placed_append, placed, List.cons_append, List.length_cons,
      Nat.mul_succ, Nat.add_assoc, Nat.add_comm size]

@[simp] theorem length_placed : ∀ (off : ℕ) (as : List α), (placed size off as).length = as.length
  | _, [] => rfl
  | off, a :: as => by rw [placed, List.length_cons, length_placed, List.length_cons]

theorem map_snd_placed : ∀ (off : ℕ) (as : List α), (placed size off as).map (·.2) = as
  | _, [] => rfl
  | off, a :: as => by rw [placed, List.map_cons, map_snd_placed]

theorem placed_map {β : Type} (f : α → β) : ∀ (off : ℕ) (as : List α),
    placed size off (as.map f) = (placed size off as).map fun p => (p.1, f p.2)
  | _, [] => rfl
  | off, a :: as => by rw [List.map_cons, placed, placed_map, placed, List.map_cons]

theorem getElem?_placed : ∀ (off : ℕ) (as : List α) (i : ℕ),
    (placed size off as)[i]? = as[i]?.map fun a => (off + size * i, a)
  | _, [], _ => rfl
  | off, a :: as, 0 => rfl
  | off, a :: as, i + 1 => by
    rw [placed, List.getElem?_cons_succ, getElem?_placed, List.getElem?_cons_succ, Nat.mul_succ,
      Nat.add_assoc, Nat.add_comm size]

theorem mem_placed {as : List α} {i : ℕ} (h : i < as.length) :
    (off + size * i, as[i]) ∈ placed size off as := by
  refine List.mem_of_getElem? (i := i) ?_
  rw [getElem?_placed, List.getElem?_eq_getElem h]
  rfl

end Placed

/-! ### Extents -/

/-- A part of the memory. -/
structure Extent where
  start : ℕ
  size : ℕ

namespace Extent

/-- Where the extent ends. -/
def stop (e : Extent) : ℕ := e.start + e.size

/-- The place is in the extent. -/
def Has (e : Extent) (i : ℕ) : Prop := e.start ≤ i ∧ i < e.stop

/-- No place is in both. -/
def Apart (e e' : Extent) : Prop := ∀ i, e.Has i → ¬e'.Has i

theorem apart_of_le {e e' : Extent} (h : e.stop ≤ e'.start) : e.Apart e' := by
  intro i hi hi'
  have := hi.2
  have := hi'.1
  omega

end Extent

/-- The first extent begins at `a`, each of the others where the one before it ends, and the last
ends at `b`. -/
def Tiles : ℕ → List Extent → ℕ → Prop
  | a, [], b => a = b
  | a, e :: es, b => e.start = a ∧ Tiles e.stop es b

section Tiles

variable {es es' : List Extent} {a b c : ℕ}

theorem Tiles.append : ∀ {es : List Extent} {a : ℕ}, Tiles a es b → Tiles b es' c →
    Tiles a (es ++ es') c
  | [], _, rfl, h' => h'
  | _ :: _, _, ⟨hstart, h⟩, h' => ⟨hstart, h.append h'⟩

theorem Tiles.le : ∀ {es : List Extent} {a : ℕ}, Tiles a es b → a ≤ b
  | [], _, h => by
    rw [Tiles] at h
    exact h.le
  | e :: es, a, h => by
    obtain ⟨hstart, h⟩ := h
    have hle := Tiles.le h
    rw [Extent.stop] at hle
    omega

theorem Tiles.inside : ∀ {es : List Extent} {a : ℕ}, Tiles a es b →
    ∀ e ∈ es, a ≤ e.start ∧ e.stop ≤ b
  | [], _, _, e, he => by cases he
  | e' :: es, a, h, e, he => by
    obtain ⟨hstart, h⟩ := h
    rcases List.mem_cons.mp he with rfl | he
    · exact ⟨hstart.ge, Tiles.le h⟩
    · obtain ⟨hle, hstop⟩ := Tiles.inside h e he
      rw [Extent.stop] at hle
      exact ⟨by omega, hstop⟩

/-- The extents come one behind the other. -/
theorem Tiles.pairwise : ∀ {es : List Extent} {a : ℕ}, Tiles a es b →
    es.Pairwise fun e e' => e.stop ≤ e'.start
  | [], _, _ => .nil
  | _ :: _, _, h => .cons (fun e he => (Tiles.inside h.2 e he).1) (Tiles.pairwise h.2)

/-- There is no gap. -/
theorem Tiles.exists_has : ∀ {es : List Extent} {a : ℕ}, Tiles a es b → ∀ i, a ≤ i → i < b →
    ∃ e ∈ es, e.Has i
  | [], _, h, i, hle, hlt => by
    rw [Tiles] at h
    omega
  | e :: es, a, h, i, hle, hlt => by
    obtain ⟨hstart, h⟩ := h
    by_cases hi : i < e.stop
    · exact ⟨e, List.mem_cons_self, hstart.trans_le hle, hi⟩
    · obtain ⟨e', he', hhas⟩ := Tiles.exists_has h i (not_lt.mp hi) hlt
      exact ⟨e', List.mem_cons_of_mem _ he', hhas⟩

/-- Items one behind the other tile what they take up. -/
theorem tiles_placed (size : ℕ) : ∀ (off : ℕ) (as : List α),
    Tiles off ((placed size off as).map fun p => ⟨p.1, size⟩) (off + size * as.length)
  | _, [] => rfl
  | off, a :: as => by
    refine ⟨rfl, ?_⟩
    have h := tiles_placed size (off + size) as
    rwa [Nat.add_assoc, Nat.add_comm size, ← Nat.mul_succ] at h

end Tiles

/-! ### Slots -/

/-- An extent of which the first `used` places are written. -/
structure Slot where
  start : ℕ
  size : ℕ
  used : ℕ

namespace Slot

/-- The whole slot. -/
def whole (s : Slot) : Extent := ⟨s.start, s.size⟩

/-- What of it is written. -/
def written (s : Slot) : Extent := ⟨s.start, s.used⟩

/-- What of it is not. -/
def padding (s : Slot) : Extent := ⟨s.start + s.used, s.size - s.used⟩

theorem has_padding {s : Slot} {i : ℕ} :
    s.padding.Has i ↔ s.start + s.used ≤ i ∧ i < s.start + s.size := by
  simp only [Extent.Has, Extent.stop, padding]
  omega

end Slot

section Slots

variable {slots : List Slot} {a b : ℕ}

theorem Tiles.written_apart (h : Tiles a (slots.map Slot.whole) b)
    (hused : ∀ s ∈ slots, s.used ≤ s.size) : (slots.map Slot.written).Pairwise Extent.Apart := by
  rw [List.pairwise_map]
  refine (List.pairwise_map.mp h.pairwise).imp_of_mem fun {s s'} hs _ hle => ?_
  have hle' := hused s hs
  refine Extent.apart_of_le (le_trans ?_ hle)
  exact Nat.add_le_add_left hle' s.start

theorem Tiles.written_inside (h : Tiles a (slots.map Slot.whole) b)
    (hused : ∀ s ∈ slots, s.used ≤ s.size) :
    ∀ e ∈ slots.map Slot.written, a ≤ e.start ∧ e.stop ≤ b := by
  intro e he
  obtain ⟨s, hs, rfl⟩ := List.mem_map.mp he
  obtain ⟨hle, hstop⟩ := h.inside s.whole (List.mem_map_of_mem hs)
  exact ⟨hle, (Nat.add_le_add_left (hused s hs) s.start).trans hstop⟩

/-- What is not written is padding. -/
theorem Tiles.exists_written (h : Tiles a (slots.map Slot.whole) b)
    (hused : ∀ s ∈ slots, s.used ≤ s.size) (i : ℕ) (hle : a ≤ i) (hlt : i < b) :
    ∃ s ∈ slots, s.written.Has i ∨ s.padding.Has i := by
  obtain ⟨e, he, hhas⟩ := h.exists_has i hle hlt
  obtain ⟨s, hs, rfl⟩ := List.mem_map.mp he
  refine ⟨s, hs, ?_⟩
  have hle' := hused s hs
  simp only [Extent.Has, Extent.stop, Slot.whole, Slot.written, Slot.padding] at hhas ⊢
  omega

end Slots

end AotOpt.Lib
