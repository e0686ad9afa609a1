import Mathlib.Algebra.Order.BigOperators.Group.List
import Mathlib.Algebra.Order.Ring.Nat
import Mathlib.Data.List.Infix
import Mathlib.Data.List.Perm.Subperm

/-!
# Streams of linked blocks

A block has a body, and may fall through to a next block. The stream of a block is its
body followed by the stream of the next one; it need not end. Only its finite prefixes are
looked at (`IsPrefix`). Replacing a block by a block without a next one whose body is
the whole of a stream that ends (`Ends`) changes no prefix of any stream
(`isPrefix_iff_of_shortcut`). A stream that ends is no longer than all bodies together
(`Ends.length_le`).
-/

namespace AotOpt.Lib

universe u v

/-- Blocks with their bodies and their links. -/
structure Flow (ι : Type u) (α : Type v) where
  body : ι → List α
  next : ι → Option ι

namespace Flow

variable {ι : Type u} {α : Type v} (g g' : Flow ι α)

/-- The bodies of the first `n` blocks of the stream. -/
def unfold : ℕ → ι → List α
  | 0, _ => []
  | n + 1, i =>
    match g.next i with
    | some j => g.body i ++ unfold n j
    | none => g.body i

/-- `p` is a finite prefix of the stream. -/
def IsPrefix (i : ι) (p : List α) : Prop := ∃ n, p <+: g.unfold n i

/-- The stream ends, and `p` is the whole of it. -/
inductive Ends : ι → List α → Prop
  | stop {i : ι} : g.next i = none → Ends i (g.body i)
  | link {i j : ι} {p : List α} : g.next i = some j → Ends j p → Ends i (g.body i ++ p)

variable {g g'}

theorem unfold_of_none {i : ι} (h : g.next i = none) (n : ℕ) : g.unfold (n + 1) i = g.body i := by
  rw [unfold, h]

theorem unfold_of_some {i j : ι} (h : g.next i = some j) (n : ℕ) :
    g.unfold (n + 1) i = g.body i ++ g.unfold n j := by
  rw [unfold, h]

/-- A stream that ends is unfolded to its whole. -/
theorem Ends.exists_unfold {i : ι} {p : List α} (h : g.Ends i p) : ∃ n, g.unfold (n + 1) i = p := by
  induction h with
  | stop hnone => exact ⟨0, unfold_of_none hnone 0⟩
  | link hsome _ ih =>
    obtain ⟨n, hn⟩ := ih
    exact ⟨n + 1, by rw [unfold_of_some hsome, hn]⟩

theorem Ends.unfold_prefix {i : ι} {p : List α} (h : g.Ends i p) : ∀ n, g.unfold n i <+: p := by
  induction h with
  | stop hnone =>
    rintro (_ | n)
    · exact List.nil_prefix
    · rw [unfold_of_none hnone]
  | link hsome _ ih =>
    rintro (_ | n)
    · exact List.nil_prefix
    · rw [unfold_of_some hsome]
      exact List.prefix_append_right_inj _ |>.mpr (ih n)

/-- Every block of `g'` is the block of `g`, or has the whole stream of it as its body. -/
def Shortcut (g g' : Flow ι α) : Prop :=
  ∀ i, (g'.body i = g.body i ∧ g'.next i = g.next i) ∨ (g'.next i = none ∧ g.Ends i (g'.body i))

theorem Shortcut.unfold_prefix (h : Shortcut g g') : ∀ n i, g.unfold n i <+: g'.unfold n i
  | 0, _ => List.prefix_rfl
  | n + 1, i => by
    rcases h i with ⟨hbody, hnext⟩ | ⟨hnone, hends⟩
    · rw [unfold, unfold, hbody, hnext]
      cases g.next i with
      | none => exact List.prefix_rfl
      | some j => exact (List.prefix_append_right_inj _).mpr (h.unfold_prefix n j)
    · rw [unfold_of_none hnone]
      exact hends.unfold_prefix (n + 1)

theorem Shortcut.exists_prefix_unfold (h : Shortcut g g') :
    ∀ n i, ∃ m, g'.unfold n i <+: g.unfold m i
  | 0, _ => ⟨0, List.prefix_rfl⟩
  | n + 1, i => by
    rcases h i with ⟨hbody, hnext⟩ | ⟨hnone, hends⟩
    · rw [unfold, hbody, hnext]
      cases hi : g.next i with
      | none => exact ⟨1, by rw [unfold_of_none hi]⟩
      | some j =>
        obtain ⟨m, hm⟩ := h.exists_prefix_unfold n j
        refine ⟨m + 1, ?_⟩
        rw [unfold_of_some hi]
        exact (List.prefix_append_right_inj _).mpr hm
    · obtain ⟨m, hm⟩ := hends.exists_unfold
      exact ⟨m + 1, by rw [unfold_of_none hnone, hm]⟩

/-- **Shortcuts change no stream.** -/
theorem isPrefix_iff_of_shortcut (h : Shortcut g g') {i : ι} {p : List α} :
    g'.IsPrefix i p ↔ g.IsPrefix i p := by
  constructor
  · rintro ⟨n, hn⟩
    obtain ⟨m, hm⟩ := h.exists_prefix_unfold n i
    exact ⟨m, hn.trans hm⟩
  · rintro ⟨n, hn⟩
    exact ⟨n, hn.trans (h.unfold_prefix n i)⟩

/-- What all bodies consist of, a stream that ends does. -/
theorem Ends.forall_mem {P : α → Prop} (hP : ∀ i, ∀ a ∈ g.body i, P a) {i : ι} {p : List α}
    (h : g.Ends i p) : ∀ a ∈ p, P a := by
  induction h with
  | stop => exact hP _
  | link _ _ ih =>
    intro a ha
    rcases List.mem_append.mp ha with ha | ha
    · exact hP _ a ha
    · exact ih a ha

/-! ### How long a stream is -/

/-- The blocks of a stream that ends. -/
inductive Path (g : Flow ι α) : ι → List ι → Prop
  | stop {i : ι} : g.next i = none → Path g i [i]
  | link {i j : ι} {path : List ι} : g.next i = some j → Path g j path → Path g i (i :: path)

theorem Ends.exists_path {i : ι} {p : List α} (h : g.Ends i p) :
    ∃ path, g.Path i path ∧ p = path.flatMap g.body := by
  induction h with
  | @stop i hnone => exact ⟨[i], .stop hnone, by simp⟩
  | @link i j p hsome _ ih =>
    obtain ⟨path, hpath, rfl⟩ := ih
    exact ⟨i :: path, .link hsome hpath, by simp⟩

/-- A block has one path. -/
theorem Path.unique {i : ι} {path path' : List ι} (h : g.Path i path) (h' : g.Path i path') :
    path = path' := by
  induction h generalizing path' with
  | stop hnone =>
    cases h' with
    | stop => rfl
    | link hsome =>
      rw [hnone] at hsome
      cases hsome
  | link hsome _ ih =>
    cases h' with
    | stop hnone =>
      rw [hsome] at hnone
      cases hnone
    | link hsome' hpath' =>
      obtain rfl := Option.some.inj (hsome.symm.trans hsome')
      rw [ih hpath']

/-- The path of a block on it is the rest of it. -/
theorem Path.of_mem {i j : ι} {path : List ι} (h : g.Path i path) (hj : j ∈ path) :
    ∃ rest, g.Path j rest ∧ rest.length ≤ path.length := by
  induction h with
  | stop hnone =>
    rw [List.mem_singleton.mp hj]
    exact ⟨_, .stop hnone, le_rfl⟩
  | link hsome hpath ih =>
    rcases List.mem_cons.mp hj with rfl | hj
    · exact ⟨_, .link hsome hpath, le_rfl⟩
    · obtain ⟨rest, hrest, hle⟩ := ih hj
      exact ⟨rest, hrest, hle.trans (Nat.le_succ _)⟩

/-- **A stream that ends comes to no block twice**: it would come to it again and again. -/
theorem Path.nodup {i : ι} {path : List ι} (h : g.Path i path) : path.Nodup := by
  induction h with
  | stop => simp
  | @link i j path hsome hpath ih =>
    refine List.nodup_cons.mpr ⟨fun hmem => ?_, ih⟩
    obtain ⟨rest, hrest, hle⟩ := hpath.of_mem hmem
    rw [hrest.unique (.link hsome hpath), List.length_cons] at hle
    omega

/-- **A stream that ends is no longer than all bodies together.** -/
theorem Ends.length_le {ids : List ι} (hids : ∀ i, i ∉ ids → g.body i = []) {i : ι} {p : List α}
    (h : g.Ends i p) : p.length ≤ (ids.map fun i => (g.body i).length).sum := by
  classical
  obtain ⟨path, hpath, rfl⟩ := h.exists_path
  have hfilter : path.flatMap g.body = (path.filter (· ∈ ids)).flatMap g.body := by
    clear hpath h
    induction path with
    | nil => rfl
    | cons j path ih =>
      by_cases hj : j ∈ ids
      · rw [List.filter_cons_of_pos (by simpa using hj), List.flatMap_cons, List.flatMap_cons, ih]
      · rw [List.filter_cons_of_neg (by simpa using hj), List.flatMap_cons, hids j hj, List.nil_append, ih]
  have hsubset : path.filter (· ∈ ids) ⊆ ids := fun j hj => by simpa using (List.mem_filter.mp hj).2
  obtain ⟨path', hperm, hsub⟩ := List.subperm_of_subset (hpath.nodup.filter (· ∈ ids)) hsubset
  rw [hfilter, List.length_flatMap, ← (hperm.map fun i => (g.body i).length).sum_eq]
  exact (hsub.map _).sum_le_sum fun _ _ => Nat.zero_le _

section Map

universe w

variable {β : Type w} (h : α → β)

/-- The blocks with their bodies mapped. -/
def map (g : Flow ι α) : Flow ι β where
  body i := (g.body i).map h
  next := g.next

theorem Ends.map {i : ι} {p : List α} (hp : g.Ends i p) : (g.map h).Ends i (p.map h) := by
  induction hp with
  | stop hnone => exact .stop (g := g.map h) hnone
  | link hsome _ ih =>
    rw [List.map_append]
    exact .link (g := g.map h) hsome ih

end Map

end Flow

end AotOpt.Lib
