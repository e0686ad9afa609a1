import Mathlib.Data.List.Nodup
import Mathlib.Data.List.Perm.Subperm
import Mathlib.Data.Set.Insert
import Mathlib.Logic.Relation

/-!
# Searches of a graph

A search follows the successors of nodes and keeps the keys of the nodes it has come to, so that it
comes to no key twice. `Dfs` says in which order it comes to the nodes when it follows the successors
of a node before the next node, and `Bfs` when it goes on level by level. When the nodes that can be
reached have different keys, both come to all of them, and to each once.

* `Dfs.mem_iff`, `Dfs.nodup`, `exists_dfs` — depth first.
* `Bfs.mem_iff`, `Bfs.nodup`, `Bfs.sorted`, `exists_bfs` — breadth first, in the order of the distances.
-/

namespace AotOpt.Lib.Search

universe u v

variable {V : Type u} {κ : Type v}

/-- A node can be reached from another. -/
def Reach (succs : V → List V) : V → V → Prop := Relation.ReflTransGen fun x y => y ∈ succs x

/-- A list of nodes that has all their successors is not left. -/
theorem Reach.mem {succs : V → List V} {U : List V} (hU : ∀ x ∈ U, ∀ y ∈ succs x, y ∈ U) {x v : V}
    (h : Reach succs x v) (hx : x ∈ U) : v ∈ U := by
  induction h with
  | refl => exact hx
  | @tail v w _ hw ih => exact hU v ih w hw

/-- The keys of the nodes. -/
def keysOf (key : V → κ) (nodes : List V) : Set κ := {k | ∃ v ∈ nodes, key v = k}

section Keys

variable {key : V → κ}

@[simp] theorem mem_keysOf {nodes : List V} {k : κ} :
    k ∈ keysOf key nodes ↔ ∃ v ∈ nodes, key v = k :=
  Iff.rfl

theorem keysOf_nil : keysOf key [] = ∅ := by
  ext k
  simp

theorem keysOf_append (nodes nodes' : List V) :
    keysOf key (nodes ++ nodes') = keysOf key nodes ∪ keysOf key nodes' := by
  ext k
  simp only [mem_keysOf, List.mem_append, Set.mem_union, or_and_right, exists_or]

theorem keysOf_cons (x : V) (nodes : List V) :
    keysOf key (x :: nodes) = insert (key x) (keysOf key nodes) := by
  ext k
  simp [eq_comm]

end Keys

/-! ### Depth first -/

/-- The search from the nodes of a list, one after another, when the keys in `seen` were come to
before, comes to the nodes `out`. -/
inductive Dfs (key : V → κ) (succs : V → List V) : (seen : Set κ) → (nodes out : List V) → Prop where
  | nil {seen : Set κ} : Dfs key succs seen [] []
  | skip {seen : Set κ} {x : V} {nodes out : List V} (hx : key x ∈ seen)
      (h : Dfs key succs seen nodes out) : Dfs key succs seen (x :: nodes) out
  | visit {seen : Set κ} {x : V} {nodes out out' : List V} (hx : key x ∉ seen)
      (h : Dfs key succs (insert (key x) seen) (succs x) out)
      (h' : Dfs key succs (seen ∪ keysOf key (x :: out)) nodes out') :
      Dfs key succs seen (x :: nodes) (x :: out ++ out')

namespace Dfs

variable {key : V → κ} {succs : V → List V} {seen : Set κ} {nodes out : List V}

/-- No node has a key that was seen. -/
theorem not_seen (h : Dfs key succs seen nodes out) : ∀ v ∈ out, key v ∉ seen := by
  induction h with
  | nil =>
    intro v hv
    cases hv
  | skip _ _ ih => exact ih
  | @visit seen x nodes out out' hx _ _ ih ih' =>
    intro v hv
    rcases List.mem_append.mp hv with hv | hv
    · rcases List.mem_cons.mp hv with rfl | hv
      · exact hx
      · exact fun hseen => ih v hv (.inr hseen)
    · exact fun hseen => ih' v hv (.inl hseen)

/-- **No key is come to twice.** -/
theorem nodup (h : Dfs key succs seen nodes out) : (out.map key).Nodup := by
  induction h with
  | nil => exact List.nodup_nil
  | skip _ _ ih => exact ih
  | @visit seen x nodes out out' hx h h' ih ih' =>
    rw [List.map_append, List.nodup_append]
    refine ⟨?_, ih', ?_⟩
    · rw [List.map_cons, List.nodup_cons]
      refine ⟨?_, ih⟩
      intro hmem
      obtain ⟨v, hv, heq⟩ := List.mem_map.mp hmem
      exact h.not_seen v hv (.inl heq)
    · intro k hk k' hk' heq
      obtain ⟨v, hv, rfl⟩ := List.mem_map.mp hk'
      obtain ⟨w, hw, hkey⟩ := List.mem_map.mp hk
      exact h'.not_seen v hv (.inr ⟨w, hw, hkey.trans heq⟩)

/-- The nodes can be reached. -/
theorem reach (h : Dfs key succs seen nodes out) : ∀ v ∈ out, ∃ x ∈ nodes, Reach succs x v := by
  induction h with
  | nil =>
    intro v hv
    cases hv
  | skip _ _ ih =>
    intro v hv
    obtain ⟨x, hx, hreach⟩ := ih v hv
    exact ⟨x, List.mem_cons_of_mem _ hx, hreach⟩
  | @visit seen x nodes out out' _ _ _ ih ih' =>
    intro v hv
    rcases List.mem_append.mp hv with hv | hv
    · refine ⟨x, List.mem_cons_self, ?_⟩
      rcases List.mem_cons.mp hv with rfl | hv
      · exact .refl
      · obtain ⟨y, hy, hreach⟩ := ih v hv
        exact .head hy hreach
    · obtain ⟨y, hy, hreach⟩ := ih' v hv
      exact ⟨y, List.mem_cons_of_mem _ hy, hreach⟩

/-- The keys of the nodes of the list are seen. -/
theorem covers (h : Dfs key succs seen nodes out) : ∀ x ∈ nodes, key x ∈ seen ∪ keysOf key out := by
  induction h with
  | nil =>
    intro x hx
    cases hx
  | @skip seen x nodes out hx _ ih =>
    intro y hy
    rcases List.mem_cons.mp hy with rfl | hy
    · exact .inl hx
    · exact ih y hy
  | @visit seen x nodes out out' _ _ _ _ ih' =>
    intro y hy
    rw [keysOf_append, ← Set.union_assoc]
    rcases List.mem_cons.mp hy with rfl | hy
    · exact .inl (.inr ⟨y, List.mem_cons_self, rfl⟩)
    · exact ih' y hy

/-- The keys of the successors of the nodes are seen. -/
theorem closed (h : Dfs key succs seen nodes out) :
    ∀ v ∈ out, ∀ w ∈ succs v, key w ∈ seen ∪ keysOf key out := by
  induction h with
  | nil =>
    intro v hv
    cases hv
  | skip _ _ ih => exact ih
  | @visit seen x nodes out out' _ h _ ih ih' =>
    intro v hv w hw
    rw [keysOf_append, ← Set.union_assoc]
    rcases List.mem_append.mp hv with hv | hv
    · left
      have hkey : key w ∈ insert (key x) seen ∪ keysOf key out := by
        rcases List.mem_cons.mp hv with rfl | hv
        · exact h.covers w hw
        · exact ih v hv w hw
      rw [keysOf_cons, Set.union_insert]
      rwa [Set.insert_union] at hkey
    · exact ih' v hv w hw

/-- **The search comes to every node** that can be reached, if these have different keys. -/
theorem mem_iff {x : V} (h : Dfs key succs ∅ [x] out) (hinj : Set.InjOn key {v | Reach succs x v}) {v : V} :
    v ∈ out ↔ Reach succs x v := by
  have hreach : ∀ v ∈ out, Reach succs x v := by
    intro v hv
    obtain ⟨y, hy, hreach⟩ := h.reach v hv
    rwa [List.mem_singleton.mp hy] at hreach
  -- a key that is seen is the one of a node
  have hmem : ∀ v, Reach succs x v → key v ∈ ∅ ∪ keysOf key out → v ∈ out := by
    intro v hv hkey
    rw [Set.empty_union] at hkey
    obtain ⟨w, hw, heq⟩ := hkey
    exact hinj (hreach w hw) hv heq ▸ hw
  refine ⟨hreach v, fun hv => ?_⟩
  induction hv with
  | refl => exact hmem x .refl (h.covers x List.mem_cons_self)
  | @tail v w hv hw ih => exact hmem w (.tail hv hw) (h.closed v ih w hw)

/-- The list may be searched in two parts. -/
theorem append {nodes' out' : List V} (h : Dfs key succs seen nodes out)
    (h' : Dfs key succs (seen ∪ keysOf key out) nodes' out') :
    Dfs key succs seen (nodes ++ nodes') (out ++ out') := by
  induction h with
  | nil =>
    rw [keysOf_nil, Set.union_empty] at h'
    exact h'
  | skip hx _ ih => exact .skip hx (ih h')
  | @visit seen x nodes out out₁ hx h _ _ ih' =>
    rw [keysOf_append, ← Set.union_assoc] at h'
    have hrest := ih' h'
    rw [List.append_assoc]
    exact .visit hx h hrest

/-- The search stays in a list of nodes that has all their successors. -/
theorem subset {U : List V} (hU : ∀ x ∈ U, ∀ y ∈ succs x, y ∈ U) (h : Dfs key succs seen nodes out)
    (hnodes : ∀ x ∈ nodes, x ∈ U) : ∀ v ∈ out, v ∈ U := by
  intro v hv
  obtain ⟨x, hx, hreach⟩ := h.reach v hv
  exact hreach.mem hU (hnodes x hx)

/-- It comes to at most as many nodes as there are. -/
theorem length_le {U : List V} (hU : ∀ x ∈ U, ∀ y ∈ succs x, y ∈ U) (h : Dfs key succs seen nodes out)
    (hnodes : ∀ x ∈ nodes, x ∈ U) : out.length ≤ U.length := by
  have hnodup : out.Nodup := .of_map key h.nodup
  exact (List.subperm_of_subset hnodup (h.subset hU hnodes)).length_le

end Dfs

/-- How many nodes of a list have keys that are not seen. -/
noncomputable def unseen (key : V → κ) (U : List V) (seen : Set κ) : ℕ :=
  open Classical in U.countP fun v => key v ∉ seen

/-- When a key of the list is seen that was not, they become fewer. -/
theorem unseen_lt {key : V → κ} {U : List V} {seen seen' : Set κ} (hsub : seen ⊆ seen') {x : V}
    (hx : x ∈ U) (hnot : key x ∉ seen) (hnew : key x ∈ seen') :
    unseen key U seen' < unseen key U seen := by
  classical
  induction U with
  | nil => cases hx
  | cons y U ih =>
    have hle : ∀ U : List V, unseen key U seen' ≤ unseen key U seen := fun U =>
      List.countP_mono_left fun v _ hv => by
        simp only [decide_eq_true_eq] at hv ⊢
        exact fun h => hv (hsub h)
    have hcons : ∀ s : Set κ, unseen key (y :: U) s = unseen key U s + if key y ∉ s then 1 else 0 := by
      intro s
      simp [unseen, List.countP_cons]
    rw [hcons, hcons]
    rcases List.mem_cons.mp hx with rfl | hx
    · have := hle U
      rw [if_neg (not_not.mpr hnew), if_pos hnot]
      omega
    · have := ih hx
      by_cases hy : key y ∈ seen'
      · rw [if_neg (not_not.mpr hy)]
        omega
      · rw [if_pos hy, if_pos fun h => hy (hsub h)]
        omega

/-- **There is a search** from the nodes of a list that has all their successors. -/
theorem exists_dfs (key : V → κ) {succs : V → List V} {U : List V}
    (hU : ∀ x ∈ U, ∀ y ∈ succs x, y ∈ U) : ∀ (n : ℕ) (seen : Set κ), unseen key U seen < n →
      ∀ {nodes : List V}, (∀ x ∈ nodes, x ∈ U) → ∃ out, Dfs key succs seen nodes out := by
  intro n
  induction n with
  | zero => exact fun _ hn => absurd hn (Nat.not_lt_zero _)
  | succ n ihn =>
    intro seen hn nodes
    induction nodes with
    | nil => exact fun _ => ⟨[], .nil⟩
    | cons x nodes ih =>
      intro hnodes
      have hxU := hnodes x List.mem_cons_self
      have hrest : ∀ y ∈ nodes, y ∈ U := fun y hy => hnodes y (List.mem_cons_of_mem _ hy)
      by_cases hx : key x ∈ seen
      · obtain ⟨out, h⟩ := ih hrest
        exact ⟨out, .skip hx h⟩
      · have hfirst := unseen_lt (Set.subset_insert (key x) seen) hxU hx (.inl rfl)
        obtain ⟨out, h⟩ := ihn (insert (key x) seen) (by omega) fun y hy => hU x hxU y hy
        have hsub : seen ⊆ seen ∪ keysOf key (x :: out) := Set.subset_union_left
        have hthen := unseen_lt hsub hxU hx (.inr ⟨x, List.mem_cons_self, rfl⟩)
        obtain ⟨out', h'⟩ := ihn (seen ∪ keysOf key (x :: out)) (by omega) hrest
        exact ⟨_, .visit hx h h'⟩

/-! ### Breadth first -/

/-- A node can be reached over at most `n` steps. -/
def Within (succs : V → List V) (x : V) : ℕ → V → Prop
  | 0, v => v = x
  | n + 1, v => Within succs x n v ∨ ∃ u, Within succs x n u ∧ v ∈ succs u

/-- A node is at the distance `n`. -/
def AtDistance (succs : V → List V) (x : V) (n : ℕ) (v : V) : Prop :=
  Within succs x n v ∧ ∀ m < n, ¬Within succs x m v

section Distance

variable {succs : V → List V} {x v : V}

theorem Within.mono {m n : ℕ} (hmn : m ≤ n) (h : Within succs x m v) : Within succs x n v := by
  induction hmn with
  | refl => exact h
  | step _ ih => exact .inl ih

theorem Within.reach : ∀ {n : ℕ} {v : V}, Within succs x n v → Reach succs x v
  | 0, _, h => h ▸ .refl
  | _ + 1, _, .inl h => h.reach
  | _ + 1, _, .inr ⟨_, h, hv⟩ => h.reach.tail hv

theorem Reach.within (h : Reach succs x v) : ∃ n, Within succs x n v := by
  induction h with
  | refl => exact ⟨0, rfl⟩
  | @tail u v _ hv ih =>
    obtain ⟨n, hn⟩ := ih
    exact ⟨n + 1, .inr ⟨u, hn, hv⟩⟩

/-- When no node is at the distance `n`, all are nearer. -/
theorem within_lt_of_empty {n : ℕ} (hempty : ∀ v, ¬AtDistance succs x n v) :
    ∀ {m : ℕ} {v : V}, Within succs x m v → ∃ k < n, Within succs x k v := by
  intro m
  induction m with
  | zero =>
    intro v hv
    cases n with
    | zero => exact absurd ⟨hv, fun m hm => absurd hm (Nat.not_lt_zero m)⟩ (hempty v)
    | succ n => exact ⟨0, Nat.succ_pos n, hv⟩
  | succ m ih =>
    rintro v (hv | ⟨u, hu, hv⟩)
    · exact ih hv
    · obtain ⟨k, hk, hu⟩ := ih hu
      have hstep : Within succs x (k + 1) v := .inr ⟨u, hu, hv⟩
      by_cases hlt : k + 1 < n
      · exact ⟨k + 1, hlt, hstep⟩
      · obtain rfl : k + 1 = n := by omega
        by_contra hnone
        exact hempty v ⟨hstep, fun m hm hw => hnone ⟨m, hm, hw⟩⟩

end Distance

/-- The nodes of a list whose keys are not seen, each key once. -/
def fresh [DecidableEq κ] (key : V → κ) : (seen : List κ) → List V → List V
  | _, [] => []
  | seen, x :: nodes =>
    if key x ∈ seen then fresh key seen nodes else x :: fresh key (key x :: seen) nodes

section Fresh

variable [DecidableEq κ] {key : V → κ}

theorem of_mem_fresh : ∀ {nodes : List V} {seen : List κ} {v : V}, v ∈ fresh key seen nodes →
    v ∈ nodes ∧ key v ∉ seen
  | [], _, _, h => by cases h
  | x :: nodes, seen, v, h => by
    rw [fresh] at h
    split_ifs at h with hx
    · exact ⟨List.mem_cons_of_mem _ (of_mem_fresh h).1, (of_mem_fresh h).2⟩
    · rcases List.mem_cons.mp h with rfl | h
      · exact ⟨List.mem_cons_self, hx⟩
      · obtain ⟨hv, hnot⟩ := of_mem_fresh h
        exact ⟨List.mem_cons_of_mem _ hv, fun hseen => hnot (List.mem_cons_of_mem _ hseen)⟩

theorem exists_mem_fresh : ∀ {nodes : List V} {seen : List κ} {v : V}, v ∈ nodes → key v ∉ seen →
    ∃ w ∈ fresh key seen nodes, key w = key v
  | x :: nodes, seen, v, hv, hnot => by
    rw [fresh]
    split_ifs with hx
    · rcases List.mem_cons.mp hv with rfl | hv
      · exact absurd hx hnot
      · exact exists_mem_fresh hv hnot
    · by_cases hkey : key v = key x
      · exact ⟨x, List.mem_cons_self, hkey.symm⟩
      · have hv' : v ∈ nodes := (List.mem_cons.mp hv).resolve_left fun h => hkey (congrArg key h)
        have hnot' : key v ∉ key x :: seen := by simp [hkey, hnot]
        obtain ⟨w, hw, heq⟩ := exists_mem_fresh hv' hnot'
        exact ⟨w, List.mem_cons_of_mem _ hw, heq⟩

theorem nodup_fresh : ∀ {nodes : List V} {seen : List κ}, ((fresh key seen nodes).map key).Nodup
  | [], _ => List.nodup_nil
  | x :: nodes, seen => by
    rw [fresh]
    split_ifs with hx
    · exact nodup_fresh
    · rw [List.map_cons, List.nodup_cons]
      refine ⟨fun hmem => ?_, nodup_fresh⟩
      obtain ⟨v, hv, heq⟩ := List.mem_map.mp hmem
      exact (of_mem_fresh hv).2 (heq ▸ List.mem_cons_self)

theorem fresh_append : ∀ (nodes nodes' : List V) (seen : List κ), fresh key seen (nodes ++ nodes') =
    fresh key seen nodes ++ fresh key (((fresh key seen nodes).map key).reverse ++ seen) nodes'
  | [], _, _ => rfl
  | x :: nodes, nodes', seen => by
    rw [List.cons_append, fresh, fresh]
    split_ifs with hx
    · exact fresh_append nodes nodes' seen
    · rw [fresh_append, List.map_cons, List.reverse_cons, List.append_assoc, List.singleton_append,
        List.cons_append]

end Fresh

/-- The search goes on from the nodes of a level, when the keys in `seen` were come to, with the fresh
ones of their successors, and comes to the nodes `out`. -/
inductive Bfs [DecidableEq κ] (key : V → κ) (succs : V → List V) :
    (seen : List κ) → (level out : List V) → Prop where
  | nil {seen : List κ} : Bfs key succs seen [] []
  | level {seen : List κ} {level out : List V} (hne : level ≠ [])
      (h : Bfs key succs (((fresh key seen (level.flatMap succs)).map key).reverse ++ seen)
        (fresh key seen (level.flatMap succs)) out) :
      Bfs key succs seen level (level ++ out)

namespace Bfs

variable [DecidableEq κ] {key : V → κ} {succs : V → List V} {x : V}

/-- The nodes of the level are those at the distance `n`, and the keys of all that are not farther are
seen. -/
structure AtLevel (key : V → κ) (succs : V → List V) (x : V) (n : ℕ) (seen : List κ) (level : List V) :
    Prop where
  mem : ∀ v, v ∈ level ↔ AtDistance succs x n v
  seen : ∀ k, k ∈ seen ↔ ∃ v, Within succs x n v ∧ key v = k
  nodup : (level.map key).Nodup

omit [DecidableEq κ] in
/-- The first level. -/
theorem atLevel_zero : AtLevel key succs x 0 [key x] [x] where
  mem v := by
    rw [List.mem_singleton]
    exact ⟨fun h => ⟨h, fun m hm => absurd hm (Nat.not_lt_zero m)⟩, fun h => h.1⟩
  seen k := by
    rw [List.mem_singleton]
    constructor
    · rintro rfl
      exact ⟨x, rfl, rfl⟩
    · rintro ⟨v, hv, rfl⟩
      rw [show v = x from hv]
  nodup := List.nodup_singleton _

/-- **The next level.** -/
theorem AtLevel.next (hinj : Set.InjOn key {v | Reach succs x v}) {n : ℕ} {seen : List κ}
    {level : List V} (h : AtLevel key succs x n seen level) :
    AtLevel key succs x (n + 1) (((fresh key seen (level.flatMap succs)).map key).reverse ++ seen)
      (fresh key seen (level.flatMap succs)) := by
  have hfar : ∀ v, key v ∉ seen → ∀ m < n + 1, ¬Within succs x m v := fun v hv m hm hw =>
    hv ((h.seen _).mpr ⟨v, hw.mono (Nat.lt_succ_iff.mp hm), rfl⟩)
  have hstep : ∀ v ∈ level.flatMap succs, Within succs x (n + 1) v := by
    intro v hv
    obtain ⟨u, hu, hv⟩ := List.mem_flatMap.mp hv
    exact .inr ⟨u, ((h.mem u).mp hu).1, hv⟩
  have hmem : ∀ v, v ∈ fresh key seen (level.flatMap succs) ↔ AtDistance succs x (n + 1) v := by
    intro v
    constructor
    · intro hv
      obtain ⟨hv, hnot⟩ := of_mem_fresh hv
      exact ⟨hstep v hv, hfar v hnot⟩
    · rintro ⟨hv, hnear⟩
      rcases hv with hv | ⟨u, hu, hsucc⟩
      · exact absurd hv (hnear n n.lt_succ_self)
      · have hlevel : u ∈ level := by
          refine (h.mem u).mpr ⟨hu, fun m hm hw => ?_⟩
          exact hnear (m + 1) (by omega) (.inr ⟨u, hw, hsucc⟩)
        have hflat : v ∈ level.flatMap succs := List.mem_flatMap.mpr ⟨u, hlevel, hsucc⟩
        have hreach := (hstep v hflat).reach
        have hnot : key v ∉ seen := by
          intro hkey
          obtain ⟨w, hw, heq⟩ := (h.seen _).mp hkey
          rw [hinj hw.reach hreach heq] at hw
          exact hnear n n.lt_succ_self hw
        obtain ⟨w, hw, heq⟩ := exists_mem_fresh hflat hnot
        exact hinj (hstep w (of_mem_fresh hw).1).reach hreach heq ▸ hw
  refine ⟨hmem, fun k => ?_, nodup_fresh⟩
  rw [List.mem_append, List.mem_reverse, h.seen, or_comm]
  constructor
  · rintro (⟨v, hv, rfl⟩ | hk)
    · exact ⟨v, .inl hv, rfl⟩
    · obtain ⟨v, hv, rfl⟩ := List.mem_map.mp hk
      exact ⟨v, ((hmem v).mp hv).1, rfl⟩
  · rintro ⟨v, hv, rfl⟩
    by_cases hn : Within succs x n v
    · exact .inl ⟨v, hn, rfl⟩
    · refine .inr (List.mem_map_of_mem ((hmem v).mpr ⟨hv, fun m hm hw => ?_⟩))
      exact hn (hw.mono (Nat.lt_succ_iff.mp hm))

section Result

variable {seen : List κ} {level out : List V} {n : ℕ}

/-- The nodes from a level on are those that are not nearer. -/
theorem mem_iff_of_atLevel (hinj : Set.InjOn key {v | Reach succs x v}) (h : Bfs key succs seen level out) :
    ∀ {n : ℕ}, AtLevel key succs x n seen level →
      ∀ {v : V}, v ∈ out ↔ Reach succs x v ∧ ∀ m < n, ¬Within succs x m v := by
  induction h with
  | nil =>
    intro n hl v
    refine ⟨fun hv => absurd hv List.not_mem_nil, fun ⟨hv, hnear⟩ => ?_⟩
    obtain ⟨m, hm⟩ := hv.within
    obtain ⟨k, hk, hw⟩ := within_lt_of_empty (fun u hu => List.not_mem_nil ((hl.mem u).mpr hu)) hm
    exact absurd hw (hnear k hk)
  | @level seen level out _ _ ih =>
    intro n hl v
    rw [List.mem_append, hl.mem, ih (hl.next hinj)]
    constructor
    · rintro (⟨hv, hnear⟩ | ⟨hv, hnear⟩)
      · exact ⟨hv.reach, hnear⟩
      · exact ⟨hv, fun m hm => hnear m (by omega)⟩
    · rintro ⟨hv, hnear⟩
      by_cases hn : Within succs x n v
      · exact .inl ⟨hn, hnear⟩
      · refine .inr ⟨hv, fun m hm hw => ?_⟩
        exact hn (hw.mono (Nat.lt_succ_iff.mp hm))

/-- No key twice, and in the order of the distances. -/
theorem ordered_of_atLevel (hinj : Set.InjOn key {v | Reach succs x v}) (h : Bfs key succs seen level out) :
    ∀ {n : ℕ}, AtLevel key succs x n seen level → (out.map key).Nodup ∧
      out.Pairwise fun u v => ∀ m, Within succs x m v → Within succs x m u := by
  induction h with
  | nil => exact fun _ => ⟨List.nodup_nil, .nil⟩
  | @level seen level out _ h ih =>
    intro n hl
    have hl' := hl.next hinj
    obtain ⟨hnodup, hsorted⟩ := ih hl'
    have hfar : ∀ v ∈ out, Reach succs x v ∧ ∀ m < n + 1, ¬Within succs x m v :=
      fun v hv => (mem_iff_of_atLevel hinj h hl').mp hv
    constructor
    · rw [List.map_append, List.nodup_append]
      refine ⟨hl.nodup, hnodup, ?_⟩
      intro k hk k' hk' heq
      obtain ⟨u, hu, rfl⟩ := List.mem_map.mp hk
      obtain ⟨v, hv, rfl⟩ := List.mem_map.mp hk'
      have hu := ((hl.mem u).mp hu).1
      obtain ⟨hreach, hnear⟩ := hfar v hv
      rw [hinj hu.reach hreach heq] at hu
      exact hnear n n.lt_succ_self hu
    · rw [List.pairwise_append]
      refine ⟨List.pairwise_of_forall_mem_list ?_, hsorted, ?_⟩
      · intro u hu v hv m hw
        have hm : n ≤ m := by
          by_contra hm
          exact ((hl.mem v).mp hv).2 m (by omega) hw
        exact ((hl.mem u).mp hu).1.mono hm
      · intro u hu v hv m hw
        have hm : n + 1 ≤ m := by
          by_contra hm
          exact (hfar v hv).2 m (by omega) hw
        exact ((hl.mem u).mp hu).1.mono (by omega)

end Result

variable {out : List V}

/-- **The search comes to every node** that can be reached, if these have different keys. -/
theorem mem_iff (h : Bfs key succs [key x] [x] out) (hinj : Set.InjOn key {v | Reach succs x v}) {v : V} :
    v ∈ out ↔ Reach succs x v := by
  rw [mem_iff_of_atLevel hinj h atLevel_zero]
  simp

/-- **To none twice.** -/
theorem nodup (h : Bfs key succs [key x] [x] out) (hinj : Set.InjOn key {v | Reach succs x v}) :
    out.Nodup :=
  (ordered_of_atLevel hinj h atLevel_zero).1.of_map

/-- **To no node before a nearer one.** -/
theorem sorted (h : Bfs key succs [key x] [x] out) (hinj : Set.InjOn key {v | Reach succs x v}) :
    out.Pairwise fun u v => ∀ m, Within succs x m v → Within succs x m u :=
  (ordered_of_atLevel hinj h atLevel_zero).2

end Bfs

/-- **There is a search** from the nodes of a list that has all their successors. -/
theorem exists_bfs [DecidableEq κ] (key : V → κ) {succs : V → List V} {U : List V}
    (hU : ∀ x ∈ U, ∀ y ∈ succs x, y ∈ U) : ∀ (n : ℕ) (seen : List κ) {level : List V},
      unseen key U {k | k ∈ seen} < n → (∀ x ∈ level, x ∈ U) →
        ∃ out, Bfs key succs seen level out := by
  intro n
  induction n with
  | zero => exact fun _ _ hn => absurd hn (Nat.not_lt_zero _)
  | succ n ih =>
    intro seen level hn hlevel
    by_cases hne : level = []
    · rw [hne]
      exact ⟨[], .nil⟩
    · cases hnew : fresh key seen (level.flatMap succs) with
      | nil =>
        refine ⟨level ++ [], .level hne ?_⟩
        rw [hnew]
        exact .nil
      | cons y nodes =>
        have hnext : ∀ v ∈ fresh key seen (level.flatMap succs), v ∈ U := by
          intro v hv
          obtain ⟨u, hu, hv⟩ := List.mem_flatMap.mp (of_mem_fresh hv).1
          exact hU u (hlevel u hu) v hv
        have hy : y ∈ fresh key seen (level.flatMap succs) := hnew ▸ List.mem_cons_self
        have hsub : {k | k ∈ seen} ⊆
            {k | k ∈ ((fresh key seen (level.flatMap succs)).map key).reverse ++ seen} :=
          fun k hk => List.mem_append_right _ hk
        have hfewer := unseen_lt hsub (hnext y hy) (of_mem_fresh hy).2
          (List.mem_append_left _ (List.mem_reverse.mpr (List.mem_map_of_mem hy)))
        obtain ⟨out, h⟩ := ih _ (Nat.lt_of_lt_of_le hfewer (Nat.lt_succ_iff.mp hn)) hnext
        exact ⟨_, .level hne h⟩

end AotOpt.Lib.Search
