import AotOpt.Basic.Aot
import AotOpt.Lib.Chain
import AotOpt.Lib.Position
import Mathlib.Logic.Function.Basic

/-!
# Linked lists in memory

`LinkList` of `LinkList/linklist.hpp` as it is in memory: nodes at addresses with pointers to the
nodes before and after them, between two sentinels that are a part of the list object, and a
counter. The operations change one pointer after the other.

A list in memory denotes the list of the addresses of its nodes (`Denotes`). Each operation puts a
node between two neighbours or takes one out (`Spliced`, `Unlinked`), and so does to the denoted
list what it is meant to do.

* `linkList_runs` — after every sequence of calls the pointers show the list that the calls make.
-/

namespace AotOpt.Heap

open Lib

/-- A pointer; `nullptr` is 0. -/
abbrev Addr := BitVec 64

/-- `ListNode`. -/
structure ListNode where
  prev : Addr
  next : Addr
  data : Addr
  deriving DecidableEq

/-- The nodes in memory. -/
abbrev Nodes := Addr → Option ListNode

namespace Nodes

variable (m : Nodes)

/-- `*a`. -/
def deref (a : Addr) : Res ListNode :=
  match m a with
  | some n => .ok n
  | none => .error .sentinel

/-- `a->prev`. -/
def prev (a : Addr) : Res Addr := (·.prev) <$> m.deref a

/-- `a->next`. -/
def next (a : Addr) : Res Addr := (·.next) <$> m.deref a

/-- `a->data`. -/
def data (a : Addr) : Res Addr := (·.data) <$> m.deref a

/-- `a->prev = p`. -/
def setPrev (a p : Addr) : Res Nodes := do
  let n ← m.deref a
  return Function.update m a (some { n with prev := p })

/-- `a->next = p`. -/
def setNext (a p : Addr) : Res Nodes := do
  let n ← m.deref a
  return Function.update m a (some { n with next := p })

/-- `new ListNode(data)`, which is put at the address. -/
def newNode (a data : Addr) : Nodes := Function.update m a (some ⟨0, 0, data⟩)

/-- `insert_at_next`. -/
def insertAtNext (this node : Addr) : Res Nodes := do
  let m ← m.setPrev node this
  let next ← m.next this
  let m ← m.setNext node next
  let next ← m.next this
  let m ← m.setPrev next node
  m.setNext this node

/-- `insert_at_prev`. -/
def insertAtPrev (this node : Addr) : Res Nodes := do
  let m ← m.setNext node this
  let prev ← m.prev this
  let m ← m.setPrev node prev
  let prev ← m.prev this
  let m ← m.setNext prev node
  m.setPrev this node

/-- `remove_self`. -/
def removeSelf (this : Addr) : Res (Addr × Nodes) := do
  let prev ← m.prev this
  let next ← m.next this
  let m ← m.setNext prev next
  let next ← m.next this
  let prev ← m.prev this
  let m ← m.setPrev next prev
  let m ← m.setPrev this 0
  let m ← m.setNext this 0
  let data ← m.data this
  return (data, m)

end Nodes

/-- `LinkList`: where the object is, its counter, the memory, and what was given to `delete`. -/
structure LinkList where
  this : Addr
  size : BitVec 64
  nodes : Nodes
  deleted : List Addr

namespace LinkList

variable (l : LinkList)

/-- `&head`. -/
def head : Addr := l.this

/-- `&tail`: behind the three pointers of `head`. -/
def tail : Addr := l.this + 24

/-- `LinkList()`, for an object at the address. -/
def new (this : Addr) (m : Nodes) : LinkList where
  this := this
  size := 0
  nodes := Function.update (Function.update m this (some ⟨0, this + 24, 0⟩))
    (this + 24) (some ⟨this, 0, 0⟩)
  deleted := []

/-- `get`. -/
def get (i : BitVec 64) : Res Addr := do
  assert (i < l.size)
  let go ← l.nodes.next l.head
  advance l.nodes.next i.toNat go

/-- `total_size`. -/
def totalSize : BitVec 64 := l.size

/-- `insert_at_begin`. -/
def insertAtBegin (data a : Addr) : Res LinkList := do
  let m ← (l.nodes.newNode a data).insertAtNext l.head a
  return { l with size := l.size + 1, nodes := m }

/-- `insert_at_tail`. -/
def insertAtTail (data a : Addr) : Res LinkList := do
  let m ← (l.nodes.newNode a data).insertAtPrev l.tail a
  return { l with size := l.size + 1, nodes := m }

/-- `insert_after`. -/
def insertAfter (node inserted : Addr) : Res (Addr × LinkList) := do
  let m ← l.nodes.insertAtNext node inserted
  return (inserted, { l with size := l.size + 1, nodes := m })

/-- `begin`. -/
def begin : Res Addr := l.nodes.next l.head

/-- `remove`. -/
def remove (t : Addr) : Res (Addr × LinkList) := do
  let next ← l.nodes.next t
  let (data, m) ← l.nodes.removeSelf t
  return (next, { l with size := l.size - 1, nodes := m, deleted := l.deleted ++ [data] })

end LinkList

/-! ### What the pointers are afterwards -/

namespace Nodes

variable {m m' : Nodes} {a b u n v : Addr}

theorem deref_eq {c : ListNode} (h : m a = some c) : m.deref a = .ok c := by rw [deref, h]

theorem next_eq {c : ListNode} (h : m a = some c) : m.next a = .ok c.next := by
  rw [next, deref_eq h]
  rfl

theorem prev_eq {c : ListNode} (h : m a = some c) : m.prev a = .ok c.prev := by
  rw [prev, deref_eq h]
  rfl

theorem data_eq {c : ListNode} (h : m a = some c) : m.data a = .ok c.data := by
  rw [data, deref_eq h]
  rfl

/-- There is a node where a pointer is read. -/
theorem next_eq_ok : m.next a = .ok b ↔ ∃ c, m a = some c ∧ c.next = b := by
  rw [next, map_eq_ok, deref]
  cases m a <;> simp

theorem prev_eq_ok : m.prev a = .ok b ↔ ∃ c, m a = some c ∧ c.prev = b := by
  rw [prev, map_eq_ok, deref]
  cases m a <;> simp

/-- Two memories with the same node there. -/
theorem next_congr (h : m a = m' a) : m.next a = m'.next a := by rw [next, next, deref, deref, h]

theorem prev_congr (h : m a = m' a) : m.prev a = m'.prev a := by rw [prev, prev, deref, deref, h]

theorem data_congr (h : m a = m' a) : m.data a = m'.data a := by rw [data, data, deref, deref, h]

/-- Nothing changed but the `next` of one node, the `prev` of another, and the pointers of the
node between them. -/
structure Kept (m m' : Nodes) (u n v : Addr) : Prop where
  next_other : ∀ c, c ≠ u → c ≠ n → m'.next c = m.next c
  prev_other : ∀ c, c ≠ v → c ≠ n → m'.prev c = m.prev c
  data_same : ∀ c, m'.data c = m.data c

/-- A node was put between two others. -/
structure Spliced (m m' : Nodes) (u n v : Addr) : Prop extends Kept m m' u n v where
  next_left : m'.next u = .ok n
  next_new : m'.next n = .ok v
  prev_right : m'.prev v = .ok n
  prev_new : m'.prev n = .ok u

/-- A node was taken out from between two others. -/
structure Unlinked (m m' : Nodes) (u n v : Addr) : Prop extends Kept m m' u n v where
  next_left : m'.next u = .ok v
  prev_right : m'.prev v = .ok u

/-- The memory with three nodes changed. -/
def change (m : Nodes) (u n v : Addr) (cu cn cv : ListNode) : Nodes :=
  Function.update (Function.update (Function.update m n (some cn)) v (some cv)) u (some cu)

section Change

variable {cu cn cv cu' cn' cv' : ListNode}

theorem change_left : m.change u n v cu cn cv u = some cu := by rw [change, Function.update_self]

theorem change_right (huv : u ≠ v) : m.change u n v cu cn cv v = some cv := by
  rw [change, Function.update_of_ne huv.symm, Function.update_self]

theorem change_mid (hnu : n ≠ u) (hnv : n ≠ v) : m.change u n v cu cn cv n = some cn := by
  rw [change, Function.update_of_ne hnu, Function.update_of_ne hnv, Function.update_self]

theorem change_other {c : Addr} (hu : c ≠ u) (hn : c ≠ n) (hv : c ≠ v) :
    m.change u n v cu cn cv c = m c := by
  rw [change, Function.update_of_ne hu, Function.update_of_ne hv, Function.update_of_ne hn]

/-- Each of the three nodes keeps what it should. -/
theorem kept_change (hu : m u = some cu) (hn : m n = some cn) (hv : m v = some cv) (huv : u ≠ v)
    (hnu : n ≠ u) (hnv : n ≠ v) (hcu : cu' = { cu with next := cu'.next })
    (hcn : cn'.data = cn.data) (hcv : cv' = { cv with prev := cv'.prev }) :
    Kept m (m.change u n v cu' cn' cv') u n v where
  next_other := fun c hneu hnen => by
    by_cases hnev : c = v
    · rw [hnev, next_eq (change_right huv), next_eq hv, hcv]
    · exact next_congr (change_other hneu hnen hnev)
  prev_other := fun c hnev hnen => by
    by_cases hneu : c = u
    · rw [hneu, prev_eq change_left, prev_eq hu, hcu]
    · exact prev_congr (change_other hneu hnen hnev)
  data_same := fun c => by
    by_cases hneu : c = u
    · rw [hneu, data_eq change_left, data_eq hu, hcu]
    by_cases hnen : c = n
    · rw [hnen, data_eq (change_mid hnu hnv), data_eq hn, hcn]
    by_cases hnev : c = v
    · rw [hnev, data_eq (change_right huv), data_eq hv, hcv]
    · exact data_congr (change_other hneu hnen hnev)

/-- A splice. -/
theorem spliced_change (hu : m u = some cu) (hn : m n = some cn) (hv : m v = some cv) (huv : u ≠ v)
    (hnu : n ≠ u) (hnv : n ≠ v) :
    Spliced m (m.change u n v { cu with next := n } ⟨u, v, cn.data⟩ { cv with prev := n }) u n v where
  toKept := kept_change hu hn hv huv hnu hnv rfl rfl rfl
  next_left := next_eq change_left
  next_new := next_eq (change_mid hnu hnv)
  prev_right := prev_eq (change_right huv)
  prev_new := prev_eq (change_mid hnu hnv)

/-- A removal. -/
theorem unlinked_change (hu : m u = some cu) (hn : m n = some cn) (hv : m v = some cv) (huv : u ≠ v)
    (hnu : n ≠ u) (hnv : n ≠ v) :
    Unlinked m (m.change u n v { cu with next := v } ⟨0, 0, cn.data⟩ { cv with prev := u }) u n v where
  toKept := kept_change hu hn hv huv hnu hnv rfl rfl rfl
  next_left := next_eq change_left
  prev_right := prev_eq (change_right huv)

end Change

/-- **`insert_at_next`** puts the node between this one and the one after it. -/
theorem insertAtNext_spec (hv : m.next u = .ok v) (hback : m.prev v = .ok u) (huv : u ≠ v)
    (hn : (m n).isSome) (hnu : n ≠ u) (hnv : n ≠ v) :
    ∃ m', m.insertAtNext u n = .ok m' ∧ Spliced m m' u n v := by
  obtain ⟨cu, hcu, rfl⟩ := next_eq_ok.mp hv
  obtain ⟨cv, hcv, -⟩ := prev_eq_ok.mp hback
  obtain ⟨cn, hcn⟩ := Option.isSome_iff_exists.mp hn
  refine ⟨_, ?_, spliced_change hcu hcn hcv huv hnu hnv⟩
  simp [insertAtNext, setPrev, setNext, next, deref, change, hcu, hcv, hcn, hnu.symm, hnv.symm, huv]

/-- **`insert_at_prev`** puts it between this one and the one before it. -/
theorem insertAtPrev_spec (hback : m.prev v = .ok u) (hv : m.next u = .ok v) (huv : u ≠ v)
    (hn : (m n).isSome) (hnu : n ≠ u) (hnv : n ≠ v) :
    ∃ m', m.insertAtPrev v n = .ok m' ∧ Spliced m m' u n v := by
  obtain ⟨cv, hcv, rfl⟩ := prev_eq_ok.mp hback
  obtain ⟨cu, hcu, -⟩ := next_eq_ok.mp hv
  obtain ⟨cn, hcn⟩ := Option.isSome_iff_exists.mp hn
  refine ⟨_, ?_, spliced_change hcu hcn hcv huv hnu hnv⟩
  -- the node on the left is changed before the one on the right
  rw [change, Function.update_comm huv.symm]
  simp [insertAtPrev, setPrev, setNext, prev, deref, hcu, hcv, hcn, hnu.symm, hnv.symm, huv.symm]

/-- **`remove_self`** takes the node out, and returns its data. -/
theorem removeSelf_spec (hu : m.prev n = .ok u) (hback : m.next u = .ok n) (hv : m.next n = .ok v)
    (hback' : m.prev v = .ok n) (huv : u ≠ v) (hnu : n ≠ u) (hnv : n ≠ v) :
    ∃ data m', m.data n = .ok data ∧ m.removeSelf n = .ok (data, m') ∧ Unlinked m m' u n v := by
  obtain ⟨cn, hcn, rfl⟩ := prev_eq_ok.mp hu
  obtain ⟨cu, hcu, -⟩ := next_eq_ok.mp hback
  obtain ⟨cv, hcv, -⟩ := prev_eq_ok.mp hback'
  obtain rfl : cn.next = v := by
    rw [next_eq hcn] at hv
    exact Except.ok.inj hv
  refine ⟨cn.data, _, data_eq hcn, ?_, unlinked_change hcu hcn hcv huv hnu hnv⟩
  -- the node itself is changed after its neighbours
  rw [change, Function.update_comm hnv, Function.update_comm hnu, Function.update_comm huv.symm]
  simp [removeSelf, setPrev, setNext, prev, next, data, deref, hcu, hcv, hcn, huv.symm, hnu, hnv]

end Nodes

/-! ### The list that is denoted -/

namespace LinkList

variable {l : LinkList} {xs ys p q : List Addr} {a u n v : Addr} {m : Nodes}

/-- The pointers and the counter stand for the list of these nodes. -/
structure Denotes (l : LinkList) (xs : List Addr) : Prop where
  linked : Linked (fun a b => l.nodes.next a = .ok b) (fun a b => l.nodes.prev a = .ok b)
    (l.head :: xs ++ [l.tail])
  size : l.size = BitVec.ofNat 64 xs.length

theorem head_ne_tail (l : LinkList) : l.head ≠ l.tail := by
  intro h
  have hshift : l.this = l.this + 24#64 := h
  bv_omega

/-- A new list has no nodes. -/
theorem denotes_new (this : Addr) (m : Nodes) : (new this m).Denotes [] where
  linked := by
    have hne : this ≠ this + 24 := head_ne_tail (new this m)
    have hhead : (new this m).nodes this = some ⟨0, this + 24, 0⟩ :=
      (Function.update_of_ne hne _ _).trans (Function.update_self _ _ _)
    have htail : (new this m).nodes (this + 24) = some ⟨this, 0, 0⟩ :=
      Function.update_self _ _ _
    exact ⟨List.isChain_pair.mpr (Nodes.next_eq hhead), List.isChain_pair.mpr (Nodes.prev_eq htail),
      by simpa using head_ne_tail (new this m)⟩
  size := rfl

/-- The nodes between the sentinels, split at the place between two neighbours. -/
theorem between (hp : l.head :: xs = p ++ [u]) (hq : ys ++ [l.tail] = v :: q) :
    l.head :: (xs ++ ys) ++ [l.tail] = p ++ u :: v :: q := by
  rw [List.cons_append, List.append_assoc, ← List.cons_append, hp, hq, List.append_assoc,
    List.singleton_append]

/-- There is a neighbour on the left, the sentinel or a node. -/
theorem exists_left (a : Addr) (xs : List Addr) : ∃ p u, a :: xs = p ++ [u] :=
  ⟨_, _, (List.dropLast_append_getLast (List.cons_ne_nil a xs)).symm⟩

/-- And one on the right. -/
theorem exists_right (xs : List Addr) (b : Addr) : ∃ v q, xs ++ [b] = v :: q ∧ v = xs.headD b := by
  cases xs with
  | nil => exact ⟨b, [], rfl, rfl⟩
  | cons x xs => exact ⟨x, xs ++ [b], rfl, rfl⟩

theorem length_mid (xs ys : List Addr) (n : Addr) :
    (xs ++ n :: ys).length = (xs ++ ys).length + 1 := by
  rw [List.length_append, List.length_cons, List.length_append, Nat.add_assoc]

namespace Denotes

/-- The addresses are different, so that the counter does not overflow. -/
theorem length_lt (h : l.Denotes xs) : xs.length < 2 ^ 64 := by
  have hnodup := h.linked.nodup.map fun (a b : Addr) => BitVec.eq_of_toNat_eq
  have hrange : (l.head :: xs ++ [l.tail]).map BitVec.toNat ⊆ List.range (2 ^ 64) := fun k hk => by
    obtain ⟨a, -, rfl⟩ := List.mem_map.mp hk
    exact List.mem_range.mpr a.isLt
  have hlength := (List.subperm_of_subset hnodup hrange).length_le
  rw [List.length_range, List.length_map, List.length_append, List.length_cons] at hlength
  exact Nat.lt_of_lt_of_le (Nat.lt_succ_self _) ((Nat.le_add_right _ _).trans hlength)

theorem size_toNat (h : l.Denotes xs) : l.size.toNat = xs.length := by
  rw [h.size, BitVec.toNat_ofNat, Nat.mod_eq_of_lt h.length_lt]

/-- Every node that is not the last has a link. -/
theorem next_of_mem (h : l.Denotes xs) (ha : a ∈ l.head :: xs) : ∃ b, l.nodes.next a = .ok b := by
  obtain ⟨p, r, hsplit⟩ := List.append_of_mem ha
  obtain ⟨b, q, hq, -⟩ := exists_right r l.tail
  have hlinked := h.linked
  rw [hsplit, List.append_assoc, List.cons_append, hq] at hlinked
  exact ⟨b, hlinked.next_mid⟩

/-- And every node that is not the first has a link back. -/
theorem prev_of_mem (h : l.Denotes xs) (ha : a ∈ xs ++ [l.tail]) :
    ∃ b, l.nodes.prev a = .ok b := by
  obtain ⟨r, q, hsplit⟩ := List.append_of_mem ha
  obtain ⟨p, b, hp⟩ := exists_left l.head r
  have hlinked := h.linked
  rw [List.cons_append, hsplit, ← List.cons_append, hp, List.append_assoc,
    List.singleton_append] at hlinked
  exact ⟨b, hlinked.prev_mid⟩

/-- There are no other nodes than those in memory. -/
theorem notMem_of_none (h : l.Denotes xs) (ha : l.nodes a = none) :
    a ∉ l.head :: xs ++ [l.tail] := by
  intro hmem
  rcases List.mem_append.mp hmem with hmem | hmem
  · obtain ⟨b, hb⟩ := h.next_of_mem hmem
    obtain ⟨c, hc, -⟩ := Nodes.next_eq_ok.mp hb
    exact Option.some_ne_none c (hc.symm.trans ha)
  · obtain ⟨b, hb⟩ := h.prev_of_mem (List.mem_append_right _ hmem)
    obtain ⟨c, hc, -⟩ := Nodes.prev_eq_ok.mp hb
    exact Option.some_ne_none c (hc.symm.trans ha)

/-- A node that is put in memory elsewhere. -/
theorem update (h : l.Denotes xs) (ha : l.nodes a = none) (c : ListNode) :
    ({ l with nodes := Function.update l.nodes a (some c) } : LinkList).Denotes xs where
  linked := by
    have hkeep : ∀ b c', l.nodes b = some c' → Function.update l.nodes a (some c) b = some c' := by
      intro b c' hb
      have hne : b ≠ a := by
        rintro rfl
        exact Option.some_ne_none c' (hb.symm.trans ha)
      rw [Function.update_of_ne hne, hb]
    have hnext : ∀ b b', l.nodes.next b = .ok b' →
        Nodes.next (Function.update l.nodes a (some c)) b = .ok b' := by
      intro b b' hb
      obtain ⟨c', hc', hb'⟩ := Nodes.next_eq_ok.mp hb
      exact Nodes.next_eq_ok.mpr ⟨c', hkeep b c' hc', hb'⟩
    have hprev : ∀ b b', l.nodes.prev b = .ok b' →
        Nodes.prev (Function.update l.nodes a (some c)) b = .ok b' := by
      intro b b' hb
      obtain ⟨c', hc', hb'⟩ := Nodes.prev_eq_ok.mp hb
      exact Nodes.prev_eq_ok.mpr ⟨c', hkeep b c' hc', hb'⟩
    exact ⟨h.linked.forward.imp hnext, h.linked.backward.imp hprev, h.linked.nodup⟩
  size := h.size

/-- **A splice** between two neighbours inserts the node there. -/
theorem spliced (h : l.Denotes (xs ++ ys)) (hp : l.head :: xs = p ++ [u])
    (hq : ys ++ [l.tail] = v :: q) (hn : n ∉ l.head :: (xs ++ ys) ++ [l.tail])
    (hm : l.nodes.Spliced m u n v) :
    ({ l with size := l.size + 1, nodes := m } : LinkList).Denotes (xs ++ n :: ys) where
  linked := by
    have hlinked := h.linked
    have hright : n :: ys ++ [l.tail] = n :: v :: q := by rw [List.cons_append, hq]
    rw [between hp hq] at hlinked hn
    show Linked _ _ (l.head :: (xs ++ n :: ys) ++ [l.tail])
    rw [between hp hright]
    refine hlinked.insert hn ⟨hm.next_left, hm.next_new⟩ ⟨hm.prev_right, hm.prev_new⟩ ?_ ?_
    · exact fun c hcu hcn d hd => (hm.next_other c hcu hcn).trans hd
    · exact fun c hcv hcn d hd => (hm.prev_other c hcv hcn).trans hd
  size := by
    rw [length_mid, BitVec.ofNat_add, ← h.size]
    rfl

/-- **A removal** takes the node out of the list. -/
theorem unlinked (h : l.Denotes (xs ++ n :: ys)) (hp : l.head :: xs = p ++ [u])
    (hq : ys ++ [l.tail] = v :: q) (hm : l.nodes.Unlinked m u n v) (deleted : List Addr) :
    ({ l with size := l.size - 1, nodes := m, deleted := deleted } : LinkList).Denotes (xs ++ ys) where
  linked := by
    have hlinked := h.linked
    have hright : n :: ys ++ [l.tail] = n :: v :: q := by rw [List.cons_append, hq]
    rw [between hp hright] at hlinked
    show Linked _ _ (l.head :: (xs ++ ys) ++ [l.tail])
    rw [between hp hq]
    refine hlinked.erase hm.next_left hm.prev_right ?_ ?_
    · exact fun c hcu hcn d hd => (hm.next_other c hcu hcn).trans hd
    · exact fun c hcv hcn d hd => (hm.prev_other c hcv hcn).trans hd
  size := by
    show l.size - 1 = _
    rw [h.size, length_mid, BitVec.ofNat_add]
    exact BitVec.add_sub_cancel _ _

/-- The neighbours are different nodes, and a node outside of the list is neither of them. -/
theorem ne_neighbours (h : l.Denotes (xs ++ ys)) (hp : l.head :: xs = p ++ [u])
    (hq : ys ++ [l.tail] = v :: q) (hn : n ∉ l.head :: (xs ++ ys) ++ [l.tail]) :
    u ≠ v ∧ n ≠ u ∧ n ≠ v := by
  have hlinked := h.linked
  rw [between hp hq] at hlinked hn
  refine ⟨?_, ?_, ?_⟩
  · rintro rfl
    exact hlinked.notMem (by simp)
  · rintro rfl
    exact hn (by simp)
  · rintro rfl
    exact hn (by simp)

/-- The links between the neighbours. -/
theorem links (h : l.Denotes (xs ++ ys)) (hp : l.head :: xs = p ++ [u])
    (hq : ys ++ [l.tail] = v :: q) : l.nodes.next u = .ok v ∧ l.nodes.prev v = .ok u := by
  have hlinked := h.linked
  rw [between hp hq] at hlinked
  exact ⟨hlinked.next_mid, hlinked.prev_mid⟩

/-- **`insert_at_next`** after the neighbour on the left. -/
theorem insertAtNext (h : l.Denotes (xs ++ ys)) (hp : l.head :: xs = p ++ [u])
    (hn : n ∉ l.head :: (xs ++ ys) ++ [l.tail]) (hnode : (l.nodes n).isSome) :
    ∃ m, l.nodes.insertAtNext u n = .ok m ∧ (∀ c, m.data c = l.nodes.data c) ∧
      ({ l with size := l.size + 1, nodes := m } : LinkList).Denotes (xs ++ n :: ys) := by
  obtain ⟨v, q, hq, -⟩ := exists_right ys l.tail
  obtain ⟨huv, hnu, hnv⟩ := h.ne_neighbours hp hq hn
  obtain ⟨hnext, hprev⟩ := h.links hp hq
  obtain ⟨m, hm, hspliced⟩ := Nodes.insertAtNext_spec hnext hprev huv hnode hnu hnv
  exact ⟨m, hm, hspliced.data_same, h.spliced hp hq hn hspliced⟩

/-- **`insert_at_prev`** before the neighbour on the right. -/
theorem insertAtPrev (h : l.Denotes (xs ++ ys)) (hq : ys ++ [l.tail] = v :: q)
    (hn : n ∉ l.head :: (xs ++ ys) ++ [l.tail]) (hnode : (l.nodes n).isSome) :
    ∃ m, l.nodes.insertAtPrev v n = .ok m ∧ (∀ c, m.data c = l.nodes.data c) ∧
      ({ l with size := l.size + 1, nodes := m } : LinkList).Denotes (xs ++ n :: ys) := by
  obtain ⟨p, u, hp⟩ := exists_left l.head xs
  obtain ⟨huv, hnu, hnv⟩ := h.ne_neighbours hp hq hn
  obtain ⟨hnext, hprev⟩ := h.links hp hq
  obtain ⟨m, hm, hspliced⟩ := Nodes.insertAtPrev_spec hprev hnext huv hnode hnu hnv
  exact ⟨m, hm, hspliced.data_same, h.spliced hp hq hn hspliced⟩

/-- **`remove`** returns the node after the one that it takes out. -/
theorem remove (h : l.Denotes (xs ++ n :: ys)) :
    ∃ l' data, l.remove n = .ok (ys.headD l.tail, l') ∧ l'.this = l.this ∧
      l.nodes.data n = .ok data ∧ l'.deleted = l.deleted ++ [data] ∧
      (∀ c, l'.nodes.data c = l.nodes.data c) ∧ l'.Denotes (xs ++ ys) := by
  obtain ⟨p, u, hp⟩ := exists_left l.head xs
  obtain ⟨v, q, hq, hv⟩ := exists_right ys l.tail
  have hp' : l.head :: (xs ++ [n]) = (p ++ [u]) ++ [n] := by rw [← List.cons_append, hp]
  have hq' : n :: ys ++ [l.tail] = n :: v :: q := by rw [List.cons_append, hq]
  obtain ⟨hback, hprev⟩ := h.links hp hq'
  have hright : l.Denotes ((xs ++ [n]) ++ ys) := by rwa [← List.append_cons]
  obtain ⟨hnext, hback'⟩ := hright.links hp' hq
  have hlinked := h.linked
  rw [between hp hq'] at hlinked
  have huv : u ≠ v := by
    rintro rfl
    exact hlinked.notMem (by simp)
  have hnu : n ≠ u := by
    rintro rfl
    exact hlinked.notMem (by simp)
  have hnv : n ≠ v := by
    rintro rfl
    rw [List.append_cons] at hlinked
    exact hlinked.notMem (by simp)
  obtain ⟨data, m, hdata, hm, hunlinked⟩ :=
    Nodes.removeSelf_spec hprev hback hnext hback' huv hnu hnv
  refine ⟨{ l with size := l.size - 1, nodes := m, deleted := l.deleted ++ [data] }, data, ?_, rfl,
    hdata, rfl, hunlinked.data_same, h.unlinked hp hq hunlinked _⟩
  rw [LinkList.remove, hnext, ok_bind, hm, ok_bind, hv]
  rfl

/-- `get` finds the node. -/
theorem get (h : l.Denotes xs) (i : BitVec 64) (hi : i.toNat < xs.length) :
    l.get i = .ok xs[i.toNat] := by
  have hlt : i < l.size := by
    rw [BitVec.lt_def, h.size_toNat]
    exact hi
  have hentry : (l.head :: (xs ++ [l.tail]))[i.toNat + 1]? = some xs[i.toNat] := by
    rw [List.getElem?_cons_succ, List.getElem?_append_left hi, List.getElem?_eq_getElem hi]
  rw [LinkList.get, decide_eq_true hlt, assert_true, ok_bind]
  exact advance_eq h.linked.forward hentry

end Denotes

/-! ### Following the pointers -/

/-- The nodes that are visited from `head.next` on along `next`, until `tail` is found. -/
def forward (l : LinkList) (fuel : ℕ) : Res (List Addr) := do
  let first ← l.begin
  walk l.nodes.next .depth l.tail fuel first

/-- The nodes that are visited from `tail.prev` on along `prev`, until `head` is found. -/
def backward (l : LinkList) (fuel : ℕ) : Res (List Addr) := do
  let last ← l.nodes.prev l.tail
  walk l.nodes.prev .depth l.head fuel last

/-- **What a list shows** of itself: its nodes forwards and backwards, however many are asked for,
their number, each of them at its index, and after each that is removed the next one. -/
structure Shows (l : LinkList) (xs : List Addr) : Prop where
  forward : ∀ fuel, xs.length < fuel → l.forward fuel = .ok xs
  backward : ∀ fuel, xs.length < fuel → l.backward fuel = .ok xs.reverse
  totalSize : l.totalSize.toNat = xs.length
  get : ∀ (i : BitVec 64) (hi : i.toNat < xs.length), l.get i = .ok xs[i.toNat]
  remove : ∀ pre t post, xs = pre ++ t :: post →
    ∃ l', l.remove t = .ok (post.headD l.tail, l')

namespace Denotes

/-- The walk along `next`. -/
theorem forward (h : l.Denotes xs) {fuel : ℕ} (hfuel : xs.length < fuel) :
    l.forward fuel = .ok xs := by
  obtain ⟨v, q, hq, -⟩ := exists_right xs l.tail
  have hchain := h.linked.forward
  have hstop : l.tail ∉ xs := fun hmem => by
    have hnodup := h.linked.nodup
    rw [List.nodup_append_comm] at hnodup
    exact (List.nodup_cons.mp hnodup).1 (List.mem_cons_of_mem _ hmem)
  rw [List.cons_append, hq, List.isChain_cons_cons] at hchain
  rw [LinkList.forward, begin, hchain.1, ok_bind]
  exact walk_eq hq hchain.2 hstop hfuel

/-- The walk along `prev`. -/
theorem backward (h : l.Denotes xs) {fuel : ℕ} (hfuel : xs.length < fuel) :
    l.backward fuel = .ok xs.reverse := by
  obtain ⟨v, q, hq, -⟩ := exists_right xs.reverse l.head
  have hchain := h.linked.backward
  have hstop : l.head ∉ xs.reverse := fun hmem => by
    have hnodup := h.linked.nodup
    rw [List.cons_append] at hnodup
    exact (List.nodup_cons.mp hnodup).1 (List.mem_append_left _ (List.mem_reverse.mp hmem))
  have hreverse : (l.head :: xs ++ [l.tail]).reverse = l.tail :: (xs.reverse ++ [l.head]) := by simp
  rw [hreverse, hq, List.isChain_cons_cons] at hchain
  rw [LinkList.backward, hchain.1, ok_bind]
  refine walk_eq hq hchain.2 hstop ?_
  rw [List.length_reverse]
  exact hfuel

/-- What is denoted is shown. -/
theorem shows (h : l.Denotes xs) : l.Shows xs where
  forward _ hfuel := h.forward hfuel
  backward _ hfuel := h.backward hfuel
  totalSize := h.size_toNat
  get := h.get
  remove := fun pre t post heq => by
    subst heq
    obtain ⟨l', -, hl', -⟩ := h.remove
    exact ⟨l', hl'⟩

end Denotes

/-! ### Sequences of calls -/

end LinkList

/-- What is called. A function that makes a node has the address that `new` returns as an argument.
`newNode` is no function of the list: it is the `new` of a node that is inserted later. -/
inductive Call where
  | newNode (a : Addr) (node : ListNode)
  | insertAtBegin (data a : Addr)
  | insertAtTail (data a : Addr)
  | insertAfter (node inserted : Addr)
  | remove (t : Addr)

namespace Call

/-- The call. -/
def run (l : LinkList) : Call → Res LinkList
  | newNode a node => .ok { l with nodes := Function.update l.nodes a (some node) }
  | insertAtBegin data a => l.insertAtBegin data a
  | insertAtTail data a => l.insertAtTail data a
  | insertAfter node inserted => (·.2) <$> l.insertAfter node inserted
  | remove t => (·.2) <$> l.remove t

/-- What it does to the list of the nodes. -/
def spec (xs : List Addr) : Call → List Addr
  | newNode _ _ => xs
  | insertAtBegin _ a => a :: xs
  | insertAtTail _ a => xs ++ [a]
  | insertAfter node inserted => xs.insertIdx (xs.idxOf node + 1) inserted
  | remove t => xs.erase t

/-- When it may be made: `new` returns an address where nothing is, a node is inserted after a node
of the list and is not one of them itself, and a node of the list is removed. -/
def Legal (l : LinkList) (xs : List Addr) : Call → Prop
  | newNode a _ | insertAtBegin _ a | insertAtTail _ a => a ≠ 0 ∧ l.nodes a = none
  | insertAfter node inserted =>
    node ∈ xs ∧ inserted ∉ l.head :: xs ++ [l.tail] ∧ (l.nodes inserted).isSome = true
  | remove t => t ∈ xs

instance (l : LinkList) (xs : List Addr) : ∀ c : Call, Decidable (c.Legal l xs)
  | newNode a _ | insertAtBegin _ a | insertAtTail _ a =>
    inferInstanceAs (Decidable (a ≠ 0 ∧ l.nodes a = none))
  | insertAfter _ _ => inferInstanceAs (Decidable (_ ∧ _ ∧ _))
  | remove t => inferInstanceAs (Decidable (t ∈ xs))

end Call

/-- What holds of the list that a call returns. -/
def Afterwards (P : LinkList → Prop) : Res LinkList → Prop
  | .ok l => P l
  | .error _ => True

instance (P : LinkList → Prop) [DecidablePred P] : ∀ r, Decidable (Afterwards P r)
  | .ok l => inferInstanceAs (Decidable (P l))
  | .error _ => inferInstanceAs (Decidable True)

/-- Each call of the sequence may be made when it is its turn. -/
def LegalCalls (l : LinkList) (xs : List Addr) : List Call → Prop
  | [] => True
  | c :: cs => c.Legal l xs ∧ Afterwards (fun l' => LegalCalls l' (c.spec xs) cs) (c.run l)

instance decidableLegalCalls : ∀ (l : LinkList) (xs : List Addr) (calls : List Call),
    Decidable (LegalCalls l xs calls)
  | _, _, [] => inferInstanceAs (Decidable True)
  | l, xs, c :: cs =>
    have : DecidablePred fun l' => LegalCalls l' (c.spec xs) cs :=
      fun l' => decidableLegalCalls l' (c.spec xs) cs
    inferInstanceAs (Decidable (c.Legal l xs ∧ Afterwards _ (c.run l)))

namespace LinkList.Denotes

variable {l : LinkList} {xs : List Addr}

/-- A new node at the beginning. -/
theorem insertAtBegin (h : l.Denotes xs) (data : Addr) {a : Addr} (ha : l.nodes a = none) :
    ∃ l', l.insertAtBegin data a = .ok l' ∧
      (∀ c, l'.nodes.data c = (l.nodes.newNode a data).data c) ∧ l'.Denotes (a :: xs) := by
  have hnew : ({ l with nodes := l.nodes.newNode a data } : LinkList).Denotes ([] ++ xs) :=
    h.update ha ⟨0, 0, data⟩
  have hnode : (l.nodes.newNode a data a).isSome := by rw [Nodes.newNode, Function.update_self]; rfl
  have hleft : l.head :: [] = [] ++ [l.head] := rfl
  obtain ⟨m, hm, hdata, hdenotes⟩ := hnew.insertAtNext hleft (h.notMem_of_none ha) hnode
  refine ⟨_, ?_, hdata, hdenotes⟩
  rw [LinkList.insertAtBegin]
  exact congrArg (· >>= _) hm

/-- A new node at the end. -/
theorem insertAtTail (h : l.Denotes xs) (data : Addr) {a : Addr} (ha : l.nodes a = none) :
    ∃ l', l.insertAtTail data a = .ok l' ∧
      (∀ c, l'.nodes.data c = (l.nodes.newNode a data).data c) ∧ l'.Denotes (xs ++ [a]) := by
  have hold : l.Denotes (xs ++ []) := by rwa [List.append_nil]
  have hnew : ({ l with nodes := l.nodes.newNode a data } : LinkList).Denotes (xs ++ []) :=
    hold.update ha ⟨0, 0, data⟩
  have hnode : (l.nodes.newNode a data a).isSome := by rw [Nodes.newNode, Function.update_self]; rfl
  have hright : [] ++ [l.tail] = l.tail :: [] := rfl
  obtain ⟨m, hm, hdata, hdenotes⟩ := hnew.insertAtPrev hright (hold.notMem_of_none ha) hnode
  refine ⟨_, ?_, hdata, hdenotes⟩
  rw [LinkList.insertAtTail]
  exact congrArg (· >>= _) hm

/-- A node after another. -/
theorem insertAfter {pre post : List Addr} {node inserted : Addr}
    (h : l.Denotes (pre ++ node :: post))
    (hn : inserted ∉ l.head :: (pre ++ node :: post) ++ [l.tail])
    (hnode : (l.nodes inserted).isSome) :
    ∃ l', l.insertAfter node inserted = .ok (inserted, l') ∧
      (∀ c, l'.nodes.data c = l.nodes.data c) ∧ l'.Denotes (pre ++ node :: inserted :: post) := by
  have hleft : l.head :: (pre ++ [node]) = (l.head :: pre) ++ [node] := rfl
  rw [List.append_cons pre node post] at h hn
  obtain ⟨m, hm, hdata, hdenotes⟩ := h.insertAtNext hleft hn hnode
  rw [← List.append_cons] at hdenotes
  refine ⟨_, ?_, hdata, hdenotes⟩
  rw [LinkList.insertAfter]
  exact congrArg (· >>= _) hm

/-- No node is twice in the list. -/
theorem nodup (h : l.Denotes xs) : xs.Nodup := by
  have hnodup := h.linked.nodup
  rw [List.cons_append] at hnodup
  exact (List.nodup_append.mp (List.nodup_cons.mp hnodup).2).1

end LinkList.Denotes

/-- The position after the first such entry. -/
theorem insertIdx_idxOf {pre post : List Addr} {node : Addr} (h : node ∉ pre) (n : Addr) :
    (pre ++ node :: post).insertIdx ((pre ++ node :: post).idxOf node + 1) n =
      pre ++ node :: n :: post := by
  have hpos : (pre ++ node :: post).idxOf node = pre.length := by
    rw [List.idxOf_append_of_notMem h, List.idxOf_cons_self, Nat.add_zero]
  have hle : pre.length + 1 ≤ (pre ++ node :: post).length := by simp
  rw [hpos, insertIdx_eq_take_drop hle, List.take_length_add_append, List.drop_length_add_append]
  simp

namespace Call

variable {l : LinkList} {xs : List Addr}

/-- **One call** does to the list in memory what it should do to the list of its nodes. -/
theorem run_denotes (h : l.Denotes xs) {c : Call} (hc : c.Legal l xs) :
    ∃ l', c.run l = .ok l' ∧ l'.Denotes (c.spec xs) := by
  cases c with
  | newNode a node => exact ⟨_, rfl, h.update hc.2 node⟩
  | insertAtBegin data a =>
    obtain ⟨l', hl', -, hdenotes⟩ := h.insertAtBegin data hc.2
    exact ⟨l', hl', hdenotes⟩
  | insertAtTail data a =>
    obtain ⟨l', hl', -, hdenotes⟩ := h.insertAtTail data hc.2
    exact ⟨l', hl', hdenotes⟩
  | insertAfter node inserted =>
    obtain ⟨hnode, hn, hsome⟩ := hc
    obtain ⟨pre, post, rfl⟩ := List.append_of_mem hnode
    have hpre : node ∉ pre := by
      have hnodup := List.nodup_middle.mp h.nodup
      exact fun hmem => (List.nodup_cons.mp hnodup).1 (List.mem_append_left _ hmem)
    obtain ⟨l', hl', -, hdenotes⟩ := h.insertAfter hn hsome
    refine ⟨l', ?_, ?_⟩
    · rw [run, hl']
      rfl
    · rw [spec, insertIdx_idxOf hpre]
      exact hdenotes
  | remove t =>
    obtain ⟨pre, post, rfl⟩ := List.append_of_mem hc
    have hpre : t ∉ pre := by
      have hnodup := List.nodup_middle.mp h.nodup
      exact fun hmem => (List.nodup_cons.mp hnodup).1 (List.mem_append_left _ hmem)
    obtain ⟨l', data, hl', -, -, -, -, hdenotes⟩ := h.remove
    refine ⟨l', ?_, ?_⟩
    · rw [run, hl']
      rfl
    · rw [spec, List.erase_append_right _ hpre, List.erase_cons_head]
      exact hdenotes

/-- **A sequence of calls** does. -/
theorem runs_denote : ∀ {calls : List Call} {l : LinkList} {xs : List Addr}, l.Denotes xs →
    LegalCalls l xs calls →
      ∃ l', calls.foldlM run l = .ok l' ∧ l'.Denotes (calls.foldl spec xs)
  | [], l, xs, h, _ => ⟨l, rfl, h⟩
  | c :: calls, l, xs, h, hlegal => by
    obtain ⟨hc, hrest⟩ := hlegal
    obtain ⟨l₁, hrun, hdenotes⟩ := run_denotes h hc
    rw [hrun] at hrest
    obtain ⟨l', hl', hfinal⟩ := runs_denote hdenotes hrest
    refine ⟨l', ?_, hfinal⟩
    rw [List.foldlM_cons, hrun]
    exact hl'

end Call

/-- **`LinkList`**: after every sequence of calls, starting from a list that was just made, the
pointers and the counter show the list that the calls make of the empty one. -/
theorem linkList_runs (this : Addr) (m : Nodes) (calls : List Call)
    (hlegal : LegalCalls (.new this m) [] calls) :
    ∃ l', calls.foldlM Call.run (.new this m) = .ok l' ∧ l'.Shows (calls.foldl Call.spec []) := by
  obtain ⟨l', hl', hdenotes⟩ := Call.runs_denote (LinkList.denotes_new this m) hlegal
  exact ⟨l', hl', hdenotes.shows⟩

/-- A list of two nodes, between which a third is put; then the first one is removed. -/
def threeNodes : List Call :=
  [.insertAtTail 0x50 0x2000, .insertAtBegin 0x60 0x3000, .newNode 0x4000 ⟨0, 0, 0x70⟩,
    .insertAfter 0x3000 0x4000, .remove 0x3000]

theorem linkList_runs_threeNodes :
    ∃ l', threeNodes.foldlM Call.run (.new 0x1000 fun _ => none) = .ok l' ∧
      l'.Shows [0x4000, 0x2000] := by
  have hlegal : LegalCalls (.new 0x1000 fun _ => none) [] threeNodes := by decide
  exact linkList_runs 0x1000 (fun _ => none) threeNodes hlegal

end AotOpt.Heap
