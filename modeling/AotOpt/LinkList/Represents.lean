import AotOpt.LinkList.Heap
import AotOpt.LinkList.LinkList

/-!
# The list of nodes and the list in memory

The passes work on `LinkList`, the list of the nodes, where a node has an address that no other
node ever had. A list in memory represents it when it denotes the nodes in their order, at
whatever addresses they were put, and `data` of each points to its data (`Represents`). The
operations then find the same nodes and make lists that represent each other.

* `Represents.insertAtTail`, `Represents.insertAfter`, `Represents.remove` — the operations.
* `Represents.get`, `Represents.next`, `Represents.prev` — what is found.
-/

namespace AotOpt.Heap

variable {α : Type}

/-- The nodes are at `place`, and `object` is what data pointers point to. -/
structure Represents (object : Addr → α) (place : ℕ → Addr) (h : LinkList)
    (l : AotOpt.LinkList α) : Prop where
  denotes : h.Denotes (l.addrs.map place)
  data : ∀ n ∈ l.nodes, ∃ d, h.nodes.data (place n.addr) = .ok d ∧ object d = n.data

/-- The address that a pointer of the list is. -/
def LinkList.address (h : LinkList) (place : ℕ → Addr) : Ptr → Addr
  | .head => h.head
  | .node a => place a
  | .tail => h.tail

namespace Represents

variable {object : Addr → α} {place : ℕ → Addr} {h : LinkList} {l : AotOpt.LinkList α}
  {pre post : List (AotOpt.ListNode α)} {n : AotOpt.ListNode α}

/-- A new list has no nodes. -/
theorem new (object : Addr → α) (place : ℕ → Addr) (this : Addr) (m : Nodes) :
    Represents object place (.new this m) .empty where
  denotes := LinkList.denotes_new this m
  data := fun _ hn => absurd hn List.not_mem_nil

/-! ### What is found -/

theorem totalSize (hr : Represents object place h l) : h.totalSize = l.totalSize := by
  rw [LinkList.totalSize, hr.denotes.size, List.length_map, AotOpt.LinkList.length_addrs]
  rfl

/-- The addresses of the nodes. -/
theorem map_place (nodes : List (AotOpt.ListNode α)) (place : ℕ → Addr) :
    (nodes.map (·.addr)).map place = nodes.map fun n => place n.addr := by
  rw [List.map_map]
  rfl

/-- They are split at one of them. -/
theorem denotes_mid (hr : Represents object place h l) (heq : l.nodes = pre ++ n :: post) :
    h.Denotes ((pre.map fun n => place n.addr) ++ place n.addr :: post.map fun n => place n.addr) := by
  have hdenotes := hr.denotes
  rw [AotOpt.LinkList.addrs, map_place, heq, List.map_append, List.map_cons] at hdenotes
  exact hdenotes

/-- The first of the nodes, or the sentinel. -/
theorem headD_map (nodes : List (AotOpt.ListNode α)) :
    (nodes.map fun n => place n.addr).headD h.tail = h.address place (.first nodes) := by
  cases nodes <;> rfl

theorem begin (hr : Represents object place h l) : h.begin = .ok (h.address place l.begin) := by
  obtain ⟨v, q, hq, hv⟩ := LinkList.exists_right (l.addrs.map place) h.tail
  have hleft : h.head :: [] = [] ++ [h.head] := rfl
  have hlinks := LinkList.Denotes.links hr.denotes hleft hq
  rw [LinkList.begin, hlinks.1, hv, AotOpt.LinkList.addrs, map_place, headD_map]
  rfl

theorem next (hr : Represents object place h l) (heq : l.nodes = pre ++ n :: post) :
    h.nodes.next (place n.addr) = .ok (h.address place (l.next n.addr)) := by
  obtain ⟨v, q, hq, hv⟩ := LinkList.exists_right (post.map fun n => place n.addr) h.tail
  have hdenotes := hr.denotes_mid heq
  rw [List.append_cons] at hdenotes
  have hleft : h.head :: ((pre.map fun n => place n.addr) ++ [place n.addr]) =
      (h.head :: pre.map fun n => place n.addr) ++ [place n.addr] := rfl
  have hlinks := hdenotes.links hleft hq
  rw [hlinks.1, hv, headD_map, AotOpt.LinkList.next_mid heq]

theorem prev (hr : Represents object place h l) (heq : l.nodes = pre ++ n :: post) :
    h.nodes.prev (place n.addr) = .ok (h.address place (l.prev n.addr)) := by
  have hpos : l.pos n.addr = pre.length :=
    AotOpt.LinkList.pos_of_nodes (AotOpt.LinkList.nodes_mid heq)
  have hdenotes := hr.denotes_mid heq
  rcases List.eq_nil_or_concat' pre with rfl | ⟨pre, b, rfl⟩
  · have hleft : h.head :: [] = [] ++ [h.head] := rfl
    have hlinks := hdenotes.links hleft rfl
    have hzero : l.pos n.addr = 0 := hpos
    rw [hlinks.2, AotOpt.LinkList.prev, if_pos hzero]
    rfl
  · have hb : l.addrs[pre.length]? = some b.addr := by
      rw [AotOpt.LinkList.getElem?_addrs, heq]
      simp
    have hne : l.pos n.addr ≠ 0 := by
      rw [hpos]
      simp
    have hleft : h.head :: ((pre ++ [b]).map fun n => place n.addr) =
        (h.head :: pre.map fun n => place n.addr) ++ [place b.addr] := by simp
    have hlinks := hdenotes.links hleft rfl
    rw [hlinks.2, AotOpt.LinkList.prev, if_neg hne, hpos, List.length_append, List.length_singleton,
      Nat.add_sub_cancel, hb]
    rfl

/-- `get` finds the same node, and fails together. -/
theorem get (hr : Represents object place h l) (i : BitVec 64) :
    h.get i = (l.get i).map fun n => place n.addr := by
  have hlength : (l.addrs.map place).length = l.nodes.length := by
    rw [List.length_map, AotOpt.LinkList.length_addrs]
  have hsize : l.totalSize.toNat = l.nodes.length := by
    rw [← hr.totalSize, LinkList.totalSize, hr.denotes.size_toNat, hlength]
  by_cases hi : i.toNat < l.nodes.length
  · have hlt : i < l.totalSize := by
      rw [BitVec.lt_def, hsize]
      exact hi
    have hi' : i.toNat < (l.addrs.map place).length := by rwa [hlength]
    rw [hr.denotes.get i hi', AotOpt.LinkList.get, decide_eq_true hlt, assert_true, ok_bind,
      List.getElem?_eq_getElem hi]
    simp [AotOpt.LinkList.addrs, Except.map]
  · have hge : ¬i < l.totalSize := by
      rw [BitVec.lt_def, hsize]
      exact hi
    have hge' : ¬i < h.size := by
      rw [← LinkList.totalSize, hr.totalSize]
      exact hge
    rw [LinkList.get, AotOpt.LinkList.get, decide_eq_false hge, decide_eq_false hge']
    rfl

/-! ### The operations -/

/-- A node is put in the list, at its own address. -/
theorem insertAt (hr : Represents object place h l) {h' : LinkList} {k : ℕ} {a d : Addr}
    (hdenotes : h'.Denotes ((l.addrs.map place).insertIdx k a)) (hd : h'.nodes.data a = .ok d)
    (hdata : ∀ n ∈ l.nodes, h'.nodes.data (place n.addr) = h.nodes.data (place n.addr)) :
    Represents object (Function.update place l.fresh a) h' (l.insertAt k (object d)) := by
  have hold : ∀ n ∈ l.nodes, Function.update place l.fresh a n.addr = place n.addr := by
    intro n hn
    exact Function.update_of_ne (Nat.ne_of_lt (l.lt_fresh n hn)) _ _
  have hmap : l.addrs.map (Function.update place l.fresh a) = l.addrs.map place := by
    rw [AotOpt.LinkList.addrs, map_place, map_place]
    exact List.map_congr_left hold
  refine ⟨?_, fun n hn => ?_⟩
  · rw [AotOpt.LinkList.addrs_insertAt, List.map_insertIdx, hmap, Function.update_self]
    exact hdenotes
  · rcases List.eq_or_mem_of_mem_insertIdx hn with rfl | hn
    · rw [Function.update_self]
      exact ⟨d, hd, rfl⟩
    · rw [hold n hn, hdata n hn]
      exact hr.data n hn

theorem length_map_addrs (l : AotOpt.LinkList α) (place : ℕ → Addr) :
    (l.addrs.map place).length = l.nodes.length := by
  rw [List.length_map, AotOpt.LinkList.length_addrs]

/-- `insert_at_tail`. -/
theorem insertAtTail (hr : Represents object place h l) (data : Addr) {a : Addr}
    (ha : h.nodes a = none) :
    ∃ h', h.insertAtTail data a = .ok h' ∧
      Represents object (Function.update place l.fresh a) h' (l.insertAtTail (object data)) := by
  obtain ⟨h', hok, hdata, hdenotes⟩ := LinkList.Denotes.insertAtTail hr.denotes data ha
  refine ⟨h', hok, hr.insertAt ?_ ?_ fun n hn => ?_⟩
  · rw [← length_map_addrs l place, List.insertIdx_length_self]
    exact hdenotes
  · rw [hdata]
    exact Nodes.data_eq (Function.update_self _ _ _)
  · have hne : place n.addr ≠ a := by
      rintro rfl
      obtain ⟨d, hd, -⟩ := hr.data n hn
      rw [Nodes.data, Nodes.deref, ha] at hd
      cases hd
    rw [hdata]
    exact Nodes.data_congr (Function.update_of_ne hne _ _)

/-- The node or sentinel after which a node is put is the last on the left. -/
theorem left_of_posAfter {p : Ptr} {k : ℕ} (hk : l.posAfter p = some k) :
    ∃ q, h.head :: (l.addrs.map place).take k = q ++ [h.address place p] := by
  cases p with
  | head =>
    obtain rfl : 0 = k := Option.some.inj hk
    exact ⟨[], rfl⟩
  | tail => cases hk
  | node a =>
    rw [AotOpt.LinkList.posAfter] at hk
    by_cases ha : a ∈ l.addrs
    · rw [if_pos ha] at hk
      obtain rfl := Option.some.inj hk
      obtain ⟨j, hj⟩ := AotOpt.LinkList.mem_addrs_iff.mp ha
      rw [AotOpt.LinkList.pos_eq hj, List.take_add_one, List.getElem?_map, hj]
      exact ⟨h.head :: (l.addrs.map place).take j, rfl⟩
    · rw [if_neg ha] at hk
      cases hk

/-- `insert_after`, of a node that is in memory and not in the list. -/
theorem insertAfter (hr : Represents object place h l) {p : Ptr} {k : ℕ}
    (hk : l.posAfter p = some k) {inserted d : Addr}
    (hn : inserted ∉ h.head :: l.addrs.map place ++ [h.tail])
    (hd : h.nodes.data inserted = .ok d) :
    ∃ h' l', h.insertAfter (h.address place p) inserted = .ok (inserted, h') ∧
      l.insertAfter p (object d) = .ok l' ∧
      Represents object (Function.update place l.fresh inserted) h' l' := by
  obtain ⟨q, hq⟩ := @left_of_posAfter _ place h _ _ _ hk
  have hle : k ≤ (l.addrs.map place).length := by
    rw [length_map_addrs]
    exact AotOpt.LinkList.posAfter_le hk
  have hsome : (h.nodes inserted).isSome := by
    rw [Nodes.data, Nodes.deref] at hd
    cases hnode : h.nodes inserted with
    | some c => rfl
    | none =>
      rw [hnode] at hd
      cases hd
  have hdenotes := hr.denotes
  rw [← List.take_append_drop k (l.addrs.map place)] at hdenotes hn
  obtain ⟨m, hm, hdata, hdenotes'⟩ := hdenotes.insertAtNext hq hn hsome
  refine ⟨{ h with size := h.size + 1, nodes := m }, _, ?_,
    AotOpt.LinkList.insertAfter_eq_ok.mpr ⟨k, hk, rfl⟩, hr.insertAt ?_ ?_ fun n _ => hdata _⟩
  · rw [LinkList.insertAfter, hm, ok_bind]
    rfl
  · rw [Lib.insertIdx_eq_take_drop hle]
    exact hdenotes'
  · exact (hdata inserted).trans hd

/-- `remove`: the node after the one that is removed is returned, and its data is deleted. -/
theorem remove (hr : Represents object place h l) (heq : l.nodes = pre ++ n :: post) :
    ∃ h' d, h.remove (place n.addr) = .ok (h.address place (l.next n.addr), h') ∧
      h'.deleted = h.deleted ++ [d] ∧ object d = n.data ∧
      Represents object place h' (l.remove n.addr) := by
  have hnodes := AotOpt.LinkList.nodes_remove_mid heq
  obtain ⟨h', d, hok, -, hd, hdeleted, hdata, hdenotes⟩ := (hr.denotes_mid heq).remove
  obtain ⟨d', hd', hobject⟩ := hr.data n (heq ▸ List.mem_append_right pre List.mem_cons_self)
  obtain rfl : d = d' := Except.ok.inj (hd.symm.trans hd')
  refine ⟨h', d, ?_, hdeleted, hobject, ?_, fun n' hn' => ?_⟩
  · rw [hok, headD_map, AotOpt.LinkList.next_mid heq]
  · rw [AotOpt.LinkList.addrs, map_place, hnodes, List.map_append]
    exact hdenotes
  · rw [hnodes] at hn'
    have hold : n' ∈ l.nodes := by
      rw [heq]
      exact List.mem_append.mpr ((List.mem_append.mp hn').imp_right (List.mem_cons_of_mem _))
    rw [hdata]
    exact hr.data n' hold

end Represents

end AotOpt.Heap
