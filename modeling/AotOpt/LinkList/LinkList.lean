import AotOpt.Basic.Aot
import AotOpt.Lib.Position

/-!
# Linked lists

`LinkList` of `LinkList/linklist.hpp` as the list of its nodes. A node is its address
and its data; addresses do not repeat, and a new node takes an address that no node of
the list ever had, so that a node keeps its identity while the list is edited around it.
A pointer into the list is a node's address or one of the two sentinels.
-/

namespace AotOpt

open Lib

/-- A node: where it is, and what `data` points to. -/
structure ListNode (α : Type) where
  addr : ℕ
  data : α
  deriving DecidableEq

/-- A `ListNode*` of a list: the `head` or `tail` sentinel, or a node. -/
inductive Ptr where
  | head
  | node (a : ℕ)
  | tail
  deriving DecidableEq

/-- The nodes from `head.next` to `tail.prev`. -/
@[ext]
structure LinkList (α : Type) where
  nodes : List (ListNode α)
  /-- No node has had this address or a later one. -/
  fresh : ℕ
  nodup : (nodes.map (·.addr)).Nodup
  lt_fresh : ∀ n ∈ nodes, n.addr < fresh

/-- The pointer to the first of the nodes, the `tail` sentinel if there is none. -/
def Ptr.first {α : Type} : List (ListNode α) → Ptr
  | [] => .tail
  | n :: _ => .node n.addr

namespace LinkList

variable {α : Type} (l : LinkList α)

/-! ### The operations -/

/-- `LinkList()`. -/
def empty : LinkList α := ⟨[], 0, List.nodup_nil, by simp⟩

instance : Inhabited (LinkList α) := ⟨empty⟩

/-- The addresses of the nodes in order. -/
def addrs : List ℕ := l.nodes.map (·.addr)

/-- The position of a node. -/
def pos (a : ℕ) : ℕ := l.addrs.idxOf a

/-- `node->data`. -/
def data? (a : ℕ) : Option α := (l.nodes[l.pos a]?).map (·.data)

/-- `total_size`. -/
def totalSize : BitVec 64 := BitVec.ofNat 64 l.nodes.length

/-- `begin`. -/
def begin : Ptr := .first l.nodes

/-- `node->next`. -/
def next (a : ℕ) : Ptr := .first (l.nodes.drop (l.pos a + 1))

/-- `node->prev`. -/
def prev (a : ℕ) : Ptr :=
  if l.pos a = 0 then .head else
    match l.addrs[l.pos a - 1]? with
    | some b => .node b
    | none => .tail

/-- `end()->prev`. -/
def last : Ptr :=
  match l.addrs.getLast? with
  | some a => .node a
  | none => .head

/-- `get`. -/
def get (i : BitVec 64) : Res (ListNode α) := do
  assert (i < l.totalSize)
  match l.nodes[i.toNat]? with
  | some n => .ok n
  | none => .error .sentinel

/-- A new node at position `k`. -/
def insertAt (k : ℕ) (d : α) : LinkList α where
  nodes := l.nodes.insertIdx k ⟨l.fresh, d⟩
  fresh := l.fresh + 1
  nodup := by
    have h : l.fresh ∉ l.nodes.map (·.addr) := fun hm => by
      obtain ⟨n, hn, e⟩ := List.mem_map.mp hm
      exact absurd (l.lt_fresh n hn) (by omega)
    by_cases hk : k ≤ l.nodes.length
    · refine ((List.perm_insertIdx _ _ hk).map _).nodup_iff.mpr ?_
      exact List.nodup_cons.mpr ⟨h, l.nodup⟩
    · rw [List.insertIdx_of_length_lt (by omega)]
      exact l.nodup
  lt_fresh := fun n hn => by
    rcases List.eq_or_mem_of_mem_insertIdx hn with rfl | hn
    · exact Nat.lt_succ_self _
    · exact Nat.lt_succ_of_lt (l.lt_fresh n hn)

/-- `insert_at_tail`. -/
def insertAtTail (d : α) : LinkList α := l.insertAt l.nodes.length d

/-- `insert_after`, of a new node with the data. -/
def insertAfter (p : Ptr) (d : α) : Res (LinkList α) :=
  match p with
  | .head => .ok (l.insertAt 0 d)
  | .node a => if a ∈ l.addrs then .ok (l.insertAt (l.pos a + 1) d) else .error .sentinel
  | .tail => .error .sentinel

/-- `remove`, without its result, which is `next`. -/
def remove (a : ℕ) : LinkList α where
  nodes := l.nodes.eraseIdx (l.pos a)
  fresh := l.fresh
  nodup := ((List.eraseIdx_sublist _ _).map _).nodup l.nodup
  lt_fresh := fun n hn => l.lt_fresh n ((List.eraseIdx_sublist _ _).subset hn)

/-- An assignment to what `node->data` points to. -/
def update (a : ℕ) (f : α → α) : LinkList α where
  nodes := l.nodes.map fun n => if n.addr = a then ⟨n.addr, f n.data⟩ else n
  fresh := l.fresh
  nodup := by
    rw [List.map_map]
    convert l.nodup using 2
    funext n; simp only [Function.comp]; split <;> rfl
  lt_fresh := fun n hn => by
    obtain ⟨m, hm, rfl⟩ := List.mem_map.mp hn
    have := l.lt_fresh m hm
    split <;> exact this

/-! ### A node and its position -/

variable {l}

theorem length_addrs : l.addrs.length = l.nodes.length := by simp [addrs]

theorem getElem?_addrs (k : ℕ) : l.addrs[k]? = (l.nodes[k]?).map (·.addr) := by simp [addrs]

theorem addrs_of_nodes {k : ℕ} {n : ListNode α} (h : l.nodes[k]? = some n) :
    l.addrs[k]? = some n.addr := by rw [getElem?_addrs, h]; rfl

theorem nodup_addrs : l.addrs.Nodup := l.nodup

theorem pos_eq {k a : ℕ} (h : l.addrs[k]? = some a) : l.pos a = k := by
  obtain ⟨hk, rfl⟩ := List.getElem?_eq_some_iff.mp h
  exact nodup_addrs.idxOf_getElem k hk

theorem pos_of_nodes {k : ℕ} {n : ListNode α} (h : l.nodes[k]? = some n) : l.pos n.addr = k :=
  pos_eq (addrs_of_nodes h)

theorem data?_of_nodes {k : ℕ} {n : ListNode α} (h : l.nodes[k]? = some n) :
    l.data? n.addr = some n.data := by
  rw [data?, pos_of_nodes h, h]; rfl

theorem data?_eq_some {a : ℕ} {d : α} : l.data? a = some d ↔ ∃ k : ℕ, l.nodes[k]? = some ⟨a, d⟩ := by
  constructor
  · intro h
    obtain ⟨n, hn, rfl⟩ := Option.map_eq_some_iff.mp h
    have hlt : l.pos a < l.addrs.length := by
      rw [length_addrs]
      exact (List.getElem?_eq_some_iff.mp hn).1
    have ha : n.addr = a := by
      have h1 := addrs_of_nodes hn
      rw [List.getElem?_eq_getElem hlt] at h1
      exact (Option.some.inj h1).symm.trans (List.getElem_idxOf hlt)
    exact ⟨_, by rw [hn, ← ha]⟩
  · rintro ⟨k, hk⟩
    exact data?_of_nodes hk

theorem mem_addrs_iff {a : ℕ} : a ∈ l.addrs ↔ ∃ k : ℕ, l.addrs[k]? = some a :=
  List.mem_iff_getElem?

theorem next_of_nodes {k : ℕ} {n : ListNode α} (h : l.nodes[k]? = some n) :
    l.next n.addr = .first (l.nodes.drop (k + 1)) := by
  rw [next, pos_of_nodes h]

theorem nodes_remove {k a : ℕ} (h : l.addrs[k]? = some a) :
    (l.remove a).nodes = l.nodes.eraseIdx k := by
  show l.nodes.eraseIdx (l.pos a) = _
  rw [pos_eq h]

theorem addrs_remove {k a : ℕ} (h : l.addrs[k]? = some a) :
    (l.remove a).addrs = l.addrs.eraseIdx k := by
  rw [addrs, nodes_remove h, addrs, List.eraseIdx_map]

theorem nodes_update (a : ℕ) (f : α → α) :
    (l.update a f).nodes = l.nodes.map fun n => if n.addr = a then ⟨n.addr, f n.data⟩ else n := rfl

@[simp] theorem fresh_remove (a : ℕ) : (l.remove a).fresh = l.fresh := rfl

@[simp] theorem nodes_insertAt (k : ℕ) (d : α) :
    (l.insertAt k d).nodes = l.nodes.insertIdx k ⟨l.fresh, d⟩ := rfl

theorem addrs_insertAt (k : ℕ) (d : α) :
    (l.insertAt k d).addrs = l.addrs.insertIdx k l.fresh := by
  simp [addrs, List.map_insertIdx]

@[simp] theorem nodes_insertAtTail (d : α) :
    (l.insertAtTail d).nodes = l.nodes ++ [⟨l.fresh, d⟩] := by
  simp [insertAtTail, List.insertIdx_length_self]

@[simp] theorem addrs_update (a : ℕ) (f : α → α) : (l.update a f).addrs = l.addrs := by
  rw [addrs, nodes_update, List.map_map, addrs]
  refine List.map_congr_left fun n _ => ?_
  simp only [Function.comp]; split <;> rfl

@[simp] theorem length_update (a : ℕ) (f : α → α) :
    (l.update a f).nodes.length = l.nodes.length := by simp [nodes_update]

theorem nodes_update_of_ne {k a : ℕ} (f : α → α) (h : l.addrs[k]? ≠ some a) :
    (l.update a f).nodes[k]? = l.nodes[k]? := by
  rw [nodes_update, List.getElem?_map]
  cases hn : l.nodes[k]? with
  | none => rfl
  | some n =>
    rw [getElem?_addrs, hn] at h
    simp only [Option.map_some, Option.some.injEq]
    rw [if_neg (by simpa using h)]

theorem nodes_update_self {k : ℕ} {n : ListNode α} (f : α → α) (h : l.nodes[k]? = some n) :
    (l.update n.addr f).nodes[k]? = some ⟨n.addr, f n.data⟩ := by
  rw [nodes_update, List.getElem?_map, h]
  simp

/-- The position a node inserted after the pointer gets. -/
def posAfter (l : LinkList α) : Ptr → Option ℕ
  | .head => some 0
  | .node a => if a ∈ l.addrs then some (l.pos a + 1) else none
  | .tail => none

theorem insertAfter_eq_ok {p : Ptr} {d : α} {l' : LinkList α} :
    l.insertAfter p d = .ok l' ↔ ∃ k, l.posAfter p = some k ∧ l' = l.insertAt k d := by
  cases p with
  | head => simp [insertAfter, posAfter, eq_comm]
  | tail => simp [insertAfter, posAfter]
  | node a =>
    simp only [insertAfter, posAfter]
    split_ifs with h <;> simp [eq_comm]

theorem posAfter_node {k a : ℕ} (h : l.addrs[k]? = some a) :
    l.posAfter (.node a) = some (k + 1) := by
  rw [posAfter, if_pos (mem_addrs_iff.mpr ⟨k, h⟩), pos_eq h]

theorem posAfter_le {p : Ptr} {k : ℕ} (h : l.posAfter p = some k) : k ≤ l.nodes.length := by
  cases p with
  | head => simp only [posAfter, Option.some.injEq] at h; omega
  | tail => simp [posAfter] at h
  | node a =>
    simp only [posAfter] at h
    split_ifs at h with ha
    obtain ⟨j, hj⟩ := mem_addrs_iff.mp ha
    have := (List.getElem?_eq_some_iff.mp hj).1
    rw [pos_eq hj] at h
    rw [length_addrs] at this
    simp only [Option.some.injEq] at h
    omega

/-! ### A node in the middle -/

section Middle

variable {pre post : List (ListNode α)} {n : ListNode α}

theorem nodes_mid (h : l.nodes = pre ++ n :: post) : l.nodes[pre.length]? = some n := by simp [h]

theorem next_mid (h : l.nodes = pre ++ n :: post) : l.next n.addr = .first post := by
  rw [next_of_nodes (nodes_mid h), h, List.drop_length_add_append, List.drop_one, List.tail_cons]

theorem nodes_remove_mid (h : l.nodes = pre ++ n :: post) :
    (l.remove n.addr).nodes = pre ++ post := by
  rw [nodes_remove (addrs_of_nodes (nodes_mid h)), h, List.eraseIdx_append_of_length_le le_rfl]
  simp

theorem nodes_update_mid (f : α → α) (h : l.nodes = pre ++ n :: post) :
    (l.update n.addr f).nodes = pre ++ ⟨n.addr, f n.data⟩ :: post := by
  have hd := l.nodup
  rw [h, List.map_append, List.map_cons, List.nodup_middle, List.nodup_cons, List.mem_append,
    not_or] at hd
  have hne : ∀ xs : List (ListNode α), n.addr ∉ xs.map (·.addr) →
      (xs.map fun m => if m.addr = n.addr then ⟨m.addr, f m.data⟩ else m) = xs := by
    intro xs hx
    conv_rhs => rw [← List.map_id xs]
    refine List.map_congr_left fun m hm => ?_
    rw [if_neg, id]
    rintro e
    exact hx (List.mem_map.mpr ⟨m, hm, e⟩)
  rw [nodes_update, h, List.map_append, List.map_cons, if_pos rfl, hne pre hd.1.1, hne post hd.1.2]

end Middle

end LinkList

end AotOpt
