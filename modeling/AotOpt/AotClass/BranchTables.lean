import AotOpt.AotClass.Edit
import AotOpt.Lib.Run
import AotOpt.Vistor.DisThenAs

/-!
# The branch tables

A block keeps the indices of its branches in three tables. The tables are exact when they
hold every branch once, with its index, and nothing else. Disassembling a block makes
them exact, and deletions keep them so. An insertion moves the indices behind the inserted
one only: a branch that stood at the position of the insertion keeps its old index.

* `exact_visit` — exact after disassembling.
* `exact_deleteAt` — a deletion keeps the tables exact.
* `exact_insertInsn_iff` — an insertion keeps them exact if and only if no branch stands at
  its position.
* `tables_exact_along_edits` — the same for whole runs of edits.
-/

namespace AotOpt

open Lib

variable {ι : Type}

/-- The table entry of an instruction and its position. -/
def entry (e : ListNode LoongArchInsInfo × ℕ) : BranchInsnAndOffset :=
  ⟨e.1.addr, BitVec.ofNat 32 e.2⟩

/-- The instructions of the table, with their positions. -/
def BranchKind.positions (κ : BranchKind) (nodes : List (ListNode LoongArchInsInfo)) :
    List (ListNode LoongArchInsInfo × ℕ) :=
  posTable (fun n => κ.Has n.data.opc) nodes

/-- The table holds every instruction of its opcodes once, with its index, and nothing
else. -/
def TableExact (κ : BranchKind) (nodes : List (ListNode LoongArchInsInfo))
    (table : List BranchInsnAndOffset) : Prop :=
  table.Perm ((κ.positions nodes).map entry)

/-- All three tables are exact. -/
def TB.Exact (tb : TB ι) : Prop := ∀ κ, TableExact κ tb.disInsns.nodes (tb.table κ)

theorem mem_positions {κ : BranchKind} {nodes : List (ListNode LoongArchInsInfo)}
    {n : ListNode LoongArchInsInfo} {k : ℕ} :
    (n, k) ∈ κ.positions nodes ↔ nodes[k]? = some n ∧ κ.Has n.data.opc :=
  mem_posTable

/-- Two positions in reach of an index have different indices. -/
theorem ofNat32_inj {j k : ℕ} (hj : j < 2 ^ 32) (hk : k < 2 ^ 32) :
    BitVec.ofNat 32 j = BitVec.ofNat 32 k ↔ j = k := by
  rw [← BitVec.toNat_inj, BitVec.toNat_ofNat, BitVec.toNat_ofNat, Nat.mod_eq_of_lt hj,
    Nat.mod_eq_of_lt hk]

theorem ofNat32_lt {j k : ℕ} (hj : j < 2 ^ 32) (hk : k < 2 ^ 32) :
    BitVec.ofNat 32 j < BitVec.ofNat 32 k ↔ j < k := by
  rw [BitVec.lt_def, BitVec.toNat_ofNat, BitVec.toNat_ofNat, Nat.mod_eq_of_lt hj,
    Nat.mod_eq_of_lt hk]

/-! ### Disassembling -/

/-- The tables hold the branches in the order of their positions. -/
def TB.InOrder (tb : TB ι) : Prop := ∀ κ, tb.table κ = (κ.positions tb.disInsns.nodes).map entry

theorem TB.InOrder.exact {tb : TB ι} (h : tb.InOrder) : tb.Exact := fun κ => .of_eq (h κ)

/-- The entry of an instruction that is appended. -/
theorem entries_append (κ : BranchKind) (nodes : List (ListNode LoongArchInsInfo))
    (n : ListNode LoongArchInsInfo) : (κ.positions (nodes ++ [n])).map entry =
      (κ.positions nodes).map entry ++
        if κ.Has n.data.opc then [⟨n.addr, BitVec.ofNat 32 nodes.length⟩] else [] := by
  have hlast : κ.positions (nodes ++ [n]) =
      κ.positions nodes ++ if κ.Has n.data.opc then [(n, nodes.length)] else [] := by
    rw [BranchKind.positions, posTable_append]
    congr 1
    cases hκ : κ.Has n.data.opc <;> simp [posTable, hκ]
  rw [hlast, List.map_append]
  congr 1
  split <;> rfl

namespace DisassmbleVistor

theorem table_visitInsn (tb : TB ι) (insn i : BitVec 32) (κ : BranchKind) :
    (visitInsn tb insn i).table κ = tb.table κ ++
      if κ.Has (disassemble insn).opc then [⟨tb.disInsns.fresh, i⟩] else [] := by
  have h : ∀ tb₁ : TB ι, tb₁.table κ = tb.table κ → tb₁.disInsns = tb.disInsns →
      (tb₁.addBInsn (decode .zero insn).2.opc i).table κ = tb.table κ ++
        if κ.Has (disassemble insn).opc then [⟨tb.disInsns.fresh, i⟩] else [] := by
    intro tb₁ h1 h2
    rw [TB.table_addBInsn, h1, h2]
    rfl
  unfold visitInsn
  dsimp only
  by_cases hd : (decode .zero insn).1
  · rw [if_pos hd]
    refine Eq.trans ?_ (h tb rfl rfl)
    cases κ <;> rfl
  · rw [if_neg hd]
    refine Eq.trans ?_ (h { tb with hasInvalidInsn := true } ?_ rfl)
    · cases κ <;> rfl
    · cases κ <;> rfl

theorem inOrder_visitInsn {tb : TB ι} (h : tb.InOrder) (insn : BitVec 32) :
    (visitInsn tb insn (BitVec.ofNat 32 tb.disInsns.nodes.length)).InOrder := by
  intro κ
  rw [disInsns_visitInsn, LinkList.nodes_insertAtTail, table_visitInsn, h κ, entries_append]

theorem inOrder_visitFrom : ∀ (insns : List (BitVec 32)) {tb : TB ι}, tb.InOrder →
    (visitFrom tb (BitVec.ofNat 32 tb.disInsns.nodes.length) insns).InOrder
  | [], _, h => h
  | insn :: insns, tb, h => by
    have hlen : BitVec.ofNat 32 tb.disInsns.nodes.length + 1 = BitVec.ofNat 32
        (visitInsn tb insn (BitVec.ofNat 32 tb.disInsns.nodes.length)).disInsns.nodes.length := by
      rw [disInsns_visitInsn, LinkList.nodes_insertAtTail, List.length_append, BitVec.ofNat_add]
      rfl
    rw [visitFrom, hlen]
    exact inOrder_visitFrom insns (inOrder_visitInsn h insn)

/-- **The tables are exact after disassembling.** -/
theorem exact_visit (aotTb : AOTTB) (code : Code) (x86Addr : BitVec 64) :
    (visit (TB.new aotTb code x86Addr : TB ι)).Exact := by
  have h : (TB.new aotTb code x86Addr : TB ι).InOrder := fun κ => by cases κ <;> rfl
  exact (inOrder_visitFrom code.words h).exact

end DisassmbleVistor

/-! ### Deleting -/

section Delete

variable {κ : BranchKind} {nodes : List (ListNode LoongArchInsInfo)}
  {table : List BranchInsnAndOffset}

/-- No index is in an exact table twice. -/
theorem TableExact.nodup (h : TableExact κ nodes table) (hlen : nodes.length ≤ 2 ^ 32) :
    (table.map (·.offset)).Nodup := by
  rw [(h.map (·.offset)).nodup_iff, List.map_map]
  refine List.Nodup.map_on ?_ (nodup_snd_posTable _ nodes).of_map
  intro e he e' he' heq
  have hlt := snd_lt_of_mem_posTable he
  have hlt' := snd_lt_of_mem_posTable he'
  have hk : e.2 = e'.2 := (ofNat32_inj (by omega) (by omega)).mp heq
  have h1 := (mem_posTable.mp (show (e.1, e.2) ∈ posTable _ nodes from he)).1
  have h2 := (mem_posTable.mp (show (e'.1, e'.2) ∈ posTable _ nodes from he')).1
  exact Prod.ext (Option.some.inj (h1.symm.trans (hk ▸ h2))) hk

/-- Erasing the entry of the instruction at `q`, if it has one. -/
theorem TableExact.erase (h : TableExact κ nodes table) (hlen : nodes.length ≤ 2 ^ 32) {q : ℕ}
    {n : ListNode LoongArchInsInfo} (hn : nodes[q]? = some n) :
    (if κ.Has n.data.opc then eraseBAndIndex table (BitVec.ofNat 32 q) else table).Perm
      (((κ.positions nodes).filter fun e => e.2 ≠ q).map entry) := by
  have hq := (List.getElem?_eq_some_iff.mp hn).1
  by_cases hκ : κ.Has n.data.opc
  · rw [if_pos hκ, eraseBAndIndex, eraseP_eq_filter_of_nodup _ _ (h.nodup hlen)]
    refine (h.filter _).trans (List.Perm.of_eq ?_)
    rw [List.filter_map]
    congr 1
    refine List.filter_congr fun e he => ?_
    have := snd_lt_of_mem_posTable he
    have hq32 : q < 2 ^ 32 := by omega
    have he32 : e.2 < 2 ^ 32 := by omega
    simp only [Function.comp, entry, ne_eq, ofNat32_inj he32 hq32]
  · rw [if_neg hκ, List.filter_eq_self.mpr]
    · exact h
    · rintro ⟨m, k⟩ hm
      obtain ⟨hm, hhas⟩ := mem_positions.mp hm
      simp only [ne_eq, decide_eq_true_eq]
      rintro rfl
      rw [hn, Option.some.injEq] at hm
      exact hκ (hm ▸ hhas)

/-- The indices behind `q` move one back. -/
theorem adjustIndexOfBranchs_entry {L : List (ListNode LoongArchInsInfo × ℕ)} {q : ℕ}
    (hq : q < 2 ^ 32) (hL : ∀ e ∈ L, e.2 < 2 ^ 32) :
    adjustIndexOfBranchs (L.map entry) (BitVec.ofNat 32 q) =
      (L.map fun e => (e.1, shiftDel q e.2)).map entry := by
  rw [adjustIndexOfBranchs, List.map_map, List.map_map]
  refine List.map_congr_left fun e he => ?_
  simp only [Function.comp, entry, gt_iff_lt, ofNat32_lt hq (hL e he)]
  split_ifs with h
  · rw [shiftDel_of_lt h]
    congr 1
    have he1 : e.2 = e.2 - 1 + 1 := by omega
    rw [he1, BitVec.ofNat_add, Nat.add_sub_cancel]
    exact BitVec.add_sub_cancel _ _
  · rw [shiftDel_of_le (by omega)]

end Delete

/-- **A deletion keeps the tables exact.** -/
theorem TB.exact_deleteAt {tb : TB ι} (h : tb.Exact) (hlen : tb.disInsns.nodes.length ≤ 2 ^ 32)
    {k : ℕ} {n : ListNode LoongArchInsInfo} (hn : tb.disInsns.nodes[k]? = some n) :
    (tb.deleteAt n (BitVec.ofNat 64 k)).Exact := by
  intro κ
  have hk := (List.getElem?_eq_some_iff.mp hn).1
  have hi : (BitVec.ofNat 64 k).setWidth 32 = BitVec.ofNat 32 k :=
    BitVec.setWidth_ofNat_of_le (by decide) k
  rw [table_deleteAt, disInsns_deleteAt, LinkList.nodes_remove (LinkList.addrs_of_nodes hn), hi,
    TableExact, BranchKind.positions, posTable_eraseIdx,
    ← adjustIndexOfBranchs_entry (by omega)]
  · exact ((h κ).erase hlen hn).map _
  · intro e he
    have := snd_lt_of_mem_posTable (List.mem_of_mem_filter he)
    omega

/-! ### Inserting -/

/-- The indices behind `k` move one on: all that have to move when no entry is at `k`. -/
theorem adjustIndexOfBranchsAdd_entry {L : List (ListNode LoongArchInsInfo × ℕ)} {k : ℕ}
    (hk : k < 2 ^ 32) (hL : ∀ e ∈ L, e.2 < 2 ^ 32) (hne : ∀ e ∈ L, e.2 ≠ k) :
    adjustIndexOfBranchsAdd (L.map entry) (BitVec.ofNat 32 k) =
      (L.map fun e => (e.1, shiftIns k e.2)).map entry := by
  rw [adjustIndexOfBranchsAdd, List.map_map, List.map_map]
  refine List.map_congr_left fun e he => ?_
  have := hne e he
  simp only [Function.comp, entry, gt_iff_lt, ofNat32_lt hk (hL e he)]
  split_ifs with h
  · rw [shiftIns_of_le h.le, BitVec.ofNat_add]
    rfl
  · rw [shiftIns_of_lt (by omega)]

/-- An entry at `k` does not move. -/
theorem mem_adjustIndexOfBranchsAdd {table : List BranchInsnAndOffset} {a : ℕ} {i : BitVec 32}
    (h : ⟨a, i⟩ ∈ table) : ⟨a, i⟩ ∈ adjustIndexOfBranchsAdd table i := by
  refine List.mem_map.mpr ⟨_, h, ?_⟩
  rw [if_neg]
  exact BitVec.lt_irrefl i

/-- **An insertion keeps the tables exact** if and only if no branch stands at its
position. -/
theorem TB.exact_insertInsn_iff {tb : TB ι} (h : tb.Exact)
    (hlen : tb.disInsns.nodes.length < 2 ^ 32) {k : ℕ} (hk : k ≤ tb.disInsns.nodes.length)
    (insn : LoongArchInsInfo) :
    (tb.insertInsn k insn (BitVec.ofNat 32 k)).Exact ↔
      ∀ n : ListNode LoongArchInsInfo, tb.disInsns.nodes[k]? = some n →
        isBranch n.data.opc = false := by
  have hL : ∀ κ : BranchKind, ∀ e ∈ κ.positions tb.disInsns.nodes, e.2 < 2 ^ 32 := by
    intro κ e he
    exact (snd_lt_of_mem_posTable he).trans hlen
  constructor
  · intro h' n hn
    by_contra hb
    obtain ⟨κ, hκ⟩ := isBranch_iff.mp (by simpa using hb)
    -- the entry of `n` still says `k`, but `n` is at `k + 1` now
    have hold : (⟨n.addr, BitVec.ofNat 32 k⟩ : BranchInsnAndOffset) ∈ tb.table κ :=
      (h κ).mem_iff.mpr (List.mem_map.mpr ⟨(n, k), mem_positions.mpr ⟨hn, hκ⟩, rfl⟩)
    have hnew := (h' κ).mem_iff.mp <| by
      rw [table_insertInsn]
      exact List.mem_append_left _ (mem_adjustIndexOfBranchsAdd hold)
    obtain ⟨⟨m, j⟩, hm, hmj⟩ := List.mem_map.mp hnew
    obtain ⟨hm, -⟩ := mem_positions.mp hm
    simp only [entry, BranchInsnAndOffset.mk.injEq] at hmj
    have hj : j = k + 1 := by
      refine pos_unique (tb.insertInsn k insn (BitVec.ofNat 32 k)).disInsns.nodup_addrs
        (LinkList.addrs_of_nodes hm) ?_
      rw [hmj.1, disInsns_insertInsn, LinkList.addrs_insertAt, ← shiftIns_of_le (le_refl k),
        getElem?_insertIdx_shift]
      exact LinkList.addrs_of_nodes hn
    have hlt := (List.getElem?_eq_some_iff.mp hn).1
    have := (ofNat32_inj (by omega) (by omega)).mp hmj.2
    omega
  · intro hno κ
    have hne : ∀ e ∈ κ.positions tb.disInsns.nodes, e.2 ≠ k := by
      rintro ⟨n, j⟩ he rfl
      obtain ⟨hn, hκ⟩ := mem_positions.mp he
      have := isBranch_iff.mpr ⟨κ, hκ⟩
      rw [hno n hn] at this
      cases this
    rw [table_insertInsn, disInsns_insertInsn, LinkList.nodes_insertAt]
    refine List.Perm.trans ?_ ((posTable_insertIdx (fun n => κ.Has n.data.opc) tb.disInsns.nodes
      ⟨tb.disInsns.fresh, insn⟩ hk).map entry).symm
    have hmove := adjustIndexOfBranchsAdd_entry (by omega) (hL κ) hne
    rw [BranchKind.positions] at hmove
    rw [List.map_append, ← hmove]
    refine List.Perm.append ((h κ).map _) (List.Perm.of_eq ?_)
    split <;> rfl

/-! ### Runs of edits -/

theorem TB.exact_deleteSteps {tb tb' : TB ι} (hs : Relation.ReflTransGen TB.DeleteStep tb tb')
    (h : tb.Exact) (hlen : tb.disInsns.nodes.length ≤ 2 ^ 32) :
    tb'.Exact ∧ tb'.disInsns.nodes.length ≤ 2 ^ 32 := by
  induction hs with
  | refl => exact ⟨h, hlen⟩
  | tail _ hs ih =>
    have hlen' := hs.length_le.trans ih.2
    obtain ⟨k, n, hn, rfl⟩ := hs
    exact ⟨TB.exact_deleteAt ih.1 ih.2 hn, hlen'⟩

/-- The edit inserts no instruction at the position of a branch. -/
def Edit.NoBranchDisplaced (tb : TB ι) (e : Edit) : Prop :=
  ∀ k, e.insertPos tb = some k → ∀ n : ListNode LoongArchInsInfo,
    tb.disInsns.nodes[k]? = some n → isBranch n.data.opc = false

/-- The instructions can be counted in an index. -/
def Edit.IndexFits (tb : TB ι) (_ : Edit) : Prop := tb.disInsns.nodes.length < 2 ^ 32

theorem Edit.exact_iff {tb tb' : TB ι} {e : Edit} (hlen : Edit.IndexFits tb e) (h : tb.Exact)
    (hs : Edit.MatchedStep tb e tb') : tb'.Exact ↔ e.NoBranchDisplaced tb := by
  rcases hs.cases with ⟨k, insn, hpos, hk, -, rfl⟩ | ⟨hpos, hs⟩
  · rw [TB.exact_insertInsn_iff h hlen hk insn]
    constructor
    · intro hno k' hk'
      obtain rfl : k = k' := Option.some.inj (hpos.symm.trans hk')
      exact hno
    · exact fun hno => hno k hpos
  · refine ⟨fun _ k hk => ?_, fun _ => (TB.exact_deleteSteps hs h hlen.le).1⟩
    rw [hpos] at hk
    cases hk

/-- **The branch tables along edits.** They are exact after disassembling. From exact
tables on, they are exact after every step of a run of edits if and only if no step
inserts an instruction at the position of a branch. -/
theorem tables_exact_along_edits :
    (∀ (aotTb : AOTTB) (code : Code) (x86Addr : BitVec 64),
      (DisassmbleVistor.visit (TB.new aotTb code x86Addr : TB ι)).Exact) ∧
    ∀ (tb : TB ι) (es : List Edit), tb.Exact → AllSteps Edit.MatchedStep Edit.IndexFits tb es →
      (AllStates Edit.MatchedStep TB.Exact tb es ↔
        AllSteps Edit.MatchedStep Edit.NoBranchDisplaced tb es) :=
  ⟨DisassmbleVistor.exact_visit, fun _ _ h hlen =>
    allStates_iff_allSteps (fun _ _ _ hB hP hs => Edit.exact_iff hB hP hs) hlen h⟩

open DisassmbleVistor in
/-- A run that deletes the `nop` in front of the `b`. -/
theorem tables_exact_along_delete :
    AllStates Edit.MatchedStep TB.Exact (nopThenB default) [.deleteIthInsn (.node 0) 0] ↔
      AllSteps Edit.MatchedStep Edit.NoBranchDisplaced (nopThenB default)
        [.deleteIthInsn (.node 0) 0] := by
  refine (tables_exact_along_edits (ι := ℕ)).2 (nopThenB default) _ (exact_visit _ _ _) ?_
  intro tb' _
  refine ⟨?_, trivial⟩
  rw [Edit.IndexFits, nodes_nopThenB]
  decide

open DisassmbleVistor in
/-- An instruction inserted between the `nop` and the `b` leaves the `b` with index 1 in its
table, while it has index 2 in the list. -/
theorem tables_not_exact_after_add :
    (nopThenB default).Exact ∧
      ¬AllStates Edit.MatchedStep TB.Exact (nopThenB default) [.addInsn (.node 0) .zero 0] := by
  have hexact : (nopThenB default).Exact := exact_visit _ _ _
  refine ⟨hexact, fun h => ?_⟩
  have hnode : (nopThenB default).disInsns.nodes[1]? = some ⟨1, disassemble 0x50000000⟩ := by
    rw [nodes_nopThenB]; rfl
  have hpos : (nopThenB default).disInsns.posAfter (.node 0) = some 1 := by
    refine LinkList.posAfter_node (k := 0) ?_
    rw [LinkList.getElem?_addrs, nodes_nopThenB]; rfl
  have hrun : (nopThenB default).addInsn (.node 0) .zero 0 =
      .ok (.node (nopThenB default).disInsns.fresh, (nopThenB default).insertInsn 1 .zero 1) := by
    refine (TB.addInsn_eq_ok _).mpr ⟨?_, 1, hpos, rfl, rfl⟩
    rw [nopThenB, rels_visit]; rfl
  have hs : Edit.MatchedStep (nopThenB default) (.addInsn (.node 0) .zero 0)
      ((nopThenB default).insertInsn 1 .zero 1) :=
    ⟨⟨1, hpos, rfl⟩, map_eq_ok.mpr ⟨_, hrun, rfl⟩⟩
  have hlen : (nopThenB default).disInsns.nodes.length = 2 := by rw [nodes_nopThenB]; rfl
  have hno := (TB.exact_insertInsn_iff hexact (by omega) (k := 1) (by omega) .zero).mp (h.2 _ hs)
    _ hnode
  have hb : isBranch (disassemble 0x50000000).opc = true := by decide +kernel
  rw [hb] at hno
  cases hno

end AotOpt
