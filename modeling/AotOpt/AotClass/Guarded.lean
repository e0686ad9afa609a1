import AotOpt.AotClass.BranchTables
import AotOpt.AotClass.JumpSlots

/-!
# The branches that the passes rely on

The passes over a single block look up the branch of a jump slot at `jmp_target_arg` and
the `bne` of a block with two slots, and assert that they find them. `Guarded` says that
they do. `Ordered` says in addition how these branches stand to each other, which the passes
need that delete in front of a branch or behind it.

* `guarded_startTB`, `ordered_startTB` — a block that `pipehole_opt_available` admits is
  guarded, and ordered if its `bne` stands in front of its `b`s.
* `Guarded.removed`, `Ordered.removed` — what a deletion keeps.
* `Guarded.assigned`, `Ordered.assigned` — what an assignment to instructions keeps.
-/

namespace AotOpt

open Lib

variable {ι : Type}

/-! ### Opcodes by position -/

/-- `OPC_B` or `OPC_BNE`. -/
def isBOrBne (opc : LoongArchOpc) : Bool := opc = .OPC_B || opc = .OPC_BNE

theorem ne_of_not_isBOrBne {opc : LoongArchOpc} (h : isBOrBne opc = false) :
    opc ≠ .OPC_B ∧ opc ≠ .OPC_BNE := by
  simpa [isBOrBne] using h

namespace TB

/-- The opcode at a position. -/
def opcAt (tb : TB ι) (k : ℕ) : Option LoongArchOpc := (tb.disInsns.nodes[k]?).map (·.data.opc)

variable {tb tb' : TB ι}

theorem opcAt_of_nodes {k : ℕ} {n : ListNode LoongArchInsInfo} (h : tb.disInsns.nodes[k]? = some n) :
    tb.opcAt k = some n.data.opc := by rw [opcAt, h]; rfl

theorem opcAt_eq_some {k : ℕ} {opc : LoongArchOpc} :
    tb.opcAt k = some opc ↔
      ∃ n : ListNode LoongArchInsInfo, tb.disInsns.nodes[k]? = some n ∧ n.data.opc = opc :=
  Option.map_eq_some_iff

theorem lt_of_opcAt {k : ℕ} {opc : LoongArchOpc} (h : tb.opcAt k = some opc) :
    k < tb.disInsns.nodes.length := by
  obtain ⟨n, hn, -⟩ := opcAt_eq_some.mp h
  exact (List.getElem?_eq_some_iff.mp hn).1

/-! ### The two invariants -/

/-- **The branches the passes look up are there**: the one of each valid slot, and a `bne` if
both slots are valid. -/
structure Guarded (tb : TB ι) : Prop where
  length_lt : tb.disInsns.nodes.length < 2 ^ 30
  slot : ∀ j, tb.originAotTb.slotValid j → tb.opcAt (tb.originAotTb.slotIndex j) = some .OPC_B
  bne : tb.originAotTb.slotValid 0 → tb.originAotTb.slotValid 1 → ∃ k, tb.opcAt k = some .OPC_BNE

/-- **And they are in order**: a `bne`, the branch of slot 0, the branch of slot 1. -/
structure Ordered (tb : TB ι) : Prop extends Guarded tb where
  slots_lt : tb.originAotTb.slotValid 0 → tb.originAotTb.slotValid 1 →
    tb.originAotTb.slotIndex 0 < tb.originAotTb.slotIndex 1
  bne_lt : tb.originAotTb.slotValid 0 → tb.originAotTb.slotValid 1 →
    ∃ k < tb.originAotTb.slotIndex 0, tb.opcAt k = some .OPC_BNE

/-- The passes find the instruction at a position. -/
theorem Guarded.get (h : tb.Guarded) {k : ℕ} {n : ListNode LoongArchInsInfo}
    (hn : tb.disInsns.nodes[k]? = some n) : tb.disInsns.get (BitVec.ofNat 64 k) = .ok n := by
  have hlen := h.length_lt
  have hk := (List.getElem?_eq_some_iff.mp hn).1
  refine get_of_nodes (by omega) ?_
  rw [BitVec.toNat_ofNat, Nat.mod_eq_of_lt (by omega), hn]

/-! ### Deleting an instruction -/

/-- The instruction at position `q`, which is no slot's branch, is deleted, and the slots move
as their branches do. -/
structure Removed (tb tb' : TB ι) (q : ℕ) : Prop where
  nodes : tb'.disInsns.nodes = tb.disInsns.nodes.eraseIdx q
  valid : ∀ j, tb'.originAotTb.slotValid j = tb.originAotTb.slotValid j
  ne : ∀ j, tb.originAotTb.slotValid j → tb.originAotTb.slotIndex j ≠ q
  index : ∀ j, tb.originAotTb.slotValid j →
    tb'.originAotTb.slotIndex j = shiftDel q (tb.originAotTb.slotIndex j)

theorem Removed.opcAt {q k : ℕ} (h : Removed tb tb' q) (hk : k ≠ q) :
    tb'.opcAt (shiftDel q k) = tb.opcAt k := by
  rw [TB.opcAt, h.nodes, getElem?_eraseIdx_shift _ hk, TB.opcAt]

theorem Removed.length_le {q : ℕ} (h : Removed tb tb' q) :
    tb'.disInsns.nodes.length ≤ tb.disInsns.nodes.length := by
  rw [h.nodes]
  exact (List.eraseIdx_sublist _ _).length_le

/-- **A deletion** of the instruction at `q` with an index `i` that lies on the same side of
every slot's branch as `q`. -/
theorem removed_deleteAt {q : ℕ} {n : ListNode LoongArchInsInfo} {i : BitVec 64}
    (hn : tb.disInsns.nodes[q]? = some n) (hi : i.toNat < 2 ^ 62)
    (hside : ∀ j, tb.originAotTb.slotValid j →
      (q < tb.originAotTb.slotIndex j ∧ i.toNat < tb.originAotTb.slotIndex j) ∨
        (tb.originAotTb.slotIndex j < q ∧ tb.originAotTb.slotIndex j < i.toNat)) :
    Removed tb (tb.deleteAt n i) q := by
  refine ⟨LinkList.nodes_remove (LinkList.addrs_of_nodes hn), fun _ => rfl, fun j hj => ?_,
    fun j hj => ?_⟩
  · rcases hside j hj with h | h <;> omega
  · have hoff : (i <<< 2).toNat = 4 * i.toNat := by
      rw [BitVec.toNat_shiftLeft, Nat.shiftLeft_eq, Nat.mod_eq_of_lt (by omega)]
      omega
    rw [originAotTb_deleteAt,
      slotIndex_shiftSlotsDelete hoff hj (by rcases hside j hj with h | h <;> omega)]
    rcases hside j hj with ⟨h1, h2⟩ | ⟨h1, h2⟩
    · rw [shiftDel_of_lt h1, shiftDel_of_lt h2]
    · rw [shiftDel_of_le h1.le, shiftDel_of_le h2.le]

/-- A deletion that leaves a `bne` keeps the branches. -/
theorem Guarded.removed (h : tb.Guarded) {q : ℕ} (hr : Removed tb tb' q)
    (hbne : tb.originAotTb.slotValid 0 → tb.originAotTb.slotValid 1 →
      ∃ k ≠ q, tb.opcAt k = some .OPC_BNE) : tb'.Guarded where
  length_lt := hr.length_le.trans_lt h.length_lt
  slot j hj := by
    rw [hr.valid] at hj
    rw [hr.index j hj, hr.opcAt (hr.ne j hj)]
    exact h.slot j hj
  bne h0 h1 := by
    rw [hr.valid] at h0 h1
    obtain ⟨k, hne, hk⟩ := hbne h0 h1
    exact ⟨shiftDel q k, (hr.opcAt hne).trans hk⟩

/-- A deletion of an instruction that is no `bne` or stands behind the branch of slot 0 keeps
their order. -/
theorem Ordered.removed (h : tb.Ordered) {q : ℕ} (hr : Removed tb tb' q)
    (hq : tb.originAotTb.slotValid 0 → tb.originAotTb.slotValid 1 →
      tb.opcAt q ≠ some .OPC_BNE ∨ tb.originAotTb.slotIndex 0 < q) : tb'.Ordered := by
  have hbne : tb.originAotTb.slotValid 0 → tb.originAotTb.slotValid 1 →
      ∃ k < tb.originAotTb.slotIndex 0, k ≠ q ∧ tb.opcAt k = some .OPC_BNE := by
    intro h0 h1
    obtain ⟨k, hk, hbne⟩ := h.bne_lt h0 h1
    refine ⟨k, hk, ?_, hbne⟩
    rintro rfl
    rcases hq h0 h1 with hq | hq
    · exact hq hbne
    · omega
  have hmono : ∀ k l : ℕ, k < l → k ≠ q → l ≠ q → shiftDel q k < shiftDel q l := by
    intro k l hkl hk hl
    rw [shiftDel, shiftDel]
    split_ifs <;> omega
  refine { toGuarded := ?_, slots_lt := fun h0 h1 => ?_, bne_lt := fun h0 h1 => ?_ }
  · refine h.toGuarded.removed hr fun h0 h1 => ?_
    obtain ⟨k, -, hne, hk⟩ := hbne h0 h1
    exact ⟨k, hne, hk⟩
  · rw [hr.valid] at h0 h1
    rw [hr.index 0 h0, hr.index 1 h1]
    exact hmono _ _ (h.slots_lt h0 h1) (hr.ne 0 h0) (hr.ne 1 h1)
  · rw [hr.valid] at h0 h1
    obtain ⟨k, hk, hne, hbne⟩ := hbne h0 h1
    refine ⟨shiftDel q k, ?_, (hr.opcAt hne).trans hbne⟩
    rw [hr.index 0 h0]
    exact hmono _ _ hk hne (hr.ne 0 h0)

/-- A deletion at its own index, of an instruction that is no `b`. -/
theorem Guarded.removed_exact (h : tb.Guarded) {q : ℕ} {n : ListNode LoongArchInsInfo}
    (hn : tb.disInsns.nodes[q]? = some n) (hb : n.data.opc ≠ .OPC_B) :
    Removed tb (tb.deleteAt n (BitVec.ofNat 64 q)) q := by
  have hq := (List.getElem?_eq_some_iff.mp hn).1
  have hlen := h.length_lt
  have hi : (BitVec.ofNat 64 q).toNat = q := by
    rw [BitVec.toNat_ofNat, Nat.mod_eq_of_lt (by omega)]
  refine removed_deleteAt hn (by omega) fun j hj => ?_
  have hne : tb.originAotTb.slotIndex j ≠ q := by
    intro e
    have := h.slot j hj
    rw [e, opcAt_of_nodes hn, Option.some.injEq] at this
    exact hb this
  rw [hi]
  omega

/-! ### Assigning to instructions -/

/-- Instructions other than `b` and `bne` may have been assigned to. -/
structure Assigned (tb tb' : TB ι) : Prop where
  length : tb'.disInsns.nodes.length = tb.disInsns.nodes.length
  origin : tb'.originAotTb = tb.originAotTb
  opcAt : ∀ (k : ℕ) (opc : LoongArchOpc), isBOrBne opc → tb.opcAt k = some opc →
    tb'.opcAt k = some opc

theorem Guarded.assigned (h : tb.Guarded) (ha : Assigned tb tb') : tb'.Guarded where
  length_lt := ha.length ▸ h.length_lt
  slot j hj := by
    rw [ha.origin] at hj ⊢
    exact ha.opcAt _ _ rfl (h.slot j hj)
  bne h0 h1 := by
    rw [ha.origin] at h0 h1
    obtain ⟨k, hk⟩ := h.bne h0 h1
    exact ⟨k, ha.opcAt _ _ rfl hk⟩

theorem Ordered.assigned (h : tb.Ordered) (ha : Assigned tb tb') : tb'.Ordered where
  toGuarded := h.toGuarded.assigned ha
  slots_lt h0 h1 := by
    rw [ha.origin] at h0 h1 ⊢
    exact h.slots_lt h0 h1
  bne_lt h0 h1 := by
    rw [ha.origin] at h0 h1 ⊢
    obtain ⟨k, hk, hbne⟩ := h.bne_lt h0 h1
    exact ⟨k, hk, ha.opcAt _ _ rfl hbne⟩

/-- An assignment to the instruction of a node that keeps its opcode, or that is no `b` or
`bne`. -/
theorem assigned_updateInsn (tb : TB ι) {a : ℕ} {f : LoongArchInsInfo → LoongArchInsInfo}
    (hf : ∀ n ∈ tb.disInsns.nodes, n.addr = a →
      (f n.data).opc = n.data.opc ∨ isBOrBne n.data.opc = false) :
    Assigned tb (tb.updateInsn a f) := by
  refine ⟨LinkList.length_update a f, rfl, fun k opc hopc hk => ?_⟩
  obtain ⟨n, hn, rfl⟩ := opcAt_eq_some.mp hk
  have hn' : (tb.updateInsn a f).disInsns.nodes[k]? =
      some (if n.addr = a then ⟨n.addr, f n.data⟩ else n) := by
    show (tb.disInsns.update a f).nodes[k]? = _
    rw [LinkList.nodes_update, List.getElem?_map, hn]
    rfl
  rw [opcAt_of_nodes hn']
  split_ifs with ha
  · rcases hf n (List.mem_of_getElem? hn) ha with h | h
    · rw [h]
    · rw [hopc] at h
      cases h
  · rfl

/-! ### Admission -/

/-- A block as it is before it is disassembled: no instruction, empty branch tables, and
anything in the other fields. -/
structure Blank (tb : TB ι) : Prop where
  disInsns : tb.disInsns = .empty
  table : ∀ κ, tb.table κ = []

theorem blank_new (aotTb : AOTTB) (code : Code) (x86Addr : BitVec 64) :
    (new aotTb code x86Addr : TB ι).Blank :=
  ⟨rfl, fun κ => by cases κ <;> rfl⟩

/-- What `pipehole_opt_available` asks of the branch of the slot that is valid. -/
theorem slot_of_pipeholeOptAvailableOne {j : Fin 2} (h : tb.pipeholeOptAvailableOne j = true) :
    ∃ b ∈ tb.bInsns, tb.isSlotBranch b j = true := by
  unfold pipeholeOptAvailableOne at h
  split at h
  · next b₀ hb =>
    simp only [Bool.and_eq_true] at h
    exact ⟨b₀, by simp [hb], h.2⟩
  · next b₀ b₁ hb =>
    simp only [Bool.and_eq_true] at h
    exact ⟨b₀, by simp [hb], h.2⟩
  · cases h

/-- What it asks of two valid slots. -/
theorem two_of_pipeholeOptAvailable (h : tb.pipeholeOptAvailable = true)
    (h0 : tb.originAotTb.slotValid 0 = true) (h1 : tb.originAotTb.slotValid 1 = true) :
    tb.bneInsns.length = 1 ∧ ∃ b b', [b, b'].Sublist tb.bInsns ∧ tb.isSlotBranch b 0 = true ∧
      tb.isSlotBranch b' 1 = true := by
  rw [pipeholeOptAvailable, h0, h1, Bool.and_self, if_pos rfl] at h
  split at h
  · next b₀ b₁ hb =>
    simp only [Bool.and_eq_true, decide_eq_true_eq] at h
    exact ⟨h.1.1.1, b₀, b₁, hb ▸ List.Sublist.refl _, h.1.2, h.2⟩
  · next b₀ b₁ b₂ b₃ hb =>
    simp only [Bool.and_eq_true, decide_eq_true_eq] at h
    refine ⟨h.1.1.1.2, b₀, b₂, ?_, h.1.2, h.2⟩
    rw [hb]
    exact .cons_cons _ (.cons _ (.cons_cons _ (List.nil_sublist _)))
  · cases h

/-- What it asks of every valid slot. -/
theorem slot_of_pipeholeOptAvailable (h : tb.pipeholeOptAvailable = true) : ∀ {j : Fin 2},
    tb.originAotTb.slotValid j = true → ∃ b ∈ tb.bInsns, tb.isSlotBranch b j = true
  | 0, h0 => by
    by_cases h1 : tb.originAotTb.slotValid 1 = true
    · obtain ⟨-, b, b', hsub, hb, -⟩ := two_of_pipeholeOptAvailable h h0 h1
      exact ⟨b, hsub.subset (by simp), hb⟩
    · rw [pipeholeOptAvailable, h0, if_neg (by simpa using h1), if_pos rfl] at h
      exact slot_of_pipeholeOptAvailableOne h
  | 1, h1 => by
    by_cases h0 : tb.originAotTb.slotValid 0 = true
    · obtain ⟨-, b, b', hsub, -, hb'⟩ := two_of_pipeholeOptAvailable h h0 h1
      exact ⟨b', hsub.subset (by simp), hb'⟩
    · rw [pipeholeOptAvailable, h1, if_neg (by simpa using h0), if_neg h0, if_pos rfl] at h
      exact slot_of_pipeholeOptAvailableOne h

/-- The branch of a slot, as an entry of tables that are in order. -/
theorem slotIndex_of_isSlotBranch (h : tb.InOrder) (hlen : tb.disInsns.nodes.length < 2 ^ 32)
    {b : BranchInsnAndOffset} (hb : b ∈ tb.bInsns) {j : Fin 2} (hj : tb.isSlotBranch b j = true) :
    tb.originAotTb.slotIndex j = b.offset.toNat ∧
      tb.opcAt (tb.originAotTb.slotIndex j) = some .OPC_B := by
  have hb' : b ∈ (BranchKind.b.positions tb.disInsns.nodes).map entry := h .b ▸ hb
  obtain ⟨⟨n, k⟩, hm, rfl⟩ := List.mem_map.mp hb'
  obtain ⟨hn, hopc⟩ := mem_positions.mp hm
  have hk := (List.getElem?_eq_some_iff.mp hn).1
  have hidx : (entry (n, k)).offset.toNat = k := Nat.mod_eq_of_lt (by omega)
  have hslot : tb.originAotTb.slotIndex j = k := by
    have hj := congrArg BitVec.toNat (of_decide_eq_true hj)
    rw [BitVec.toNat_setWidth_of_le (by decide), hidx, BitVec.toNat_udiv] at hj
    exact hj.symm
  rw [hidx, hslot, opcAt_of_nodes hn]
  exact ⟨rfl, congrArg some (of_decide_eq_true hopc)⟩

/-- The indices of tables that are in order grow. -/
theorem pairwise_offset (h : tb.InOrder) (hlen : tb.disInsns.nodes.length < 2 ^ 32) (κ : BranchKind) :
    (tb.table κ).Pairwise fun b b' => b.offset.toNat < b'.offset.toNat := by
  have hsnd := List.pairwise_map.mp
    (pairwise_snd_posTable (fun n : ListNode LoongArchInsInfo => κ.Has n.data.opc) tb.disInsns.nodes)
  rw [h κ, List.pairwise_map]
  refine hsnd.imp_of_mem fun {e e'} he he' hlt => ?_
  have h1 := snd_lt_of_mem_posTable he
  have h2 := snd_lt_of_mem_posTable he'
  have hmod : ∀ e : ListNode LoongArchInsInfo × ℕ, e.2 < tb.disInsns.nodes.length →
      (entry e).offset.toNat = e.2 := fun e he => Nat.mod_eq_of_lt (by omega)
  rw [hmod e h1, hmod e' h2]
  exact hlt

end TB

namespace DisassmbleVistor

variable {tb : TB ι}

theorem inOrder_startTB (h : tb.Blank) : (startTB tb).InOrder := by
  have hblank : tb.InOrder := fun κ => by
    rw [h.table κ, h.disInsns]
    rfl
  have hvisit := inOrder_visitFrom tb.code.words hblank
  rw [h.disInsns] at hvisit
  intro κ
  refine Eq.trans ?_ (hvisit κ)
  cases κ <;> rfl

/-- A block has fewer instructions than `code_size` can count bytes for. -/
theorem length_startTB (h : tb.Blank) : (startTB tb).disInsns.nodes.length < 2 ^ 30 := by
  have hnodes : (startTB tb).disInsns.nodes.length = tb.code.words.length := by
    show (visit tb).disInsns.nodes.length = _
    rw [visit, disInsns_visitFrom, nodes_foldl_insertAtTail, h.disInsns]
    simp [LinkList.empty]
  rw [hnodes]
  exact tb.code.length_lt

/-- **An admitted block** has the branches that the passes look up. -/
theorem guarded_startTB (h : tb.Blank) (ha : (startTB tb).pipeholeAvailable = true) :
    (startTB tb).Guarded := by
  have horder := inOrder_startTB h
  have hlen := length_startTB h
  have ha : (startTB tb).pipeholeOptAvailable = true := ha
  refine ⟨hlen, fun j hj => ?_, fun h0 h1 => ?_⟩
  · obtain ⟨b, hb, hslot⟩ := TB.slot_of_pipeholeOptAvailable ha hj
    exact (TB.slotIndex_of_isSlotBranch horder (by omega) hb hslot).2
  · obtain ⟨hbne, -⟩ := TB.two_of_pipeholeOptAvailable ha h0 h1
    obtain ⟨b, hb⟩ := List.length_eq_one_iff.mp hbne
    have hmem : b ∈ (BranchKind.bne.positions (startTB tb).disInsns.nodes).map entry := by
      rw [← horder .bne]
      show b ∈ (startTB tb).bneInsns
      simp [hb]
    obtain ⟨⟨n, k⟩, hm, -⟩ := List.mem_map.mp hmem
    obtain ⟨hn, hopc⟩ := mem_positions.mp hm
    exact ⟨k, (TB.opcAt_of_nodes hn).trans (congrArg some (of_decide_eq_true hopc))⟩

/-- **An admitted block with its `bne` in front of its `b`s** has them in order. -/
theorem ordered_startTB (h : tb.Blank) (ha : (startTB tb).pipeholeAvailable = true)
    (hbefore : (startTB tb).originAotTb.slotValid 0 → (startTB tb).originAotTb.slotValid 1 →
      ∀ k l, (startTB tb).opcAt k = some .OPC_BNE → (startTB tb).opcAt l = some .OPC_B → k < l) :
    (startTB tb).Ordered := by
  have hguarded := guarded_startTB h ha
  have horder := inOrder_startTB h
  have hlen := length_startTB h
  have ha : (startTB tb).pipeholeOptAvailable = true := ha
  refine { toGuarded := hguarded, slots_lt := fun h0 h1 => ?_, bne_lt := fun h0 h1 => ?_ }
  · obtain ⟨-, b, b', hsub, hb, hb'⟩ := TB.two_of_pipeholeOptAvailable ha h0 h1
    rw [(TB.slotIndex_of_isSlotBranch horder (by omega) (hsub.subset (by simp)) hb).1,
      (TB.slotIndex_of_isSlotBranch horder (by omega) (hsub.subset (by simp)) hb').1]
    have hpair := (TB.pairwise_offset horder (by omega) .b).sublist hsub
    exact List.rel_of_pairwise_cons hpair (by simp)
  · obtain ⟨k, hk⟩ := hguarded.bne h0 h1
    exact ⟨k, hbefore h0 h1 _ _ hk (hguarded.slot 0 h0), hk⟩

end DisassmbleVistor

end AotOpt
