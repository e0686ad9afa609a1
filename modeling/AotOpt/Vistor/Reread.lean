import AotOpt.Disassembler.Accepted
import AotOpt.Vistor.DisThenAs
import AotOpt.Vistor.Patches

/-!
# Optimised code is read back

What the passes leave of a block is written as words that are disassembled as the same
instructions. An instruction that was read can be encoded, or it is a word that is not decoded and
is kept as it is (`Kept`); a patch is only made to the former, and what it writes fits.

* `Kept.patch` — one patch.
* `reread_runPasses` — any sequence of passes, then the assembler, then the disassembler.
-/

namespace AotOpt

open Lib LoongArchInsInfo DisassmbleVistor

variable {ι : Type}

/-! ### Instructions that are read back -/

namespace LoongArchInsInfo

/-- The instruction is read back from its word. -/
def Rereads (info : LoongArchInsInfo) : Prop := (disassemble (encode info)).SameInsn info

/-- The instruction can be encoded, or it is a word that was not decoded. -/
def Kept (info : LoongArchInsInfo) : Prop :=
  info.Encodable ∨ info.opc = .OPC_INVALID ∧ info.Rereads

variable {info info' : LoongArchInsInfo}

theorem SameInsn.refl (info : LoongArchInsInfo) : info.SameInsn info := ⟨rfl, fun _ _ => rfl⟩

theorem Encodable.rereads (h : info.Encodable) : info.Rereads := (h.decoded .zero).2

theorem Kept.rereads (h : info.Kept) : info.Rereads := by
  rcases h with h | ⟨-, h⟩
  · exact h.rereads
  · exact h

/-- What was disassembled is kept. -/
theorem kept_disassemble (insn : BitVec 32) : (disassemble insn).Kept := by
  by_cases h : (decode .zero insn).1 = true
  · have hdec : (decode .zero insn).2.Encodable := encodable_decode h
    exact .inl ⟨hdec.opc_valid, hdec.fits, hdec.csrxchg⟩
  · right
    constructor
    · rcases hrun : decodeTree.run insn with ⟨extracts, result⟩
      cases result with
      | none =>
        rw [opc_disassemble, decode, hrun]
        exact opc_foldl_decodeExtract extracts .zero
      | some opc =>
        rw [decode, hrun] at h
        exact absurd rfl h
    · rw [Rereads, encode_disassemble]
      exact .refl _

/-- An instruction that is not `OPC_INVALID` can be encoded. -/
theorem Kept.encodable (h : info.Kept) (hopc : info.opc ≠ .OPC_INVALID) : info.Encodable :=
  h.resolve_right fun h => hopc h.1

/-! ### Patches -/

/-- A field of an instruction that can be encoded. -/
theorem Encodable.unsigned_fits (h : info.Encodable) {f : Field} {b : Bits} (hf : f.signed = false)
    (hp : Pack.field f b ∈ info.packs) : (info.operand f).toNat < 2 ^ b.length :=
  FieldFits.unsigned (h.fits _ hp) hf

/-- An assignment of a value that fits. -/
theorem Encodable.set (h : info.Encodable) {f : Field} {v : BitVec f.width}
    (hv : ∀ p ∈ info.packs, p.source = f → (info.set f v).FieldFits f p.length)
    (hcsr : f ≠ .srcsRegs 0) : (info.set f v).Encodable := by
  refine ⟨h.opc_valid, ?_, ?_⟩
  · intro p hp
    by_cases hf : p.source = f
    · rw [hf]
      exact hv p hp hf
    · have hfit := h.fits p hp
      rw [FieldFits] at hfit ⊢
      rw [info.operand_set_of_ne hf]
      exact hfit
  · intro hopc
    have hsrc : (info.set f v).srcsRegs 0 = info.srcsRegs 0 := info.operand_set_of_ne hcsr.symm v
    rw [hsrc]
    exact h.csrxchg hopc

/-- An assignment to a signed field that a format has once. -/
theorem Encodable.set_signed (h : info.Encodable) {f : Field} {v : BitVec f.width} {l : ℕ}
    (hf : f.signed = true) (hl : ∀ p ∈ info.packs, p.source = f → p.length = l)
    (hv : -(2 ^ (l - 1)) ≤ v.toInt ∧ v.toInt < 2 ^ (l - 1)) : (info.set f v).Encodable := by
  apply h.set
  · intro p hp hsource
    rw [FieldFits, if_pos hf, operand_set_self, hl p hp hsource]
    exact hv
  · rintro rfl
    cases hf

/-- The format of the immediates that the passes write has 12 bits. -/
theorem length_si (hopc : info.opc = .OPC_ST_D ∨ info.opc = .OPC_LD_D ∨ info.opc = .OPC_ADDI_D) :
    ∀ p ∈ info.packs, p.source = .si → p.length = 12 := by
  unfold packs
  rcases hopc with hopc | hopc | hopc
  · rw [hopc]
    decide
  · rw [hopc]
    decide
  · rw [hopc]
    decide

theorem length_offs_b (hopc : info.opc = .OPC_B) : ∀ p ∈ info.packs, p.source = .offs → p.length = 26 := by
  unfold packs
  rw [hopc]
  decide

theorem length_offs_bne (hopc : info.opc = .OPC_BNE) :
    ∀ p ∈ info.packs, p.source = .offs → p.length = 16 := by
  unfold packs
  rw [hopc]
  decide

/-- The `addi.d` that the passes make can be encoded. -/
theorem encodable_addiInsn {dst reg : BitVec 8} (hdst : dst.toNat < 32) (hreg : reg.toNat < 32)
    {imm : BitVec 32} (himm : -2048 ≤ imm.toInt ∧ imm.toInt < 2048) : (addiInsn dst reg imm).Encodable := by
  have hpacks : (addiInsn dst reg imm).packs =
      [.field .dstReg (.of 0 5), .field (.srcsRegs 0) (.of 5 5), .field .si (.of 10 12)] := rfl
  have hdst' : (addiInsn dst reg imm).operand .dstReg = dst := rfl
  have hreg' : (addiInsn dst reg imm).operand (.srcsRegs 0) = reg := rfl
  have himm' : (addiInsn dst reg imm).operand .si = imm := rfl
  refine ⟨by rintro ⟨⟩, ?_, ?_⟩
  · rw [hpacks]
    intro p hp
    simp only [List.mem_cons, List.not_mem_nil, or_false] at hp
    rcases hp with rfl | rfl | rfl
    · rw [FieldFits, Pack.source, hdst']
      exact hdst
    · rw [FieldFits, Pack.source, hreg']
      exact hreg
    · rw [FieldFits, Pack.source, himm']
      exact himm
  · rintro (h | h)
    · cases h
    · cases h

/-- **A patch** keeps the instruction one that is read back. -/
theorem Kept.patch (h : info.Kept) (hp : Patch info info') : info'.Kept := by
  left
  cases hp with
  | addi hopc hreg himm =>
    have hinfo : info.Encodable := h.encodable (by rw [hopc]; decide)
    have hpack : Pack.field .dstReg (.of 0 5) ∈ info.packs := by
      unfold packs
      rw [hopc]
      decide
    exact encodable_addiInsn (hinfo.unsigned_fits rfl hpack) hreg himm
  | si hopc hv =>
    have hinfo : info.Encodable := h.encodable (by rcases hopc with h | h | h <;> rw [h] <;> decide)
    exact hinfo.set_signed rfl (length_si hopc) hv
  | offsB hopc hv =>
    have hinfo : info.Encodable := h.encodable (by rw [hopc]; decide)
    exact hinfo.set_signed rfl (length_offs_b hopc) hv
  | offsBne hopc hv =>
    have hinfo : info.Encodable := h.encodable (by rw [hopc]; decide)
    exact hinfo.set_signed rfl (length_offs_bne hopc) hv

theorem Kept.patches (h : info.Kept) (hp : Relation.ReflTransGen Patch info info') : info'.Kept := by
  induction hp with
  | refl => exact h
  | tail _ hpatch ih => exact ih.patch hpatch

end LoongArchInsInfo

/-! ### A block -/

/-- The instructions of a block that was disassembled. -/
theorem nodes_of_blank {tb : TB ι} (hblank : tb.Blank) : (startTB tb).disInsns.nodes =
    (tb.code.words.zipIdx tb.disInsns.fresh).map fun e => ⟨e.2, disassemble e.1⟩ := by
  show (visit tb).disInsns.nodes = _
  rw [visit, disInsns_visitFrom, nodes_foldl_insertAtTail, hblank.disInsns]
  rfl

/-- They are kept. -/
theorem kept_startTB {tb : TB ι} (hblank : tb.Blank) :
    ∀ n ∈ (startTB tb).disInsns.nodes, n.data.Kept := by
  rw [nodes_of_blank hblank]
  intro n hn
  obtain ⟨e, -, rfl⟩ := List.mem_map.mp hn
  exact kept_disassemble e.1

/-- There are as many as there are words. -/
theorem length_of_blank {tb : TB ι} (hblank : tb.Blank) :
    (startTB tb).disInsns.nodes.length = tb.code.words.length := by
  rw [nodes_of_blank hblank, List.length_map, List.length_zipIdx]

/-- The words of a block are read as its instructions. -/
theorem sameInsn_code {tb : TB ι} (hblank : tb.Blank) :
    List.Forall₂ (fun word n => (disassemble word).SameInsn n.data) tb.code.words
      (startTB tb).disInsns.nodes := by
  have hwords : tb.code.words = (tb.code.words.zipIdx tb.disInsns.fresh).map Prod.fst :=
    (List.zipIdx_map_fst ..).symm
  rw [nodes_of_blank hblank]
  conv => arg 2; rw [hwords]
  rw [List.forall₂_map_left_iff, List.forall₂_map_right_iff, List.forall₂_same]
  exact fun _ _ => .refl _

/-- So are the words that are written of instructions that are kept. -/
theorem sameInsn_encode {nodes : List (ListNode LoongArchInsInfo)} (h : ∀ n ∈ nodes, n.data.Kept) :
    List.Forall₂ (fun word n => (disassemble word).SameInsn n.data) (nodes.map fun n => encode n.data)
      nodes := by
  rw [List.forall₂_map_left_iff, List.forall₂_same]
  exact fun n hn => (h n hn).rereads

/-- A block that was patched has its instructions kept. -/
theorem TB.Patched.kept {tb tb' : TB ι} (h : tb.Patched tb')
    (hk : ∀ n ∈ tb.disInsns.nodes, n.data.Kept) : ∀ n ∈ tb'.disInsns.nodes, n.data.Kept := by
  intro n' hn'
  obtain ⟨n, hn, hpatch⟩ := h.nodes.exists_of_mem hn'
  exact (hk n hn).patches hpatch.2

/-- **Any sequence of passes** on a block that was disassembled and admitted, with at most `2 ^ 15`
instructions and with relocations in the first `2 ^ 27` bytes: instructions are only taken away
and patched, and the words that are written of the others are disassembled as these. -/
theorem reread_runPasses (tb : TB ι) (hblank : tb.Blank) (ha : (startTB tb).pipeholeAvailable = true)
    (hbne : (startTB tb).BneFirst) (hlen : tb.code.words.length ≤ 2 ^ 15) (hlow : tb.RelsLow)
    (passes : List Pass) (insnPtr : ℕ) (targetTb : AOTTB) (w : Writer) :
    ∃ tb' words, runPasses (startTB tb) passes = .ok tb' ∧
      tb'.disInsns.addrs.Sublist (startTB tb).disInsns.addrs ∧
      (TBWriter.handleAssemble tb' insnPtr targetTb w).2.buf.code =
        w.buf.code ++ words.zipIdx.map (fun e => (insnPtr + 4 * e.2, e.1)) ∧
      List.Forall₂ (fun word n => (disassemble word).SameInsn n.data) words tb'.disInsns.nodes := by
  have hlength : (startTB tb).disInsns.nodes.length ≤ 2 ^ 15 := by
    rw [length_of_blank hblank]
    exact hlen
  have hrels : (startTB tb).RelsLow := by
    rw [TB.RelsLow, rels_startTB]
    exact hlow
  obtain ⟨tb', hok, hpatch⟩ :=
    patched_runPasses passes (ordered_startTB hblank ha hbne) hlength hrels
  refine ⟨tb', tb'.disInsns.nodes.map fun n => encode n.data, hok, hpatch.nodes.addrs_sublist, ?_, ?_⟩
  · rw [TBWriter.handleAssemble, TBWriter.emit_eq]
  · exact sameInsn_encode (hpatch.kept (kept_startTB hblank))

/-- Two passes over `lu12i.w`, `ori` and `b`. -/
theorem reread_runPasses_b :
    let tb : TB ℕ := .new { (default : AOTTB) with jmpResetOffsets := fun _ => TB_JMP_RESET_OFFSET_INVALID }
      ⟨12, [0x14000024, 0x03800484, 0x50000000], rfl⟩ 0
    ∃ tb' words, runPasses (startTB tb) [.lu12iOri, .removeNon] = .ok tb' ∧
      tb'.disInsns.addrs.Sublist (startTB tb).disInsns.addrs ∧
      (TBWriter.handleAssemble tb' 0 default ⟨.zero, 0⟩).2.buf.code =
        [] ++ words.zipIdx.map (fun e => (0 + 4 * e.2, e.1)) ∧
      List.Forall₂ (fun word n => (disassemble word).SameInsn n.data) words tb'.disInsns.nodes := by
  intro tb
  refine reread_runPasses tb (TB.blank_new _ _ _) (by decide) ?_ (by decide) ?_ _ 0 default _
  · intro h0
    cases h0
  · intro r hr
    cases hr

end AotOpt
