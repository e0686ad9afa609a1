import AotOpt.Disassembler.Encodable

/-!
# The words that are accepted

The decoder accepts the words that the encoder makes of instructions whose operands are in
range, and no others. A word that is accepted comes to a leaf of the decision tree. What is
extracted there is as long as the bits it is extracted from (`fieldFits_value`), and a word that
comes to `csrxchg` has failed the tests for its neighbours (`csrTests_failed`).

* `Encodable.decoded` — an instruction that can be encoded is read back.
* `decode_accepts` — the words that are accepted.
-/

namespace AotOpt

open Lib LoongArchInsInfo

/-! ### What is extracted is in range -/

namespace Operand

theorem source_pack (o : Operand) : o.pack.source = o.target := by
  cases o <;> rfl

/-- The value of an unsigned operand has no more bits than it is extracted from. -/
theorem toNat_extract32_lt (v : BitVec 32) (b : Bits) : (extract32 v b).toNat < 2 ^ b.length := by
  have hlow : (lowMask 32 b.length).toNat = 2 ^ b.length - 1 := by
    rw [lowMask, BitVec.toNat_ofNat]
    apply Nat.mod_eq_of_lt
    have := Nat.pow_le_pow_right (n := 2) (by decide) b.lt.le
    omega
  have hle : (extract32 v b).toNat ≤ 2 ^ b.length - 1 := by
    rw [extract32_eq, bits, BitVec.toNat_and, hlow]
    exact Nat.and_le_right
  have := Nat.two_pow_pos b.length
  omega

/-- **An operand that was extracted** fits in the bits it was extracted from. -/
theorem fieldFits_value {o : Operand} (ho : o.Fits) (hs : o.Readable) {info : LoongArchInsInfo}
    {insn : BitVec 32} (h : info.operand o.target = (o.value insn).setWidth o.target.width) :
    info.FieldFits o.pack.source o.pack.length := by
  rw [source_pack]
  cases o with
  | ext f b =>
    change info.operand f = (extract32 insn b).setWidth f.width at h
    change info.FieldFits f b.length
    rw [FieldFits, if_neg (by rw [hs]; decide), h, BitVec.toNat_setWidth]
    exact (Nat.mod_le _ _).trans_lt (toNat_extract32_lt insn b)
  | sext f b =>
    change info.operand f = (sextract32 insn b).setWidth f.width at h
    change info.FieldFits f b.length
    have hw := f.width_of_signed hs
    rw [FieldFits, if_pos (show f.signed = true from hs)]
    apply toInt_of_getLsbD b.pos ((hw ▸ b.lt).le)
    intro i hi hiw
    have hpos := b.pos
    have hlt := b.lt
    rw [h, BitVec.getLsbD_setWidth, BitVec.getLsbD_setWidth, sextract32_eq,
      getLsbD_sbits_of_le _ b.pos b.le hi (by omega), getLsbD_sbits _ b.le (by omega)]
    simp [hiw, show b.length - 1 < f.width by omega]
  | deposit f lo hi =>
    obtain ⟨hlo, hhi, hw⟩ := ho
    change info.operand f =
      (deposit32 (extract32 insn lo) (.of 16 16) (sextract32 insn hi)).setWidth f.width at h
    have hlen : (deposit f lo hi).pack.length = 16 + hi.length := by simp [pack, Pack.length, hlo]
    have hpos := hi.pos
    rw [hlen, target, FieldFits, if_pos hs.1]
    apply toInt_of_getLsbD (by omega) (by omega)
    intro i hi' hiw
    -- the bits from the sixteenth on are those of the second part
    obtain ⟨j, rfl⟩ : ∃ j, i = 16 + j := ⟨i - 16, by omega⟩
    rw [h, BitVec.getLsbD_setWidth, BitVec.getLsbD_setWidth,
      show 16 + hi.length - 1 = 16 + (hi.length - 1) by omega, getLsbD_deposit_high _ _ (by omega),
      getLsbD_deposit_high _ _ (by omega), sextract32_eq,
      getLsbD_sbits_of_le _ hi.pos hi.le (by omega) (by omega), getLsbD_sbits _ hi.le (by omega)]
    simp [hiw, show 16 + (hi.length - 1) < f.width by omega]

end Operand

/-! ### The leaves -/

/-- No leaf gives `OPC_INVALID`, and the leaves of `csrxchg` and `gcsrxchg` are behind the
tests for their neighbours. -/
theorem decodeLeaves_valid : decodeLeaves.all (fun leaf => decide (leaf.ret ≠ .OPC_INVALID) &&
    (csrTests leaf.ret).all fun c => decide (c ∈ leaf.failed)) = true := by
  decide +kernel

theorem ret_ne_invalid {leaf : Leaf 32 (List Operand) LoongArchOpc} (h : leaf ∈ decodeLeaves) :
    leaf.ret ≠ .OPC_INVALID := by
  have hleaf := List.all_eq_true.mp decodeLeaves_valid leaf h
  rw [Bool.and_eq_true] at hleaf
  exact of_decide_eq_true hleaf.1

/-- A word that comes to `csrxchg` or `gcsrxchg` has failed the tests for their neighbours. -/
theorem csrTests_failed {leaf : Leaf 32 (List Operand) LoongArchOpc} (h : leaf ∈ decodeLeaves)
    {c : FieldTest 32} (hc : c ∈ csrTests leaf.ret) : c ∈ leaf.failed := by
  have hleaf := List.all_eq_true.mp decodeLeaves_valid leaf h
  rw [Bool.and_eq_true] at hleaf
  exact of_decide_eq_true (List.all_eq_true.mp hleaf.2 c hc)

/-- The register of a word that failed these tests is not 0 or 1. -/
theorem srcsReg_ne_of_tests {insn : BitVec 32} (h20 : insn &&& 0x3e0 ≠ 0x20) (h0 : insn &&& 0x3e0 ≠ 0) :
    (extract32 insn (.of 5 5)).setWidth 8 ≠ 0 ∧ (extract32 insn (.of 5 5)).setWidth 8 ≠ 1 := by
  have hplace : insn &&& 0x3e0 = place (extract32 insn (.of 5 5)) 5 5 := by
    rw [extract32_eq]
    exact (place_bits insn 5 5).symm
  have hlt : (extract32 insn (.of 5 5)).toNat < 2 ^ 5 := Operand.toNat_extract32_lt insn (.of 5 5)
  generalize extract32 insn (.of 5 5) = v at hplace hlt
  rw [hplace] at h20 h0
  have hv : v = (v.setWidth 8).setWidth 32 := by
    apply BitVec.eq_of_toNat_eq
    rw [BitVec.toNat_setWidth, BitVec.toNat_setWidth, Nat.mod_eq_of_lt (by omega)]
    exact (Nat.mod_eq_of_lt (by omega)).symm
  rw [hv] at h20 h0
  constructor
  · intro h
    rw [h] at h0
    exact h0 (by decide)
  · intro h
    rw [h] at h20
    exact h20 (by decide)

/-! ### What is decoded -/

section

variable {info₀ info : LoongArchInsInfo} {insn : BitVec 32}

/-- The leaf a word comes to, with what is decoded there. -/
theorem exists_leaf_of_decode (h : (decode info₀ insn).1 = true) :
    ∃ leaf ∈ decodeLeaves, ∃ ops, OpcodeOk ops leaf ∧ (∀ c ∈ leaf.failed, ¬c.Holds insn) ∧
      (decode info₀ insn).2 = { decodeExtract ops info₀ insn with opc := leaf.ret } := by
  rcases hrun : decodeTree.run insn with ⟨extracts, result⟩
  cases result with
  | none =>
    rw [decode, hrun] at h
    cases h
  | some opc =>
    obtain ⟨leaf, hm, has, hret, -, hfailed⟩ := CaseTree.exists_leaf_of_run hrun
    have hok : OpcodeOk (leaf.acts.headD []) leaf :=
      of_decide_eq_true (List.all_eq_true.mp decodeLeaves_ok leaf hm)
    refine ⟨leaf, hm, _, hok, hfailed, ?_⟩
    rw [decode, hrun, hret, ← has, hok.acts]
    rfl

/-- The operands of the instruction's format, as they are extracted. -/
theorem operand_of_decode {leaf : Leaf 32 (List Operand) LoongArchOpc} {ops : List Operand}
    (hok : OpcodeOk ops leaf)
    (hdec : (decode info₀ insn).2 = { decodeExtract ops info₀ insn with opc := leaf.ret })
    {o : Operand} (ho : o ∈ ops) :
    (decode info₀ insn).2.operand o.target = (o.value insn).setWidth o.target.width := by
  rw [hdec]
  exact operand_decodeExtract info₀ hok.format.1 ho

/-- **What is decoded** can be encoded. -/
theorem encodable_decode (h : (decode info₀ insn).1 = true) : (decode info₀ insn).2.Encodable := by
  obtain ⟨leaf, hm, ops, hok, hfailed, hdec⟩ := exists_leaf_of_decode h
  have hopc : (decode info₀ insn).2.opc = leaf.ret := by rw [hdec]
  have hval : ∀ {o : Operand}, o ∈ ops →
      (decode info₀ insn).2.operand o.target = (o.value insn).setWidth o.target.width :=
    fun ho => operand_of_decode hok hdec ho
  refine ⟨hopc ▸ ret_ne_invalid hm, ?_, ?_⟩
  · intro p hp
    rw [packs, hopc, hok.packs] at hp
    obtain ⟨o, ho, rfl⟩ := List.mem_map.mp hp
    exact Operand.fieldFits_value (hok.format.2 o ho) (hok.readable o ho) (hval ho)
  · intro hcsr
    rw [hopc] at hcsr
    have htests : csrTests leaf.ret = [⟨0, 0x3e0, 0x20⟩, ⟨0, 0x3e0, 0⟩] := if_pos hcsr
    have ho : csrOperand ∈ ops := hok.csr (by simp [htests])
    have hfail : ∀ c ∈ csrTests leaf.ret, ¬c.Holds insn := fun c hc => hfailed c (csrTests_failed hm hc)
    rw [htests] at hfail
    have h20 := hfail ⟨0, 0x3e0, 0x20⟩ (by simp)
    have h0 := hfail ⟨0, 0x3e0, 0⟩ (by simp)
    have hsrc : (decode info₀ insn).2.srcsRegs 0 = (extract32 insn (.of 5 5)).setWidth 8 := hval ho
    rw [hsrc]
    exact srcsReg_ne_of_tests h20 h0

/-- What is encoded of an instruction does not depend on `origin_binary` if the opcode is
valid. -/
theorem encode_originBinary (h : info.opc ≠ .OPC_INVALID) (w : BitVec 32) :
    encode { info with originBinary := w } = encode info := by
  rw [encode, encode, if_neg h, if_neg (show ({ info with originBinary := w } : LoongArchInsInfo).opc ≠
    .OPC_INVALID from h)]
  rfl

/-- **What is decoded** is encoded as the word it was decoded from. -/
theorem encode_of_decode (h : (decode .zero insn).1 = true) :
    encode (decode .zero insn).2 = insn := by
  rw [← encode_originBinary (encodable_decode h).opc_valid insn]
  exact encode_decode insn

/-- The instruction has the opcode of the other and the operands of its format. -/
def LoongArchInsInfo.SameInsn (info info' : LoongArchInsInfo) : Prop :=
  info.opc = info'.opc ∧ ∀ p ∈ info'.packs, info.operand p.source = info'.operand p.source

/-- **An instruction that can be encoded** is read back from its word. -/
theorem LoongArchInsInfo.Encodable.decoded (h : info.Encodable) (info₀ : LoongArchInsInfo) :
    (decode info₀ (encode info)).1 = true ∧ (decode info₀ (encode info)).2.SameInsn info := by
  obtain ⟨leaf, hm, hret⟩ := exists_leaf h.opc_valid
  have hok : OpcodeOk (leaf.acts.headD []) leaf :=
    of_decide_eq_true (List.all_eq_true.mp decodeLeaves_ok leaf hm)
  have hrun := run_encode h hok hret hm
  rw [decode, hrun]
  refine ⟨rfl, rfl, fun p hp => ?_⟩
  have hp' := hp
  rw [packs, ← hret, hok.packs] at hp'
  obtain ⟨o, ho, rfl⟩ := List.mem_map.mp hp'
  have hfit := h.fits _ hp
  rw [Operand.source_pack] at hfit ⊢
  exact (operand_decodeExtract info₀ hok.format.1 ho).trans
    (Operand.value_eq (hok.format.2 o ho) (hok.readable o ho) hfit (encode_and_mask h hok hret ho))

end

/-- **The words that are accepted** are those of the instructions that can be encoded. What such
a word is decoded as can be encoded again, as this word. -/
theorem decode_accepts (insn : BitVec 32) :
    ((decode .zero insn).1 = true ↔ ∃ info : LoongArchInsInfo, info.Encodable ∧ encode info = insn) ∧
      ((decode .zero insn).1 = true → (decode .zero insn).2.Encodable ∧
        encode (decode .zero insn).2 = insn) := by
  refine ⟨⟨fun h => ⟨_, encodable_decode h, encode_of_decode h⟩, ?_⟩,
    fun h => ⟨encodable_decode h, encode_of_decode h⟩⟩
  rintro ⟨info, h, rfl⟩
  exact (h.decoded .zero).1

end AotOpt
