import AotOpt.Disassembler.Encode

/-!
# Decoding and encoding

A word that is decoded and encoded again is the same word. An operand that is read from
the word and written back gives the bits it was read from, whatever the width of the
field it went through (`Pack.run_pack`); a format does so for all its operands
(`foldl_pack`); and at every leaf of the decision tree the opcode's base word, the
bits tested on the way and the operands of its format make up the whole word
(`decodeTree_leafOk`).

* `encode_decode` — the word that was decoded is the word that is encoded.
-/

namespace AotOpt

open Lib

/-! ### One operand -/

theorem not_zero_ushiftRight {l : ℕ} (h : l ≤ 32) : ~~~0#32 >>> (32 - l) = lowMask 32 l := by
  apply BitVec.eq_of_getLsbD_eq
  intro i hi
  have hiff : 32 - l + i < 32 ↔ i < l := by omega
  simp only [getLsbD_lowMask, BitVec.getLsbD_ushiftRight, BitVec.getLsbD_not, BitVec.getLsbD_zero,
    hiff, hi]
  simp

theorem one_shiftLeft_sub_one {l : ℕ} (h : l < 32) : (1#32 <<< l) - 1 = lowMask 32 l := by
  apply BitVec.eq_of_toNat_eq
  have h1 : 2 ^ l < 2 ^ 32 := Nat.pow_lt_pow_right (by decide) h
  have h2 : 0 < 2 ^ l := Nat.two_pow_pos l
  have hs : (1#32 <<< l).toNat = 2 ^ l := by
    rw [BitVec.toNat_shiftLeft, BitVec.toNat_ofNat, Nat.shiftLeft_eq]
    omega
  have h1' : (1 : BitVec 32).toNat = 1 := rfl
  rw [lowMask, BitVec.toNat_sub, hs, BitVec.toNat_ofNat, h1']
  omega

theorem extract32_eq (v : BitVec 32) (b : Bits) : extract32 v b = bits v b.start b.length := by
  rw [extract32, not_zero_ushiftRight b.lt.le, bits]

theorem sextract32_eq (v : BitVec 32) (b : Bits) : sextract32 v b = sbits v b.start b.length := rfl

theorem encode32_eq (p v : BitVec 32) (b : Bits) :
    encode32 p v b = p ||| place v b.start b.length := by
  rw [encode32, one_shiftLeft_sub_one b.lt, place]

namespace Operand

/-- The call that writes the operand back. -/
def pack : Operand → Pack
  | .ext f b | .sext f b => .field f b
  | .deposit f lo hi => .multi f [lo, hi]

/-- The bits of the word that the operand is read from. -/
def mask : Operand → BitVec 32
  | .ext _ b | .sext _ b => fieldMask 32 b.start b.length
  | .deposit _ lo hi => fieldMask 32 lo.start lo.length ||| fieldMask 32 hi.start hi.length

/-- The operand is not longer than the field it is kept in. -/
def Fits : Operand → Prop
  | .ext f b | .sext f b => b.length ≤ f.width
  | .deposit f lo hi => lo.length = 16 ∧ hi.length < 16 ∧ f.width = 32

instance : DecidablePred Fits
  | .ext f b | .sext f b => inferInstanceAs (Decidable (b.length ≤ f.width))
  | .deposit f lo hi => inferInstanceAs (Decidable (lo.length = 16 ∧ hi.length < 16 ∧ f.width = 32))

end Operand

/-- Going through a field that is wide enough keeps the low bits. -/
theorem getLsbD_setWidth_setWidth (v : BitVec 32) {n i : ℕ} (hi : i < n) (h : i < 32) :
    ((v.setWidth n).setWidth 32).getLsbD i = v.getLsbD i := by
  simp [hi, h]

/-- The low 16 bits of a split operand are its first part. -/
theorem getLsbD_deposit_low (u v : BitVec 32) {i : ℕ} (hi : i < 16) :
    (deposit32 u (.of 16 16) v).getLsbD i = u.getLsbD i := by
  rw [deposit32, not_zero_ushiftRight (by decide)]
  simp only [Bits.of, BitVec.getLsbD_or, BitVec.getLsbD_and, BitVec.getLsbD_not,
    BitVec.getLsbD_shiftLeft, hi, show i < 32 by omega]
  simp

/-- The other bits are its second part. -/
theorem getLsbD_deposit_high (u v : BitVec 32) {i : ℕ} (hi : i < 16) :
    (deposit32 u (.of 16 16) v).getLsbD (16 + i) = v.getLsbD i := by
  have hm : (lowMask 32 16).getLsbD i = true := by simp [getLsbD_lowMask, hi, show i < 32 by omega]
  rw [deposit32, not_zero_ushiftRight (by decide)]
  simp only [Bits.of, BitVec.getLsbD_or, BitVec.getLsbD_and, BitVec.getLsbD_not,
    BitVec.getLsbD_shiftLeft, Nat.add_sub_cancel_left, hm]
  simp [show 16 + i < 32 by omega, show ¬16 + i < 16 by omega]

/-- The bits that are written of an operand. -/
def Operand.placed (info : LoongArchInsInfo) : Operand → BitVec 32
  | .ext f b | .sext f b => place (info.read f) b.start b.length
  | .deposit f lo hi =>
    place (info.read f) lo.start lo.length ||| place (info.read f >>> 16) hi.start hi.length

/-- **Writing an operand** adds its bits to the word. -/
theorem Pack.run_pack_eq {o : Operand} (ho : o.Fits) (info : LoongArchInsInfo) (p : BitVec 32) :
    o.pack.run info p = p ||| o.placed info := by
  cases o with
  | ext f b => exact encode32_eq _ _ _
  | sext f b => exact encode32_eq _ _ _
  | deposit f lo hi =>
    obtain ⟨hlo, hhi, -⟩ := ho
    have hsum : ([lo, hi].map (·.length)).sum = 16 + hi.length := by simp [hlo]
    rw [Operand.pack, Pack.run, encode32MutiField, hsum, encode32MutiFieldLoop,
      encode32MutiFieldLoop, encode32MutiFieldLoop, encode32_eq, encode32_eq, Operand.placed,
      BitVec.or_assoc, one_shiftLeft_sub_one (by omega), one_shiftLeft_sub_one lo.lt,
      one_shiftLeft_sub_one hi.lt]
    -- the masks cut off what `place` does not write
    congr 2
    · refine place_of_low_eq _ fun i hi' => ?_
      simp only [BitVec.getLsbD_and, getLsbD_lowMask]
      simp [hi', show i < 32 by omega, show i < 16 + hi.length by omega]
    · refine place_of_low_eq _ fun i hi' => ?_
      simp only [BitVec.getLsbD_and, BitVec.getLsbD_ushiftRight, getLsbD_lowMask, hlo]
      simp [hi', show i < 32 by omega, show 16 + i < 32 by omega]

/-- The bits that are written are the ones the operand was read from. -/
theorem Operand.placed_of_value {o : Operand} (ho : o.Fits) {info : LoongArchInsInfo}
    {insn : BitVec 32} (h : info.operand o.target = (o.value insn).setWidth o.target.width) :
    o.placed info = insn &&& o.mask := by
  cases o with
  | ext f b =>
    have hread : info.read f = ((extract32 insn b).setWidth f.width).setWidth 32 := by
      rw [LoongArchInsInfo.read]
      exact congrArg (BitVec.setWidth 32) h
    rw [placed, mask, ← place_bits, hread]
    refine place_of_low_eq _ fun i hi => ?_
    rw [getLsbD_setWidth_setWidth _ (hi.trans_le ho) (hi.trans b.lt), extract32_eq]
  | sext f b =>
    have hread : info.read f = ((sextract32 insn b).setWidth f.width).setWidth 32 := by
      rw [LoongArchInsInfo.read]
      exact congrArg (BitVec.setWidth 32) h
    rw [placed, mask, ← place_bits, hread]
    refine place_of_low_eq _ fun i hi => ?_
    rw [getLsbD_setWidth_setWidth _ (hi.trans_le ho) (hi.trans b.lt), sextract32_eq,
      getLsbD_sbits _ b.le hi, getLsbD_bits]
    simp [hi]
  | deposit f lo hi =>
    obtain ⟨hlo, hhi, hf⟩ := ho
    set v := deposit32 (extract32 insn lo) (.of 16 16) (sextract32 insn hi) with hv
    have hread : info.read f = (v.setWidth f.width).setWidth 32 := by
      rw [LoongArchInsInfo.read]
      exact congrArg (BitVec.setWidth 32) h
    rw [placed, mask, BitVec.and_or_distrib_left, ← place_bits, ← place_bits, hread]
    congr 1
    · refine place_of_low_eq _ fun i hi' => ?_
      rw [getLsbD_setWidth_setWidth _ (by omega) (by omega), hv,
        getLsbD_deposit_low _ _ (by omega), extract32_eq]
    · refine place_of_low_eq _ fun i hi' => ?_
      rw [BitVec.getLsbD_ushiftRight, getLsbD_setWidth_setWidth _ (by omega) (by omega), hv,
        getLsbD_deposit_high _ _ (by omega), sextract32_eq, getLsbD_sbits _ hi.le hi', getLsbD_bits]
      simp [hi']

/-- **An operand written back** gives the bits it was read from. -/
theorem Pack.run_pack {o : Operand} (ho : o.Fits) {info : LoongArchInsInfo} {insn : BitVec 32}
    (h : info.operand o.target = (o.value insn).setWidth o.target.width) (p : BitVec 32) :
    o.pack.run info p = p ||| (insn &&& o.mask) := by
  rw [run_pack_eq ho, Operand.placed_of_value ho h]

/-! ### A format -/

@[simp] theorem decodeExtract_cons (o : Operand) (ops : List Operand) (info : LoongArchInsInfo)
    (insn : BitVec 32) : decodeExtract (o :: ops) info insn =
      decodeExtract ops (info.set o.target ((o.value insn).setWidth o.target.width)) insn := rfl

@[simp] theorem opc_decodeExtract {insn : BitVec 32} :
    ∀ (ops : List Operand) (info : LoongArchInsInfo), (decodeExtract ops info insn).opc = info.opc
  | [], _ => rfl
  | _ :: ops, _ => by rw [decodeExtract_cons, opc_decodeExtract ops, LoongArchInsInfo.opc_set]

/-- Extracting operands does not find an opcode. -/
theorem opc_foldl_decodeExtract {insn : BitVec 32} :
    ∀ (extracts : List (List Operand)) (info : LoongArchInsInfo),
      (extracts.foldl (fun info ops => decodeExtract ops info insn) info).opc = info.opc
  | [], _ => rfl
  | ops :: extracts, info => by
    rw [List.foldl_cons, opc_foldl_decodeExtract extracts, opc_decodeExtract]

/-- A field no operand is kept in is not changed. -/
theorem operand_decodeExtract_of_notMem {f : Field} {insn : BitVec 32} :
    ∀ {ops : List Operand} (info : LoongArchInsInfo), f ∉ ops.map Operand.target →
      (decodeExtract ops info insn).operand f = info.operand f
  | [], _, _ => rfl
  | o :: ops, info, h => by
    rw [List.map_cons, List.mem_cons, not_or] at h
    rw [decodeExtract_cons, operand_decodeExtract_of_notMem _ h.2, info.operand_set_of_ne h.1]

/-- A field that one operand is kept in holds that operand. -/
theorem operand_decodeExtract {o : Operand} {insn : BitVec 32} {ops : List Operand}
    (info : LoongArchInsInfo) (h : (ops.map Operand.target).Nodup) (ho : o ∈ ops) :
    (decodeExtract ops info insn).operand o.target = (o.value insn).setWidth o.target.width := by
  induction ops generalizing info with
  | nil => cases ho
  | cons o' ops ih =>
    rw [List.map_cons, List.nodup_cons] at h
    rw [decodeExtract_cons]
    rcases List.mem_cons.mp ho with rfl | ho
    · rw [operand_decodeExtract_of_notMem _ h.1, info.operand_set_self]
    · exact ih _ h.2 ho

/-- The bits of the word that the operands are read from. -/
def formatMask : List Operand → BitVec 32
  | [] => 0
  | o :: ops => o.mask ||| formatMask ops

/-- Operands that are kept in fields of their own, which they fit in. -/
def FormatOk (ops : List Operand) : Prop :=
  (ops.map Operand.target).Nodup ∧ ∀ o ∈ ops, o.Fits

instance (ops : List Operand) : Decidable (FormatOk ops) := inferInstanceAs (Decidable (_ ∧ _))

/-- The operands of an instruction written back, one after another. -/
theorem foldl_pack {info : LoongArchInsInfo} {insn : BitVec 32} :
    ∀ {ops : List Operand} (base : BitVec 32), (∀ o ∈ ops, o.Fits) →
      (∀ o ∈ ops, info.operand o.target = (o.value insn).setWidth o.target.width) →
      (ops.map Operand.pack).foldl (Pack.run info) base = base ||| (insn &&& formatMask ops)
  | [], base, _, _ => by simp [formatMask]
  | o :: ops, base, hf, hv => by
    rw [List.map_cons, List.foldl_cons, Pack.run_pack (hf o (by simp)) (hv o (by simp)),
      foldl_pack _ (fun o h => hf o (by simp [h])) (fun o h => hv o (by simp [h])), formatMask,
      BitVec.and_or_distrib_left, BitVec.or_assoc]

/-- **A format read and written back**: the base word with the bits the format's operands
are read from. -/
theorem foldl_pack_decodeExtract {ops : List Operand} (h : FormatOk ops) (info : LoongArchInsInfo)
    (insn : BitVec 32) (hinfo : info.operand = (decodeExtract ops .zero insn).operand)
    (base : BitVec 32) :
    (ops.map Operand.pack).foldl (Pack.run info) base = base ||| (insn &&& formatMask ops) :=
  foldl_pack base h.2 fun o ho => by rw [hinfo, operand_decodeExtract _ h.1 ho]

/-! ### The tables -/

/-- What a leaf of the decision tree must meet: one format is extracted on the way, the
encoder has the same format for the opcode, the opcode's base word is what the tests on
the way say of the word, and the rest of the word is the format's operands. -/
def leafOk (extracts : List (List Operand)) (opc : LoongArchOpc) (k : Known 32) : Bool :=
  match extracts with
  | [ops] =>
    decide (FormatOk ops ∧ encodefuncs (insn2format opc) = ops.map Operand.pack ∧
      opc2bin opc = k.value ∧ k.mask ||| formatMask ops = BitVec.allOnes 32)
  | _ => false

theorem leafOk_iff {extracts : List (List Operand)} {opc : LoongArchOpc} {k : Known 32} :
    leafOk extracts opc k ↔ ∃ ops, extracts = [ops] ∧ FormatOk ops ∧
      encodefuncs (insn2format opc) = ops.map Operand.pack ∧
      opc2bin opc = k.value ∧ k.mask ||| formatMask ops = BitVec.allOnes 32 := by
  match extracts with
  | [] => simp [leafOk]
  | [ops] => simp [leafOk]
  | _ :: _ :: _ => simp [leafOk]

/-- Every leaf of the decoder agrees with the tables of the encoder. -/
theorem decodeTree_leafOk : decodeTree.all leafOk [] .none = true := by decide +kernel

/-- An instruction with the opcode and the operands found at a leaf is encoded as the
word that led there. -/
theorem encode_of_leafOk {ops : List Operand} {k : Known 32} {insn : BitVec 32}
    {info : LoongArchInsInfo} (hleaf : leafOk [ops] info.opc k) (hk : k.Holds insn)
    (hinv : info.opc ≠ .OPC_INVALID)
    (hinfo : info.operand = (decodeExtract ops .zero insn).operand) : encode info = insn := by
  obtain ⟨_, ⟨⟩, hok, henc, hbin, hmask⟩ := leafOk_iff.mp hleaf
  rw [encode, if_neg hinv, henc, foldl_pack_decodeExtract hok info insn hinfo, hbin, hk.or_eq hmask]

/-- **Decoding and encoding** gives the word back, whether or not it was decoded. -/
theorem encode_decode (insn : BitVec 32) :
    encode { (decode .zero insn).2 with originBinary := insn } = insn := by
  by_cases hinv : (decode .zero insn).2.opc = .OPC_INVALID
  · rw [encode, if_pos hinv]
  rcases hrun : decodeTree.run insn with ⟨extracts, result⟩
  cases result with
  | none =>
    rw [decode, hrun] at hinv
    exact absurd (opc_foldl_decodeExtract extracts .zero) hinv
  | some opc =>
    obtain ⟨k, hleaf, hk⟩ := CaseTree.of_all decodeTree_leafOk hrun
    obtain ⟨ops, rfl, -⟩ := leafOk_iff.mp hleaf
    have hopc : (decode .zero insn).2.opc = opc := by rw [decode, hrun]
    have hoperand : (decode .zero insn).2.operand = (decodeExtract ops .zero insn).operand := by
      rw [decode, hrun]; rfl
    rw [← hopc] at hleaf
    exact encode_of_leafOk hleaf hk hinv hoperand

end AotOpt
