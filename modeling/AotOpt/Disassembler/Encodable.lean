import AotOpt.Disassembler.RoundTrip

/-!
# Encoding and decoding

An instruction whose operands fit in the fields of its format is encoded as a word that is
decoded as this instruction. The operands are written to bits that the base word of the opcode
leaves free and that no other operand uses, so each of them is read back (`value_eq`). The
other bits are those of the base word, whatever the operands are, and along every word with these
bits the decision tree comes to the opcode (`opcodeOk_ofNat`). `csrxchg` and `gcsrxchg` are told
from their neighbours by an operand, which must not be 0 or 1.

* `decode_encode` — the instruction that was encoded is the instruction that is decoded.
-/

namespace AotOpt

open Lib

/-! ### Instructions that can be encoded -/

/-- The fields of type `int32_t`. -/
def Field.signed : Field → Bool
  | .si | .offs => true
  | _ => false

theorem Field.width_le (f : Field) : f.width ≤ 32 := by
  unfold Field.width
  split <;> decide

/-- A signed field has 32 bits. -/
theorem Field.width_of_signed (f : Field) (h : f.signed = true) : f.width = 32 := by
  cases f <;> first | rfl | cases h

namespace Pack

/-- The field that is written. -/
def source : Pack → Field
  | .field f _ | .multi f _ => f

/-- How many bits of it are written. -/
def length : Pack → ℕ
  | .field _ b => b.length
  | .multi _ bs => (bs.map (·.length)).sum

end Pack

namespace LoongArchInsInfo

variable (info : LoongArchInsInfo)

/-- The operand in the field has at most `l` bits: in two's complement if the field is
signed. -/
def FieldFits (f : Field) (l : ℕ) : Prop :=
  if f.signed then -(2 ^ (l - 1)) ≤ (info.operand f).toInt ∧ (info.operand f).toInt < 2 ^ (l - 1)
  else (info.operand f).toNat < 2 ^ l

instance (f : Field) (l : ℕ) : Decidable (info.FieldFits f l) := by
  unfold FieldFits
  infer_instance

variable {info} in
theorem FieldFits.unsigned {f : Field} {l : ℕ} (h : info.FieldFits f l) (hf : f.signed = false) :
    (info.operand f).toNat < 2 ^ l := by
  rwa [FieldFits, hf, if_neg Bool.false_ne_true] at h

variable {info} in
theorem FieldFits.signed {f : Field} {l : ℕ} (h : info.FieldFits f l) (hf : f.signed = true) :
    -(2 ^ (l - 1)) ≤ (info.operand f).toInt ∧ (info.operand f).toInt < 2 ^ (l - 1) := by
  rwa [FieldFits, hf, if_pos rfl] at h

/-- What the encoder writes of the instruction beside the base word. -/
def packs : List Pack := encodefuncs (insn2format info.opc)

/-- An instruction that can be encoded: its opcode is valid, its operands are in range, and
the source register of `csrxchg` and `gcsrxchg` is not 0 or 1. -/
structure Encodable : Prop where
  opc_valid : info.opc ≠ .OPC_INVALID
  fits : ∀ p ∈ info.packs, info.FieldFits p.source p.length
  csrxchg : info.opc = .OPC_CSRXCHG ∨ info.opc = .OPC_GCSRXCHG →
    info.srcsRegs 0 ≠ 0 ∧ info.srcsRegs 0 ≠ 1

end LoongArchInsInfo

/-! ### Reading operands back -/

namespace Operand

/-- The operand is signed as its field is, and its parts do not overlap. -/
def Readable : Operand → Prop
  | .ext f _ => f.signed = false
  | .sext f _ => f.signed = true
  | .deposit f lo hi =>
    f.signed = true ∧ fieldMask 32 lo.start lo.length &&& fieldMask 32 hi.start hi.length = 0

instance : DecidablePred Readable
  | .ext f _ => inferInstanceAs (Decidable (f.signed = false))
  | .sext f _ => inferInstanceAs (Decidable (f.signed = true))
  | .deposit _ _ _ => inferInstanceAs (Decidable (_ ∧ _))

variable {info : LoongArchInsInfo} {o : Operand} {x : BitVec 32}

/-- Nothing is written beside the operand's bits. -/
theorem placed_and_mask (o : Operand) : o.placed info &&& o.mask = o.placed info := by
  cases o with
  | ext f b => exact place_and_fieldMask _ _ _
  | sext f b => exact place_and_fieldMask _ _ _
  | deposit f lo hi =>
    exact or_and_or (place_and_fieldMask _ _ _) (place_and_fieldMask _ _ _)

/-- **Reading an operand** from a word it was written to. -/
theorem value_eq (ho : o.Fits) (hs : o.Readable) (hfit : info.FieldFits o.target o.pack.length)
    (hx : x &&& o.mask = o.placed info) :
    (o.value x).setWidth o.target.width = info.operand o.target := by
  have hread : ∀ (f : Field) (i : ℕ), i < f.width →
      (info.read f).getLsbD i = (info.operand f).getLsbD i := by
    intro f i hi
    rw [LoongArchInsInfo.read, BitVec.getLsbD_setWidth,
      decide_eq_true (hi.trans_le f.width_le), Bool.true_and]
  apply BitVec.eq_of_getLsbD_eq
  intro i hi
  have hi32 := hi.trans_le (Field.width_le _)
  rw [BitVec.getLsbD_setWidth, decide_eq_true hi, Bool.true_and]
  cases o with
  | ext f b =>
    change i < f.width at hi
    change _ = (info.operand f).getLsbD i
    have hfit : (info.operand f).toNat < 2 ^ b.length := hfit.unsigned hs
    rw [value, extract32_eq, getLsbD_bits]
    by_cases hib : i < b.length
    · rw [getLsbD_of_field hx b.le hib, hread _ _ hi, decide_eq_true hib, Bool.true_and]
    · rw [decide_eq_false hib, Bool.false_and]
      exact (getLsbD_of_toNat_lt hfit (not_lt.mp hib)).symm
  | sext f b =>
    change i < f.width at hi
    change _ = (info.operand f).getLsbD i
    obtain ⟨hlo, hhi⟩ : -(2 ^ (b.length - 1)) ≤ (info.operand f).toInt ∧
      (info.operand f).toInt < 2 ^ (b.length - 1) := hfit.signed hs
    have hw : f.width = 32 := f.width_of_signed hs
    have hpos := b.pos
    have hlt := b.lt
    rw [value, sextract32_eq]
    by_cases hib : i < b.length
    · rw [getLsbD_sbits _ b.le hib, getLsbD_of_field hx b.le hib, hread _ _ hi]
    · rw [getLsbD_sbits_of_le _ b.pos b.le (not_lt.mp hib) hi32, getLsbD_of_field hx b.le (by omega),
        hread _ _ (by omega)]
      exact (getLsbD_of_toInt hlo hhi (by omega) hi).symm
  | deposit f lo up =>
    obtain ⟨hlo16, hup16, hw⟩ := ho
    have hlen : (deposit f lo up).pack.length = 16 + up.length := by simp [pack, Pack.length, hlo16]
    rw [hlen] at hfit
    change i < f.width at hi
    change _ = (info.operand f).getLsbD i
    obtain ⟨hlo, hhi⟩ := hfit.signed hs.1
    have hpos := up.pos
    -- each part is read from its own bits
    have hxlo : x &&& fieldMask 32 lo.start lo.length = place (info.read f) lo.start lo.length :=
      and_eq_of_or hx (place_and_fieldMask _ _ _)
        (and_eq_zero_of_and_eq (place_and_fieldMask _ _ _) (BitVec.and_comm _ _ ▸ hs.2))
    have hxup : x &&& fieldMask 32 up.start up.length =
        place (info.read f >>> 16) up.start up.length := by
      rw [placed, mask, BitVec.or_comm, BitVec.or_comm (place _ _ _)] at hx
      exact and_eq_of_or hx (place_and_fieldMask _ _ _)
        (and_eq_zero_of_and_eq (place_and_fieldMask _ _ _) hs.2)
    rw [value]
    by_cases hi16 : i < 16
    · rw [getLsbD_deposit_low _ _ hi16, extract32_eq, getLsbD_bits, decide_eq_true (by omega),
        Bool.true_and, getLsbD_of_field hxlo lo.le (by omega), hread _ _ hi]
    · obtain ⟨j, rfl⟩ : ∃ j, i = 16 + j := ⟨i - 16, by omega⟩
      rw [getLsbD_deposit_high _ _ (by omega), sextract32_eq]
      by_cases hj : j < up.length
      · rw [getLsbD_sbits _ up.le hj, getLsbD_of_field hxup up.le hj, BitVec.getLsbD_ushiftRight,
          hread _ _ hi]
      · rw [getLsbD_sbits_of_le _ up.pos up.le (by omega) (by omega),
          getLsbD_of_field hxup up.le (by omega), BitVec.getLsbD_ushiftRight, hread _ _ (by omega),
          ← Nat.add_sub_assoc hpos]
        exact (getLsbD_of_toInt hlo hhi (by omega) hi).symm

end Operand

/-! ### All operands of an instruction -/

/-- The bits that are written of all operands. -/
def placedAll (info : LoongArchInsInfo) (ops : List Operand) : BitVec 32 :=
  ops.foldr (fun o v => o.placed info ||| v) 0

section

variable {info : LoongArchInsInfo}

/-- Writing the operands one after another. -/
theorem foldl_pack_eq : ∀ {ops : List Operand} (base : BitVec 32), (∀ o ∈ ops, o.Fits) →
    (ops.map Operand.pack).foldl (Pack.run info) base = base ||| placedAll info ops
  | [], base, _ => by simp [placedAll]
  | o :: ops, base, hf => by
    rw [List.map_cons, List.foldl_cons, Pack.run_pack_eq (hf o (by simp)),
      foldl_pack_eq _ (fun o h => hf o (by simp [h])), BitVec.or_assoc]
    rfl

theorem placedAll_and_formatMask : ∀ ops : List Operand,
    placedAll info ops &&& formatMask ops = placedAll info ops
  | [] => by simp [placedAll]
  | o :: ops => or_and_or o.placed_and_mask (placedAll_and_formatMask ops)

theorem formatMask_and_eq_zero {m : BitVec 32} : ∀ {ops : List Operand},
    (∀ o ∈ ops, o.mask &&& m = 0) → formatMask ops &&& m = 0
  | [], _ => BitVec.zero_and
  | o :: ops, h => by
    rw [formatMask, BitVec.and_or_distrib_right, h o (by simp),
      formatMask_and_eq_zero fun o h' => h o (by simp [h'])]
    rfl

/-- What lies beside all operands lies beside each. -/
theorem and_mask_eq_zero {m : BitVec 32} {o : Operand} {ops : List Operand}
    (h : m &&& formatMask ops = 0) (ho : o ∈ ops) : m &&& o.mask = 0 := by
  induction ops with
  | nil => cases ho
  | cons o' ops ih =>
    rw [formatMask, BitVec.and_or_distrib_left] at h
    have h' := BitVec.or_eq_zero_iff.mp h
    rcases List.mem_cons.mp ho with rfl | ho
    · exact h'.1
    · exact ih h'.2 ho

/-- The word has each of the operands at its place. -/
theorem placedAll_and_mask {o : Operand} : ∀ {ops : List Operand},
    (ops.map Operand.mask).Pairwise (fun m m' => m &&& m' = 0) → o ∈ ops →
      placedAll info ops &&& o.mask = o.placed info
  | o' :: ops, hd, ho => by
    rw [List.map_cons, List.pairwise_cons] at hd
    show (o'.placed info ||| placedAll info ops) &&& o.mask = _
    rw [BitVec.and_or_distrib_right]
    rcases List.mem_cons.mp ho with rfl | ho
    · -- the others are written beside the first
      have hrest : formatMask ops &&& o.mask = 0 := formatMask_and_eq_zero fun o' ho' => by
        rw [BitVec.and_comm]
        exact hd.1 _ (List.mem_map_of_mem ho')
      rw [o.placed_and_mask, and_eq_zero_of_and_eq (placedAll_and_formatMask ops) hrest]
      exact BitVec.or_zero
    · rw [placedAll_and_mask hd.2 ho,
        and_eq_zero_of_and_eq o'.placed_and_mask (hd.1 _ (List.mem_map_of_mem ho))]
      exact BitVec.zero_or

end

/-! ### The opcodes -/

/-- The tests that tell `csrxchg` and `gcsrxchg` from their neighbours. -/
def csrTests (opc : LoongArchOpc) : List (FieldTest 32) :=
  if opc = .OPC_CSRXCHG ∨ opc = .OPC_GCSRXCHG then [⟨0, 0x3e0, 0x20⟩, ⟨0, 0x3e0, 0⟩] else []

/-- What a leaf must meet: the operands that are extracted are those of the opcode's format and
are written to bits of their own; the base word of the opcode passes the tests on the way, and
no operand is tested, except by the tests that tell `csrxchg`. -/
structure OpcodeOk (ops : List Operand) (leaf : Leaf 32 (List Operand) LoongArchOpc) : Prop where
  acts : leaf.acts = [ops]
  packs : encodefuncs (insn2format leaf.ret) = ops.map Operand.pack
  format : FormatOk ops
  readable : ∀ o ∈ ops, o.Readable
  disjoint : (ops.map Operand.mask).Pairwise fun m m' => m &&& m' = 0
  base : opc2bin leaf.ret &&& formatMask ops = 0
  passed : ∀ c ∈ leaf.passed, (opc2bin leaf.ret >>> c.shift) &&& c.mask = c.value ∧
    (formatMask ops >>> c.shift) &&& c.mask = 0
  failed : ∀ c ∈ leaf.failed, c ∈ csrTests leaf.ret ∨
    ((opc2bin leaf.ret >>> c.shift) &&& c.mask ≠ c.value ∧ (formatMask ops >>> c.shift) &&& c.mask = 0)
  csr : csrTests leaf.ret ≠ [] → .ext (.srcsRegs 0) (.of 5 5) ∈ ops

instance (ops : List Operand) (leaf : Leaf 32 (List Operand) LoongArchOpc) :
    Decidable (OpcodeOk ops leaf) :=
  decidable_of_iff (leaf.acts = [ops] ∧ encodefuncs (insn2format leaf.ret) = ops.map Operand.pack ∧
    FormatOk ops ∧ (∀ o ∈ ops, o.Readable) ∧
    (ops.map Operand.mask).Pairwise (fun m m' => m &&& m' = 0) ∧ opc2bin leaf.ret &&& formatMask ops = 0 ∧
    (∀ c ∈ leaf.passed, (opc2bin leaf.ret >>> c.shift) &&& c.mask = c.value ∧
      (formatMask ops >>> c.shift) &&& c.mask = 0) ∧
    (∀ c ∈ leaf.failed, c ∈ csrTests leaf.ret ∨ ((opc2bin leaf.ret >>> c.shift) &&& c.mask ≠ c.value ∧
      (formatMask ops >>> c.shift) &&& c.mask = 0)) ∧
    (csrTests leaf.ret ≠ [] → .ext (.srcsRegs 0) (.of 5 5) ∈ ops))
    ⟨fun ⟨h1, h2, h3, h4, h5, h6, h7, h8, h9⟩ => ⟨h1, h2, h3, h4, h5, h6, h7, h8, h9⟩,
      fun ⟨h1, h2, h3, h4, h5, h6, h7, h8, h9⟩ => ⟨h1, h2, h3, h4, h5, h6, h7, h8, h9⟩⟩

/-- The leaves of the decoder. -/
def decodeLeaves : List (Leaf 32 (List Operand) LoongArchOpc) := decodeTree.leaves [] [] []

theorem decodeTree_distinct : decodeTree.distinct = true := by decide +kernel

/-- Every leaf meets it. -/
theorem decodeLeaves_ok : decodeLeaves.all (fun leaf => OpcodeOk (leaf.acts.headD []) leaf) = true := by
  decide +kernel

/-- How many opcodes there are beside `OPC_INVALID`. -/
def numOpcodes : ℕ := 1237

/-- The opcodes that have a leaf are all but `OPC_INVALID`, as a set of bits. -/
theorem decodeLeaves_opcodes :
    decodeLeaves.foldr (fun leaf s => s ||| 1 <<< leaf.ret.ctorIdx) 0 = 2 * (2 ^ numOpcodes - 1) := by
  decide +kernel

/-- The number whose bits from 1 to `n` are set. -/
theorem testBit_two_mul_two_pow_sub_one {n j : ℕ} (h : j < n) :
    (2 * (2 ^ n - 1)).testBit (j + 1) := by
  rw [Nat.testBit_succ, Nat.mul_div_cancel_left _ (by decide), Nat.testBit_two_pow_sub_one]
  exact decide_eq_true h

theorem ctorIdx_lt (opc : LoongArchOpc) : opc.ctorIdx < numOpcodes + 1 := by
  cases opc <;> exact of_decide_eq_true rfl

/-- **Every valid opcode** has a leaf. -/
theorem exists_leaf {opc : LoongArchOpc} (h : opc ≠ .OPC_INVALID) :
    ∃ leaf ∈ decodeLeaves, leaf.ret = opc := by
  have hbit : ∀ (leaves : List (Leaf 32 (List Operand) LoongArchOpc)) (i : ℕ),
      (leaves.foldr (fun leaf s => s ||| 1 <<< leaf.ret.ctorIdx) 0).testBit i →
        ∃ leaf ∈ leaves, leaf.ret.ctorIdx = i := by
    intro leaves i
    induction leaves with
    | nil => simp
    | cons leaf leaves ih =>
      rw [List.foldr_cons, Nat.testBit_or, Bool.or_eq_true]
      rintro (hs | hs)
      · obtain ⟨leaf', hm, hi⟩ := ih hs
        exact ⟨leaf', List.mem_cons_of_mem _ hm, hi⟩
      · refine ⟨leaf, List.mem_cons_self, ?_⟩
        rw [Nat.one_shiftLeft, Nat.testBit_two_pow, decide_eq_true_eq] at hs
        exact hs
  have hpos : opc.ctorIdx ≠ 0 := by
    intro h0
    have := LoongArchOpc.ofNat_ctorIdx opc
    rw [h0] at this
    exact h this.symm
  obtain ⟨j, hj⟩ := Nat.exists_eq_succ_of_ne_zero hpos
  have hlt := ctorIdx_lt opc
  have hset : (2 * (2 ^ numOpcodes - 1)).testBit opc.ctorIdx := by
    rw [hj]
    exact testBit_two_mul_two_pow_sub_one (Nat.lt_of_succ_lt_succ (hj ▸ hlt))
  rw [← decodeLeaves_opcodes] at hset
  obtain ⟨leaf, hm, hi⟩ := hbit _ _ hset
  refine ⟨leaf, hm, ?_⟩
  rw [← LoongArchOpc.ofNat_ctorIdx leaf.ret, hi, LoongArchOpc.ofNat_ctorIdx]

/-! ### The round trip -/

open LoongArchInsInfo

section

variable {info : LoongArchInsInfo} {ops : List Operand} {leaf : Leaf 32 (List Operand) LoongArchOpc}

/-- The word of an instruction whose opcode is the one of the leaf. -/
theorem encode_eq (h : info.Encodable) (hleaf : OpcodeOk ops leaf) (hret : leaf.ret = info.opc) :
    encode info = opc2bin info.opc ||| placedAll info ops := by
  rw [encode, if_neg h.opc_valid, ← hret, hleaf.packs, foldl_pack_eq _ hleaf.format.2]

/-- A test of bits that are not written finds the base word. -/
theorem test_encode (h : info.Encodable) (hleaf : OpcodeOk ops leaf) (hret : leaf.ret = info.opc)
    {s : ℕ} {m : BitVec 32} (hm : (formatMask ops >>> s) &&& m = 0) :
    (encode info >>> s) &&& m = (opc2bin info.opc >>> s) &&& m := by
  have hplaced : (placedAll info ops >>> s) &&& m = 0 := by
    refine and_eq_zero_of_and_eq ?_ hm
    rw [← BitVec.ushiftRight_and_distrib, placedAll_and_formatMask]
  rw [encode_eq h hleaf hret, BitVec.ushiftRight_or_distrib, BitVec.and_or_distrib_right, hplaced]
  exact BitVec.or_zero

/-- The word has each operand at its place. -/
theorem encode_and_mask (h : info.Encodable) (hleaf : OpcodeOk ops leaf) (hret : leaf.ret = info.opc)
    {o : Operand} (ho : o ∈ ops) : encode info &&& o.mask = o.placed info := by
  have hbase : opc2bin info.opc &&& o.mask = 0 :=
    and_mask_eq_zero (hret ▸ hleaf.base) ho
  rw [encode_eq h hleaf hret, BitVec.and_or_distrib_right, placedAll_and_mask hleaf.disjoint ho, hbase]
  exact BitVec.zero_or

/-- The operand that tells `csrxchg` and `gcsrxchg`. -/
def csrOperand : Operand := .ext (.srcsRegs 0) (.of 5 5)

/-- A register that is not 0 or 1 is not written as one of these. -/
theorem place_srcsReg_ne : ∀ r : BitVec 8, r.toNat < 2 ^ 5 → r ≠ 0 → r ≠ 1 →
    place (r.setWidth 32) 5 5 ≠ 0x20 ∧ place (r.setWidth 32) 5 5 ≠ 0 := by
  decide +kernel

/-- The tests that tell `csrxchg` fail. -/
theorem not_holds_csrTests (h : info.Encodable) (hleaf : OpcodeOk ops leaf)
    (hret : leaf.ret = info.opc) {c : FieldTest 32} (hc : c ∈ csrTests leaf.ret) :
    ¬c.Holds (encode info) := by
  have ho := hleaf.csr (List.ne_nil_of_mem hc)
  have hx : encode info &&& 0x3e0 = place ((info.srcsRegs 0).setWidth 32) 5 5 :=
    encode_and_mask h hleaf hret ho
  have hfit : (info.srcsRegs 0).toNat < 2 ^ 5 := by
    refine FieldFits.unsigned (h.fits (csrOperand.pack) ?_) rfl
    rw [packs, ← hret, hleaf.packs]
    exact List.mem_map_of_mem ho
  have hopc : info.opc = .OPC_CSRXCHG ∨ info.opc = .OPC_GCSRXCHG := by
    by_contra hne
    rw [csrTests, hret, if_neg hne] at hc
    cases hc
  obtain ⟨h20, h0⟩ := place_srcsReg_ne _ hfit (h.csrxchg hopc).1 (h.csrxchg hopc).2
  rw [csrTests, hret, if_pos hopc, List.mem_pair] at hc
  rcases hc with rfl | rfl
  · exact fun htest => h20 (hx.symm.trans htest)
  · exact fun htest => h0 (hx.symm.trans htest)

/-- **The decision tree** comes to the leaf. -/
theorem run_encode (h : info.Encodable) (hleaf : OpcodeOk ops leaf) (hret : leaf.ret = info.opc)
    (hm : leaf ∈ decodeLeaves) : decodeTree.run (encode info) = ([ops], some info.opc) := by
  rw [← hret, ← hleaf.acts]
  refine CaseTree.run_leaf decodeTree_distinct hm (fun c hc => ?_) fun c hc => ?_
  · obtain ⟨hbase, hmask⟩ := hleaf.passed c hc
    rw [FieldTest.Holds, test_encode h hleaf hret hmask, ← hret]
    exact hbase
  · rcases hleaf.failed c hc with hcsr | ⟨hbase, hmask⟩
    · exact not_holds_csrTests h hleaf hret hcsr
    · rw [FieldTest.Holds, test_encode h hleaf hret hmask, ← hret]
      exact hbase

end

/-- **Encoding and decoding.** The word of an instruction that can be encoded is decoded as an
instruction of the same opcode with the same operands, and no two instructions of different
opcodes have the same word. -/
theorem decode_encode :
    (∀ info₀ info : LoongArchInsInfo, info.Encodable →
      (decode info₀ (encode info)).1 = true ∧ (decode info₀ (encode info)).2.opc = info.opc ∧
        ∀ p ∈ info.packs, (decode info₀ (encode info)).2.operand p.source = info.operand p.source) ∧
    ∀ info info' : LoongArchInsInfo, info.Encodable → info'.Encodable → encode info = encode info' →
      info.opc = info'.opc := by
  have hdec : ∀ info₀ info : LoongArchInsInfo, info.Encodable →
      (decode info₀ (encode info)).1 = true ∧ (decode info₀ (encode info)).2.opc = info.opc ∧
        ∀ p ∈ info.packs, (decode info₀ (encode info)).2.operand p.source = info.operand p.source := by
    intro info₀ info h
    obtain ⟨leaf, hm, hret⟩ := exists_leaf h.opc_valid
    have hleaf := of_decide_eq_true (List.all_eq_true.mp decodeLeaves_ok leaf hm)
    have hrun := run_encode h hleaf hret hm
    rw [decode, hrun]
    refine ⟨rfl, rfl, fun p hp => ?_⟩
    have hp' := hp
    rw [packs, ← hret, hleaf.packs] at hp'
    obtain ⟨o, ho, rfl⟩ := List.mem_map.mp hp'
    have hsource : o.pack.source = o.target := by cases o <;> rfl
    have hfit := h.fits _ hp
    rw [hsource] at hfit ⊢
    calc (decodeExtract _ info₀ (encode info)).operand o.target
        = (o.value (encode info)).setWidth o.target.width :=
          operand_decodeExtract _ hleaf.format.1 ho
      _ = info.operand o.target :=
          Operand.value_eq (hleaf.format.2 o ho) (hleaf.readable o ho) hfit
            (encode_and_mask h hleaf hret ho)
  refine ⟨hdec, fun info info' h h' heq => ?_⟩
  rw [← (hdec .zero info h).2.1, heq, (hdec .zero info' h').2.1]

/-- `csrxchg $a0, $t0, 0x5`. -/
def csrxchgInsn : LoongArchInsInfo :=
  ((({ LoongArchInsInfo.zero with opc := .OPC_CSRXCHG }.set .dstReg 4).set (.srcsRegs 0) 12).set .csr 5)

theorem encodable_csrxchgInsn : csrxchgInsn.Encodable where
  opc_valid := by decide
  fits := by decide
  csrxchg _ := by decide

theorem decode_encode_csrxchg :
    (decode .zero (encode csrxchgInsn)).2.opc = .OPC_CSRXCHG ∧
      (decode .zero (encode csrxchgInsn)).2.operand (.srcsRegs 0) = 12 := by
  obtain ⟨-, hopc, hops⟩ := decode_encode.1 .zero csrxchgInsn encodable_csrxchgInsn
  exact ⟨hopc, hops csrOperand.pack (by decide)⟩

end AotOpt
