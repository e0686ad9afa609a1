import AotOpt.Vistor.Reread

/-!
# Distances that do not fit

A pass can assign to `offs` a distance that the format has no room for. The encoder writes its low bits,
and the decoder extends their sign: the instruction that is read back is the same but for `offs`.

* `encode_congr` — the encoder looks at the low bits of the operands of the format.
* `encode_dropOffs_disassemble` — what is read back of an instruction with any `offs`.
-/

namespace AotOpt

open Lib DisassmbleVistor

namespace LoongArchInsInfo

/-- The instruction without its distance. -/
def dropOffs (info : LoongArchInsInfo) : LoongArchInsInfo := info.set .offs 0

@[simp] theorem opc_dropOffs (info : LoongArchInsInfo) : info.dropOffs.opc = info.opc := rfl

@[simp] theorem set_set (info : LoongArchInsInfo) (f : Field) (v v' : BitVec f.width) :
    (info.set f v).set f v' = info.set f v' := by
  simp only [set, Function.update_idem]

@[simp] theorem dropOffs_set_offs (info : LoongArchInsInfo) (v : BitVec Field.offs.width) :
    (info.set .offs v).dropOffs = info.dropOffs := set_set info .offs v 0

theorem read_set_offs (info : LoongArchInsInfo) (v : BitVec 32) : (info.set .offs v).read .offs = v :=
  (congrArg (BitVec.setWidth 32) (info.operand_set_self .offs v)).trans (BitVec.setWidth_eq v)

theorem read_set_offs_of_ne (info : LoongArchInsInfo) (v : BitVec 32) {f : Field} (h : f ≠ .offs) :
    (info.set .offs v).read f = info.read f :=
  congrArg (BitVec.setWidth 32) (info.operand_set_of_ne h v)

theorem operand_dropOffs_of_ne (info : LoongArchInsInfo) {f : Field} (h : f ≠ .offs) :
    info.dropOffs.operand f = info.operand f := info.operand_set_of_ne h 0

theorem read_dropOffs (info : LoongArchInsInfo) : info.dropOffs.read .offs = 0 := info.read_set_offs 0

/-- An instruction is what is left without the distance, and the distance. -/
theorem eq_set_of_dropOffs_eq {info info' : LoongArchInsInfo} (h : info.dropOffs = info'.dropOffs) :
    info = info'.set .offs (info.operand .offs) := by
  have hopc : info.dropOffs.opc = info'.dropOffs.opc := congrArg opc h
  have hbinary : info.dropOffs.originBinary = info'.dropOffs.originBinary := congrArg originBinary h
  apply LoongArchInsInfo.ext
  · exact hopc
  · funext f
    by_cases hf : f = .offs
    · subst hf
      exact (info'.operand_set_self _ _).symm
    · rw [operand_set_of_ne _ hf, ← info.operand_dropOffs_of_ne hf, h, operand_dropOffs_of_ne _ hf]
  · exact hbinary

end LoongArchInsInfo

open LoongArchInsInfo

/-! ### What the encoder looks at -/

/-- The bits that are written of an operand are its low ones. -/
theorem Operand.placed_congr {o : Operand} (ho : o.Fits) {info info' : LoongArchInsInfo}
    (h : ∀ i < o.pack.length, (info.read o.target).getLsbD i = (info'.read o.target).getLsbD i) :
    o.placed info = o.placed info' := by
  cases o with
  | ext f b => exact place_of_low_eq _ h
  | sext f b => exact place_of_low_eq _ h
  | deposit f lo hi =>
    obtain ⟨hlo, -, -⟩ := ho
    have hlen : (deposit f lo hi).pack.length = 16 + hi.length := by simp [pack, Pack.length, hlo]
    rw [hlen] at h
    rw [placed, placed]
    congr 1
    · exact place_of_low_eq _ fun i hi' => h i (by omega)
    · refine place_of_low_eq _ fun i hi' => ?_
      rw [BitVec.getLsbD_ushiftRight, BitVec.getLsbD_ushiftRight]
      exact h (16 + i) (by omega)

/-- How many bits an operand has. -/
theorem Operand.length_pack {o : Operand} (ho : o.Fits) : 0 < o.pack.length ∧ o.pack.length ≤ 32 := by
  cases o with
  | ext f b => exact ⟨b.pos, b.lt.le⟩
  | sext f b => exact ⟨b.pos, b.lt.le⟩
  | deposit f lo hi =>
    obtain ⟨hlo, hhi, -⟩ := ho
    have hlen : (deposit f lo hi).pack.length = 16 + hi.length := by simp [pack, Pack.length, hlo]
    omega

/-- The operands of a format. -/
theorem exists_operands {opc : LoongArchOpc} (h : opc ≠ .OPC_INVALID) : ∃ ops : List Operand,
    encodefuncs (insn2format opc) = ops.map Operand.pack ∧ FormatOk ops := by
  obtain ⟨leaf, hm, hret⟩ := exists_leaf h
  have hok : OpcodeOk (leaf.acts.headD []) leaf :=
    of_decide_eq_true (List.all_eq_true.mp decodeLeaves_ok leaf hm)
  exact ⟨_, hret ▸ hok.packs, hok.format⟩

section

variable {info info' : LoongArchInsInfo}

/-- **The encoder** looks at the opcode and the low bits of the operands of its format. -/
theorem encode_congr (hvalid : info.opc ≠ .OPC_INVALID) (hopc : info'.opc = info.opc)
    (h : ∀ p ∈ info.packs, ∀ i < p.length,
      (info.read p.source).getLsbD i = (info'.read p.source).getLsbD i) : encode info' = encode info := by
  obtain ⟨ops, hpacks, hformat⟩ := exists_operands hvalid
  rw [packs, hpacks] at h
  have hplaced : placedAll info' ops = placedAll info ops := by
    have hall : ∀ o ∈ ops, o.placed info' = o.placed info := by
      intro o ho
      refine (Operand.placed_congr (hformat.2 o ho) ?_).symm
      rw [← Operand.source_pack]
      exact h o.pack (List.mem_map_of_mem ho)
    clear h hpacks hformat
    induction ops with
    | nil => rfl
    | cons o ops ih =>
      show o.placed info' ||| placedAll info' ops = o.placed info ||| placedAll info ops
      rw [hall o List.mem_cons_self, ih fun o' ho' => hall o' (List.mem_cons_of_mem _ ho')]
  rw [encode, encode, if_neg hvalid, if_neg (hopc ▸ hvalid), hopc, hpacks,
    foldl_pack_eq _ hformat.2, foldl_pack_eq _ hformat.2, hplaced]

/-- A format has at most one distance. -/
theorem length_offs_unique (hvalid : info.opc ≠ .OPC_INVALID) {p q : Pack} (hp : p ∈ info.packs)
    (hq : q ∈ info.packs) (hpo : p.source = .offs) (hqo : q.source = .offs) : q.length = p.length := by
  obtain ⟨ops, hpacks, hformat⟩ := exists_operands hvalid
  rw [packs, hpacks] at hp hq
  obtain ⟨o, ho, rfl⟩ := List.mem_map.mp hp
  obtain ⟨o', ho', rfl⟩ := List.mem_map.mp hq
  rw [Operand.source_pack] at hpo hqo
  rw [List.inj_on_of_nodup_map hformat.1 ho' ho (hqo.trans hpo.symm)]

/-- **A distance** is written as one that fits. -/
theorem LoongArchInsInfo.Encodable.exists_offs (h : info.Encodable) (v : BitVec 32) :
    ∃ v' : BitVec 32, (info.set .offs v').Encodable ∧
      encode (info.set .offs v') = encode (info.set .offs v) := by
  by_cases hoffs : ∃ p ∈ info.packs, p.source = .offs
  · obtain ⟨p, hp, hsource⟩ := hoffs
    have hlen : 0 < p.length ∧ p.length ≤ 32 := by
      obtain ⟨ops, hpacks, hformat⟩ := exists_operands h.opc_valid
      rw [packs, hpacks] at hp
      obtain ⟨o, ho, rfl⟩ := List.mem_map.mp hp
      exact Operand.length_pack (hformat.2 o ho)
    have hlow : ∀ i < p.length, (sbits v 0 p.length).getLsbD i = v.getLsbD i := by
      intro i hi
      rw [getLsbD_sbits v (by omega) hi, Nat.zero_add]
    refine ⟨sbits v 0 p.length, ?_, ?_⟩
    · refine h.set_signed rfl (fun q hq hqs => length_offs_unique h.opc_valid hp hq hsource hqs) ?_
      apply toInt_of_getLsbD hlen.1 hlen.2
      intro i hi hiw
      rw [getLsbD_sbits_of_le v hlen.1 (by omega) hi hiw, Nat.zero_add, hlow _ (by omega)]
    · refine @encode_congr (info.set .offs v) _ h.opc_valid rfl fun q hq i hi => ?_
      by_cases hqs : q.source = .offs
      · have hqlen : q.length = p.length := length_offs_unique h.opc_valid hp hq hsource hqs
        rw [hqs, read_set_offs, read_set_offs, hlow i (by omega)]
      · rw [read_set_offs_of_ne _ _ hqs, read_set_offs_of_ne _ _ hqs]
  · refine ⟨v, ?_, rfl⟩
    refine h.set (fun p hp hsource => absurd ⟨p, hp, hsource⟩ hoffs) ?_
    rintro ⟨⟩

end

/-- **An instruction that was read and given any distance** is read back, but for the distance. -/
theorem encode_dropOffs_disassemble {info : LoongArchInsInfo} {insn : BitVec 32}
    (h : info.dropOffs = (disassemble insn).dropOffs) :
    encode (disassemble (encode info)).dropOffs = encode info.dropOffs := by
  have hinfo := eq_set_of_dropOffs_eq h
  have hopc : info.dropOffs.opc = (disassemble insn).dropOffs.opc := congrArg LoongArchInsInfo.opc h
  rw [opc_dropOffs, opc_dropOffs] at hopc
  rcases kept_disassemble insn with henc | ⟨hinvalid, -⟩
  · obtain ⟨v', hfit, hword⟩ := henc.exists_offs (info.operand .offs)
    rw [← hinfo] at hword
    obtain ⟨hback, hsame⟩ : (disassemble (encode info)).SameInsn ((disassemble insn).set .offs v') := by
      rw [← hword]
      exact hfit.rereads
    -- all but the distance is the same
    refine encode_congr (hopc ▸ henc.opc_valid) (hback.trans hopc.symm) fun p hp i _ => ?_
    have hp' : p ∈ ((disassemble insn).set .offs v').packs := by
      rw [packs, opc_dropOffs, hopc] at hp
      exact hp
    by_cases hsource : p.source = .offs
    · rw [hsource, read_dropOffs, read_dropOffs]
    · have hop : (disassemble (encode info)).operand p.source = info.operand p.source := by
        calc (disassemble (encode info)).operand p.source
            = ((disassemble insn).set .offs v').operand p.source := hsame p hp'
          _ = (disassemble insn).operand p.source := operand_set_of_ne _ hsource v'
          _ = (disassemble insn).dropOffs.operand p.source := (operand_dropOffs_of_ne _ hsource).symm
          _ = info.dropOffs.operand p.source := by rw [h]
          _ = info.operand p.source := operand_dropOffs_of_ne _ hsource
      rw [LoongArchInsInfo.read, LoongArchInsInfo.read, operand_dropOffs_of_ne _ hsource,
        operand_dropOffs_of_ne _ hsource, hop]
  · -- a word that is not decoded is kept as it is
    have hword : encode info = insn := by
      have hencode := encode_disassemble insn
      rw [encode, if_pos hinvalid] at hencode
      rw [encode, if_pos (hopc.trans hinvalid), hinfo, originBinary_set, hencode]
    rw [hword, h]

end AotOpt
