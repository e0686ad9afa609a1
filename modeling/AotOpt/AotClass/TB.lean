import AotOpt.Basic.Aot
import AotOpt.Disassembler.Encode
import AotOpt.LinkList.LinkList
import Mathlib.Tactic.SplitIfs

/-!
# Translated blocks

`TB` of `AOT_class/aot_class.hpp` and the operations that edit its code. Beside the
instruction list a block keeps three kinds of positions in it: the indices of its branches
in the branch tables, the byte ranges of its relocations, and the byte offsets of its jump
slots. Every edit adjusts them by comparisons of its own.

The links between blocks are of a type `ι` of block identities. The vectors `rels` and
`rels_valid`, which are always edited together, are one list.
-/

namespace AotOpt

/-- `BranchInsnAndOffset`: the node of a branch instruction and its index. -/
structure BranchInsnAndOffset where
  branchInsn : ℕ
  offset : BitVec 32
  deriving DecidableEq

/-- `rels[j]` and `rels_valid[j]`. -/
structure RelSlot where
  rel : AOTRel
  valid : Bool
  deriving DecidableEq

/-- `code` and `code_size`: the bytes are read as words only. -/
structure Code where
  size : BitVec 32
  words : List (BitVec 32)
  length_words : words.length = (size >>> 2).toNat

/-- No code. -/
def Code.empty : Code := ⟨0, [], rfl⟩

/-- There are fewer words than 32 bits can count bytes for. -/
theorem Code.length_lt (code : Code) : code.words.length < 2 ^ 30 := by
  have := code.size.isLt
  rw [code.length_words, BitVec.toNat_ushiftRight, Nat.shiftRight_eq_div_pow]
  omega

/-- `TB`, with the fields that the modelled functions read or write. -/
structure TB (ι : Type) where
  hasInvalidInsn : Bool
  code : Code
  pipeholeAvailable : Bool
  trueBranch : Option ι
  falseBranch : Option ι
  parents : List ι
  rels : List RelSlot
  disInsns : LinkList LoongArchInsInfo
  bInsns : List BranchInsnAndOffset
  bneInsns : List BranchInsnAndOffset
  otherBInsns : List BranchInsnAndOffset
  originAotTb : AOTTB
  x86Addr : BitVec 64

/-- `jmp_reset_offsets[j] != TB_JMP_RESET_OFFSET_INVALID`. -/
def AOTTB.slotValid (t : AOTTB) (j : Fin 2) : Bool :=
  t.jmpResetOffsets j ≠ TB_JMP_RESET_OFFSET_INVALID

/-! ### Branch tables -/

/-- The eleven branch opcodes other than `OPC_B` and `OPC_BNE`. -/
def isOtherBranch (opc : LoongArchOpc) : Bool :=
  opc = .OPC_BEQZ || opc = .OPC_BNEZ || opc = .OPC_BCEQZ || opc = .OPC_BCNEZ
    || opc = .OPC_JIRL || opc = .OPC_BL || opc = .OPC_BEQ || opc = .OPC_BLT
    || opc = .OPC_BGE || opc = .OPC_BLTU || opc = .OPC_BGEU

/-- `__adjust_index_of_branchs_add`. -/
def adjustIndexOfBranchsAdd (table : List BranchInsnAndOffset) (i : BitVec 32) :
    List BranchInsnAndOffset :=
  table.map fun b => if b.offset > i then { b with offset := b.offset + 1 } else b

/-- `__adjust_index_of_branchs`. -/
def adjustIndexOfBranchs (table : List BranchInsnAndOffset) (i : BitVec 32) :
    List BranchInsnAndOffset :=
  table.map fun b => if b.offset > i then { b with offset := b.offset - 1 } else b

/-- `__erase_b_and_index`. -/
def eraseBAndIndex (table : List BranchInsnAndOffset) (removedIndex : BitVec 32) :
    List BranchInsnAndOffset :=
  table.eraseP fun b => b.offset = removedIndex

namespace AOTRel

/-- `rel.tc_offset <= offset && offset < rel.tc_offset + (rel.rel_slots_num << 2)`, the sum
being taken in 32 bits. -/
def covers (r : AOTRel) (offset : BitVec 64) : Bool :=
  r.tcOffset.setWidth 64 ≤ offset && offset < (r.tcOffset + (r.relSlotsNum <<< 2)).setWidth 64

end AOTRel

/-- `rels_valid[j] && ` the relocation covers the offset. -/
def RelSlot.hit (offset : BitVec 64) (r : RelSlot) : Bool := r.valid && r.rel.covers offset

namespace TB

/-- The block that `TB(FILE*, AOT_TB*, u_int32_t)` makes of the code it reads. The flag
`pipehole_available`, which it leaves unset, is set when the block is disassembled. -/
def new {ι : Type} (aotTb : AOTTB) (code : Code) (x86Addr : BitVec 64) : TB ι where
  hasInvalidInsn := false
  code := code
  pipeholeAvailable := false
  trueBranch := none
  falseBranch := none
  parents := []
  rels := []
  disInsns := .empty
  bInsns := []
  bneInsns := []
  otherBInsns := []
  originAotTb := aotTb
  x86Addr := x86Addr

variable {ι : Type} (tb : TB ι)

/-! ### Adding an instruction -/

/-- `__add_b_insn` of the node that is to be added next, and `check_and_add_branch_insn`. -/
def addBInsn (opc : LoongArchOpc) (index : BitVec 32) : TB ι :=
  let entry := ⟨tb.disInsns.fresh, index⟩
  if opc = .OPC_B then { tb with bInsns := tb.bInsns ++ [entry] }
  else if opc = .OPC_BNE then { tb with bneInsns := tb.bneInsns ++ [entry] }
  else if isOtherBranch opc then { tb with otherBInsns := tb.otherBInsns ++ [entry] }
  else tb

/-- Only the branch tables are written. -/
theorem addBInsn_frame (opc : LoongArchOpc) (index : BitVec 32) :
    ∃ b bne other, tb.addBInsn opc index =
      { tb with bInsns := b, bneInsns := bne, otherBInsns := other } := by
  unfold addBInsn
  dsimp only
  split_ifs
  exacts [⟨_, _, _, rfl⟩, ⟨_, _, _, rfl⟩, ⟨_, _, _, rfl⟩, ⟨_, _, _, rfl⟩]

@[simp] theorem disInsns_addBInsn (opc : LoongArchOpc) (index : BitVec 32) :
    (tb.addBInsn opc index).disInsns = tb.disInsns := by
  obtain ⟨_, _, _, h⟩ := tb.addBInsn_frame opc index
  rw [h]

/-- `adjust_index_of_branchs_when_add_insn`. -/
def adjustIndexOfBranchsWhenAddInsn (i : BitVec 32) : TB ι :=
  { tb with
    bInsns := adjustIndexOfBranchsAdd tb.bInsns i
    bneInsns := adjustIndexOfBranchsAdd tb.bneInsns i
    otherBInsns := adjustIndexOfBranchsAdd tb.otherBInsns i }

/-- `rel.tc_offset += 4` of the valid relocations from the offset on. -/
def shiftRelsAdd (offset : BitVec 64) (rels : List RelSlot) : List RelSlot :=
  rels.map fun r =>
    if r.valid && r.rel.tcOffset.setWidth 64 ≥ offset then
      { r with rel := { r.rel with tcOffset := r.rel.tcOffset + 4 } }
    else r

/-- `jmp_target_arg[j] += 4` of the valid slots from the offset on. -/
def shiftSlotsAdd (offset : BitVec 64) (t : AOTTB) : AOTTB :=
  { t with
    jmpTargetArg := fun j =>
      if t.slotValid j && t.jmpTargetArg j ≥ offset then t.jmpTargetArg j + 4
      else t.jmpTargetArg j }

/-- `add_insn`: the block, and the pointer to the node that was added. -/
def addInsn (prev : Ptr) (inserted : LoongArchInsInfo) (index : BitVec 32) : Res (Ptr × TB ι) := do
  let insertedIndex := index + 1
  let insertedOffset := (insertedIndex <<< 2).setWidth 64
  if tb.rels.any (·.hit insertedOffset) then .error .exit
  else
    let tb' := (tb.adjustIndexOfBranchsWhenAddInsn insertedIndex).addBInsn inserted.opc insertedIndex
    let disInsns ← tb.disInsns.insertAfter prev inserted
    .ok (.node tb.disInsns.fresh,
      { tb' with
        rels := shiftRelsAdd insertedOffset tb.rels
        originAotTb := shiftSlotsAdd insertedOffset tb.originAotTb
        disInsns := disInsns })

/-- `add_insn_at_tail`. -/
def addInsnAtTail (inserted : LoongArchInsInfo) (index : BitVec 32) : Res (Ptr × TB ι) :=
  tb.addInsn tb.disInsns.last inserted index

/-! ### Deleting instructions -/

/-- `__delete_b_insn`. -/
def deleteBInsn (opc : LoongArchOpc) (i : BitVec 32) : TB ι :=
  if opc = .OPC_B then { tb with bInsns := eraseBAndIndex tb.bInsns i }
  else if opc = .OPC_BNE then { tb with bneInsns := eraseBAndIndex tb.bneInsns i }
  else if isOtherBranch opc then { tb with otherBInsns := eraseBAndIndex tb.otherBInsns i }
  else tb

/-- `adjust_index_of_branchs_when_delete_insn`. -/
def adjustIndexOfBranchsWhenDeleteInsn (i : BitVec 32) : TB ι :=
  { tb with
    bInsns := adjustIndexOfBranchs tb.bInsns i
    bneInsns := adjustIndexOfBranchs tb.bneInsns i
    otherBInsns := adjustIndexOfBranchs tb.otherBInsns i }

/-- `rel.tc_offset -= 4` of the valid relocations behind the offset. -/
def shiftRelsDelete (offset : BitVec 64) (rels : List RelSlot) : List RelSlot :=
  rels.map fun r =>
    if r.valid && offset < r.rel.tcOffset.setWidth 64 then
      { r with rel := { r.rel with tcOffset := r.rel.tcOffset - 4 } }
    else r

/-- `jmp_target_arg[j] -= 4` of the valid slots behind the offset. -/
def shiftSlotsDelete (offset : BitVec 64) (t : AOTTB) : AOTTB :=
  { t with
    jmpTargetArg := fun j =>
      if t.slotValid j && t.jmpTargetArg j > offset then t.jmpTargetArg j - 4
      else t.jmpTargetArg j }

/-- What `delete_ith_insn` and `delete_ith_insn_alongwith_rel` both do once the relocations
are checked: the instruction goes, and the positions behind it move. -/
def removeInsn (node : ℕ) (opc : LoongArchOpc) (i : BitVec 64) : TB ι :=
  let offsetOfIthInsn := i <<< 2
  let tb' := (tb.deleteBInsn opc (i.setWidth 32)).adjustIndexOfBranchsWhenDeleteInsn (i.setWidth 32)
  { tb' with
    rels := shiftRelsDelete offsetOfIthInsn tb.rels
    originAotTb := shiftSlotsDelete offsetOfIthInsn tb.originAotTb
    disInsns := tb.disInsns.remove node }

/-- `rels_valid[j] = false` of the first valid relocation that covers the offset. -/
def dropRel (offset : BitVec 64) : List RelSlot → List RelSlot
  | [] => []
  | r :: rels => if r.hit offset then { r with valid := false } :: rels else r :: dropRel offset rels

/-- The node a pointer points to, and `node->data`. -/
def nodeAt : Ptr → Res (ℕ × LoongArchInsInfo)
  | .node a =>
    match tb.disInsns.data? a with
    | some insn => .ok (a, insn)
    | none => .error .sentinel
  | _ => .error .sentinel

/-- `delete_ith_insn_alongwith_rel`: the pointer to the next node, and the block. -/
def deleteIthInsnAlongwithRel (node : Ptr) (i : BitVec 64) : Res (Ptr × TB ι) := do
  let (a, insn) ← tb.nodeAt node
  let tb' := { tb with rels := dropRel (i <<< 2) tb.rels }
  .ok (tb.disInsns.next a, tb'.removeInsn a insn.opc i)

/-- `delete_ith_insn`: an instruction that a valid relocation covers is not deleted, and
the pointer to it is given back. -/
def deleteIthInsn (node : Ptr) (i : BitVec 64) : Res (Ptr × TB ι) := do
  if tb.rels.any (·.hit (i <<< 2)) then .ok (node, tb)
  else
    let (a, insn) ← tb.nodeAt node
    .ok (tb.disInsns.next a, tb.removeInsn a insn.opc i)

/-- The loop of `delete_ith_rel`, and every other loop that deletes `count` instructions
from a node on at one index. -/
def deleteRun (tb : TB ι) (node : Ptr) (i : BitVec 64) : ℕ → Res (Ptr × TB ι)
  | 0 => .ok (node, tb)
  | count + 1 => do
    let (next, tb') ← tb.deleteIthInsnAlongwithRel node i
    tb'.deleteRun next i count

/-- `delete_ith_rel`; `none` is `nullptr`. -/
def deleteIthRel (i : BitVec 64) : Res (Option Ptr × TB ι) :=
  match tb.rels[i.toNat]? with
  | none => .error .outOfBounds
  | some r =>
    if r.valid then do
      let ithInsn := (r.rel.tcOffset >>> 2).setWidth 64
      let insn ← tb.disInsns.get ithInsn
      let (next, tb') ← tb.deleteRun (.node insn.addr) ithInsn r.rel.relSlotsNum.toNat
      .ok (some next, tb')
    else .ok (none, tb)

/-- An assignment to the instruction of a node. -/
def updateInsn (a : ℕ) (f : LoongArchInsInfo → LoongArchInsInfo) : TB ι :=
  { tb with disInsns := tb.disInsns.update a f }

/-! ### Queries -/

/-- `in_scope_of_rel`. -/
def inScopeOfRel (start count : BitVec 32) : Bool :=
  let endIndex := start + count - 1
  tb.rels.any fun r =>
    let relStartIndex := r.rel.tcOffset / 4
    let relEndIndex := relStartIndex + r.rel.relSlotsNum - 1
    r.valid && !(endIndex < relStartIndex || relEndIndex < start)

/-- Some relocation of kind `B_EPILOGUE`, valid or not, starts at the branch. -/
def epilogueAt (b : BranchInsnAndOffset) : Bool :=
  tb.rels.any fun r => r.rel.kind = .B_EPILOGUE && b.offset = r.rel.tcOffset / 4

/-- The branch is the one of the slot: `b.offset == jmp_target_arg[j] / 4`. -/
def isSlotBranch (b : BranchInsnAndOffset) (j : Fin 2) : Bool :=
  b.offset.setWidth 64 = tb.originAotTb.jmpTargetArg j / 4

/-- The test of `pipehole_opt_available` for a block whose only valid slot is `j`. -/
def pipeholeOptAvailableOne (j : Fin 2) : Bool :=
  match tb.bInsns with
  | [b₀] => tb.bneInsns.length = 0 && tb.otherBInsns.length = 0 && tb.isSlotBranch b₀ j
  | [b₀, b₁] =>
    tb.epilogueAt b₁ && tb.bneInsns.length = 0 && tb.otherBInsns.length = 0 && tb.isSlotBranch b₀ j
  | _ => false

/-- `pipehole_opt_available`. -/
def pipeholeOptAvailable : Bool :=
  if tb.originAotTb.slotValid 0 && tb.originAotTb.slotValid 1 then
    match tb.bInsns with
    | [b₀, b₁] =>
      tb.bneInsns.length = 1 && tb.otherBInsns.length = 0 && tb.isSlotBranch b₀ 0
        && tb.isSlotBranch b₁ 1
    | [b₀, b₁, b₂, b₃] =>
      tb.epilogueAt b₁ && tb.epilogueAt b₃ && tb.bneInsns.length = 1
        && tb.otherBInsns.length = 0 && tb.isSlotBranch b₀ 0 && tb.isSlotBranch b₂ 1
    | _ => false
  else if tb.originAotTb.slotValid 0 then tb.pipeholeOptAvailableOne 0
  else if tb.originAotTb.slotValid 1 then tb.pipeholeOptAvailableOne 1
  else tb.bInsns.length = 1 && tb.bneInsns.length = 0 && tb.otherBInsns.length = 0

/-- `how_many_rel`. -/
def howManyRel : BitVec 32 := BitVec.ofNat 32 (tb.rels.countP (·.valid))

/-- `how_many_code`. -/
def howManyCode : BitVec 32 := (tb.disInsns.totalSize * 4).setWidth 32

end TB

end AotOpt
