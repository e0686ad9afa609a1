import AotOpt.AotClass.AOTFile
import AotOpt.Lib.Flow
import AotOpt.Vistor.AddRels
import AotOpt.Vistor.Disassemble

/-!
# Merging blocks

`TU_Vistor`: from the blocks of a segment without parents on, the links are followed depth
first, and a block whose only successor has no successor takes over its instructions. The
driver loads, links, disassembles and merges one segment after another, so that a walk can
come to blocks of segments that are not disassembled yet.

* `Op`, `run` — the steps of the driver, `runSteps` over a list of them.
* `flow` — the instructions that are executed from a block on, over the links.
-/

namespace AotOpt

variable {ι : Type}

namespace TB

variable (tb : TB ι)

/-! ### Successors -/

/-- `only_one_successor`. -/
def onlyOneSuccessor : Bool :=
  (!tb.originAotTb.slotValid 0 && tb.originAotTb.slotValid 1 && tb.trueBranch.isSome)
    || (tb.originAotTb.slotValid 0 && !tb.originAotTb.slotValid 1 && tb.falseBranch.isSome)

/-- `no_successor`. -/
def noSuccessor : Bool := !tb.originAotTb.slotValid 0 && !tb.originAotTb.slotValid 1

theorem slotValid_of_noSuccessor {tb : TB ι} (h : tb.noSuccessor) (j : Fin 2) :
    tb.originAotTb.slotValid j = false := by
  rw [noSuccessor, Bool.and_eq_true, Bool.not_eq_true', Bool.not_eq_true'] at h
  rcases Fin.exists_fin_two.mp ⟨j, rfl⟩ with rfl | rfl
  · exact h.1
  · exact h.2

theorem noSuccessor_iff {tb : TB ι} :
    tb.noSuccessor ↔ ∀ j, tb.originAotTb.slotValid j = false := by
  refine ⟨slotValid_of_noSuccessor, fun h => ?_⟩
  rw [noSuccessor, h, h]
  rfl

/-- `get_the_onlyone_successor`. -/
def getTheOnlyoneSuccessor : Option ι :=
  if !tb.onlyOneSuccessor then none
  else if tb.falseBranch.isSome then tb.falseBranch else tb.trueBranch

/-- `branch_insn_index`. -/
def branchInsnIndex (isTrueBranch : Bool) : Res (BitVec 32) := do
  assert (tb.originAotTb.slotValid (slotOf isTrueBranch))
  .ok ((tb.originAotTb.jmpTargetArg (slotOf isTrueBranch) / 4).setWidth 32)

/-! ### Taking over the successor -/

/-- `rels.push_back` of the valid relocations of the source block, with
`tc_offset += new_base_offset`. -/
def rebaseRels (newBaseOffset : BitVec 32) (rels : List RelSlot) : List RelSlot :=
  (rels.filter (·.valid)).map fun r =>
    ⟨{ r.rel with tcOffset := r.rel.tcOffset + newBaseOffset }, true⟩

/-- The loop that copies the instructions of the source block behind `cur_unify`. -/
def copyInsns (tb : TB ι) (curUnify : Ptr) (curIndex : BitVec 32) :
    List (ListNode LoongArchInsInfo) → Res (TB ι)
  | [] => .ok tb
  | n :: nodes => do
    let disInsns ← tb.disInsns.insertAfter curUnify n.data
    let tb' := { tb.addBInsn n.data.opc curIndex with disInsns := disInsns }
    tb'.copyInsns (.node tb.disInsns.fresh) (curIndex + 1) nodes

/-- A slot of the source block, with its offsets moved; a slot that is not valid becomes
invalid. -/
def rebaseSlots (newBaseOffset : BitVec 32) (src dst : AOTTB) : AOTTB :=
  { dst with
    jmpResetOffsets := fun j =>
      if src.slotValid j then newBaseOffset.setWidth 16 + src.jmpResetOffsets j
      else TB_JMP_RESET_OFFSET_INVALID
    jmpTargetArg := fun j =>
      if src.slotValid j then newBaseOffset.setWidth 64 + src.jmpTargetArg j
      else dst.jmpTargetArg j }

/-- `unify_srcblock_no_successor`, of two blocks; `none` is `nullptr`. -/
def unifySrcblockNoSuccessor (dstblock srcblock : TB ι) (isTrueBranch : Bool) :
    Res (Option (TB ι)) := do
  if !srcblock.noSuccessor then .ok none
  else
    let deleteStartIndex ← dstblock.branchInsnIndex isTrueBranch
    let deleteEndIndex : BitVec 32 := (dstblock.disInsns.totalSize - 1).setWidth 32
    let count := deleteEndIndex - deleteStartIndex + 1
    let newBaseOffset := deleteStartIndex * 4
    let curInsn ← dstblock.disInsns.get (deleteStartIndex.setWidth 64)
    let curUnify := dstblock.disInsns.prev curInsn.addr
    assert (curInsn.data.opc = .OPC_B)
    let (_, tb) ← dstblock.deleteRun (.node curInsn.addr) (deleteStartIndex.setWidth 64) count.toNat
    let tb := { tb with rels := tb.rels ++ rebaseRels newBaseOffset srcblock.rels }
    let tb ← tb.copyInsns curUnify deleteStartIndex srcblock.disInsns.nodes
    .ok (some { tb with
      originAotTb := rebaseSlots newBaseOffset srcblock.originAotTb tb.originAotTb
      trueBranch := srcblock.trueBranch
      falseBranch := srcblock.falseBranch })

end TB

namespace AOTFile

variable (f : AOTFile ι)

/-! ### The walk -/

/-- `get_all_entrys_block`. -/
def getAllEntrysBlock (seg : Segment ι) : List ι :=
  seg.tbs.filter fun i => (f.tb i).parents.length = 0

/-- The block that takes over its only successor, if that has no successor. -/
def mergeSucc (i : ι) : Option ι := (f.tb i).getTheOnlyoneSuccessor.filter fun s => (f.tb s).noSuccessor

variable [DecidableEq ι]

/-- `unify_srcblock_no_successor(cur, succ, is_true_branch)`. -/
def unifyAt (cur succ : ι) : Res (AOTFile ι) := do
  let isTrueBranch := (f.tb cur).originAotTb.slotValid 1
  let res ← (f.tb cur).unifySrcblockNoSuccessor (f.tb succ) isTrueBranch
  match res with
  | some tb => .ok (f.setTB cur tb)
  | none => .ok f

/-- `if(next != nullptr)`, the walk goes on there. -/
def follow (walk : ι → List (BitVec 64) → AOTFile ι → Res (List (BitVec 64) × AOTFile ι)) :
    Option ι → List (BitVec 64) → AOTFile ι → Res (List (BitVec 64) × AOTFile ι)
  | some next, finished, f => walk next finished f
  | none, finished, f => .ok (finished, f)

/-- `unify_one_successor`, with a bound on the depth of the recursion. The set `parents` is
given back as it was, so that only `finished` is a result. -/
def unifyOneSuccessor : ℕ → List (BitVec 64) → ι → List (BitVec 64) → AOTFile ι →
    Res (List (BitVec 64) × AOTFile ι)
  | 0, _, _, _, _ => .error .depth
  | fuel + 1, parents, cur, finished, f =>
    let x86Addr := (f.tb cur).x86Addr
    if x86Addr ∈ parents ∨ x86Addr ∈ finished then .ok (finished, f)
    else
      match f.mergeSucc cur with
      | some succ => do
        let f ← f.unifyAt cur succ
        .ok (finished, f)
      | none => do
        let walk := unifyOneSuccessor fuel (x86Addr :: parents)
        let (finished, f) ← follow walk (f.tb cur).falseBranch finished f
        let (finished, f) ← follow walk (f.tb cur).trueBranch finished f
        .ok (x86Addr :: finished, f)

/-- One turn of the loop of `TU_Vistor::start`. No path of the walk is longer than the
file has blocks. -/
def unifyEntry (f : AOTFile ι) (entry : ι) : Res (AOTFile ι) := do
  let (_, f) ← unifyOneSuccessor (f.ids.length + 1) [] entry [] f
  .ok f

/-- `TU_Vistor::start`. -/
def tuStart (seg : Segment ι) : Res (AOTFile ι) := (f.getAllEntrysBlock seg).foldlM unifyEntry f

/-! ### The steps of the driver -/

/-- `TB_AddRels_Vistor::start`. -/
def addRelsStart (seg : Segment ι) : Res (AOTFile ι) :=
  seg.tbs.foldlM (fun f i => do
    let tb ← AddRelsVistor.visit f.rels (f.tb i)
    .ok (f.setTB i tb)) f

/-- `DisassmbleVistor::start`. -/
def disStart (seg : Segment ι) : AOTFile ι :=
  seg.tbs.foldl (fun f i => f.setTB i (DisassmbleVistor.startTB (f.tb i))) f

/-- The steps of `test_write_to_file` for a segment. -/
inductive Op (ι : Type) where
  | settleAllTb (seg : Segment ι)
  | addRels (seg : Segment ι)
  | disassemble (seg : Segment ι)
  | tu (seg : Segment ι)

/-- A step. -/
def run (f : AOTFile ι) : Op ι → Res (AOTFile ι)
  | .settleAllTb seg => f.settleAllTb seg
  | .addRels seg => f.addRelsStart seg
  | .disassemble seg => .ok (f.disStart seg)
  | .tu seg => f.tuStart seg

/-- One step after another. -/
def runSteps (f : AOTFile ι) (ops : List (Op ι)) : Res (AOTFile ι) := ops.foldlM run f

/-- What is done with a segment before its blocks are merged. -/
def loadSteps (seg : Segment ι) : List (Op ι) := [.settleAllTb seg, .addRels seg, .disassemble seg]

/-- `test_write_to_file`, up to the merging, for the segments. -/
def driverSteps (segs : List (Segment ι)) : List (Op ι) :=
  segs.flatMap fun seg => loadSteps seg ++ [.tu seg]

end AOTFile

/-! ### Instruction streams -/

namespace TB

variable (tb : TB ι)

/-- The instructions. -/
def insns : List LoongArchInsInfo := tb.disInsns.nodes.map (·.data)

/-- The index of the branch of the only valid slot. -/
def cutIndex : ℕ :=
  (tb.originAotTb.jmpTargetArg (slotOf (tb.originAotTb.slotValid 1)) / 4).toNat

end TB

/-- **What is executed from a block on**: its instructions before the branch of its only
valid slot and then those of the linked block, when `only_one_successor` holds, and all of its
instructions otherwise. -/
def AOTFile.flow (f : AOTFile ι) : Lib.Flow ι LoongArchInsInfo where
  body i := if (f.tb i).onlyOneSuccessor then (f.tb i).insns.take (f.tb i).cutIndex else (f.tb i).insns
  next i := (f.tb i).getTheOnlyoneSuccessor

end AotOpt
