import AotOpt.AotClass.TB

/-!
# Disassembling a block

`DisassmbleVistor::visit`: every word of the code is decoded, entered in a branch table if
it is a branch, and appended to the instruction list. A word that is not decoded stays in
the list as `OPC_INVALID` with the word itself.

* `visitFrom_frame` — what disassembling writes.
* `nodes_visit` — the nodes of a block that was disassembled.
-/

namespace AotOpt.DisassmbleVistor

variable {ι : Type}

/-- The `LoongArchInsInfo` made of a word. -/
def disassemble (insn : BitVec 32) : LoongArchInsInfo :=
  { (decode .zero insn).2 with originBinary := insn }

/-- One turn of the loop of `visit`. -/
def visitInsn (tb : TB ι) (insn : BitVec 32) (i : BitVec 32) : TB ι :=
  let tb := if (decode .zero insn).1 then tb else { tb with hasInvalidInsn := true }
  let tb := tb.addBInsn (decode .zero insn).2.opc i
  { tb with disInsns := tb.disInsns.insertAtTail (disassemble insn) }

/-- The loop of `visit` from index `i` on. -/
def visitFrom (tb : TB ι) (i : BitVec 32) : List (BitVec 32) → TB ι
  | [] => tb
  | insn :: insns => visitFrom (visitInsn tb insn i) (i + 1) insns

/-- `visit`. -/
def visit (tb : TB ι) : TB ι := visitFrom tb 0 tb.code.words

/-- What `start` does to each block of a segment. -/
def startTB (tb : TB ι) : TB ι :=
  let tb := visit tb
  { tb with pipeholeAvailable := tb.pipeholeOptAvailable }

@[simp] theorem opc_disassemble (insn : BitVec 32) :
    (disassemble insn).opc = (decode .zero insn).2.opc := rfl

/-! ### What is written -/

@[simp] theorem disInsns_visitInsn (tb : TB ι) (insn i : BitVec 32) :
    (visitInsn tb insn i).disInsns = tb.disInsns.insertAtTail (disassemble insn) := by
  unfold visitInsn
  dsimp only
  rw [TB.disInsns_addBInsn]
  split_ifs <;> rfl

theorem visitInsn_frame (tb : TB ι) (insn i : BitVec 32) :
    ∃ invalid insns b bne other, visitInsn tb insn i =
      { tb with
        hasInvalidInsn := invalid, disInsns := insns
        bInsns := b, bneInsns := bne, otherBInsns := other } := by
  unfold visitInsn
  dsimp only
  split_ifs
  · obtain ⟨_, _, _, h⟩ := tb.addBInsn_frame (decode .zero insn).2.opc i
    exact ⟨_, _, _, _, _, by rw [h]⟩
  · obtain ⟨_, _, _, h⟩ :=
      ({ tb with hasInvalidInsn := true } : TB ι).addBInsn_frame (decode .zero insn).2.opc i
    exact ⟨_, _, _, _, _, by rw [h]⟩

/-- **Disassembling** writes the instruction list, the branch tables and the flag for
invalid instructions, and nothing else. -/
theorem visitFrom_frame : ∀ (insns : List (BitVec 32)) (tb : TB ι) (i : BitVec 32),
    ∃ invalid list b bne other, visitFrom tb i insns =
      { tb with
        hasInvalidInsn := invalid, disInsns := list
        bInsns := b, bneInsns := bne, otherBInsns := other }
  | [], _, _ => ⟨_, _, _, _, _, rfl⟩
  | insn :: insns, tb, i => by
    obtain ⟨_, _, _, _, _, h₁⟩ := visitInsn_frame tb insn i
    obtain ⟨_, _, _, _, _, h₂⟩ := visitFrom_frame insns (visitInsn tb insn i) (i + 1)
    exact ⟨_, _, _, _, _, by rw [visitFrom, h₂, h₁]⟩

@[simp] theorem rels_visit (tb : TB ι) : (visit tb).rels = tb.rels := by
  obtain ⟨_, _, _, _, _, h⟩ := visitFrom_frame tb.code.words tb 0
  rw [visit, h]

@[simp] theorem originAotTb_visit (tb : TB ι) : (visit tb).originAotTb = tb.originAotTb := by
  obtain ⟨_, _, _, _, _, h⟩ := visitFrom_frame tb.code.words tb 0
  rw [visit, h]

theorem disInsns_visitFrom : ∀ (insns : List (BitVec 32)) (tb : TB ι) (i : BitVec 32),
    (visitFrom tb i insns).disInsns =
      insns.foldl (fun l insn => l.insertAtTail (disassemble insn)) tb.disInsns
  | [], _, _ => rfl
  | insn :: insns, tb, i => by
    rw [visitFrom, disInsns_visitFrom insns, disInsns_visitInsn, List.foldl_cons]

/-- The nodes of a block that was disassembled. -/
theorem nodes_foldl_insertAtTail : ∀ (insns : List (BitVec 32)) (l : LinkList LoongArchInsInfo),
    (insns.foldl (fun l insn => l.insertAtTail (disassemble insn)) l).nodes =
      l.nodes ++ (insns.zipIdx l.fresh).map fun e => ⟨e.2, disassemble e.1⟩
  | [], l => by simp
  | insn :: insns, l => by
    rw [List.foldl_cons, nodes_foldl_insertAtTail insns, LinkList.nodes_insertAtTail]
    simp [LinkList.insertAtTail, LinkList.insertAt]

theorem nodes_visit (aotTb : AOTTB) (code : Code) (x86Addr : BitVec 64) :
    (visit (TB.new aotTb code x86Addr : TB ι)).disInsns.nodes =
      code.words.zipIdx.map fun e => ⟨e.2, disassemble e.1⟩ := by
  rw [visit, disInsns_visitFrom, nodes_foldl_insertAtTail]
  rfl

@[simp] theorem rels_startTB (tb : TB ι) : (startTB tb).rels = tb.rels := rels_visit tb

theorem nodes_startTB (aotTb : AOTTB) (code : Code) (x86Addr : BitVec 64) :
    (startTB (TB.new aotTb code x86Addr : TB ι)).disInsns.nodes =
      code.words.zipIdx.map fun e => ⟨e.2, disassemble e.1⟩ :=
  nodes_visit aotTb code x86Addr

/-- A disassembled block of a `nop` (`andi $zero, $zero, 0`) and a `b`. -/
def nopThenB (aotTb : AOTTB) : TB ℕ :=
  visit (.new aotTb ⟨8, [0x03400000, 0x50000000], rfl⟩ 0)

theorem nodes_nopThenB (aotTb : AOTTB) : (nopThenB aotTb).disInsns.nodes =
    [⟨0, disassemble 0x03400000⟩, ⟨1, disassemble 0x50000000⟩] := by
  rw [nopThenB, nodes_visit]
  rfl

end AotOpt.DisassmbleVistor
