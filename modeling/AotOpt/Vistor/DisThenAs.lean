import AotOpt.AOTFileWriter.AOTFileWriter
import AotOpt.Disassembler.RoundTrip
import AotOpt.Vistor.Disassemble

/-!
# Disassemble, then assemble

`test_disassemble_then_assemble`: a block that is disassembled and written at once is
written as the words it was read from.

* `data_visit` — the instructions of a disassembled block, in order.
* `disassemble_then_assemble` — the words that are written, and where.
-/

namespace AotOpt

variable {ι : Type}

/-! ### What is disassembled -/

namespace DisassmbleVistor

/-- The instructions of a block that was disassembled: one for each word, in order. -/
theorem data_visit (aotTb : AOTTB) (code : Code) (x86Addr : BitVec 64) :
    (visit (TB.new aotTb code x86Addr : TB ι)).disInsns.nodes.map (·.data) =
      code.words.map disassemble := by
  rw [nodes_visit, List.map_map]
  conv_rhs => rw [← List.zipIdx_map_fst 0 code.words, List.map_map]
  rfl

end DisassmbleVistor

/-! ### What is assembled -/

namespace TBWriter

/-- The words of a list of instructions, and where they are written. -/
theorem emit_eq : ∀ (nodes : List (ListNode LoongArchInsInfo)) (insnPtr : ℕ),
    emit insnPtr nodes =
      (nodes.map fun n => encode n.data).zipIdx.map fun e => (insnPtr + 4 * e.2, e.1)
  | [], _ => rfl
  | n :: nodes, insnPtr => by
    rw [emit, emit_eq nodes, List.map_cons, List.zipIdx_cons', List.map_cons, List.map_map]
    congr 1
    refine List.map_congr_left fun e _ => ?_
    simp only [Function.comp, Prod.map, Prod.mk.injEq, id_eq, and_true]
    omega

end TBWriter

/-- The word that was disassembled is the word that is assembled. -/
theorem encode_disassemble (insn : BitVec 32) :
    encode (DisassmbleVistor.disassemble insn) = insn :=
  encode_decode insn

/-- **Disassembling a block's code and writing the block** writes the code: the same
words, one after another. -/
theorem disassemble_then_assemble (aotTb : AOTTB) (code : Code) (x86Addr : BitVec 64)
    (insnPtr : ℕ) (targetTb : AOTTB) (w : Writer) :
    (TBWriter.handleAssemble (DisassmbleVistor.visit (TB.new aotTb code x86Addr : TB ι)) insnPtr
      targetTb w).2.buf.code =
      w.buf.code ++ code.words.zipIdx.map fun e => (insnPtr + 4 * e.2, e.1) := by
  have hwords : (DisassmbleVistor.visit (TB.new aotTb code x86Addr : TB ι)).disInsns.nodes.map
      (fun n => encode n.data) = code.words := by
    have h := congrArg (List.map encode) (DisassmbleVistor.data_visit (ι := ι) aotTb code x86Addr)
    rw [List.map_map, List.map_map] at h
    refine h.trans ((List.map_congr_left fun insn _ => encode_disassemble insn).trans ?_)
    exact List.map_id _
  rw [TBWriter.handleAssemble, TBWriter.emit_eq, hwords]

end AotOpt
