import AotOpt.Vistor.FixBranch
import AotOpt.Vistor.LoadImm
import AotOpt.Vistor.MemAddi
import AotOpt.Vistor.RemoveNon
import AotOpt.Vistor.RemoveTail

/-!
# The passes in any order

The seven passes over a single block, run in any order and any number of times on a block
that `pipehole_opt_available` admits. They rely on the branches of the block's slots and on
its `bne`, and each of them leaves these as the others need them.

* `Pass.ordered_visit` — one pass.
* `passes_safe` — any sequence of passes: no assertion fails, no sentinel is taken for an
  instruction, and each valid slot indexes a `b` at the end, so also after every step.
-/

namespace AotOpt

variable {ι : Type}

/-- The passes over a single block. -/
inductive Pass where
  | removeNon
  | lu12iOriLu32i
  | lu12iOri
  | stAddi
  | ldAddi
  | removeTail
  | fixBranch
  deriving DecidableEq

/-- The `visit` of a pass. -/
def Pass.visit (tb : TB ι) : Pass → Res (TB ι)
  | .removeNon => RemoveNonVistor.visit tb
  | .lu12iOriLu32i => Lu12iOriLu32iVistor.visit tb
  | .lu12iOri => Lu12iOriVistor.visit tb
  | .stAddi => StAddiVistor.visit tb
  | .ldAddi => LdAddiVistor.visit tb
  | .removeTail => RemoveTailVistor.visit tb
  | .fixBranch => FixBranchVistor.visit tb

/-- **Each pass** keeps the branches in order. -/
theorem Pass.ordered_visit {tb : TB ι} (h : tb.Ordered) : ∀ pass : Pass,
    ∃ tb', pass.visit tb = .ok tb' ∧ tb'.Ordered
  | .removeNon => RemoveNonVistor.ordered_visit h
  | .lu12iOriLu32i => LoadImm.ordered_visit _ h
  | .lu12iOri => LoadImm.ordered_visit _ h
  | .stAddi => AddiRun.ordered_visit _ h
  | .ldAddi => AddiRun.ordered_visit _ h
  | .removeTail => RemoveTailVistor.ordered_visit h
  | .fixBranch => FixBranchVistor.ordered_visit h

/-- The passes, one after another. -/
def runPasses (tb : TB ι) (passes : List Pass) : Res (TB ι) :=
  passes.foldlM (fun tb pass => pass.visit tb) tb

theorem ordered_runPasses : ∀ (passes : List Pass) {tb : TB ι}, tb.Ordered →
    ∃ tb', runPasses tb passes = .ok tb' ∧ tb'.Ordered
  | [], tb, h => ⟨tb, rfl, h⟩
  | pass :: passes, tb, h => by
    obtain ⟨tb₁, hok₁, h₁⟩ := pass.ordered_visit h
    obtain ⟨tb', hok, h'⟩ := ordered_runPasses passes h₁
    refine ⟨tb', ?_, h'⟩
    rw [runPasses, List.foldlM_cons, hok₁]
    exact hok

/-- Each valid slot's `jmp_target_arg` indexes an `OPC_B`. -/
def TB.SlotsAtB (tb : TB ι) : Prop :=
  ∀ j, tb.originAotTb.slotValid j → ∃ n : ListNode LoongArchInsInfo,
    tb.disInsns.nodes[(tb.originAotTb.jmpTargetArg j).toNat / 4]? = some n ∧ n.data.opc = .OPC_B

/-- If both slots are valid, no `OPC_B` stands in front of an `OPC_BNE`. -/
def TB.BneFirst (tb : TB ι) : Prop :=
  tb.originAotTb.slotValid 0 → tb.originAotTb.slotValid 1 →
    ∀ k l, tb.opcAt k = some .OPC_BNE → tb.opcAt l = some .OPC_B → k < l

open DisassmbleVistor in
/-- **Any sequence of passes** on a block that was disassembled and admitted, whatever its
relocations and links: no pass stops, and every valid slot indexes a `b` afterwards. What the
block is after one of the steps is what a shorter sequence makes of it. -/
theorem passes_safe (tb : TB ι) (hblank : tb.Blank) (ha : (startTB tb).pipeholeAvailable = true)
    (hbne : (startTB tb).BneFirst) (passes : List Pass) :
    ∃ tb', runPasses (startTB tb) passes = .ok tb' ∧ tb'.SlotsAtB := by
  obtain ⟨tb', hok, h'⟩ := ordered_runPasses passes (ordered_startTB hblank ha hbne)
  exact ⟨tb', hok, fun j hj => TB.opcAt_eq_some.mp (h'.slot j hj)⟩

open DisassmbleVistor in
/-- Four passes over a `bne` and two `b`s. -/
theorem passes_safe_bne_b_b :
    let tb : TB ℕ := .new { (default : AOTTB) with jmpTargetArg := fun j => if j = 0 then 4 else 8 }
      ⟨12, [0x5c000000, 0x50000000, 0x50000000], rfl⟩ 0
    ∃ tb', runPasses (startTB tb) [.removeNon, .stAddi, .removeTail, .fixBranch] = .ok tb' ∧
      tb'.SlotsAtB := by
  intro tb
  refine passes_safe tb (TB.blank_new _ _ _) (by decide) ?_ _
  have hnodes : (startTB tb).disInsns.nodes =
      [⟨0, disassemble 0x5c000000⟩, ⟨1, disassemble 0x50000000⟩, ⟨2, disassemble 0x50000000⟩] :=
    nodes_visit _ _ _
  have hopc : ∀ k, (startTB tb).opcAt k =
      ([LoongArchOpc.OPC_BNE, .OPC_B, .OPC_B] : List LoongArchOpc)[k]? := by
    intro k
    rw [TB.opcAt, hnodes, ← List.getElem?_map]
    congr 1
  intro _ _ k l hk hl
  rw [hopc] at hk hl
  rcases k with _ | _ | _ | k
  · cases l with
    | zero => cases hl
    | succ l => omega
  · cases hk
  · cases hk
  · cases hk

end AotOpt
