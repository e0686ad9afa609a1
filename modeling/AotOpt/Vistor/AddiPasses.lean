import AotOpt.Vistor.AddiMeaning
import AotOpt.Vistor.Disassemble

/-!
# When the two passes keep what a block computes

The offsets of the accesses grow as if the base register stayed where it was, so an access may
not read or write the base register itself, unless it is the first of its chunk, and the base
register may not be `$zero`, which an addition does not move.

* `StAddiVistor.sameStraight_visit`, `LdAddiVistor.sameStraight_visit` — then the code up to
  the first `b` or `bne` computes what it computed; and in a block with one run it does so only
  then.
-/

namespace AotOpt

open Lib DisassmbleVistor

variable {ι σ : Type}

section TwoPairs

/-- A disassembled block without successors: two accesses, each with an addition behind it, and a
`b`. -/
def twoPairs (access addi access' : BitVec 32) : TB ℕ :=
  startTB (.new { (default : AOTTB) with jmpResetOffsets := fun _ => TB_JMP_RESET_OFFSET_INVALID }
    ⟨20, [access, addi, access', addi, 0x50000000], show 5 = _ from rfl⟩ 0)

/-- Its run. -/
def twoPairsRun (access addi access' : BitVec 32) :
    List (ListNode LoongArchInsInfo × ListNode LoongArchInsInfo) :=
  [(⟨0, disassemble access⟩, ⟨1, disassemble addi⟩), (⟨2, disassemble access'⟩, ⟨3, disassemble addi⟩)]

theorem nodes_twoPairs (access addi access' : BitVec 32) :
    (twoPairs access addi access').disInsns.nodes =
      [⟨0, disassemble access⟩, ⟨1, disassemble addi⟩, ⟨2, disassemble access'⟩, ⟨3, disassemble addi⟩,
        ⟨4, disassemble 0x50000000⟩] :=
  nodes_visit _ _ _

theorem pieces_twoPairs {P : AddiRun} {a d b : BitVec 32}
    (h : P.isPattern [⟨0, disassemble a⟩, ⟨1, disassemble d⟩] = true)
    (h' : P.isPattern [⟨2, disassemble b⟩, ⟨3, disassemble d⟩] = true)
    (hbase : (disassemble b).srcsRegs 0 = (disassemble a).srcsRegs 0) :
    P.pieces (twoPairs a d b).disInsns.nodes = [.run (twoPairsRun a d b)] := by
  obtain ⟨_, _, _, heq, hplain, -⟩ := P.isPattern_cases h
  obtain ⟨rfl, -⟩ := List.cons.inj heq
  have hcount : 1 + P.countPairs ((disassemble a).srcsRegs 0)
      [⟨2, disassemble b⟩, ⟨3, disassemble d⟩, ⟨4, disassemble 0x50000000⟩] = 2 := by
    rw [AddiRun.countPairs, if_pos]
    · rfl
    · rw [Bool.and_eq_true]
      exact ⟨h', decide_eq_true hbase⟩
  have hpat : P.isPattern [⟨0, disassemble a⟩, ⟨1, disassemble d⟩, ⟨2, disassemble b⟩,
      ⟨3, disassemble d⟩, ⟨4, disassemble 0x50000000⟩] = true := h
  rw [nodes_twoPairs, AddiRun.pieces, if_neg (by rw [hplain]; exact Bool.false_ne_true), if_pos hpat]
  simp only [List.drop_succ_cons, List.drop_zero, hcount]
  rw [AddiRun.pieces, if_pos (show isBOrBne (disassemble 0x50000000).opc = true by decide)]
  rfl

theorem oneRun_twoPairs {P : AddiRun} {a d b : BitVec 32}
    (h : P.pieces (twoPairs a d b).disInsns.nodes = [.run (twoPairsRun a d b)]) (hmax : 2 ≤ P.max) :
    P.OneRun (twoPairs a d b).disInsns.nodes (twoPairsRun a d b) :=
  ⟨⟨[], [], h, by simp⟩, le_rfl, hmax⟩

end TwoPairs

namespace StAddiVistor

theorem fits_stAddi : stAddi.Fits where
  opc_ne := by decide
  two_le_max := by decide
  si_ne := by decide
  si_eq := rfl
  access k h := by
    change k < 256 at h
    change -2048 ≤ (1 + k) * (-8 : ℤ) ∧ (1 + k) * (-8 : ℤ) < 2048
    omega
  add k h := by
    change k ≤ 256 at h
    change -2048 ≤ k * (-8 : ℤ) ∧ k * (-8 : ℤ) < 2048
    omega

/-- The base register can be moved after the `st.d`. -/
def Postponable (insn : LoongArchInsInfo) : Prop :=
  insn.srcsRegs 0 ≠ 0 ∧ insn.dstReg ≠ insn.srcsRegs 0

theorem Postponable.movable {insn : LoongArchInsInfo} (h : Postponable insn) :
    Machine.Movable (@storeD σ) (insn.srcsRegs 0) insn.dstReg :=
  .inl ⟨h.1, fun _ m => ⟨rfl, fun v => by
    rw [storeD, Machine.get_set_of_ne h.2, Machine.store_set, storeD]⟩⟩

/-- Where the store with index `k` of a run goes, if its base register holds 0. -/
def slot (k : ℕ) : BitVec 64 := -BitVec.ofNat 64 (8 * (k + 1))

theorem load_store_slot {j k : ℕ} (h : j ≠ k) (hj : j < 256) (hk : k < 256) (v : BitVec 64)
    (m : Cpu σ) : (m.store (slot j) v).load (slot k) = m.load (slot k) := by
  have hapart : ∀ {j k : ℕ}, j ≠ k → j < 256 → k < 256 → 8 ≤ (slot j - slot k).toNat := by
    intro j k h hj hk
    unfold slot
    bv_omega
  exact Machine.load_store_of_apart (hapart h hj hk) (hapart h.symm hk hj) v

/-- What the slots hold after a run that moves its base register once. -/
theorem load_moveOnce {reg : BitVec 8} : ∀ (as : List (BitVec 8)) {j : ℕ} {m : Cpu σ},
    m.get reg = 0 → j + as.length ≤ 256 →
    (∀ k < j, (Machine.moveOnce storeD reg (BitVec.ofInt 64 (-8)) (BitVec.ofInt 64 (-8))
      (-BitVec.ofNat 64 (8 * j)) as m).load (slot k) = m.load (slot k)) ∧
    ∀ (i : ℕ) (hi : i < as.length), (Machine.moveOnce storeD reg (BitVec.ofInt 64 (-8))
      (BitVec.ofInt 64 (-8)) (-BitVec.ofNat 64 (8 * j)) as m).load (slot (j + i)) = m.get as[i]
  | [], j, m, _, _ => by simp [Machine.moveOnce]
  | a :: as, j, m, h, hlen => by
    rw [List.length_cons] at hlen
    have haddr : m.get reg + (-BitVec.ofNat 64 (8 * j) + BitVec.ofInt 64 (-8)) = slot j := by
      rw [h, slot]
      bv_omega
    have hnext : -BitVec.ofNat 64 (8 * j) + BitVec.ofInt 64 (-8) = -BitVec.ofNat 64 (8 * (j + 1)) := by
      bv_omega
    have ih := load_moveOnce as (j := j + 1) (m := m.store (slot j) (m.get a)) h (by omega)
    rw [Machine.moveOnce, haddr, hnext]
    refine ⟨fun k hk => ?_, fun i hi => ?_⟩
    · exact (ih.1 k (by omega)).trans (load_store_slot (by omega) (by omega) (by omega) _ _)
    · cases i with
      | zero => exact (ih.1 j (by omega)).trans (Machine.load_store_self _ _)
      | succ i =>
        have := ih.2 i (by simpa using hi)
        rwa [show j + 1 + i = j + (i + 1) by omega] at this

/-- What the slots hold after a run that moves its base register each time: a store of the base
register stores how far it has been moved. -/
theorem load_moveEach {reg : BitVec 8} (hreg : reg ≠ 0) : ∀ (as : List (BitVec 8)) {j : ℕ}
    {m : Cpu σ},
    m.get reg = -BitVec.ofNat 64 (8 * j) → j + as.length ≤ 256 →
    (∀ k < j, (Machine.moveEach storeD reg (BitVec.ofInt 64 (-8)) (BitVec.ofInt 64 (-8)) as m).load
      (slot k) = m.load (slot k)) ∧
    ∀ (i : ℕ) (hi : i < as.length), as[i] = reg →
      (Machine.moveEach storeD reg (BitVec.ofInt 64 (-8)) (BitVec.ofInt 64 (-8)) as m).load
        (slot (j + i)) = -BitVec.ofNat 64 (8 * (j + i))
  | [], j, m, _, _ => by simp [Machine.moveEach]
  | a :: as, j, m, h, hlen => by
    rw [List.length_cons] at hlen
    have haddr : m.get reg + BitVec.ofInt 64 (-8) = slot j := by
      rw [h, slot]
      bv_omega
    have hbase : ((m.store (slot j) (m.get a)).set reg (slot j)).get reg =
        -BitVec.ofNat 64 (8 * (j + 1)) := Machine.get_set_self hreg _
    have ih := load_moveEach hreg as hbase (by omega)
    have hstep : Machine.moveEach storeD reg (BitVec.ofInt 64 (-8)) (BitVec.ofInt 64 (-8)) (a :: as) m =
        Machine.moveEach storeD reg (BitVec.ofInt 64 (-8)) (BitVec.ofInt 64 (-8)) as
          ((m.store (slot j) (m.get a)).set reg (slot j)) := by
      rw [Machine.moveEach, haddr, storeD, Machine.get_store, haddr]
    rw [hstep]
    refine ⟨fun k hk => ?_, fun i hi heq => ?_⟩
    · rw [ih.1 k (by omega), Machine.load_set]
      exact load_store_slot (by omega) (by omega) (by omega) _ _
    · cases i with
      | zero =>
        rw [List.getElem_cons_zero] at heq
        rw [Nat.add_zero, ih.1 j (by omega), Machine.load_set, Machine.load_store_self, heq, h]
      | succ i =>
        have := ih.2 i (by simpa using hi) (by simpa using heq)
        rwa [show j + 1 + i = j + (i + 1) by omega] at this

/-- A run over `$zero` stores to one place. -/
theorem load_moveEach_zero : ∀ (as : List (BitVec 8)) (m : Cpu σ),
    (Machine.moveEach storeD 0 (BitVec.ofInt 64 (-8)) (BitVec.ofInt 64 (-8)) as m).load (slot 1) =
      m.load (slot 1)
  | [], m => rfl
  | a :: as, m => by
    rw [Machine.moveEach, Machine.get_zero, Machine.set_zero]
    exact (load_moveEach_zero as _).trans (load_store_slot (j := 0) (by decide) (by decide) (by decide) _ _)

/-- **The converse** for one chunk. -/
theorem ne_of_moveOnce_eq {reg : BitVec 8} {as : List (BitVec 8)} (htwo : 2 ≤ as.length)
    (hlen : as.length ≤ 256)
    (h : ∀ m : Cpu Unit,
      Machine.moveOnce storeD reg (BitVec.ofInt 64 (-8)) (BitVec.ofInt 64 (-8)) 0 as m =
        Machine.moveEach storeD reg (BitVec.ofInt 64 (-8)) (BitVec.ofInt 64 (-8)) as m) :
    reg ≠ 0 ∧ ∀ (k : ℕ) (hk : k < as.length), k ≠ 0 → as[k] ≠ reg := by
  have hm := h ⟨fun _ => 0, fun _ => 0xff, ()⟩
  generalize hm₀ : (⟨fun _ => 0, fun _ => 0xff, ()⟩ : Cpu Unit) = m₀ at hm
  have hget : ∀ r, m₀.get r = 0 := fun r => by rw [← hm₀]; exact ite_self _
  have honce : ∀ (k : ℕ) (hk : k < as.length), (Machine.moveOnce storeD reg (BitVec.ofInt 64 (-8))
      (BitVec.ofInt 64 (-8)) 0 as m₀).load (slot k) = 0 := by
    intro k hk
    have := (load_moveOnce as (j := 0) (hget reg) (by omega)).2 k hk
    rwa [Nat.zero_add, hget] at this
  have hreg : reg ≠ 0 := by
    rintro rfl
    have h0 := honce 1 (by omega)
    rw [hm, load_moveEach_zero, ← hm₀] at h0
    exact absurd h0 (by decide)
  refine ⟨hreg, fun k hk hk0 heq => ?_⟩
  have hk' := (load_moveEach hreg as (j := 0) (m := m₀) (hget reg) (by omega)).2 k hk heq
  rw [← hm, Nat.zero_add, honce k hk] at hk'
  bv_omega

theorem goodRuns_of_sameStraight {tb tb' : TB ι}
    {ps : List (ListNode LoongArchInsInfo × ListNode LoongArchInsInfo)} (h : visit tb = .ok tb')
    (hrels : ∀ r ∈ tb.rels, r.valid = false) (hone : stAddi.OneRun tb.disInsns.nodes ps)
    (hsame : stAddi.SameStraight storeD tb.disInsns.nodes tb'.disInsns.nodes) :
    stAddi.GoodRuns Postponable tb.disInsns.nodes := by
  obtain ⟨reg, hpairs, hmove⟩ := AddiRun.moveOnce_eq_of_sameStraight fits_stAddi h
    (AddiRun.accepts_of_not_valid hrels) hone hsame
  have hlen : (AddiRun.rds ps).length = ps.length := List.length_map _
  obtain ⟨hreg, hne⟩ := ne_of_moveOnce_eq (hlen ▸ hone.two_le) (hlen ▸ hone.le_max) hmove
  refine hone.goodRuns fun k hk hk0 => ?_
  have hbase := (hpairs _ (List.getElem_mem hk)).base
  refine ⟨hbase ▸ hreg, ?_⟩
  rw [hbase]
  simpa [AddiRun.rds] using hne k (hlen ▸ hk) hk0

/-- **`st.d` and `addi.d`**: without valid relocations the code up to the first `b` or `bne`
computes what it computed if no run is over `$zero` and no run stores its base register, other than
first in a chunk; and if the block has one run, only then. -/
theorem stAddi_sameStraight_iff (tb : TB ι) (hrels : ∀ r ∈ tb.rels, r.valid = false) :
    ∃ tb', visit tb = .ok tb' ∧
      (stAddi.GoodRuns Postponable tb.disInsns.nodes →
        stAddi.SameStraight storeD tb.disInsns.nodes tb'.disInsns.nodes) ∧
      ∀ ps, stAddi.OneRun tb.disInsns.nodes ps →
        (stAddi.SameStraight storeD tb.disInsns.nodes tb'.disInsns.nodes ↔
          stAddi.GoodRuns Postponable tb.disInsns.nodes) := by
  obtain ⟨tb', -, hok, -⟩ := stAddi.visit_eq tb
  have hsame : stAddi.GoodRuns Postponable tb.disInsns.nodes →
      stAddi.SameStraight storeD tb.disInsns.nodes tb'.disInsns.nodes :=
    AddiRun.sameStraight_visit fits_stAddi (fun _ h => h.movable) hok
      (AddiRun.accepts_of_not_valid hrels)
  exact ⟨tb', hok, hsame, fun _ hone => ⟨goodRuns_of_sameStraight hok hrels hone, hsame⟩⟩

/-- `st.d $a0, $sp, -8; addi.d $sp, $sp, -8; st.d $a1, $sp, -8; addi.d $sp, $sp, -8`. -/
def pushTwo : TB ℕ := twoPairs 0x29ffe064 0x02ffe063 0x29ffe065

theorem pieces_pushTwo : stAddi.pieces pushTwo.disInsns.nodes =
    [.run (twoPairsRun 0x29ffe064 0x02ffe063 0x29ffe065)] :=
  pieces_twoPairs (by decide) (by decide) (by decide)

theorem goodRuns_pushTwo : stAddi.GoodRuns Postponable pushTwo.disInsns.nodes := by
  refine (oneRun_twoPairs pieces_pushTwo (by decide)).goodRuns fun k hk hk0 => ?_
  obtain rfl : k = 1 := by
    change k < 2 at hk
    omega
  exact (show Postponable (disassemble 0x29ffe065) from ⟨by decide, by decide⟩)

theorem stAddi_sameStraight_pushTwo : ∃ tb', visit pushTwo = .ok tb' ∧
    stAddi.SameStraight storeD pushTwo.disInsns.nodes tb'.disInsns.nodes := by
  obtain ⟨tb', hok, hsame, -⟩ := stAddi_sameStraight_iff pushTwo fun _ h => by cases h
  exact ⟨tb', hok, hsame goodRuns_pushTwo⟩

/-- `st.d $a0, $sp, -8; addi.d $sp, $sp, -8; st.d $sp, $sp, -8; addi.d $sp, $sp, -8`. -/
def pushSelf : TB ℕ := twoPairs 0x29ffe064 0x02ffe063 0x29ffe063

/-- What is stored of `$sp` is not what it was. -/
theorem stAddi_stores_base : pushSelf.pipeholeAvailable = true ∧ pushSelf.rels = [] ∧
    ∃ tb', visit pushSelf = .ok tb' ∧
      ¬stAddi.SameStraight storeD pushSelf.disInsns.nodes tb'.disInsns.nodes := by
  obtain ⟨tb', -, hok, -⟩ := stAddi.visit_eq pushSelf
  have hpieces : stAddi.pieces pushSelf.disInsns.nodes = _ :=
    pieces_twoPairs (by decide) (by decide) (by decide)
  have hone := oneRun_twoPairs hpieces (by decide)
  refine ⟨by decide, rfl, tb', hok, fun hsame => ?_⟩
  have hgood := goodRuns_of_sameStraight hok (fun _ h => by cases h) hone hsame
  have hself := hgood _ hone.mem_pieces le_rfl 1 (by decide) (by decide)
  exact absurd rfl hself.2

end StAddiVistor

namespace LdAddiVistor

theorem fits_ldAddi : ldAddi.Fits where
  opc_ne := by decide
  two_le_max := by decide
  si_ne := by decide
  si_eq := rfl
  access k h := by
    change k < 255 at h
    change -2048 ≤ (0 + k) * (8 : ℤ) ∧ (0 + k) * (8 : ℤ) < 2048
    omega
  add k h := by
    change k ≤ 255 at h
    change -2048 ≤ k * (8 : ℤ) ∧ k * (8 : ℤ) < 2048
    omega

/-- The base register can be moved after the `ld.d`. -/
def Postponable (insn : LoongArchInsInfo) : Prop :=
  if insn.srcsRegs 0 = 0 then insn.dstReg = 0 else insn.dstReg ≠ insn.srcsRegs 0

theorem Postponable.movable {insn : LoongArchInsInfo} (h : Postponable insn) :
    Machine.Movable (@loadD σ) (insn.srcsRegs 0) insn.dstReg := by
  rw [Postponable] at h
  split_ifs at h with h0
  · exact .inr ⟨h0, fun x m => by rw [loadD, h, Machine.set_zero]⟩
  · refine .inl ⟨h0, fun x m => ⟨Machine.get_set_of_ne h.symm _, fun v => ?_⟩⟩
    rw [loadD, Machine.load_set, Machine.set_comm h.symm, loadD]

/-- In a memory of zeros a load of the base register sets it back to 0. How far it gets when it is
moved each time is `p`, and it is as far as when it is moved once only if it is not loaded after it
has been moved. -/
theorem get_zeros {reg : BitVec 8} (hreg : reg ≠ 0) : ∀ (as : List (BitVec 8)) {p x : ℕ}
    {m m' : Cpu σ}, m.mem = (fun _ => 0) → m'.mem = (fun _ => 0) → m.get reg = BitVec.ofNat 64 (8 * p) →
    m'.get reg = 0 → p ≤ x → ∃ p', p' ≤ x + as.length ∧
      (Machine.moveEach loadD reg (BitVec.ofInt 64 0) (BitVec.ofInt 64 8) as m).get reg =
        BitVec.ofNat 64 (8 * p') ∧
      (Machine.moveOnce loadD reg (BitVec.ofInt 64 0) (BitVec.ofInt 64 8) (BitVec.ofNat 64 (8 * x)) as
        m').get reg = BitVec.ofNat 64 (8 * (x + as.length)) ∧
      ((p < x ∨ ∃ (i : ℕ) (hi : i < as.length), as[i] = reg ∧ 1 ≤ x + i) → p' < x + as.length)
  | [], p, x, m, m', _, _, h, h', hle => by
    refine ⟨p, hle, h, ?_, ?_⟩
    · rw [Machine.moveOnce, Machine.get_set_self hreg, h']
      exact BitVec.zero_add _
    · rintro (hlt | ⟨i, hi, -⟩)
      · exact hlt
      · cases hi
  | a :: as, p, x, m, m', hm, hm', h, h', hle => by
    have hload : ∀ b, m.load b = 0 := fun b => by
      simp only [Machine.load, hm]
      decide
    have hload' : ∀ b, m'.load b = 0 := fun b => by
      simp only [Machine.load, hm']
      decide
    have hnext : BitVec.ofNat 64 (8 * x) + BitVec.ofInt 64 8 = BitVec.ofNat 64 (8 * (x + 1)) := by
      bv_omega
    -- how far the register is moved each time after this pair
    obtain ⟨p₁, hp₁, hget⟩ : ∃ p₁, (p₁ = if a = reg then 1 else p + 1) ∧
        (m.set a 0).get reg + BitVec.ofInt 64 8 = BitVec.ofNat 64 (8 * p₁) := by
      refine ⟨_, rfl, ?_⟩
      split_ifs with ha
      · rw [ha, Machine.get_set_self hreg]
        rfl
      · rw [Machine.get_set_of_ne (Ne.symm ha), h]
        bv_omega
    have hget' : (m'.set a 0).get reg = 0 := by
      by_cases ha : reg = a
      · rw [← ha, Machine.get_set_self hreg]
      · rw [Machine.get_set_of_ne ha, h']
    have hle₁ : p₁ ≤ x + 1 := by
      rw [hp₁]
      split_ifs <;> omega
    obtain ⟨p', hp', heach, honce, hlt⟩ := get_zeros hreg as
      (show ((m.set a 0).set reg (BitVec.ofNat 64 (8 * p₁))).mem = _ by
        rw [Machine.mem_set, Machine.mem_set, hm])
      (show (m'.set a 0).mem = _ by rw [Machine.mem_set, hm']) (Machine.get_set_self hreg _) hget' hle₁
    have hlen : x + (a :: as).length = x + 1 + as.length := by
      rw [List.length_cons]
      omega
    refine ⟨p', by omega, ?_, ?_, fun hor => ?_⟩
    · rw [Machine.moveEach, loadD, hload, hget]
      exact heach
    · rw [Machine.moveOnce, loadD, hload', hnext, hlen]
      exact honce
    · have hor₁ : p₁ < x + 1 ∨ ∃ (i : ℕ) (hi : i < as.length), as[i] = reg ∧ 1 ≤ x + 1 + i := by
        rcases hor with hpx | ⟨i, hi, heq, hxi⟩
        · left
          rw [hp₁]
          split_ifs <;> omega
        · cases i with
          | zero =>
            left
            rw [hp₁, if_pos (by simpa using heq)]
            omega
          | succ i => exact .inr ⟨i, by simpa using hi, by simpa using heq, by omega⟩
      have := hlt hor₁
      omega

/-- Zeros in the first eight bytes, ones behind. -/
def onesBehind (a : BitVec 64) : BitVec 8 := if a.toNat < 8 then 0 else 1

/-- A run over `$zero` loads from one place. -/
theorem get_moveEach_zero : ∀ (as : List (BitVec 8)) {m : Cpu σ}, m.mem = onesBehind →
    (∀ s, m.get s = 0) →
    ∀ s, (Machine.moveEach loadD 0 (BitVec.ofInt 64 0) (BitVec.ofInt 64 8) as m).get s = 0
  | [], _, _, h, s => h s
  | a :: as, m, hm, h, s => by
    have hload : m.load (BitVec.ofInt 64 0) = 0 := by
      simp only [Machine.load, hm]
      decide
    rw [Machine.moveEach, Machine.get_zero, Machine.set_zero, loadD,
      show 0 + BitVec.ofInt 64 0 = BitVec.ofInt 64 0 from BitVec.zero_add _, hload]
    refine get_moveEach_zero as (by rw [Machine.mem_set, hm]) (fun r => ?_) s
    by_cases hr : r = a
    · rw [hr, ← h a, Machine.set_get, h]
    · rw [Machine.get_set_of_ne hr, h]

/-- When the offsets grow it loads from elsewhere. -/
theorem get_moveOnce_zero {s : BitVec 8} (hs : s ≠ 0) : ∀ (as : List (BitVec 8)) {x : ℕ} {m : Cpu σ},
    m.mem = onesBehind → x + as.length ≤ 256 →
    (1 ≤ x ∧ m.get s ≠ 0 ∨ ∃ (i : ℕ) (hi : i < as.length), as[i] = s ∧ 1 ≤ x + i) →
    (Machine.moveOnce loadD 0 (BitVec.ofInt 64 0) (BitVec.ofInt 64 8) (BitVec.ofNat 64 (8 * x)) as
      m).get s ≠ 0
  | [], x, m, _, _, h => by
    rcases h with h | ⟨i, hi, -⟩
    · rw [Machine.moveOnce, Machine.set_zero]
      exact h.2
    · cases hi
  | a :: as, x, m, hm, hlen, h => by
    rw [List.length_cons] at hlen
    have haddr : m.get 0 + (BitVec.ofNat 64 (8 * x) + BitVec.ofInt 64 0) = BitVec.ofNat 64 (8 * x) := by
      rw [Machine.get_zero]
      bv_omega
    have hnext : BitVec.ofNat 64 (8 * x) + BitVec.ofInt 64 8 = BitVec.ofNat 64 (8 * (x + 1)) := by
      bv_omega
    have hload : 1 ≤ x → m.load (BitVec.ofNat 64 (8 * x)) ≠ 0 := by
      intro hx
      have hones : ∀ k : BitVec 64, k.toNat < 8 → m.mem (BitVec.ofNat 64 (8 * x) + k) = 1 := by
        intro k hk
        rw [hm, onesBehind, if_neg]
        bv_omega
      have h0 := hones 0#64 (by decide)
      rw [BitVec.add_zero] at h0
      rw [Machine.load, hones 1 (by decide), hones 2 (by decide), hones 3 (by decide),
        hones 4 (by decide), hones 5 (by decide), hones 6 (by decide), hones 7 (by decide), h0]
      decide
    rw [Machine.moveOnce, loadD, haddr, hnext]
    refine get_moveOnce_zero hs as (by rw [Machine.mem_set, hm]) (by omega) ?_
    have hset : 1 ≤ x → (m.get s ≠ 0 ∨ a = s) →
        (m.set a (m.load (BitVec.ofNat 64 (8 * x)))).get s ≠ 0 := by
      intro hx hor
      by_cases ha : s = a
      · rw [← ha, Machine.get_set_self hs]
        exact hload hx
      · rw [Machine.get_set_of_ne ha]
        exact hor.resolve_right (Ne.symm ha)
    rcases h with ⟨hx, hget⟩ | ⟨i, hi, heq, hxi⟩
    · exact .inl ⟨by omega, hset hx (.inl hget)⟩
    · cases i with
      | zero => exact .inl ⟨by omega, hset hxi (.inr heq)⟩
      | succ i => exact .inr ⟨i, by simpa using hi, by simpa using heq, by omega⟩

/-- **The converse** for one chunk. -/
theorem ne_of_moveOnce_eq {reg : BitVec 8} {as : List (BitVec 8)} (hlen : as.length ≤ 255)
    (h : ∀ m : Cpu Unit,
      Machine.moveOnce loadD reg (BitVec.ofInt 64 0) (BitVec.ofInt 64 8) 0 as m =
        Machine.moveEach loadD reg (BitVec.ofInt 64 0) (BitVec.ofInt 64 8) as m) (k : ℕ)
    (hk : k < as.length) (hk0 : k ≠ 0) : if reg = 0 then as[k] = 0 else as[k] ≠ reg := by
  split_ifs with hreg
  · subst hreg
    by_contra hne
    have hm := h ⟨fun _ => 0, onesBehind, ()⟩
    have hzero : ∀ s, (⟨fun _ => 0, onesBehind, ()⟩ : Cpu Unit).get s = 0 := fun _ => ite_self _
    have honce := get_moveOnce_zero (x := 0) (m := ⟨fun _ => 0, onesBehind, ()⟩) hne as rfl (by omega)
      (.inr ⟨k, hk, rfl, by omega⟩)
    rw [show BitVec.ofNat 64 (8 * 0) = 0 from rfl, hm] at honce
    exact honce (get_moveEach_zero as rfl hzero _)
  · intro heq
    have hm := h ⟨fun _ => 0, fun _ => 0, ()⟩
    have hzero : (⟨fun _ => 0, fun _ => 0, ()⟩ : Cpu Unit).get reg = 0 := ite_self _
    obtain ⟨p', hp', heach, honce, hlt⟩ := get_zeros hreg as (p := 0) (x := 0) rfl rfl hzero hzero
      le_rfl
    have hlt := hlt (.inr ⟨k, hk, heq, by omega⟩)
    rw [show BitVec.ofNat 64 (8 * 0) = 0 from rfl, hm, heach] at honce
    bv_omega

theorem goodRuns_of_sameStraight {tb tb' : TB ι}
    {ps : List (ListNode LoongArchInsInfo × ListNode LoongArchInsInfo)} (h : visit tb = .ok tb')
    (hrels : ∀ r ∈ tb.rels, r.valid = false) (hone : ldAddi.OneRun tb.disInsns.nodes ps)
    (hsame : ldAddi.SameStraight loadD tb.disInsns.nodes tb'.disInsns.nodes) :
    ldAddi.GoodRuns Postponable tb.disInsns.nodes := by
  obtain ⟨reg, hpairs, hmove⟩ := AddiRun.moveOnce_eq_of_sameStraight fits_ldAddi h
    (AddiRun.accepts_of_not_valid hrels) hone hsame
  have hlen : (AddiRun.rds ps).length = ps.length := List.length_map _
  refine hone.goodRuns fun k hk hk0 => ?_
  have hbase := (hpairs _ (List.getElem_mem hk)).base
  have hne := ne_of_moveOnce_eq (hlen ▸ hone.le_max) hmove k (hlen ▸ hk) hk0
  rw [Postponable, hbase]
  simpa [AddiRun.rds] using hne

/-- **`ld.d` and `addi.d`**: without valid relocations the code up to the first `b` or `bne`
computes what it computed if no run loads its base register, other than first in a chunk, or, where
that is `$zero`, loads no other register there; and if the block has one run, only then. -/
theorem ldAddi_sameStraight_iff (tb : TB ι) (hrels : ∀ r ∈ tb.rels, r.valid = false) :
    ∃ tb', visit tb = .ok tb' ∧
      (ldAddi.GoodRuns Postponable tb.disInsns.nodes →
        ldAddi.SameStraight loadD tb.disInsns.nodes tb'.disInsns.nodes) ∧
      ∀ ps, ldAddi.OneRun tb.disInsns.nodes ps →
        (ldAddi.SameStraight loadD tb.disInsns.nodes tb'.disInsns.nodes ↔
          ldAddi.GoodRuns Postponable tb.disInsns.nodes) := by
  obtain ⟨tb', -, hok, -⟩ := ldAddi.visit_eq tb
  have hsame : ldAddi.GoodRuns Postponable tb.disInsns.nodes →
      ldAddi.SameStraight loadD tb.disInsns.nodes tb'.disInsns.nodes :=
    AddiRun.sameStraight_visit fits_ldAddi (fun _ h => h.movable) hok
      (AddiRun.accepts_of_not_valid hrels)
  exact ⟨tb', hok, hsame, fun _ hone => ⟨goodRuns_of_sameStraight hok hrels hone, hsame⟩⟩

/-- `ld.d $a0, $sp, 0; addi.d $sp, $sp, 8; ld.d $a1, $sp, 0; addi.d $sp, $sp, 8`. -/
def popTwo : TB ℕ := twoPairs 0x28c00064 0x02c02063 0x28c00065

theorem ldAddi_sameStraight_popTwo : ∃ tb', visit popTwo = .ok tb' ∧
    ldAddi.SameStraight loadD popTwo.disInsns.nodes tb'.disInsns.nodes := by
  obtain ⟨tb', hok, hsame, -⟩ := ldAddi_sameStraight_iff popTwo fun _ h => by cases h
  have hpieces : ldAddi.pieces popTwo.disInsns.nodes = _ :=
    pieces_twoPairs (by decide) (by decide) (by decide)
  refine ⟨tb', hok, hsame ((oneRun_twoPairs hpieces (by decide)).goodRuns fun k hk hk0 => ?_)⟩
  obtain rfl : k = 1 := by
    change k < 2 at hk
    omega
  show if (disassemble 0x28c00065).srcsRegs 0 = 0 then _ else _
  rw [if_neg (by decide)]
  exact (show (disassemble 0x28c00065).dstReg ≠ (disassemble 0x28c00065).srcsRegs 0 by decide)

/-- `ld.d $a0, $sp, 0; addi.d $sp, $sp, 8; ld.d $sp, $sp, 0; addi.d $sp, $sp, 8`. -/
def popSelf : TB ℕ := twoPairs 0x28c00064 0x02c02063 0x28c00063

/-- `$sp` ends up 16 behind what is loaded, not 8. -/
theorem ldAddi_loads_base : popSelf.pipeholeAvailable = true ∧ popSelf.rels = [] ∧
    ∃ tb', visit popSelf = .ok tb' ∧
      ¬ldAddi.SameStraight loadD popSelf.disInsns.nodes tb'.disInsns.nodes := by
  obtain ⟨tb', -, hok, -⟩ := ldAddi.visit_eq popSelf
  have hpieces : ldAddi.pieces popSelf.disInsns.nodes = _ :=
    pieces_twoPairs (by decide) (by decide) (by decide)
  have hone := oneRun_twoPairs hpieces (by decide)
  refine ⟨by decide, rfl, tb', hok, fun hsame => ?_⟩
  have hgood := goodRuns_of_sameStraight hok (fun _ h => by cases h) hone hsame
  have hself := hgood _ hone.mem_pieces le_rfl 1 (by decide) (by decide)
  change if (disassemble 0x28c00063).srcsRegs 0 = 0 then _ else _ at hself
  rw [if_neg (by decide)] at hself
  exact absurd rfl hself

end LdAddiVistor

end AotOpt
