import Mathlib.Algebra.Order.Ring.Int
import Mathlib.Logic.Function.Basic
import Mathlib.Tactic.SplitIfs

/-!
# Straight-line code

A machine with 64-bit registers, one of which is hardwired to zero, and byte memory with 64-bit
addresses, and the execution of instructions one after another (`exec`). What an instruction
does is a parameter. Registers and memory are changed by `set` and `store` only, and the lemmas
say how these commute.

* `moveEach_eq_moveOnce` — accesses that each move their base register on can be made with
  growing offsets, the register moved once in the end.
-/

namespace AotOpt.Lib

/-- Registers, memory and whatever else the state has. -/
@[ext]
structure Machine (ρ σ : Type) where
  regs : ρ → BitVec 64
  mem : BitVec 64 → BitVec 8
  rest : σ

namespace Machine

variable {ρ σ α : Type}

/-- One instruction after another. -/
def exec (step : α → Machine ρ σ → Machine ρ σ) (prog : List α) (m : Machine ρ σ) : Machine ρ σ :=
  prog.foldl (fun m insn => step insn m) m

section Exec

variable {step : α → Machine ρ σ → Machine ρ σ}

@[simp] theorem exec_nil (m : Machine ρ σ) : exec step [] m = m := rfl

@[simp] theorem exec_cons (insn : α) (prog : List α) (m : Machine ρ σ) :
    exec step (insn :: prog) m = exec step prog (step insn m) := rfl

@[simp] theorem exec_append (prog prog' : List α) (m : Machine ρ σ) :
    exec step (prog ++ prog') m = exec step prog' (exec step prog m) := List.foldl_append

end Exec

/-! ### Memory -/

section Memory

variable (m : Machine ρ σ)

/-- The eight bytes from an address on, the lowest first. -/
def load (a : BitVec 64) : BitVec 64 :=
  m.mem (a + 7) ++ m.mem (a + 6) ++ m.mem (a + 5) ++ m.mem (a + 4) ++ m.mem (a + 3) ++ m.mem (a + 2)
    ++ m.mem (a + 1) ++ m.mem a

/-- Eight bytes are written. -/
def store (a v : BitVec 64) : Machine ρ σ :=
  { m with mem := fun x =>
      if (x - a).toNat < 8 then v.extractLsb' (8 * (x - a).toNat) 8 else m.mem x }

variable {m}

theorem mem_store_add {k : ℕ} (hk : k < 8) (a v : BitVec 64) :
    (m.store a v).mem (a + BitVec.ofNat 64 k) = v.extractLsb' (8 * k) 8 := by
  have h : (a + BitVec.ofNat 64 k - a).toNat = k := by
    rw [BitVec.add_comm, BitVec.add_sub_cancel, BitVec.toNat_ofNat]
    omega
  show (if (a + BitVec.ofNat 64 k - a).toNat < 8 then
    v.extractLsb' (8 * (a + BitVec.ofNat 64 k - a).toNat) 8 else m.mem _) = _
  rw [h, if_pos hk]

theorem mem_store_of_le {x a : BitVec 64} (h : 8 ≤ (x - a).toNat) (v : BitVec 64) :
    (m.store a v).mem x = m.mem x := if_neg (by omega)

theorem load_store_self (a v : BitVec 64) : (m.store a v).load a = v := by
  have h0 : (m.store a v).mem a = v.extractLsb' 0 8 := by
    simpa using (mem_store_add (show 0 < 8 by decide) a v : (m.store a v).mem _ = _)
  have h1 : (m.store a v).mem (a + 1) = v.extractLsb' 8 8 := mem_store_add (show 1 < 8 by decide) a v
  have h2 : (m.store a v).mem (a + 2) = v.extractLsb' 16 8 := mem_store_add (show 2 < 8 by decide) a v
  have h3 : (m.store a v).mem (a + 3) = v.extractLsb' 24 8 := mem_store_add (show 3 < 8 by decide) a v
  have h4 : (m.store a v).mem (a + 4) = v.extractLsb' 32 8 := mem_store_add (show 4 < 8 by decide) a v
  have h5 : (m.store a v).mem (a + 5) = v.extractLsb' 40 8 := mem_store_add (show 5 < 8 by decide) a v
  have h6 : (m.store a v).mem (a + 6) = v.extractLsb' 48 8 := mem_store_add (show 6 < 8 by decide) a v
  have h7 : (m.store a v).mem (a + 7) = v.extractLsb' 56 8 := mem_store_add (show 7 < 8 by decide) a v
  rw [load, h0, h1, h2, h3, h4, h5, h6, h7]
  simp only [BitVec.extractLsb'_append_extractLsb'_eq_extractLsb']
  simp

/-- Eight bytes that do not overlap with those written are as they were. -/
theorem load_store_of_apart {a b : BitVec 64} (h : 8 ≤ (a - b).toNat) (h' : 8 ≤ (b - a).toNat)
    (v : BitVec 64) : (m.store a v).load b = m.load b := by
  have hmem : ∀ k : BitVec 64, k.toNat < 8 → (m.store a v).mem (b + k) = m.mem (b + k) := by
    intro k hk
    refine mem_store_of_le ?_ v
    bv_omega
  have h0 := hmem 0#64 (by decide)
  rw [BitVec.add_zero] at h0
  rw [load, load, hmem 1 (by decide), hmem 2 (by decide), hmem 3 (by decide), hmem 4 (by decide),
    hmem 5 (by decide), hmem 6 (by decide), hmem 7 (by decide), h0]

end Memory

/-! ### Registers -/

variable [DecidableEq ρ] [Zero ρ] (m : Machine ρ σ)

/-- A register's value. -/
def get (r : ρ) : BitVec 64 := if r = 0 then 0 else m.regs r

/-- A register is written; writing to the zero register has no effect. -/
def set (r : ρ) (v : BitVec 64) : Machine ρ σ :=
  if r = 0 then m else { m with regs := Function.update m.regs r v }

variable {m}

@[simp] theorem get_zero : m.get 0 = 0 := if_pos rfl

@[simp] theorem set_zero (v : BitVec 64) : m.set 0 v = m := if_pos rfl

theorem get_set_self {r : ρ} (h : r ≠ 0) (v : BitVec 64) : (m.set r v).get r = v := by
  rw [get, set, if_neg h, if_neg h]
  exact Function.update_self _ _ _

theorem get_set_of_ne {r s : ρ} (h : s ≠ r) (v : BitVec 64) : (m.set r v).get s = m.get s := by
  rw [get, set, get]
  split_ifs
  · rfl
  · rfl
  · exact Function.update_of_ne h _ _

@[simp] theorem set_get (r : ρ) : m.set r (m.get r) = m := by
  rw [get, set]
  split_ifs
  · rfl
  · rw [Function.update_eq_self]

@[simp] theorem set_set (r : ρ) (v w : BitVec 64) : (m.set r v).set r w = m.set r w := by
  unfold set
  split_ifs
  · rfl
  · rw [Function.update_idem]

theorem set_comm {r s : ρ} (h : r ≠ s) (v w : BitVec 64) :
    (m.set r v).set s w = (m.set s w).set r v := by
  unfold set
  split_ifs
  · rfl
  · rfl
  · rfl
  · rw [Function.update_comm h]

@[simp] theorem mem_set (r : ρ) (v : BitVec 64) : (m.set r v).mem = m.mem := by
  unfold set
  split_ifs <;> rfl

@[simp] theorem load_set (r : ρ) (v a : BitVec 64) : (m.set r v).load a = m.load a := by
  rw [load, mem_set, load]

@[simp] theorem get_store (a v : BitVec 64) (r : ρ) : (m.store a v).get r = m.get r := rfl

theorem store_set (r : ρ) (v a w : BitVec 64) : (m.set r v).store a w = (m.store a w).set r v := by
  unfold set store
  split_ifs <;> rfl

/-! ### Moving a base register -/

section Move

variable (act : α → BitVec 64 → Machine ρ σ → Machine ρ σ) (r : ρ) (o d : BitVec 64)

/-- Accesses at `o` behind the register, each of which moves the register on by `d`. -/
def moveEach : List α → Machine ρ σ → Machine ρ σ
  | [], m => m
  | a :: as, m =>
    let m := act a (m.get r + o) m
    moveEach as (m.set r (m.get r + d))

/-- The register stays where it was, `x` behind, and is moved once in the end. -/
def moveOnce : BitVec 64 → List α → Machine ρ σ → Machine ρ σ
  | x, [], m => m.set r (m.get r + x)
  | x, a :: as, m => moveOnce (x + d) as (act a (m.get r + (x + o)) m)

/-- Whether the register has been moved makes no difference to an access, or the access itself
makes none. -/
def Movable (a : α) : Prop :=
  (r ≠ 0 ∧ ∀ x m, (act a x m).get r = m.get r ∧ ∀ v, act a x (m.set r v) = (act a x m).set r v) ∨
    (r = 0 ∧ ∀ x m, act a x m = m)

variable {act r o d}

theorem moveEach_append : ∀ (as as' : List α) (m : Machine ρ σ),
    moveEach act r o d (as ++ as') m = moveEach act r o d as' (moveEach act r o d as m)
  | [], _, _ => rfl
  | _ :: as, as', _ => moveEach_append as as' _

theorem moveEach_set : ∀ (as : List α) (x : BitVec 64) (m : Machine ρ σ), (∀ a ∈ as, Movable act r a) →
    moveEach act r o d as (m.set r (m.get r + x)) = moveOnce act r o d x as m
  | [], x, m, _ => rfl
  | a :: as, x, m, h => by
    have ih := moveEach_set as (x + d) (act a (m.get r + (x + o)) m)
      fun a ha => h a (List.mem_cons_of_mem _ ha)
    rw [moveOnce, ← ih, moveEach]
    rcases h a List.mem_cons_self with ⟨hr, hact⟩ | ⟨rfl, hact⟩
    · rw [get_set_self hr, (hact _ m).2, get_set_self hr, set_set, (hact _ m).1, BitVec.add_assoc,
        BitVec.add_assoc]
    · simp only [set_zero, hact]

/-- **Moving once**: the first access is made before the register has been moved, so it may be
any. -/
theorem moveEach_eq_moveOnce {as : List α} (m : Machine ρ σ) (h : ∀ a ∈ as.tail, Movable act r a) :
    moveEach act r o d as m = moveOnce act r o d 0#64 as m := by
  cases as with
  | nil => rw [moveEach, moveOnce, BitVec.add_zero, set_get]
  | cons a as =>
    rw [moveEach, moveOnce, BitVec.zero_add, BitVec.zero_add]
    exact moveEach_set as d _ h

end Move

end Machine

end AotOpt.Lib
