import AotOpt.Lib.Bytes

/-!
# Files

A file that is read from a position on, as `fseek` and `fread` of C do: a file that ends early leaves
the rest of the variable as it was.

* `seek_tell` — a position that was kept in a machine integer is found again if it fits.
* `holdsAll_read` — a record in the file is in the variable it is read into.
-/

namespace AotOpt.Lib

/-- A file and the position in it. -/
structure CFile where
  bytes : ℕ → BitVec 8
  size : ℕ
  pos : ℕ

namespace CFile

/-- `ftell`, kept in `w` bits. -/
def tell (w : ℕ) (f : CFile) : BitVec w := BitVec.ofNat w f.pos

/-- `fseek` from the start of the file. A negative position is refused. -/
def seek (offset : ℤ) (f : CFile) : CFile := if offset < 0 then f else { f with pos := offset.toNat }

/-- `fread` of `n` bytes into a variable that holds `old`. -/
def read (n : ℕ) (old : ℕ → BitVec 8) (f : CFile) : (ℕ → BitVec 8) × CFile :=
  let got := min n (f.size - f.pos)
  (fun i => if i < got then f.bytes (f.pos + i) else old i, { f with pos := f.pos + got })

variable {f : CFile} {n : ℕ}

@[simp] theorem seek_natCast (offset : ℕ) (f : CFile) : f.seek offset = { f with pos := offset } := by
  rw [seek, if_neg (by omega), Int.toNat_natCast]

@[simp] theorem seek_zero (f : CFile) : f.seek 0 = { f with pos := 0 } := seek_natCast 0 f

/-- **A position is found again.** -/
theorem seek_tell {w : ℕ} (h : 2 * f.pos < 2 ^ w) (offset : ℕ) :
    { f with pos := offset }.seek (f.tell w).toInt = f := by
  have hpos : (f.tell w).toNat = f.pos := by
    rw [tell, BitVec.toNat_ofNat, Nat.mod_eq_of_lt (by omega)]
  rw [BitVec.toInt_eq_toNat_of_lt (by rw [hpos]; exact h), hpos, seek_natCast]

theorem read_apply (old : ℕ → BitVec 8) {i : ℕ} (hi : i < n) (h : f.pos + i < f.size) :
    (f.read n old).1 i = f.bytes (f.pos + i) := if_pos (by omega)

theorem read_snd (old : ℕ → BitVec 8) (h : f.pos + n ≤ f.size) :
    (f.read n old).2 = { f with pos := f.pos + n } := by
  rw [read, Nat.min_eq_left (by omega)]

/-- **A record is in the variable.** -/
theorem holdsAll_read {fs : Fields} (old : ℕ → BitVec 8) (h : HoldsAll f.bytes f.pos fs)
    (hfits : Fits 0 fs n) (hsize : f.pos + n ≤ f.size) : HoldsAll (f.read n old).1 0 fs := by
  intro p hp i hi
  have hin := (hfits.inside p hp).2
  rw [Nat.zero_add, read_apply old (by omega) (by omega), ← Nat.add_assoc, h p hp i hi]

end CFile

end AotOpt.Lib
