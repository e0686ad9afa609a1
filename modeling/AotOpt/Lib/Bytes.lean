import AotOpt.Lib.Layout

/-!
# Bytes

A memory of bytes, numbers in it with their low byte first, and records of fields that are written
to it and read back.

* `num_of_holds` — a number is read as it was written.
* `holds_writeAll` — what is written is there, if no two writes overlap.
* `holdsAll_writeRecords` — the same of records that do not overlap, from what each of them is made
  of.
-/

namespace AotOpt.Lib

/-! ### Numbers -/

/-- The low `k` bytes of a number, the lowest first. -/
def le : ℕ → ℕ → List (BitVec 8)
  | 0, _ => []
  | k + 1, n => BitVec.ofNat 8 n :: le k (n / 256)

/-- The number that the bytes are. -/
def unle : List (BitVec 8) → ℕ
  | [] => 0
  | b :: bs => b.toNat + 256 * unle bs

@[simp] theorem length_le : ∀ k n : ℕ, (le k n).length = k
  | 0, _ => rfl
  | k + 1, n => by rw [le, List.length_cons, length_le]

theorem unle_le : ∀ k n : ℕ, unle (le k n) = n % 256 ^ k
  | 0, n => by rw [le, unle, Nat.pow_zero, Nat.mod_one]
  | k + 1, n => by
    rw [le, unle, unle_le, Nat.pow_succ', Nat.mod_mul, BitVec.toNat_ofNat]

/-! ### Memory -/

/-- The bytes in memory from `off` on. -/
def bytesAt (m : ℕ → BitVec 8) (off k : ℕ) : List (BitVec 8) := (List.range k).map fun i => m (off + i)

/-- The number of `w` bits in the `k` bytes from `off` on. -/
def num (w k : ℕ) (m : ℕ → BitVec 8) (off : ℕ) : BitVec w := BitVec.ofNat w (unle (bytesAt m off k))

/-- The memory has the bytes from `off` on. -/
def Holds (m : ℕ → BitVec 8) (off : ℕ) (bs : List (BitVec 8)) : Prop :=
  ∀ (i : ℕ) (h : i < bs.length), m (off + i) = bs[i]

section Holds

variable {m m' : ℕ → BitVec 8} {off : ℕ} {bs : List (BitVec 8)}

theorem num_congr {w k : ℕ} (h : ∀ i < k, m (off + i) = m' (off + i)) :
    num w k m off = num w k m' off := by
  rw [num, num, bytesAt, bytesAt, List.map_congr_left fun i hi => h i (List.mem_range.mp hi)]

theorem Holds.bytesAt_eq (h : Holds m off bs) : bytesAt m off bs.length = bs := by
  refine List.ext_getElem (by simp [bytesAt]) fun i _ hi => ?_
  simp only [bytesAt, List.getElem_map, List.getElem_range, h i hi]

/-- **A number is read as it was written.** -/
theorem num_of_holds {w k : ℕ} {x : BitVec w} (h : Holds m off (le k x.toNat)) (hw : w ≤ 8 * k) :
    num w k m off = x := by
  have hbytes := h.bytesAt_eq
  rw [length_le] at hbytes
  have hlt : x.toNat < 256 ^ k := by
    have hpow : (256 : ℕ) ^ k = 2 ^ (8 * k) := by rw [Nat.pow_mul]
    rw [hpow]
    exact x.isLt.trans_le (Nat.pow_le_pow_right (by omega) hw)
  rw [num, hbytes, unle_le, Nat.mod_eq_of_lt hlt, BitVec.ofNat_toNat, BitVec.setWidth_eq]

theorem bytesAt_add (m : ℕ → BitVec 8) (off a b : ℕ) :
    bytesAt m off (a + b) = bytesAt m off a ++ bytesAt m (off + a) b := by
  simp [bytesAt, List.range_add, Nat.add_assoc]

/-- A string is read up to its end. -/
theorem takeWhile_of_holds {n : ℕ} (h : Holds m off (bs ++ [0])) (hlen : bs.length < n)
    (hnul : 0 ∉ bs) : (bytesAt m off n).takeWhile (· ≠ 0) = bs := by
  obtain ⟨k, rfl⟩ : ∃ k, n = (bs ++ [0]).length + k :=
    Nat.exists_eq_add_of_le (by rw [List.length_append]; exact hlen)
  have hne : ∀ b ∈ bs, decide (b ≠ 0) = true := fun b hb =>
    decide_eq_true fun hb0 => hnul (hb0 ▸ hb)
  rw [bytesAt_add, h.bytesAt_eq, List.append_assoc, List.takeWhile_append_of_pos hne]
  simp

/-- The bytes at a distance, in a part of the memory. -/
theorem Holds.part {k : ℕ} (h : Holds m (off + k) bs) : Holds (fun i => m (off + i)) k bs :=
  fun i hi => by rw [← h i hi, Nat.add_assoc]

theorem Holds.congr (h : Holds m off bs) (hm : ∀ i < bs.length, m' (off + i) = m (off + i)) :
    Holds m' off bs := fun i hi => (hm i hi).trans (h i hi)

end Holds

/-! ### Writing -/

/-- What the bytes take up from `off` on. -/
def extentOf (p : ℕ × List (BitVec 8)) : Extent := ⟨p.1, p.2.length⟩

/-- The bytes are written from `off` on. -/
def write (m : ℕ → BitVec 8) (p : ℕ × List (BitVec 8)) : ℕ → BitVec 8 := fun i =>
  if p.1 ≤ i then (p.2[i - p.1]?).getD (m i) else m i

/-- Writes one after another. -/
def writeAll (m : ℕ → BitVec 8) (ws : List (ℕ × List (BitVec 8))) : ℕ → BitVec 8 := ws.foldl write m

section Write

variable {m : ℕ → BitVec 8} {p q : ℕ × List (BitVec 8)}

theorem write_of_not_has {i : ℕ} (h : ¬(extentOf p).Has i) : write m p i = m i := by
  rw [write]
  split_ifs with hle
  · have hlen : p.2.length ≤ i - p.1 := by
      by_contra hlt
      exact h ⟨hle, by simp only [extentOf, Extent.stop]; omega⟩
    rw [List.getElem?_eq_none hlen, Option.getD_none]
  · rfl

theorem holds_write (m : ℕ → BitVec 8) (p : ℕ × List (BitVec 8)) : Holds (write m p) p.1 p.2 := by
  intro i hi
  rw [write, if_pos (Nat.le_add_right _ _), Nat.add_sub_cancel_left, List.getElem?_eq_getElem hi,
    Option.getD_some]

theorem Holds.write (h : Holds m p.1 p.2) (hapart : (extentOf p).Apart (extentOf q)) :
    Holds (write m q) p.1 p.2 :=
  h.congr fun _ hi => write_of_not_has (hapart _ ⟨Nat.le_add_right _ _, Nat.add_lt_add_left hi _⟩)

theorem Holds.writeAll : ∀ {ws : List (ℕ × List (BitVec 8))} {m : ℕ → BitVec 8},
    Holds m p.1 p.2 → (∀ q ∈ ws, (extentOf p).Apart (extentOf q)) → Holds (writeAll m ws) p.1 p.2
  | [], _, h, _ => h
  | q :: ws, _, h, hapart => by
    have hws : ∀ q ∈ ws, (extentOf p).Apart (extentOf q) := fun q' hq' =>
      hapart q' (List.mem_cons_of_mem _ hq')
    rw [Lib.writeAll, List.foldl_cons]
    exact Holds.writeAll (h.write (hapart q List.mem_cons_self)) hws

/-- **What is written is there**, if no two writes overlap. -/
theorem holds_writeAll : ∀ {ws : List (ℕ × List (BitVec 8))} (m : ℕ → BitVec 8),
    ws.Pairwise (fun p q => (extentOf p).Apart (extentOf q)) →
      ∀ p ∈ ws, Holds (writeAll m ws) p.1 p.2
  | [], _, _, _, hp => by cases hp
  | q :: ws, m, h, p, hp => by
    obtain ⟨hapart, h⟩ := List.pairwise_cons.mp h
    rcases List.mem_cons.mp hp with rfl | hp
    · exact (holds_write m p).writeAll hapart
    · exact holds_writeAll (write m q) h p hp

end Write

/-! ### Records -/

/-- The fields of a record: the distance of each from its start, and the bytes. -/
abbrev Fields := List (ℕ × List (BitVec 8))

/-- The fields come in order from `a` on, and end before `b`. -/
def Fits : ℕ → Fields → ℕ → Prop
  | a, [], b => a ≤ b
  | a, p :: fs, b => a ≤ p.1 ∧ Fits (p.1 + p.2.length) fs b

/-- The memory has the fields of a record at `off`. -/
def HoldsAll (m : ℕ → BitVec 8) (off : ℕ) (fs : Fields) : Prop := ∀ p ∈ fs, Holds m (off + p.1) p.2

/-- The writes of the fields of records. -/
def recordWrites (rs : List (Slot × Fields)) : List (ℕ × List (BitVec 8)) :=
  rs.flatMap fun r => r.2.map fun p => (r.1.start + p.1, p.2)

section Records

/-- A field is read as it is there. -/
theorem HoldsAll.num_eq {m : ℕ → BitVec 8} {fs : Fields} (h : HoldsAll m 0 fs) {w k off : ℕ}
    {x : BitVec w} (hp : (off, le k x.toNat) ∈ fs) (hw : w ≤ 8 * k) : num w k m off = x := by
  have hholds := h _ hp
  rw [Nat.zero_add] at hholds
  exact num_of_holds hholds hw

theorem Fits.le : ∀ {fs : Fields} {a b : ℕ}, Fits a fs b → a ≤ b
  | [], _, _, h => h
  | p :: fs, a, b, h => by
    have := Fits.le h.2
    have := h.1
    omega

theorem Fits.inside : ∀ {fs : Fields} {a b : ℕ}, Fits a fs b → ∀ p ∈ fs, a ≤ p.1 ∧ p.1 + p.2.length ≤ b
  | [], _, _, _, _, hp => by cases hp
  | q :: fs, a, b, h, p, hp => by
    rcases List.mem_cons.mp hp with rfl | hp
    · exact ⟨h.1, h.2.le⟩
    · have hin := Fits.inside h.2 p hp
      have := h.1
      omega

theorem Fits.pairwise : ∀ {fs : Fields} {a b : ℕ}, Fits a fs b →
    fs.Pairwise fun p q => p.1 + p.2.length ≤ q.1
  | [], _, _, _ => .nil
  | _ :: _, _, _, h => .cons (fun q hq => (Fits.inside h.2 q hq).1) (Fits.pairwise h.2)

theorem Extent.Apart.mono {e e' f f' : Extent} (h : f.Apart f') (he : f.start ≤ e.start)
    (hstop : e.stop ≤ f.stop) (he' : f'.start ≤ e'.start) (hstop' : e'.stop ≤ f'.stop) :
    e.Apart e' := fun i hi hi' =>
  h i ⟨he.trans hi.1, hi.2.trans_le hstop⟩ ⟨he'.trans hi'.1, hi'.2.trans_le hstop'⟩

variable {rs : List (Slot × Fields)}

theorem pairwise_recordWrites (h : (rs.map (·.1.written)).Pairwise Extent.Apart)
    (hfits : ∀ r ∈ rs, Fits 0 r.2 r.1.used) :
    (recordWrites rs).Pairwise fun p q => (extentOf p).Apart (extentOf q) := by
  rw [recordWrites, List.pairwise_flatMap]
  constructor
  · intro r hr
    rw [List.pairwise_map]
    refine (hfits r hr).pairwise.imp fun {p q} hle => Extent.apart_of_le ?_
    simp only [extentOf, Extent.stop]
    omega
  · refine (List.pairwise_map.mp h).imp_of_mem fun {r r'} hr hr' hapart => ?_
    intro x hx y hy
    obtain ⟨p, hp, rfl⟩ := List.mem_map.mp hx
    obtain ⟨q, hq, rfl⟩ := List.mem_map.mp hy
    have hpin := ((hfits r hr).inside p hp).2
    have hqin := ((hfits r' hr').inside q hq).2
    refine hapart.mono (Nat.le_add_right _ _) ?_ (Nat.le_add_right _ _) ?_
    · simp only [extentOf, Extent.stop, Slot.written]
      omega
    · simp only [extentOf, Extent.stop, Slot.written]
      omega

/-- **Every record is there**, if no two of them overlap. -/
theorem holdsAll_writeRecords (m : ℕ → BitVec 8) (h : (rs.map (·.1.written)).Pairwise Extent.Apart)
    (hfits : ∀ r ∈ rs, Fits 0 r.2 r.1.used) :
    ∀ r ∈ rs, HoldsAll (writeAll m (recordWrites rs)) r.1.start r.2 := fun r hr p hp =>
  holds_writeAll m (pairwise_recordWrites h hfits) (r.1.start + p.1, p.2)
    (List.mem_flatMap.mpr ⟨r, hr, List.mem_map_of_mem hp⟩)

end Records

end AotOpt.Lib
