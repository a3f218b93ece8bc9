import Mathlib.Tactic.Common

/-! Weights: what a step is charged for, in computation time and in proof size. Both are 64-bit
counters that saturate, so a sum that is too large is charged the most there is. -/
namespace Frame

/-- `u64::MAX`. -/
def u64Max : ℕ := 18446744073709551615

structure Weight where
  refTime : ℕ
  proofSize : ℕ
  deriving DecidableEq, Repr

namespace Weight

def saturatingAdd (a b : Weight) : Weight where
  refTime := min (a.refTime + b.refTime) u64Max
  proofSize := min (a.proofSize + b.proofSize) u64Max

def saturatingMul (a : Weight) (n : ℕ) : Weight where
  refTime := min (a.refTime * n) u64Max
  proofSize := min (a.proofSize * n) u64Max

/-- `all_lte`: no more in either component. -/
def AllLte (a b : Weight) : Prop := a.refTime ≤ b.refTime ∧ a.proofSize ≤ b.proofSize

instance (a b : Weight) : Decidable (AllLte a b) := instDecidableAnd

theorem saturatingAdd_mono {a b c d : Weight} (hac : a.AllLte c) (hbd : b.AllLte d) :
    (a.saturatingAdd b).AllLte (c.saturatingAdd d) := by
  obtain ⟨htime, hsize⟩ := hac
  obtain ⟨htime', hsize'⟩ := hbd
  constructor
  · simp only [saturatingAdd]
    omega
  · simp only [saturatingAdd]
    omega

theorem saturatingMul_mono (a : Weight) {m n : ℕ} (h : m ≤ n) :
    (a.saturatingMul m).AllLte (a.saturatingMul n) := by
  have htime : a.refTime * m ≤ a.refTime * n := Nat.mul_le_mul_left _ h
  have hsize : a.proofSize * m ≤ a.proofSize * n := Nat.mul_le_mul_left _ h
  constructor
  · simp only [saturatingMul]
    omega
  · simp only [saturatingMul]
    omega

end Weight

/-- `RuntimeDbWeight`: the time of one read and of one write. -/
structure RuntimeDbWeight where
  read : ℕ
  write : ℕ

def RuntimeDbWeight.readsWrites (db : RuntimeDbWeight) (reads writes : ℕ) : Weight where
  refTime := min (min (db.read * reads) u64Max + min (db.write * writes) u64Max) u64Max
  proofSize := 0

theorem RuntimeDbWeight.readsWrites_mono (db : RuntimeDbWeight) {m n : ℕ} (h : m ≤ n) :
    (db.readsWrites m m).AllLte (db.readsWrites n n) := by
  have hread : db.read * m ≤ db.read * n := Nat.mul_le_mul_left _ h
  have hwrite : db.write * m ≤ db.write * n := Nat.mul_le_mul_left _ h
  constructor
  · simp only [readsWrites]
    omega
  · exact Nat.le_refl 0

end Frame
