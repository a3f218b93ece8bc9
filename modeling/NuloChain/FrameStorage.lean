import Mathlib.Data.Finmap
import Mathlib.Algebra.BigOperators.Group.Finset.Basic
import Mathlib.Algebra.Order.BigOperators.Group.Finset

/-! Storage items: finite maps with a physical key set, and vectors that carry
their length bound. -/
namespace Frame

/-- `StorageMap` with the `OptionQuery` reading; `getD` is the `ValueQuery` one. -/
def StorageMap (K V : Type) : Type := Finmap fun _ : K => V

namespace StorageMap
variable {K V : Type} [DecidableEq K]

def empty : StorageMap K V := (∅ : Finmap fun _ : K => V)

def get (m : StorageMap K V) (k : K) : Option V := Finmap.lookup k m

def getD (m : StorageMap K V) (k : K) (d : V) : V := (m.get k).getD d

def insert (m : StorageMap K V) (k : K) (v : V) : StorageMap K V := Finmap.insert k v m

def remove (m : StorageMap K V) (k : K) : StorageMap K V := Finmap.erase k m

/-- `mutate` on a `ValueQuery` map: the new value is always written back. -/
def mutate (m : StorageMap K V) (k : K) (d : V) (f : V → V) : StorageMap K V :=
  m.insert k (f (m.getD k d))

/-- The keys that physically occupy storage. -/
def keys (m : StorageMap K V) : Finset K := Finmap.keys m

@[simp] theorem get_empty (k : K) : (empty : StorageMap K V).get k = none :=
  Finmap.lookup_empty k

theorem get_insert (m : StorageMap K V) (k j : K) (v : V) :
    (m.insert k v).get j = if j = k then some v else m.get j := by
  by_cases h : j = k
  · subst h
    rw [if_pos rfl]
    exact Finmap.lookup_insert m
  · rw [if_neg h]
    exact Finmap.lookup_insert_of_ne m h

@[simp] theorem get_insert_self (m : StorageMap K V) (k : K) (v : V) :
    (m.insert k v).get k = some v := by
  simp [get_insert]

theorem get_insert_ne (m : StorageMap K V) (k j : K) (v : V) (h : j ≠ k) :
    (m.insert k v).get j = m.get j := by
  simp [get_insert, h]

/-- A key without a value after an insertion had none before. -/
theorem get_none_of_insert (m : StorageMap K V) (k j : K) (v : V)
    (h : (m.insert k v).get j = none) : m.get j = none := by
  rw [get_insert] at h
  split at h
  · cases h
  · exact h

theorem get_remove (m : StorageMap K V) (k j : K) :
    (m.remove k).get j = if j = k then none else m.get j := by
  by_cases h : j = k
  · subst h
    rw [if_pos rfl]
    exact Finmap.lookup_erase j m
  · rw [if_neg h]
    exact Finmap.lookup_erase_ne h

@[simp] theorem get_remove_self (m : StorageMap K V) (k : K) : (m.remove k).get k = none := by
  simp [get_remove]

theorem get_remove_ne (m : StorageMap K V) (k j : K) (h : j ≠ k) :
    (m.remove k).get j = m.get j := by
  simp [get_remove, h]

@[simp] theorem getD_empty (k : K) (d : V) : (empty : StorageMap K V).getD k d = d := by
  simp [getD]

theorem getD_insert (m : StorageMap K V) (k j : K) (v d : V) :
    (m.insert k v).getD j d = if j = k then v else m.getD j d := by
  by_cases h : j = k <;> simp [getD, get_insert, h]

theorem getD_remove (m : StorageMap K V) (k j : K) (d : V) :
    (m.remove k).getD j d = if j = k then d else m.getD j d := by
  by_cases h : j = k <;> simp [getD, get_remove, h]

theorem getD_mutate (m : StorageMap K V) (k j : K) (d : V) (f : V → V) :
    (m.mutate k d f).getD j d = if j = k then f (m.getD k d) else m.getD j d :=
  getD_insert m k j _ d

theorem mem_keys (m : StorageMap K V) (k : K) : k ∈ m.keys ↔ ∃ v, m.get k = some v :=
  Finmap.mem_keys.trans Finmap.mem_iff

theorem notMem_keys (m : StorageMap K V) (k : K) : k ∉ m.keys ↔ m.get k = none :=
  (not_congr Finmap.mem_keys).trans Finmap.lookup_eq_none.symm

theorem keys_insert (m : StorageMap K V) (k : K) (v : V) :
    (m.insert k v).keys = Insert.insert k m.keys := by
  ext j
  rw [mem_keys, Finset.mem_insert, mem_keys, get_insert]
  by_cases h : j = k <;> simp [h]

theorem keys_remove (m : StorageMap K V) (k : K) : (m.remove k).keys = m.keys.erase k :=
  Finmap.keys_erase k m

theorem ext_get (m n : StorageMap K V) (h : ∀ k, m.get k = n.get k) : m = n :=
  Finmap.ext_lookup h

theorem remove_of_none (m : StorageMap K V) (k : K) (h : m.get k = none) : m.remove k = m := by
  apply ext_get
  intro j
  rw [get_remove]
  by_cases hj : j = k
  · rw [if_pos hj, hj, h]
  · rw [if_neg hj]

/-- Taking a new entry out again leaves the map as it was. -/
theorem remove_insert_new (m : StorageMap K V) (k : K) (v : V) (h : m.get k = none) :
    (m.insert k v).remove k = m := by
  apply ext_get
  intro j
  rw [get_remove]
  by_cases hj : j = k
  · rw [if_pos hj, hj, h]
  · rw [if_neg hj, get_insert_ne m k j v hj]

/-- The sum of `f` over the stored entries. -/
def sum (m : StorageMap K V) (f : K → V → ℕ) : ℕ :=
  ∑ k ∈ m.keys, (m.get k).elim 0 (f k)

@[simp] theorem sum_empty (f : K → V → ℕ) : (empty : StorageMap K V).sum f = 0 :=
  Finset.sum_empty

theorem sum_insert_new (m : StorageMap K V) (k : K) (v : V) (f : K → V → ℕ)
    (h : m.get k = none) : (m.insert k v).sum f = m.sum f + f k v := by
  have hk : k ∉ m.keys := (notMem_keys m k).mpr h
  have hrest : ∑ j ∈ m.keys, ((m.insert k v).get j).elim 0 (f j) = m.sum f := by
    apply Finset.sum_congr rfl
    intro j hj
    rw [get_insert_ne m k j v (fun he => hk (he ▸ hj))]
  rw [sum, keys_insert, Finset.sum_insert hk, hrest, get_insert_self, add_comm]
  rfl

theorem sum_remove (m : StorageMap K V) (k : K) (v : V) (f : K → V → ℕ)
    (h : m.get k = some v) : (m.remove k).sum f + f k v = m.sum f := by
  have hk : k ∈ m.keys := (mem_keys m k).mpr ⟨v, h⟩
  have hrest : (m.remove k).sum f = ∑ j ∈ m.keys.erase k, (m.get j).elim 0 (f j) := by
    rw [sum, keys_remove]
    apply Finset.sum_congr rfl
    intro j hj
    rw [get_remove_ne m k j (Finset.ne_of_mem_erase hj)]
  rw [hrest, sum, ← Finset.sum_erase_add _ _ hk, h]
  rfl

/-- Overwriting an entry exchanges its contribution. -/
theorem sum_insert_over (m : StorageMap K V) (k : K) (u v : V) (f : K → V → ℕ)
    (h : m.get k = some u) : (m.insert k v).sum f + f k u = m.sum f + f k v := by
  have hk : k ∈ m.keys := (mem_keys m k).mpr ⟨u, h⟩
  have hkeys : (m.insert k v).keys = m.keys := by
    rw [keys_insert, Finset.insert_eq_of_mem hk]
  have hrest : ∑ j ∈ m.keys.erase k, ((m.insert k v).get j).elim 0 (f j) =
      ∑ j ∈ m.keys.erase k, (m.get j).elim 0 (f j) := by
    apply Finset.sum_congr rfl
    intro j hj
    rw [get_insert_ne m k j v (Finset.ne_of_mem_erase hj)]
  rw [sum, hkeys, ← Finset.sum_erase_add _ _ hk, hrest, get_insert_self,
    sum, ← Finset.sum_erase_add m.keys _ hk, h]
  simp only [Option.elim_some]
  omega

/-- Writing an entry exchanges whatever was stored under the key before. -/
theorem sum_insert (m : StorageMap K V) (k : K) (v : V) (f : K → V → ℕ) :
    (m.insert k v).sum f + (m.get k).elim 0 (f k) = m.sum f + f k v := by
  rcases h : m.get k with _ | u
  · exact sum_insert_new m k v f h
  · exact sum_insert_over m k u v f h

theorem sum_congr (m : StorageMap K V) (f g : K → V → ℕ)
    (h : ∀ k v, m.get k = some v → f k v = g k v) : m.sum f = m.sum g := by
  apply Finset.sum_congr rfl
  intro k hk
  obtain ⟨v, hv⟩ := (mem_keys m k).mp hk
  simp only [hv, Option.elim_some, h k v hv]

theorem le_sum (m : StorageMap K V) (k : K) (v : V) (f : K → V → ℕ) (h : m.get k = some v) :
    f k v ≤ m.sum f := by
  rw [← sum_remove m k v f h]
  omega

end StorageMap

/-- `BoundedVec<α, bound>`. -/
structure BoundedVec (α : Type) (bound : ℕ) where
  toList : List α
  bounded : toList.length ≤ bound

namespace BoundedVec
variable {α : Type} {bound : ℕ}

def empty : BoundedVec α bound := ⟨[], Nat.zero_le bound⟩

def tryFrom (xs : List α) : Option (BoundedVec α bound) :=
  if h : xs.length ≤ bound then some ⟨xs, h⟩ else none

def tryPush (v : BoundedVec α bound) (a : α) : Option (BoundedVec α bound) :=
  tryFrom (v.toList ++ [a])

def retain (v : BoundedVec α bound) (p : α → Bool) : BoundedVec α bound :=
  ⟨v.toList.filter p, (List.length_filter_le p v.toList).trans v.bounded⟩

@[simp] theorem toList_empty : (empty : BoundedVec α bound).toList = [] := rfl

@[simp] theorem toList_retain (v : BoundedVec α bound) (p : α → Bool) :
    (v.retain p).toList = v.toList.filter p := rfl

theorem tryFrom_eq_some (xs : List α) (v : BoundedVec α bound) (h : tryFrom xs = some v) :
    v.toList = xs := by
  unfold tryFrom at h
  split at h
  · cases h
    rfl
  · cases h

theorem tryFrom_isSome (xs : List α) (h : xs.length ≤ bound) :
    (tryFrom xs : Option (BoundedVec α bound)) = some ⟨xs, h⟩ := by
  simp [tryFrom, h]

theorem tryPush_eq_some (v w : BoundedVec α bound) (a : α) (h : v.tryPush a = some w) :
    w.toList = v.toList ++ [a] :=
  tryFrom_eq_some _ _ h

end BoundedVec
end Frame
