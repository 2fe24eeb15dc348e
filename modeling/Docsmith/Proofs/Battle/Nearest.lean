import Docsmith.Battle.Estimate
import Docsmith.Proofs.Value.Arithmetic

/-!
# The nearest base stat

The search for the base stat of a table that is nearest to a number compares distances without sign with the distance,
with sign, of the one kept so far.  While the base stats are below the number, the kept distance falls; once one above
the number is kept, its distance is negative and nothing replaces it any more.  As the base stats increase, nothing
should: `nearest_isNearest` follows the search, and `closest_isNearest` says that it finds the nearest one, and of two
that are equally near the smaller one.
-/

namespace Docsmith

private theorem Value.Number.lt_int (m n : ℤ) :
    (Value.Number.int m).lt (.int n) = decide (m < n) := Value.compare_lt m n

namespace Battle.DamageTable

/-- The member of a list that is nearest to a number, and the smaller one of two that are equally near. -/
structure IsNearest (keys : List Int) (n k : Int) : Prop where
  mem : k ∈ keys
  near : ∀ j ∈ keys, (n - k).natAbs ≤ (n - j).natAbs
  smaller : ∀ j ∈ keys, (n - j).natAbs = (n - k).natAbs → k ≤ j

variable {keys ks : List Int} {n j k m : Int}

theorem IsNearest.unique (hj : IsNearest keys n j) (hk : IsNearest keys n k) : j = k := by
  have hjk := hj.near k hk.mem
  have hkj := hk.near j hj.mem
  have hle := hj.smaller k hk.mem (by omega)
  have hge := hk.smaller j hj.mem (by omega)
  omega

/-- A member is nearest to itself. -/
theorem isNearest_self (h : n ∈ keys) : IsNearest keys n n :=
  ⟨h, fun j _ => by omega, fun j _ hj => by omega⟩

/-- What is nearest among some remains so with one that is farther away than another of them, or as far and larger. -/
private theorem IsNearest.cons (hj : IsNearest ks n j) (hk : k ∈ ks)
    (hfar : (n - k).natAbs < (n - m).natAbs ∨ (n - k).natAbs = (n - m).natAbs ∧ k ≤ m) : IsNearest (m :: ks) n j := by
  have hnear := hj.near k hk
  have hsmaller := hj.smaller k hk
  refine ⟨List.mem_cons_of_mem _ hj.mem, ?_, ?_⟩
  · intro i hi
    rcases List.mem_cons.1 hi with rfl | hi
    · omega
    · exact hj.near i hi
  · intro i hi heq
    rcases List.mem_cons.1 hi with rfl | hi
    · omega
    · exact hj.smaller i hi heq

private theorem IsNearest.of_perm (h : IsNearest keys n j) (hperm : keys.Perm ks) : IsNearest ks n j :=
  ⟨hperm.mem_iff.1 h.mem, fun i hi => h.near i (hperm.mem_iff.2 hi), fun i hi => h.smaller i (hperm.mem_iff.2 hi)⟩

/-- One step of the search: the next base stat is kept if it is nearer, which it cannot be any more once the kept one is
above the number. -/
private theorem nearest_cons (n k m : ℤ) (ks : List Int) :
    nearest (.int n) (m :: ks) (some k, .int (n - k)) =
      nearest (.int n) ks
        (if ((n - m).natAbs : ℤ) < n - k then (some m, .int (n - m)) else (some k, .int (n - k))) := by
  have hlt : ((Value.Number.int (n - m)).abs).lt (.int (n - k)) = decide (((n - m).natAbs : ℤ) < n - k) :=
    Value.Number.lt_int _ _
  have hdiff : (Value.Number.int n).sub (.int m) = .ok (.int (n - m)) := rfl
  rw [nearest, hdiff, Outcome.ok_bind, hlt]
  simp only [decide_eq_true_eq]

/-- The whole search, from a base stat that is kept. -/
private theorem nearest_isNearest (hsorted : (k :: ks).Pairwise (· < ·)) :
    ∃ j, nearest (.int n) ks (some k, .int (n - k)) = .ok (some j, .int (n - j)) ∧ IsNearest (k :: ks) n j := by
  induction ks generalizing k with
  | nil => exact ⟨k, rfl, by simp, by simp, by simp⟩
  | cons m ks ih =>
    obtain ⟨hk, hrest⟩ := List.pairwise_cons.1 hsorted
    have hkm : k < m := hk m (by simp)
    rw [nearest_cons]
    by_cases hnearer : ((n - m).natAbs : ℤ) < n - k
    · rw [if_pos hnearer]
      obtain ⟨j, hj, hnearest⟩ := ih hrest
      exact ⟨j, hj, hnearest.cons (k := m) (by simp) (by omega)⟩
    · rw [if_neg hnearer]
      have hskip : (k :: ks).Pairwise (· < ·) :=
        List.pairwise_cons.2 ⟨fun i hi => hk i (List.mem_cons_of_mem _ hi), (List.pairwise_cons.1 hrest).2⟩
      obtain ⟨j, hj, hnearest⟩ := ih hskip
      exact ⟨j, hj, (hnearest.cons (k := k) (m := m) (by simp) (by omega)).of_perm (.swap k m ks)⟩

private theorem closest_of_lt (h : n < k) : closest (k :: ks) (.int n) = .ok (k, .int (n - k)) := by
  have hlt : (Value.Number.int n).lt (.int k) = true := by rw [Value.Number.lt_int, decide_eq_true h]
  have hnumber : (Value.int n).toNumber = .ok (.int n) := rfl
  rw [closest, hnumber, Outcome.ok_bind, if_pos hlt]
  rfl

/-- The distance of the first base stat is less than the infinite one that the search starts with. -/
private theorem closest_of_nearest (h : ¬n < k)
    (hj : nearest (.int n) ks (some k, .int (n - k)) = .ok (some j, .int (n - j))) :
    closest (k :: ks) (.int n) = .ok (j, .int (n - j)) := by
  have hlt : ¬(Value.Number.int n).lt (.int k) = true := by rw [Value.Number.lt_int, decide_eq_true_iff]; exact h
  have hnumber : (Value.int n).toNumber = .ok (.int n) := rfl
  have hfirst : nearest (.int n) (k :: ks) (none, .float (.infinity false)) =
      nearest (.int n) ks (some k, .int (n - k)) := rfl
  rw [closest, hnumber, Outcome.ok_bind, if_neg hlt, hfirst, hj]
  rfl

/-- The search through increasing base stats finds the nearest one. -/
theorem closest_of_isNearest (hsorted : keys.Pairwise (· < ·)) (hnearest : IsNearest keys n j) :
    closest keys (.int n) = .ok (j, .int (n - j)) := by
  cases keys with
  | nil => exact absurd hnearest.mem (by simp)
  | cons k ks =>
    by_cases hbelow : n < k
    · -- all others are still farther above the number
      have hj : j = k := by
        have hnear := hnearest.near k (by simp)
        rcases List.mem_cons.1 hnearest.mem with heq | hmem
        · exact heq
        · have := (List.pairwise_cons.1 hsorted).1 j hmem
          omega
      rw [hj]
      exact closest_of_lt hbelow
    · obtain ⟨i, hi, hfound⟩ := nearest_isNearest (n := n) hsorted
      obtain rfl := hfound.unique hnearest
      exact closest_of_nearest hbelow hi

theorem exists_isNearest (n : ℤ) (hne : keys ≠ []) : ∃ k, IsNearest keys n k := by
  induction keys with
  | nil => exact absurd rfl hne
  | cons m ks ih =>
    by_cases hks : ks = []
    · exact ⟨m, by simp [hks], by simp [hks], by simp [hks]⟩
    obtain ⟨k, hk⟩ := ih hks
    by_cases hfar : (n - k).natAbs < (n - m).natAbs ∨ (n - k).natAbs = (n - m).natAbs ∧ k ≤ m
    · exact ⟨k, hk.cons hk.mem hfar⟩
    · refine ⟨m, by simp, ?_, ?_⟩
      all_goals
        intro j hj
        rcases List.mem_cons.1 hj with rfl | hj
        · omega
        · have hnear := hk.near j hj
          have hsmaller := hk.smaller j hj
          omega

/-- The search of an increasing table gives the nearest base stat and how far the number is above it. -/
theorem closest_isNearest (table : DamageTable) (hne : table.keys ≠ []) (hsorted : table.keys.Pairwise (· < ·))
    (n : ℤ) : ∃ k, IsNearest table.keys n k ∧ closest table.keys (.int n) = .ok (k, .int (n - k)) := by
  obtain ⟨k, hk⟩ := exists_isNearest n hne
  exact ⟨k, hk, closest_of_isNearest hsorted hk⟩

theorem keys_standard_sorted : standard.keys.Pairwise (· < ·) := by decide +kernel

/-- Halfway between two base stats the smaller one is found. -/
theorem closest_isNearest_halfway :
    IsNearest standard.keys 215 200 ∧ 230 ∈ standard.keys ∧ closest standard.keys (.int 215) = .ok (200, .int 15) := by
  obtain ⟨k, hnearest, hk⟩ := closest_isNearest standard (by decide) keys_standard_sorted 215
  have hnearest' : IsNearest standard.keys 215 200 :=
    ⟨by decide +kernel, by decide +kernel, by decide +kernel⟩
  obtain rfl := hnearest.unique hnearest'
  exact ⟨hnearest', by decide +kernel, hk⟩

end Battle.DamageTable

end Docsmith
