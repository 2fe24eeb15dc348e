import Docsmith.Battle.Sparring
import Docsmith.Proofs.Value.Total

/-!
# Summands

In which order the figures of a round are added to the total makes little difference.  A summand is off by one rounding
for each of its additions (`Summand.exists_value`), and if each figure is used once, then the summands of a round amount
to what its figures amount to, but for these (`Setting.exists_worth`).
-/

namespace Docsmith.Battle.Sparring

open Value (amount)

/-- The places of the figures that a summand adds up. -/
def Summand.places : Summand → List ℕ
  | .figure place => [place]
  | .plus left right => left.places ++ right.places

/-- The amount of the figure at a place, and 0 if there is none. -/
def amountAt (figures : List Value) (place : ℕ) : ℚ := figures[place]?.elim 0 amount

/-- A bound on the error of an addition of figures. -/
def slack : ℚ := 2 ^ 16 / 2 ^ 54

section figures

variable {figures : List Value} (hfigures : ∀ v ∈ figures, v.Within 11)

private theorem sum_amountAt_range (figures : List Value) :
    ((List.range figures.length).map (amountAt figures)).sum = (figures.map amount).sum := by
  refine congrArg List.sum (List.ext_getElem (by simp) fun place h _ => ?_)
  rw [List.length_map, List.length_range] at h
  simp [amountAt, List.getElem?_eq_getElem h]

include hfigures

private theorem amountAt_bounds (place : ℕ) : 0 ≤ amountAt figures place ∧ amountAt figures place ≤ 2 ^ 11 := by
  unfold amountAt
  cases hv : figures[place]? with
  | none => norm_num
  | some v =>
    have hwithin := hfigures v (List.mem_of_getElem? hv)
    exact ⟨hwithin.amount_nonneg, hwithin.amount_le⟩

private theorem sum_amountAt_bounds (places : List ℕ) :
    0 ≤ (places.map (amountAt figures)).sum ∧ (places.map (amountAt figures)).sum ≤ places.length * 2 ^ 11 := by
  induction places with
  | nil => simp
  | cons place places ih =>
    have hplace := amountAt_bounds hfigures place
    rw [List.map_cons, List.sum_cons, List.length_cons, Nat.cast_add_one, add_one_mul]
    exact ⟨add_nonneg hplace.1 ih.1, by linarith [hplace.2, ih.2]⟩

/-- The value of a summand, with one error less than it has figures. -/
private theorem Summand.exists_value (s : Summand) (hplaces : ∀ place ∈ s.places, place < figures.length)
    (hcount : s.places.length ≤ 16) :
    ∃ v a, s.value figures = .ok v ∧ v.amount? = some a ∧ 0 ≤ a ∧ 1 ≤ s.places.length ∧
      |a - (s.places.map (amountAt figures)).sum| ≤ ((s.places.length : ℚ) - 1) * slack := by
  induction s with
  | figure place =>
    have hlt : place < figures.length := hplaces place (by simp [places])
    have hwithin := hfigures _ (List.getElem_mem hlt)
    refine ⟨figures[place], _, ?_, hwithin.amount?_eq, hwithin.amount_nonneg, by simp [places], ?_⟩
    · simp [value, List.getElem?_eq_getElem hlt]
    · simp [places, amountAt, List.getElem?_eq_getElem hlt]
  | plus left right ihLeft ihRight =>
    simp only [places, List.mem_append, List.length_append] at hplaces hcount
    obtain ⟨v, a, hv, ha, hanonneg, hleft, hclose⟩ := ihLeft (fun p hp => hplaces p (.inl hp)) (by omega)
    obtain ⟨w, b, hw, hb, hbnonneg, hright, hclose'⟩ := ihRight (fun p hp => hplaces p (.inr hp)) (by omega)
    have hsum := (sum_amountAt_bounds hfigures (left.places ++ right.places)).2
    have hcount' : (left.places.length : ℚ) + right.places.length ≤ 16 := by exact_mod_cast hcount
    rw [List.map_append, List.sum_append, List.length_append, Nat.cast_add] at hsum
    -- The numbers are small, and so there is room for both sums and their errors.
    have hroom : a + b < 2 ^ 16 := by
      rw [slack, abs_le] at hclose hclose'
      linarith
    obtain ⟨u, t, hadd, ht, htnonneg, hnear⟩ := Value.exists_close_add ha hb hanonneg hbnonneg hroom (by norm_num)
    refine ⟨u, t, ?_, ht, htnonneg, by simp only [places, List.length_append]; omega, ?_⟩
    · rw [value, hv, Outcome.ok_bind, hw, Outcome.ok_bind, hadd]
    · rw [places, List.map_append, List.sum_append, List.length_append, Nat.cast_add]
      rw [abs_le] at hclose hclose' hnear ⊢
      rw [← slack] at hnear
      constructor <;> linarith

private theorem exists_mapM_value (summands : List Summand)
    (hplaces : ∀ place ∈ summands.flatMap Summand.places, place < figures.length)
    (hcount : (summands.flatMap Summand.places).length ≤ 16) :
    ∃ vs, summands.mapM (Summand.value figures) = .ok vs ∧ (∀ v ∈ vs, v.Within 16) ∧
      vs.length ≤ (summands.flatMap Summand.places).length ∧
        |(vs.map amount).sum - ((summands.flatMap Summand.places).map (amountAt figures)).sum| ≤
          (summands.flatMap Summand.places).length * slack := by
  induction summands with
  | nil => exact ⟨[], rfl, by simp, by simp, by simp⟩
  | cons s summands ih =>
    simp only [List.flatMap_cons, List.mem_append, List.length_append] at hplaces hcount ⊢
    obtain ⟨v, a, hv, ha, hnonneg, hpos, hclose⟩ := s.exists_value hfigures (fun p hp => hplaces p (.inl hp)) (by omega)
    obtain ⟨vs, hvs, hwithin, hlength, hclose'⟩ := ih (fun p hp => hplaces p (.inr hp)) (by omega)
    have hslack : 0 < slack := by norm_num [slack]
    have hcount' : (s.places.length : ℚ) ≤ 16 := by exact_mod_cast (Nat.le_add_right ..).trans hcount
    have hsum := (sum_amountAt_bounds hfigures s.places).2
    have hle : a ≤ 2 ^ 16 := by
      rw [slack, abs_le] at hclose
      linarith
    refine ⟨v :: vs, ?_, List.forall_mem_cons.2 ⟨⟨a, ha, hnonneg, hle⟩, hwithin⟩, ?_, ?_⟩
    · rw [List.mapM_cons, hv, Outcome.ok_bind, hvs]
      rfl
    · rw [List.length_cons]
      omega
    · rw [List.map_cons, List.sum_cons, List.map_append, List.sum_append, Nat.cast_add, Value.amount_of_amount? ha]
      rw [abs_le] at hclose hclose' ⊢
      constructor <;> linarith

/-- If each figure is added once, the summands amount to what the figures amount to, but for the errors. -/
theorem Setting.exists_worth (setting : Setting)
    (hsummands : (setting.summands.flatMap Summand.places).Perm (List.range figures.length))
    (hcount : figures.length ≤ 16) :
    ∃ vs, setting.worth figures = .ok vs ∧ (∀ v ∈ vs, v.Within 16) ∧ vs.length ≤ figures.length ∧
      |(vs.map amount).sum - (figures.map amount).sum| ≤ figures.length * slack := by
  have hlength : (setting.summands.flatMap Summand.places).length = figures.length := by
    rw [hsummands.length_eq, List.length_range]
  obtain ⟨vs, hvs, hwithin, hle, hclose⟩ := exists_mapM_value hfigures setting.summands
    (fun place hplace => List.mem_range.1 (hsummands.mem_iff.1 hplace)) (by omega)
  rw [(hsummands.map (amountAt figures)).sum_eq, sum_amountAt_range] at hclose
  rw [hlength] at hle hclose
  exact ⟨vs, hvs, hwithin, hle, hclose⟩

end figures

end Docsmith.Battle.Sparring
