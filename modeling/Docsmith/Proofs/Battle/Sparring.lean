import Docsmith.Proofs.Battle.Hits
import Docsmith.Proofs.Battle.Summand
import Docsmith.Workload.Basic

/-!
# Sparring

Bouts one after the other, with a steady roll.  All that a bout leaves behind is the round in which each fighter had
its last turn (`Hits.rounds_apply`), and a second bout of the same length leaves the same (`marked_marked`): from the
second bout on nothing changes (`Hits.bouts_apply`).  The first bout is another matter.  In it the fighters start
fresh, in the others some start burnt, from the end of the bout before, and a burn halves one of the strikes of a
fighter.  So as soon as a round burns a fighter, the first bout amounts to more than the others (`Hits.amount_gap`),
by more than what rounding can hide in a million rounds.
-/

namespace Docsmith.Battle.Sparring

open Binary64

/-! ### Settings -/

/-- The usual setting, as far as it matters.  The opponent is as sturdy as the usual one; two of the strikes do damage
and the third does none, in any order; and each figure of a round is added to the total once, in any order. -/
structure Setting.IsUsual (setting : Setting) : Prop where
  fighter : makeFighter .standard = .ok setting.fighter
  opponent : ∃ rival, makeOpponent .standard = .ok rival ∧ SameDefence setting.opponent rival
  strikes : ∃ feint category, feint.field "category" = .ok category ∧ category.isText "Status" = true ∧
    setting.strikes.Perm [move "return", move "shadowball", feint]
  compared : setting.compared = move "icebeam"
  summands : (setting.summands.flatMap Summand.places).Perm (List.range figureCount)

private theorem Setting.IsUsual.fighter_eq {setting : Setting} (h : setting.IsUsual) :
    setting.fighter = Sparring.fighter :=
  Except.ok.inj (h.fighter.symm.trans makeFighter_eq)

private theorem Setting.IsUsual.sameDefence {setting : Setting} (h : setting.IsUsual) :
    SameDefence setting.opponent rival := by
  obtain ⟨rival, hrival, hsame⟩ := h.opponent
  rwa [Except.ok.inj (hrival.symm.trans makeOpponent_eq)] at hsame

/-! ### Rounds -/

/-- The ring with a steady roll, as the last turns of the fighters leave it. -/
def ring (opponent : Attributes) (roll : Value) (marks : ℕ → Option ℕ) (u : ℕ) : Sparring :=
  ⟨(List.range pairCount).map fun j => ⟨fit (marks j), opponent⟩, ⟨[roll], u⟩⟩

/-- What a state costs. -/
def toll (i : ℕ) : Value := (statusDamage (.creature (fit (some i)))).toOption.getD .null

/-- How a fighter and its opponent compare. -/
def sides : List Value := (comparison .standard (move "icebeam") ⟨fighter, rival⟩).toOption.getD []

private theorem statusDamage_fit (i : ℕ) :
    statusDamage (.creature (fit (some i))) = .ok (toll i) ∧ (toll i).Within 3 := by
  obtain ⟨v, hv, hwithin⟩ := statusDamage_tired i fighter
  have htoll : toll i = v := by rw [toll, fit, hv]; rfl
  rw [htoll]
  exact ⟨hv, hwithin⟩

/-- The numbers of the comparison: 0.5, 1, 239.4, 361.9, 259 and 364. -/
private theorem number?_sides :
    sides.map Value.number? =
      [some (.float (.finite false 4503599627370496 (-53))), some (.float (.finite false 4503599627370496 (-52))),
       some (.float (.finite false 8423138678066381 (-45))), some (.float (.finite false 6366612129474151 (-44))),
       some (.int 259), some (.int 364)] := by
  decide +kernel

private theorem length_sides : sides.length = 6 := by
  have := congrArg List.length number?_sides
  rwa [List.length_map] at this

private theorem within_sides : ∀ v ∈ sides, v.Within 9 := by
  intro v hv
  have hnumber := List.mem_map_of_mem (f := Value.number?) hv
  rw [number?_sides] at hnumber
  simp only [List.mem_cons, List.not_mem_nil, or_false] at hnumber
  rcases hnumber with h | h | h | h | h | h
  · exact Value.within_of_number? h (Value.within_of_fraction? (by decide +kernel))
  · exact Value.within_of_number? h (Value.within_of_fraction? (by decide +kernel))
  · exact Value.within_of_number? h (Value.within_of_fraction? (by decide +kernel))
  · exact Value.within_of_number? h (Value.within_of_fraction? (by decide +kernel))
  · exact Value.within_of_number? h (Value.within_int (n := 259) (by norm_num))
  · exact Value.within_of_number? h (Value.within_int (n := 364) (by norm_num))

/-- The two sides compare alike after every turn. -/
private theorem comparison_fit {opponent : Attributes} (hopponent : SameDefence opponent rival) (mark : Option ℕ) :
    comparison .standard (move "icebeam") ⟨fit mark, opponent⟩ = .ok sides := by
  have hfresh : comparison .standard (move "icebeam") ⟨fighter, rival⟩ = .ok sides :=
    Outcome.eq_ok_getD [] (by decide +kernel)
  rw [hopponent.comparison_eq, ← hfresh]
  have htypes : (fit mark).get? "types" = fighter.get? "types" := get?_fit mark (by decide) (by decide)
  have hboosts : (fit mark).get? "boosts" = fighter.get? "boosts" := get?_fit mark (by decide) (by decide)
  simp only [comparison, typesFactor, boostFactor, Value.field_creature _ (show "types" ≠ "baseStats" by decide),
    Value.field_creature _ (show "boosts" ≠ "baseStats" by decide), Creature.attr_congr htypes,
    Creature.attr_congr hboosts]

/-- A pair after its turn takes its old place. -/
private theorem set_pairs (opponent : Attributes) (i : ℕ) (marks : ℕ → Option ℕ) (mark : Option ℕ) :
    ((List.range pairCount).map fun j => Pair.mk (fit (marks j)) opponent).set i ⟨fit mark, opponent⟩ =
      (List.range pairCount).map fun j => ⟨fit (Function.update marks i mark j), opponent⟩ := by
  refine List.ext_getElem (by simp) fun j hj _ => ?_
  rw [List.getElem_set]
  by_cases hij : i = j
  · simp [hij]
  · simp [hij, Function.update_of_ne (Ne.symm hij)]

/-- The tally of a bout that adds up to `z`. -/
def tally (n : ℤ) (z : Binary64) : Tally := ⟨.float (z.roundPlaces 4), investmentCount * n.toNat, n⟩

private theorem value?_start : (ofDecimal false 0 (-((1 : ℕ) : ℤ))).value? = some 0 := by
  rw [show ofDecimal false 0 (-((1 : ℕ) : ℤ)) = zero false by decide +kernel]
  exact value?_zero false

namespace Hits

variable {setting : Setting} {roll : Value} (h : Hits setting.strikes roll)

/-- The figures of a round. -/
def figures (i : ℕ) (burnt : Bool) : List Value :=
  setting.strikes.map (fun strike => .int (h.hit burnt strike)) ++ toll i :: sides

/-- What a round adds to the total. -/
def summands (i : ℕ) (burnt : Bool) : List Value := (setting.worth (h.figures i burnt)).toOption.getD []

/-- What the first `n` rounds add to the total. -/
def allSummands (n : ℕ) (marks : ℕ → Option ℕ) : List Value :=
  (List.range n).flatMap fun i => h.summands i (isBurnt (marked i marks (i % pairCount)))

/-- What the summands of a round amount to. -/
def roundAmount (i : ℕ) (burnt : Bool) : ℚ := ((h.summands i burnt).map Value.amount).sum

private theorem hit_le (burnt : Bool) {strike : Value} (hstrike : strike ∈ setting.strikes) :
    h.hit burnt strike ≤ 2 ^ 11 :=
  (List.single_le_sum (by simp) _ (List.mem_map_of_mem hstrike)).trans (h.sum_le burnt)

private theorem within_figures (i : ℕ) (burnt : Bool) : ∀ v ∈ h.figures i burnt, v.Within 11 := by
  intro v hv
  rcases List.mem_append.1 hv with hv | hv
  · obtain ⟨strike, hstrike, rfl⟩ := List.mem_map.1 hv
    exact Value.within_int (h.hit_le burnt hstrike)
  · rcases List.mem_cons.1 hv with rfl | hv
    · exact (statusDamage_fit i).2.mono (by norm_num)
    · exact (within_sides v hv).mono (by norm_num)

private theorem amount_figures (i : ℕ) (burnt : Bool) :
    ((h.figures i burnt).map Value.amount).sum =
      (setting.strikes.map (h.hit burnt)).sum + ((toll i).amount + (sides.map Value.amount).sum) := by
  have hint : ∀ k : ℕ, (Value.int k).amount = k := fun k => by
    simp [Value.amount, Value.amount?, Value.number?, Value.Number.amount?]
  rw [figures, List.map_append, List.sum_append, List.map_cons, List.sum_cons, List.map_map, Nat.cast_list_sum,
    List.map_map]
  simp only [Function.comp_def, hint]

private theorem strike_apply {opponent : Attributes} (hopponent : SameDefence opponent rival) (mark : Option ℕ)
    {m : Value}
    (hm : m ∈ setting.strikes) (pairs : List Pair) (u : ℕ) :
    ∃ u', (strike .standard ⟨fit mark, opponent⟩ m).apply ⟨pairs, ⟨[roll], u⟩⟩ =
      (.ok (.int (h.hit (isBurnt mark) m)), ⟨pairs, ⟨[roll], u'⟩⟩) := by
  obtain ⟨critical, u', hdamage⟩ := h.lands (isBurnt mark) m hm u
  refine ⟨u', ?_⟩
  rw [strike, Change.get_bind_apply, hopponent.damage_eq, (sameStrength_fit mark).damage_eq, hdamage]
  rfl

private theorem mapM_strike_apply {opponent : Attributes} (hopponent : SameDefence opponent rival) (mark : Option ℕ)
    {strikes : List Value} (hstrikes : strikes ⊆ setting.strikes) (pairs : List Pair) (u : ℕ) :
    ∃ u', (strikes.mapM (strike .standard ⟨fit mark, opponent⟩)).apply ⟨pairs, ⟨[roll], u⟩⟩ =
      (.ok (strikes.map fun m => .int (h.hit (isBurnt mark) m)), ⟨pairs, ⟨[roll], u'⟩⟩) := by
  induction strikes generalizing u with
  | nil => exact ⟨u, rfl⟩
  | cons m strikes ih =>
    obtain ⟨hm, hstrikes⟩ := List.cons_subset.1 hstrikes
    obtain ⟨v, hfirst⟩ := h.strike_apply hopponent mark hm pairs u
    obtain ⟨u', hrest⟩ := ih hstrikes v
    refine ⟨u', ?_⟩
    rw [List.mapM_cons, Change.apply_bind_of_ok hfirst, Change.apply_bind_of_ok hrest]
    rfl

section rounds

variable (hsetting : setting.IsUsual)

include hsetting

private theorem length_figures (i : ℕ) (burnt : Bool) : (h.figures i burnt).length = figureCount := by
  obtain ⟨feint, category, -, -, hstrikes⟩ := hsetting.strikes
  rw [figures, List.length_append, List.length_map, List.length_cons, length_sides, hstrikes.length_eq]
  rfl

/-- The summands of a round, which amount to what its figures do. -/
private theorem worth_figures (i : ℕ) (burnt : Bool) :
    setting.worth (h.figures i burnt) = .ok (h.summands i burnt) ∧ (∀ v ∈ h.summands i burnt, v.Within 16) ∧
      (h.summands i burnt).length ≤ figureCount ∧
        |h.roundAmount i burnt - ((h.figures i burnt).map Value.amount).sum| ≤ figureCount * slack := by
  have hlength := h.length_figures hsetting i burnt
  obtain ⟨vs, hvs, hwithin, hle, hclose⟩ := Setting.exists_worth (h.within_figures i burnt) setting
    (by rw [hlength]; exact hsetting.summands) (by rw [hlength]; decide)
  have hsummands : h.summands i burnt = vs := by rw [summands, hvs]; rfl
  rw [hlength] at hle hclose
  rw [roundAmount, hsummands]
  exact ⟨hvs, hwithin, hle, hclose⟩

/-- One round: the fighter whose turn it is strikes, and the round becomes its last turn. -/
private theorem round_apply (i : ℕ) (marks : ℕ → Option ℕ) (u : ℕ) :
    ∃ u', (round .standard setting i).apply (ring setting.opponent roll marks u) =
      (.ok (h.summands i (isBurnt (marks (i % pairCount)))),
        ring setting.opponent roll (Function.update marks (i % pairCount) (some i)) u') := by
  have hturn : i % pairCount < pairCount := Nat.mod_lt i (by decide)
  have hpair : (ring setting.opponent roll marks u).pairs[i % pairCount]? =
      some ⟨fit (marks (i % pairCount)), setting.opponent⟩ := by
    simp [ring, List.getElem?_range hturn]
  obtain ⟨u', hstrikes⟩ := h.mapM_strike_apply hsetting.sameDefence (marks (i % pairCount)) (List.Subset.refl _)
    (ring setting.opponent roll marks u).pairs u
  refine ⟨u', ?_⟩
  rw [round, Change.get_bind_apply]
  simp only [hpair]
  rw [ring] at hstrikes ⊢
  rw [Change.apply_bind_of_ok hstrikes, Change.apply_bind_of_ok (Change.apply_modify _ _), tired_fit,
    (statusDamage_fit i).1, Change.ok_bind, hsetting.compared, comparison_fit hsetting.sameDefence, Change.ok_bind,
    set_pairs]
  exact congrArg (fun outcome => (outcome, _)) (h.worth_figures hsetting i _).1

private theorem rounds_apply (n : ℕ) (marks : ℕ → Option ℕ) (u : ℕ) :
    ∃ u', (rounds .standard setting n).apply (ring setting.opponent roll marks u) =
      (.ok (h.allSummands n marks), ring setting.opponent roll (marked n marks) u') := by
  induction n with
  | zero => exact ⟨u, rfl⟩
  | succ n ih =>
    obtain ⟨v, hbefore⟩ := ih
    obtain ⟨u', hround⟩ := h.round_apply hsetting n (marked n marks) v
    refine ⟨u', ?_⟩
    rw [rounds, Change.apply_bind_of_ok hbefore, Change.apply_bind_of_ok hround, Change.apply_pure, ← marked_succ,
      allSummands, allSummands, List.range_succ, List.flatMap_append, List.flatMap_singleton]

private theorem within_allSummands (n : ℕ) (marks : ℕ → Option ℕ) : ∀ v ∈ h.allSummands n marks, v.Within 16 := by
  intro v hv
  obtain ⟨i, -, hv⟩ := List.mem_flatMap.1 hv
  exact (h.worth_figures hsetting i _).2.1 v hv

/-! ### Bouts -/

variable {n : ℤ} {marks : ℕ → Option ℕ} {z : Binary64}

private theorem bout_apply (hz : sum (h.allSummands n.toNat marks) = .ok (.float z)) (u : ℕ) :
    ∃ u', (bout .standard setting n).apply (ring setting.opponent roll marks u) =
      (.ok (tally n z), ring setting.opponent roll (marked n.toNat marks) u') := by
  obtain ⟨u', hrounds⟩ := h.rounds_apply hsetting n.toNat marks u
  refine ⟨u', ?_⟩
  rw [bout, Change.apply_bind_of_ok hrounds, hz, Change.ok_bind]
  rfl

/-- Bouts that start from what a bout of the same length leaves. -/
private theorem bouts_apply_settled (hsettled : marked n.toNat marks = marks)
    (hz : sum (h.allSummands n.toNat marks) = .ok (.float z)) (k u : ℕ) :
    ∃ u', (bouts .standard setting n k).apply (ring setting.opponent roll marks u) =
      (.ok (List.replicate k (tally n z)), ring setting.opponent roll marks u') := by
  induction k generalizing u with
  | zero => exact ⟨u, rfl⟩
  | succ k ih =>
    obtain ⟨v, hbout⟩ := h.bout_apply hsetting hz u
    rw [hsettled] at hbout
    obtain ⟨u', hrest⟩ := ih v
    refine ⟨u', ?_⟩
    rw [bouts, Change.apply_bind_of_ok hbout, Change.apply_bind_of_ok hrest]
    rfl

/-- From the second bout on nothing changes. -/
private theorem bouts_apply {z' : Binary64} (hz : sum (h.allSummands n.toNat marks) = .ok (.float z))
    (hz' : sum (h.allSummands n.toNat (marked n.toNat marks)) = .ok (.float z')) (k u : ℕ) :
    ((bouts .standard setting n (k + 1)).apply (ring setting.opponent roll marks u)).1 =
      .ok (tally n z :: List.replicate k (tally n z')) := by
  obtain ⟨v, hbout⟩ := h.bout_apply hsetting hz u
  obtain ⟨u', hrest⟩ := h.bouts_apply_settled hsetting (marked_marked n.toNat marks) hz' k v
  rw [bouts, Change.apply_bind_of_ok hbout, Change.apply_bind_of_ok hrest]
  rfl

/-! ### Totals -/

private theorem roundAmount_le (i : ℕ) (burnt : Bool) : h.roundAmount i burnt ≤ 2 ^ 13 := by
  have hclose := (h.worth_figures hsetting i burnt).2.2.2
  have hhits : ((setting.strikes.map (h.hit burnt)).sum : ℚ) ≤ (2 ^ 11 : ℕ) := by exact_mod_cast h.sum_le burnt
  have htoll := (statusDamage_fit i).2.amount_le
  have hsides := Value.sum_amount_le within_sides
  rw [length_sides] at hsides
  rw [h.amount_figures, abs_le, figureCount, slack] at hclose
  push_cast at hhits hsides hclose
  linarith

private theorem roundAmount_burnt (i : ℕ) : h.roundAmount i true + 49 ≤ h.roundAmount i false := by
  have hburnt := (h.worth_figures hsetting i true).2.2.2
  have hfresh := (h.worth_figures hsetting i false).2.2.2
  have hhits : ((setting.strikes.map (h.hit true)).sum : ℚ) + 50 ≤ (setting.strikes.map (h.hit false)).sum := by
    exact_mod_cast h.sum_burnt
  rw [h.amount_figures, abs_le, figureCount, slack] at hburnt hfresh
  push_cast at hhits hburnt hfresh
  linarith

/-- A round of the first bout amounts to no less than the same round of a later one. -/
private theorem roundAmount_later_le (i j : ℕ) (marks : ℕ → Option ℕ) :
    h.roundAmount i (isBurnt (marked i marks j)) ≤ h.roundAmount i (isBurnt (marked i (fun _ => none) j)) := by
  cases hfresh : isBurnt (marked i (fun _ => none) j) with
  | true => rw [isBurnt_marked_of_fresh hfresh]
  | false =>
    cases isBurnt (marked i marks j) with
    | true => linarith [h.roundAmount_burnt hsetting i]
    | false => exact le_rfl

omit hsetting in
private theorem amount_allSummands (n : ℕ) (marks : ℕ → Option ℕ) :
    ((h.allSummands n marks).map Value.amount).sum =
      ∑ i ∈ Finset.range n, h.roundAmount i (isBurnt (marked i marks (i % pairCount))) := by
  induction n with
  | zero => rfl
  | succ n ih =>
    rw [Finset.sum_range_succ, ← ih, allSummands, List.range_succ, List.flatMap_append, List.map_append,
      List.sum_append, List.flatMap_singleton]
    rfl

private theorem allSummands_bounds (n : ℕ) (marks : ℕ → Option ℕ) :
    (h.allSummands n marks).length ≤ figureCount * n ∧ ((h.allSummands n marks).map Value.amount).sum ≤ 2 ^ 13 * n := by
  induction n with
  | zero => simp [allSummands]
  | succ n ih =>
    have hround := h.worth_figures hsetting n (isBurnt (marked n marks (n % pairCount)))
    have hamount := h.roundAmount_le hsetting n (isBurnt (marked n marks (n % pairCount)))
    rw [allSummands, List.range_succ, List.flatMap_append, List.length_append, List.map_append, List.sum_append,
      List.flatMap_singleton, ← allSummands, Nat.cast_add_one]
    rw [roundAmount] at hamount
    exact ⟨by linarith [ih.1, hround.2.2.1], by linarith [ih.2, hamount]⟩

/-- The first bout amounts to more than a later one, if a round burns a fighter. -/
private theorem amount_gap {n : ℕ} (hn : 2 ≤ n) :
    ((h.allSummands n (marked n fun _ => none)).map Value.amount).sum + 49 ≤
      ((h.allSummands n fun _ => none).map Value.amount).sum := by
  obtain ⟨i, hi, hfresh, hburnt⟩ := exists_isBurnt_later hn
  have hsingle := Finset.single_le_sum (s := Finset.range n)
    (f := fun i => h.roundAmount i (isBurnt (marked i (fun _ => none) (i % pairCount))) -
      h.roundAmount i (isBurnt (marked i (marked n fun _ => none) (i % pairCount))))
    (fun i _ => sub_nonneg.2 (h.roundAmount_later_le hsetting i _ _)) (Finset.mem_range.2 hi)
  simp only [Finset.sum_sub_distrib, hfresh, hburnt] at hsingle
  rw [h.amount_allSummands, h.amount_allSummands]
  linarith [h.roundAmount_burnt hsetting i]

/-- The total of a bout, as it is reported, is near to what its summands amount to. -/
private theorem exists_rounded {n : ℕ} {marks : ℕ → Option ℕ} {z : Binary64} (hn : n ≤ 2 ^ 20)
    (hz : (h.allSummands n marks).foldlM Value.add (.float (ofDecimal false 0 (-((1 : ℕ) : ℤ)))) = .ok (.float z)) :
    ∃ t, (z.roundPlaces 4).value? = some t ∧ |t - ((h.allSummands n marks).map Value.amount).sum| ≤ 17 := by
  obtain ⟨hlength, hamount⟩ := h.allSummands_bounds hsetting n marks
  rw [figureCount] at hlength
  have hn' : (n : ℚ) ≤ 2 ^ 20 := by exact_mod_cast hn
  obtain ⟨y, t, hy, ht, hnear⟩ := Value.exists_rounded_total (h.within_allSummands hsetting n marks) (by norm_num)
    (by omega) (by linarith) value?_start 4
  rw [hz] at hy
  cases hy
  exact ⟨t, ht, hnear⟩

omit hsetting in
/-- In one round at most, nobody starts the next bout burnt. -/
private theorem allSummands_short {n : ℕ} (hn : n ≤ 1) :
    h.allSummands n (marked n fun _ => none) = h.allSummands n fun _ => none := by
  interval_cases n <;> rfl

end rounds

end Hits

private theorem start_eq {setting : Setting} (hsetting : setting.IsUsual) (roll : Value) :
    start setting [roll] = ring setting.opponent roll (fun _ => none) 0 := by
  rw [start, hsetting.fighter_eq]
  rfl

/-- Bouts of `n` rounds with a steady roll: the first is followed by equal ones.  It is equal to them if it has one
round at most; if it has more, its total is larger, and nothing else is different. -/
theorem later_bouts_alike {setting : Setting} (hsetting : setting.IsUsual) (n : ℤ) {x : Binary64} {r : ℚ}
    (hx : x.value? = some r) (hr : 0 ≤ r) (hr' : r < 1) :
    ∃ first later : Tally,
      (∀ k, run .standard setting n (k + 1) [.float x] = .ok (first :: List.replicate k later)) ∧
      { first with total := later.total } = later ∧
      (n ≤ 1 → first = later) ∧
      (2 ≤ n → n ≤ 2 ^ 20 → ∃ p q, first.total.amount? = some p ∧ later.total.amount? = some q ∧ q < p) := by
  obtain ⟨feint, category, hcategory, hstatus, hstrikes⟩ := hsetting.strikes
  obtain ⟨h⟩ := exists_hits hx hr hr' hcategory hstatus hstrikes
  have hwithin := h.within_allSummands hsetting n.toNat
  obtain ⟨z, hz⟩ := Value.exists_total (hwithin fun _ => none) (by norm_num) (ofDecimal false 0 (-((1 : ℕ) : ℤ)))
  obtain ⟨z', hz'⟩ := Value.exists_total (hwithin (marked n.toNat fun _ => none)) (by norm_num)
    (ofDecimal false 0 (-((1 : ℕ) : ℤ)))
  refine ⟨tally n z, tally n z', fun k => ?_, rfl, fun hn => ?_, fun hlow hhigh => ?_⟩
  · rw [run, start_eq hsetting, h.bouts_apply hsetting hz hz' k 0]
  · rw [h.allSummands_short (by omega), hz] at hz'
    cases hz'
    rfl
  · have hcount : n.toNat ≤ 2 ^ 20 := Int.toNat_le.2 hhigh
    obtain ⟨p, hp, hnear⟩ := h.exists_rounded hsetting hcount hz
    obtain ⟨q, hq, hnear'⟩ := h.exists_rounded hsetting hcount hz'
    refine ⟨p, q, hp, hq, ?_⟩
    have hgap := h.amount_gap hsetting (n := n.toNat) (by omega)
    rw [abs_le] at hnear hnear'
    linarith

/-! ### The workload -/

/-- The usual setting under the standard rules. -/
def usual : Setting :=
  ⟨fighter, rival, ["return", "shadowball", "synthesis"].map move, move "icebeam", (List.range figureCount).map .figure⟩

private theorem usual_eq : Setting.usual .standard = .ok usual := by
  rw [Setting.usual, makeFighter_eq, makeOpponent_eq]
  rfl

private theorem isUsual_usual : usual.IsUsual where
  fighter := makeFighter_eq
  opponent := ⟨rival, makeOpponent_eq, fun _ _ => rfl⟩
  strikes := ⟨move "synthesis", _, rfl, rfl, List.Perm.refl _⟩
  compared := rfl
  summands := List.Perm.refl _

private theorem run_sparring {n : ℤ} {k : ℕ} {rolls : List Value} {tallies : List Tally}
    (h : run .standard usual n k rolls = .ok tallies) :
    Workload.run Workload.sparring.name [(Workload.sparring.parameter, .int n)] k rolls =
      .ok (tallies.map (·.toValue)) := by
  have hsize : Workload.sparring.sizeOf [(Workload.sparring.parameter, .int n)] = .ok n := rfl
  rw [Workload.run, if_pos rfl, hsize, Outcome.ok_bind, usual_eq, Outcome.ok_bind, h]
  rfl

theorem sample_later_bouts_alike :
    ∃ first later : Tally,
      (∀ k, Workload.run Workload.sparring.name [(Workload.sparring.parameter, .int 7)] (k + 1) [.decimal 5 1] =
        .ok (first.toValue :: List.replicate k later.toValue)) ∧
      ∃ p q, first.total.amount? = some p ∧ later.total.amount? = some q ∧ q < p := by
  have hhalf : (ofDecimal false 5 (-((1 : ℕ) : ℤ))).value? = some (1 / 2) := by
    rw [show ofDecimal false 5 (-((1 : ℕ) : ℤ)) = .finite false 4503599627370496 (-53) by decide +kernel]
    norm_num [value?, signed]
  obtain ⟨first, later, hrun, -, -, hless⟩ := later_bouts_alike isUsual_usual 7 hhalf (by norm_num) (by norm_num)
  refine ⟨first, later, fun k => ?_, hless (by norm_num) (by norm_num)⟩
  exact (run_sparring (hrun k)).trans (by rw [List.map_cons, List.map_replicate])

/-- After seven rounds the first fighter is burnt, and its first strike in the second bout does 58 less. -/
theorem second_bout_falls_short :
    ((Workload.run Workload.sparring.name [(Workload.sparring.parameter, .int 7)] 2 [.decimal 1326 4]).toOption.map
      fun tallies => tallies.map fun t => (t.item (.int 0)).toOption.bind Value.number?) =
        some [some (.float (ofDecimal false 9776225 (-3))), some (.float (ofDecimal false 9718225 (-3)))] := by
  decide +kernel

end Docsmith.Battle.Sparring
