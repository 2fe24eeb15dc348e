import Docsmith.Proofs.Battle.Condition
import Docsmith.Proofs.Battle.Steady

/-!
# Hits

The strikes of fighters who take turns, with a steady roll.  The state of a fighter is that of its last turn (`fit`),
and all that counts of it is whether it is a burn (`sameStrength_fit`).  A burn takes at least 50 of the damage that a
fighter does in a round (`exists_hits`), and as soon as bouts have two rounds, some fighter strikes unhurt in the
first bout and burnt in the second (`exists_isBurnt_later`).
-/

namespace Docsmith.Battle.Sparring

open Binary64

/-! ### Turns -/

/-- The last of the first `n` rounds in which fighter `j` has its turn. -/
def lastTurn : ℕ → ℕ → Option ℕ
  | 0, _ => none
  | n + 1, j => if n % pairCount = j then some n else lastTurn n j

/-- The last turn of each fighter after `n` rounds, if `marks` are the last turns before. -/
def marked (n : ℕ) (marks : ℕ → Option ℕ) (j : ℕ) : Option ℕ := (lastTurn n j).or (marks j)

/-- Whether a turn leaves a burn. -/
def isBurnt (mark : Option ℕ) : Bool := mark.any fun i => i % states.length == 1

section turns

variable {n k j : ℕ} {marks : ℕ → Option ℕ}

theorem marked_succ (n : ℕ) (marks : ℕ → Option ℕ) :
    marked (n + 1) marks = Function.update (marked n marks) (n % pairCount) (some n) := by
  funext j
  by_cases h : n % pairCount = j
  · subst h
    simp [marked, lastTurn]
  · simp [marked, lastTurn, h, Function.update_of_ne (Ne.symm h)]

/-- A second bout of the same length leaves what the first one left. -/
theorem marked_marked (n : ℕ) (marks : ℕ → Option ℕ) : marked n (marked n marks) = marked n marks := by
  funext j
  unfold marked
  cases lastTurn n j <;> rfl

private theorem lastTurn_eq_none (h : n ≤ j) : lastTurn n j = none := by
  induction n with
  | zero => rfl
  | succ n ih =>
    have hne : n % pairCount ≠ j := by
      have := Nat.mod_le n pairCount
      omega
    rw [lastTurn, if_neg hne, ih (by omega)]

private theorem lastTurn_eq_some (hlt : k < n) (hle : n ≤ k + pairCount) : lastTurn n (k % pairCount) = some k := by
  induction n with
  | zero => omega
  | succ n ih =>
    unfold pairCount at hle ih ⊢
    by_cases hk : n = k
    · rw [lastTurn, hk, pairCount, if_pos rfl]
    · rw [lastTurn, pairCount, if_neg (by omega), ih (by omega) (by omega)]

/-- Who is burnt in the first bout is burnt in the others. -/
theorem isBurnt_marked_of_fresh {i : ℕ} (h : isBurnt (marked i (fun _ => none) j) = true) :
    isBurnt (marked i marks j) = true := by
  unfold marked at h ⊢
  cases hlast : lastTurn i j with
  | none =>
    rw [hlast] at h
    cases h
  | some k => rwa [hlast] at h

/-- In a bout of two rounds or more a fighter is burnt, and starts the next bout so. -/
theorem exists_isBurnt_later (hn : 2 ≤ n) :
    ∃ i < n, isBurnt (marked i (fun _ => none) (i % pairCount)) = false ∧
      isBurnt (marked i (marked n fun _ => none) (i % pairCount)) = true := by
  -- The last round that burns is `k`; its fighter has its first turn in round `k % pairCount`.
  obtain ⟨k, hk, hlt, hle⟩ : ∃ k, k % states.length = 1 ∧ k < n ∧ n ≤ k + pairCount := by
    rw [show states.length = 4 from rfl, show pairCount = 5 from rfl]
    exact ⟨4 * ((n - 2) / 4) + 1, by omega, by omega, by omega⟩
  have hmod : k % pairCount % pairCount = k % pairCount := Nat.mod_mod k pairCount
  have hnone : lastTurn (k % pairCount) (k % pairCount) = none := lastTurn_eq_none le_rfl
  have hsome := lastTurn_eq_some hlt hle
  refine ⟨k % pairCount, (Nat.mod_le k pairCount).trans_lt hlt, ?_, ?_⟩
  · rw [hmod, marked, hnone]
    rfl
  · rw [hmod, marked, hnone, marked, hsome]
    simpa [isBurnt] using hk

end turns

/-! ### Fighters -/

/-- A fresh fighter. -/
def fighter : Attributes := (makeFighter .standard).toOption.getD []

/-- The opponent. -/
def rival : Attributes := (makeOpponent .standard).toOption.getD []

/-- A move of the rules. -/
def move (name : String) : Value := (Fields.get? name Rules.standard.moves).getD .null

/-- A fighter after its last turn. -/
def fit : Option ℕ → Attributes
  | none => fighter
  | some i => tired i fighter

/-- A fighter in one of the two conditions that count. -/
def worn (burnt : Bool) : Attributes := if burnt then tired 1 fighter else fighter

theorem makeFighter_eq : makeFighter .standard = .ok fighter := Outcome.eq_ok_getD [] (by decide +kernel)

theorem makeOpponent_eq : makeOpponent .standard = .ok rival := Outcome.eq_ok_getD [] (by decide +kernel)

private theorem get?_status_fighter : fighter.get? "status" = some .null := by rfl

theorem tired_fit (i : ℕ) (mark : Option ℕ) : tired i (fit mark) = fit (some i) := by
  cases mark with
  | none => rfl
  | some j => exact tired_tired i j fighter

theorem get?_fit {name : String} (mark : Option ℕ) (hstatus : name ≠ "status") (hturns : name ≠ "status_turns") :
    (fit mark).get? name = fighter.get? name := by
  cases mark with
  | none => rfl
  | some i => exact get?_tired i fighter hstatus hturns

private theorem worn_eq_fit (burnt : Bool) : worn burnt = fit (if burnt then some 1 else none) := by
  cases burnt <;> rfl

/-- The state that a fighter is in. -/
private theorem get?_status_fit (mark : Option ℕ) :
    ∃ s, (fit mark).get? "status" = some s ∧ s.isText burn = isBurnt mark ∧ s.isText paralysis = false := by
  cases mark with
  | none => exact ⟨.null, get?_status_fighter, rfl, rfl⟩
  | some i =>
    refine ⟨_, get?_status_tired i fighter, ?_⟩
    have hlt : i % states.length < 4 := Nat.mod_lt i (by decide)
    unfold isBurnt
    rw [Option.any_some]
    generalize i % states.length = state at hlt ⊢
    interval_cases state <;> exact ⟨rfl, rfl⟩

theorem sameStrength_fit (mark : Option ℕ) : SameStrength (fit mark) (worn (isBurnt mark)) where
  others name hstatus hturns := by
    rw [worn_eq_fit, get?_fit mark hstatus hturns, get?_fit _ hstatus hturns]
  status := by
    obtain ⟨s, hs, hburn, hparalysis⟩ := get?_status_fit mark
    obtain ⟨t, ht, hburn', hparalysis'⟩ := get?_status_fit (if isBurnt mark then some 1 else none)
    rw [← worn_eq_fit] at ht
    refine ⟨s, t, hs, ht, ?_⟩
    simp only [List.forall_mem_cons, hburn, hburn', hparalysis, hparalysis', true_and]
    exact ⟨by cases isBurnt mark <;> rfl, by simp⟩

/-! ### Strikes -/

/-- The moves that do damage. -/
def blows : List String := ["return", "shadowball"]

/-- The damage of a move before types and rolls. -/
def baseOf (burnt : Bool) (name : String) : ℕ := if name = "return" then if burnt then 46 else 91 else 71

private theorem baseOf_bounds (burnt : Bool) (name : String) : 2 ≤ baseOf burnt name ∧ baseOf burnt name ≤ 100 := by
  unfold baseOf
  split_ifs <;> decide

private theorem baseDamage_worn (burnt : Bool) :
    ∀ name ∈ blows, baseDamage (move name) (.creature (worn burnt)) (.creature rival) = .ok (baseOf burnt name) := by
  simp only [blows, List.forall_mem_cons]
  refine ⟨?_, ?_, by simp⟩ <;> cases burnt <;> exact Outcome.eq_ok_of_toOption (by decide +kernel)

/-- The factor of the types of a move: the fighters are of the type of one of them. -/
def factorOf (name : String) : Value := if name = "return" then .decimal 15 1 else .int 1

private theorem typesFactor_worn (burnt : Bool) :
    ∀ name ∈ blows,
      typesFactor .standard (move name) (.creature (worn burnt)) (.creature rival) = .ok (factorOf name) := by
  simp only [blows, List.forall_mem_cons]
  refine ⟨?_, ?_, by simp⟩ <;> cases burnt <;> rfl

private theorem amount?_factorOf :
    ∀ name ∈ blows, ∃ p, (factorOf name).amount? = some p ∧ 1 ≤ p ∧ p ≤ 8 / 5 ∧ (name = "return" → 149 / 100 ≤ p) := by
  simp only [blows, List.forall_mem_cons]
  refine ⟨?_, ⟨1, rfl, by norm_num, by norm_num, by decide⟩, by simp⟩
  obtain ⟨p, hp, hnear⟩ := close_ofDecimal 15 1 (j := 1) (by norm_num) (by norm_num)
  rw [abs_le] at hnear
  norm_num at hnear
  exact ⟨p, hp, by linarith, by linarith, fun _ => by linarith⟩

private theorem category_move : ∀ name ∈ blows, ∃ category, (move name).field "category" = .ok category ∧
    category.isText "Status" = false := by
  simp only [blows, List.forall_mem_cons]
  exact ⟨⟨_, rfl, rfl⟩, ⟨_, rfl, rfl⟩, by simp⟩

/-- What a move does with a steady roll. -/
def hitOf (roll : Value) (burnt : Bool) (name : String) : ℕ :=
  ((steadyDamage roll (factorOf name) (baseOf burnt name)).toOption.map (·.1.toNat)).getD 0

private theorem exists_hitOf {x : Binary64} {r : ℚ} (hx : x.value? = some r) (hr : 0 ≤ r) (hr' : r < 1) {name : String}
    (hname : name ∈ blows) :
    ∃ (q : ℚ) (critical : Bool), 0 ≤ q ∧ q ≤ 7 ∧ (name = "return" → 119 / 100 ≤ q) ∧ ∀ burnt,
      steadyDamage (.float x) (factorOf name) (baseOf burnt name) = .ok ((hitOf (.float x) burnt name : ℤ), critical) ∧
        baseOf burnt name * q - 5 / 4 ≤ hitOf (.float x) burnt name ∧
          hitOf (.float x) burnt name ≤ baseOf burnt name * q + 1 / 4 := by
  obtain ⟨p, hp, hp1, hp2, hreturn⟩ := amount?_factorOf name hname
  obtain ⟨q, critical, hq, hq', hbase⟩ := exists_steadyDamage hx hr hr' hp hp1 hp2
  refine ⟨q, critical, by linarith, hq', fun h => by linarith [hreturn h], fun burnt => ?_⟩
  have hbounds := baseOf_bounds burnt name
  obtain ⟨hit, hdone, hlow, hhigh⟩ := hbase (baseOf burnt name) hbounds.1 hbounds.2
  have hhit : hitOf (.float x) burnt name = hit := by rw [hitOf, hdone]; rfl
  rw [hhit]
  exact ⟨hdone, hlow, hhigh⟩

/-- What a strike does with a steady roll. -/
def strikeOf (roll : Value) (burnt : Bool) (strike : Value) : ℕ :=
  (((damage .standard strike (.creature (worn burnt)) (.creature rival)).apply ⟨[roll], 0⟩).1.toOption.map
    (·.1.toNat)).getD 0

/-- What each strike does if every roll is the same, in both conditions.  A burn takes a good part of it. -/
structure Hits (strikes : List Value) (roll : Value) where
  hit : Bool → Value → ℕ
  lands : ∀ burnt, ∀ strike ∈ strikes, ∀ u, ∃ critical u',
    (damage .standard strike (.creature (worn burnt)) (.creature rival)).apply ⟨[roll], u⟩ =
      (.ok ((hit burnt strike : ℤ), critical), ⟨[roll], u'⟩)
  sum_le : ∀ burnt, (strikes.map (hit burnt)).sum ≤ 2 ^ 11
  sum_burnt : (strikes.map (hit true)).sum + 50 ≤ (strikes.map (hit false)).sum

private theorem strikeOf_eq {roll strike : Value} {burnt critical : Bool} {hit : ℕ} {u : ℕ}
    (h : (damage .standard strike (.creature (worn burnt)) (.creature rival)).apply ⟨[roll], 0⟩ =
      (.ok ((hit : ℤ), critical), ⟨[roll], u⟩)) : strikeOf roll burnt strike = hit := by
  rw [strikeOf, h]
  rfl

section strikes

variable {x : Binary64} {r : ℚ} (hx : x.value? = some r) (hr : 0 ≤ r) (hr' : r < 1)

include hx hr hr'

private theorem damage_blow (burnt : Bool) {name : String} (hname : name ∈ blows) :
    ∃ critical, ∀ u, (damage .standard (move name) (.creature (worn burnt)) (.creature rival)).apply ⟨[.float x], u⟩ =
      (.ok ((hitOf (.float x) burnt name : ℤ), critical), ⟨[.float x], u + 2⟩) := by
  obtain ⟨q, critical, -, -, -, hhit⟩ := exists_hitOf hx hr hr' hname
  obtain ⟨category, hcategory, hstatus⟩ := category_move name hname
  exact ⟨critical, damage_steady hcategory hstatus (baseDamage_worn burnt name hname)
    (typesFactor_worn burnt name hname) (hhit burnt).1⟩

private theorem strikeOf_blow (burnt : Bool) {name : String} (hname : name ∈ blows) :
    strikeOf (.float x) burnt (move name) = hitOf (.float x) burnt name := by
  obtain ⟨critical, hdamage⟩ := damage_blow hx hr hr' burnt hname
  exact strikeOf_eq (hdamage 0)

private theorem hitOf_le (burnt : Bool) {name : String} (hname : name ∈ blows) :
    hitOf (.float x) burnt name ≤ 2 ^ 10 := by
  obtain ⟨q, critical, hq, hq', -, hhit⟩ := exists_hitOf hx hr hr' hname
  have hbase : (baseOf burnt name : ℚ) ≤ 100 := by exact_mod_cast (baseOf_bounds burnt name).2
  have hle : (hitOf (.float x) burnt name : ℚ) ≤ (2 ^ 10 : ℕ) := by
    push_cast
    linarith [(hhit burnt).2.2, mul_le_mul hbase hq' hq (by norm_num)]
  exact_mod_cast hle

private theorem hitOf_burnt : hitOf (.float x) true "return" + 50 ≤ hitOf (.float x) false "return" := by
  obtain ⟨q, critical, -, -, hq, hhit⟩ := exists_hitOf hx hr hr' (show "return" ∈ blows by decide)
  have hfresh : (91 : ℚ) * q - 5 / 4 ≤ hitOf (.float x) false "return" := (hhit false).2.1
  have hburnt : hitOf (.float x) true "return" ≤ (46 : ℚ) * q + 1 / 4 := (hhit true).2.2
  have hgap : ((hitOf (.float x) true "return" + 50 : ℕ) : ℚ) ≤ hitOf (.float x) false "return" := by
    push_cast
    linarith [hq rfl]
  exact_mod_cast hgap

/-- What a roll from 0 to 1 makes of the strikes. -/
theorem exists_hits {strikes : List Value} {feint category : Value} (hcategory : feint.field "category" = .ok category)
    (hstatus : category.isText "Status" = true)
    (hstrikes : strikes.Perm [move "return", move "shadowball", feint]) : Nonempty (Hits strikes (.float x)) := by
  have hreturn : "return" ∈ blows := by decide
  have hshadow : "shadowball" ∈ blows := by decide
  have hfeint : ∀ burnt u, (damage .standard feint (.creature (worn burnt)) (.creature rival)).apply ⟨[.float x], u⟩ =
      (.ok (((0 : ℕ) : ℤ), false), ⟨[.float x], u⟩) := fun burnt u => by
    rw [damage, hcategory, Change.ok_bind, if_pos hstatus]
    rfl
  have hsum : ∀ burnt, (strikes.map (strikeOf (.float x) burnt)).sum =
      hitOf (.float x) burnt "return" + hitOf (.float x) burnt "shadowball" := fun burnt => by
    rw [(hstrikes.map _).sum_eq]
    simp [strikeOf_blow hx hr hr' burnt hreturn, strikeOf_blow hx hr hr' burnt hshadow, strikeOf_eq (hfeint burnt 0)]
  refine ⟨⟨strikeOf (.float x), ?_, fun burnt => ?_, ?_⟩⟩
  · intro burnt strike hstrike u
    simp only [hstrikes.mem_iff, List.mem_cons, List.not_mem_nil, or_false] at hstrike
    rcases hstrike with rfl | rfl | rfl
    · obtain ⟨critical, hdamage⟩ := damage_blow hx hr hr' burnt hreturn
      exact ⟨critical, u + 2, by rw [strikeOf_blow hx hr hr' burnt hreturn, hdamage]⟩
    · obtain ⟨critical, hdamage⟩ := damage_blow hx hr hr' burnt hshadow
      exact ⟨critical, u + 2, by rw [strikeOf_blow hx hr hr' burnt hshadow, hdamage]⟩
    · exact ⟨false, u, by rw [strikeOf_eq (hfeint burnt 0), hfeint]⟩
  · rw [hsum]
    have := hitOf_le hx hr hr' burnt hreturn
    have := hitOf_le hx hr hr' burnt hshadow
    omega
  · have hsame : hitOf (.float x) true "shadowball" = hitOf (.float x) false "shadowball" := rfl
    have := hitOf_burnt hx hr hr'
    rw [hsum, hsum]
    omega

end strikes

end Docsmith.Battle.Sparring
