import Docsmith.Battle.Damage

/-!
# Estimates of damage

A table gives the damage value of some base stats; others are estimated from the nearest one.  From the damage values
of both sides follows the range of damage that an attack can do, in percent of the hit points.
-/

namespace Docsmith.Battle

/-- Damage values by base stat. -/
structure DamageTable where
  entries : List (Int × Value)

namespace DamageTable

/-- Damage values in hundredths, by base stat. -/
def hundredths : List (Int × Nat) :=
  [(5, 219), (10, 267), (15, 314), (20, 362), (25, 410), (30, 457), (35, 505), (40, 552), (45, 600), (50, 648),
   (55, 695), (60, 743), (65, 790), (70, 838), (75, 886), (80, 933), (85, 981), (90, 1029), (95, 1076), (100, 1124),
   (105, 1171), (110, 1219), (115, 1267), (120, 1314), (125, 1362), (130, 1410), (135, 1457), (140, 1505),
   (145, 1552), (150, 1600), (160, 1695), (165, 1743), (170, 1790), (180, 1886), (190, 1981), (200, 2076),
   (230, 2362), (250, 2552)]

/-- The damage values in use.  The one of the largest base stat is a whole number. -/
def standard : DamageTable :=
  ⟨hundredths.map (fun e => (e.1, .decimal e.2 2)) ++ [(255, .int 260)]⟩

/-- The base stats of a table. -/
def keys (table : DamageTable) : List Int := table.entries.map (·.1)

/-- The damage value of a base stat. -/
def value? (table : DamageTable) (n : Value.Number) : Option Value :=
  (table.entries.find? fun e => n.same (.int e.1)).map (·.2)

/-- Goes through base stats in order and keeps one as soon as its distance, without sign, is less than the distance,
with sign, of the one kept so far. -/
def nearest (n : Value.Number) : List Int → Option Int × Value.Number → Outcome (Option Int × Value.Number)
  | [], best => .ok best
  | k :: ks, best => do
    let diff ← n.sub (.int k)
    nearest n ks (if diff.abs.lt best.2 then (some k, diff) else best)

/-- The base stat of a table nearest to a number, and how far the number is above it. -/
def closest (keys : List Int) (number : Value) : Outcome (Int × Value) := do
  match keys with
  | [] => .error .badIndex
  | first :: _ =>
    let n ← number.toNumber
    if n.lt (.int first) then .ok (first, .ofNumber (← n.sub (.int first)))
    else match ← nearest n keys (none, .float (.infinity false)) with
      | (some k, diff) => .ok (k, .ofNumber diff)
      | (none, _) => .error .wrongType

/-- The damage value of a base stat, read from the table or estimated from its nearest entry. -/
def base (table : DamageTable) (stat : Value) : Outcome Value := do
  let n ← stat.toNumber
  match table.value? n with
  | some v => .ok v
  | none =>
    let (k, offset) ← closest table.keys stat
    let v ← match table.value? (.int k) with
      | some v => .ok v
      | none => .error (.missingKey (.int k))
    v.add (← (← Value.mul (.decimal 19 2) offset).div (.int 2))

/-- Whether an option is on. -/
def option (name : String) (options : Fields Value) : Bool :=
  ((options.get? name).getD (.bool false)).truthy

/-- A value rounded to decimal places. -/
def rounded (places : Nat) (v : Value) : Outcome Value := do
  .ok (.ofNumber ((← v.toNumber).roundPlaces places))

/-- The damage value of a stat: full effort adds three, hit points add five, an attack counts four times and a
favourable nature a tenth more. -/
def estimate (table : DamageTable) (stat : Value) (options : Fields Value) : Outcome Value := do
  let v ← table.base stat
  let v ← if option "max_evs" options then v.add (.int 3) else .ok v
  let v ←
    if option "is_hp" options then v.add (.int 5)
    else if option "is_atk" options then v.mul (.int 4)
    else .ok v
  let v ← if option "positive_nature" options then v.mul (.decimal 11 1) else .ok v
  rounded 2 (← rounded 3 v)

/-- The options that a value gives, together with those already given, which it must not give again. -/
def optionsWith (given : Fields Value) (v : Value) : Outcome (Fields Value) :=
  match v with
  | .record fields =>
    if (["self", "stat_val"] ++ given.names).any fun name => Fields.has name fields then .error .wrongType
    else .ok (given ++ fields)
  | _ => .error .wrongType

/-- The factor of the boosts of both sides; a side without boosts has none. -/
def boostRatio (move attacker defender : Value) : Outcome Value := do
  let special := (← move.field "category").isText "Special"
  let side (creature : Value) (code : String) : Outcome Value := do
    if ← creature.contains (.text "boosts") then boostFactor creature (.text code) else .ok (.int 1)
  let attack ← side attacker (if special then "spa" else "atk")
  let defence ← side defender (if special then "spd" else "def")
  attack.div defence

/-- The least and the greatest damage of an attack, in percent.  `params` holds the options for the attack, the
defence and the hit points. -/
def range (table : DamageTable) (rules : Rules) (move attacker defender params : Value) : Outcome (Int × Int) := do
  let physical := (← move.field "category").isText "Physical"
  let attackOptions ← params.field "atk"
  let pointsOptions ← params.field "hp"
  let defenceOptions ← params.field "def"
  let factor ← typesFactor rules move attacker defender
  let factor ← factor.mul (← boostRatio move attacker defender)
  let attackStat ← (← attacker.field "baseStats").field (if physical then "atk" else "spa")
  let attack ← table.estimate attackStat (← optionsWith [("is_atk", .bool true)] attackOptions)
  let pointsStat ← (← defender.field "baseStats").field "hp"
  let points ← table.estimate pointsStat (← optionsWith [("is_hp", .bool true)] pointsOptions)
  let defenceStat ← (← defender.field "baseStats").field (if physical then "def" else "spd")
  let defence ← table.estimate defenceStat (← optionsWith [] defenceOptions)
  let most ← (← attack.mul factor).mul (← move.field "basePower")
  let most ← most.div (← points.mul defence)
  let burnt := (← attacker.getOr (.text "status") .null).isText burn
  let most ← if burnt && physical then Value.mul (.decimal 5 1) most else .ok most
  .ok (← (← Value.mul (.decimal 85 2) most).floor, ← most.ceil)

end DamageTable

end Docsmith.Battle
