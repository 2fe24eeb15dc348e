import Docsmith.Value.Basic

/-!
# The rules of a battle

The tables that a battle looks things up in, as loosely typed as their sources: what a species is, what a move does,
what a nature changes, and how types fare against each other.
-/

namespace Docsmith.Battle

/-- The tables of a battle. -/
structure Rules where
  species : Fields Value
  moves : Fields Value
  natures : Fields Value
  /-- For each type of a defender the factors of the types of moves that are not one. -/
  chart : Fields Value

/-- The burnt state, which halves the attack. -/
def burn : String := "brn"

/-- The poisoned state. -/
def poison : String := "psn"

/-- The badly poisoned state, which grows worse each turn. -/
def toxic : String := "tox"

/-- The paralysed state, which halves the speed. -/
def paralysis : String := "par"

namespace Rules

/-- The entry of a species. -/
def speciesEntry (number : Int) (types : List String) (hp atk def_ spa spd spe : Int) : Value :=
  .record
    [("num", .int number), ("types", .list (types.map .text)),
     ("baseStats", .record
       [("hp", .int hp), ("atk", .int atk), ("def", .int def_), ("spa", .int spa), ("spd", .int spd),
        ("spe", .int spe)])]

/-- The entry of a move. -/
def moveEntry (id type category : String) (power priority : Int) : String × Value :=
  (id, .record
    [("type", .text type), ("category", .text category), ("basePower", .int power),
     ("priority", .int priority), ("id", .text id)])

/-- The entry of a nature that raises one stat and lowers another. -/
def natureEntry (increase decrease : String) : Value :=
  .record [("increase", .text increase), ("decrease", .text decrease)]

/-- The factors of types of moves against a type: those that count twice, half and not at all. -/
def chartEntry (twice half none : List String) : Value :=
  .record
    (twice.map (fun t => (t, Value.int 2)) ++ half.map (fun t => (t, Value.decimal 5 1)) ++
      none.map (fun t => (t, Value.int 0)))

/-- The rules of a battle where nothing else is said. -/
def standard : Rules where
  species :=
    [("spinda", speciesEntry 327 ["Normal"] 60 60 60 60 60 60),
     ("floatzel", speciesEntry 419 ["Water"] 85 105 55 85 50 115),
     ("ivysaur", speciesEntry 2 ["Grass", "Poison"] 60 62 63 80 80 60),
     ("gengar", speciesEntry 94 ["Ghost", "Poison"] 60 65 60 130 75 110),
     ("shuckle", speciesEntry 213 ["Bug", "Rock"] 20 10 230 10 230 5),
     ("blissey", speciesEntry 242 ["Normal"] 255 10 10 75 135 55)]
  moves :=
    [moveEntry "tackle" "Normal" "Physical" 40 0,
     moveEntry "return" "Normal" "Physical" 102 0,
     moveEntry "shadowball" "Ghost" "Special" 80 0,
     moveEntry "icebeam" "Ice" "Special" 90 0,
     moveEntry "watergun" "Water" "Special" 40 0,
     moveEntry "liquidation" "Water" "Physical" 85 0,
     moveEntry "seedbomb" "Grass" "Physical" 80 0,
     moveEntry "synthesis" "Grass" "Status" 0 0,
     moveEntry "swordsdance" "Normal" "Status" 0 0,
     moveEntry "quickattack" "Normal" "Physical" 40 1]
  natures :=
    [("quirky", .record [("increase", .null), ("decrease", .null)]),
     ("adamant", natureEntry "attack" "sp_attack"),
     ("brave", natureEntry "attack" "speed"),
     ("jolly", natureEntry "speed" "sp_attack"),
     ("bold", natureEntry "defense" "attack"),
     ("calm", natureEntry "sp_defense" "attack"),
     ("modest", natureEntry "sp_attack" "attack"),
     ("relaxed", natureEntry "defense" "speed")]
  chart :=
    [("Normal", chartEntry ["Fighting"] [] ["Ghost"]),
     ("Water", chartEntry ["Grass", "Electric"] ["Water", "Fire", "Ice", "Steel"] []),
     ("Grass", chartEntry ["Fire", "Ice", "Flying", "Bug", "Poison"] ["Water", "Grass", "Electric", "Ground"] []),
     ("Poison", chartEntry ["Psychic", "Ground"] ["Grass", "Fighting", "Poison", "Bug"] []),
     ("Ghost", chartEntry ["Ghost", "Dark"] [] ["Normal", "Fighting"]),
     ("Ice", chartEntry ["Fire", "Fighting", "Rock", "Steel"] ["Ice"] []),
     ("Bug", chartEntry ["Fire", "Flying", "Rock"] ["Grass", "Fighting", "Ground"] [])]

end Rules

end Docsmith.Battle
