import Docsmith.Binary64.Basic
import Docsmith.Fields

/-!
# Values

The values of loosely typed records: what a documentation record, a battle event or a measurement may hold.
Integers have no bound and stay apart from binary64 numbers, although the two compare by what they stand for, and
truth values count as the integers one and zero.
-/

namespace Docsmith

/-- A value of a loosely typed record.  A creature is a value with attributes, found by name; a method stands for
anything that could be called on an object, and the damage calculator for itself. -/
inductive Value where
  | null
  | bool (b : Bool)
  | int (n : Int)
  | float (x : Binary64)
  | text (s : String)
  | list (items : List Value)
  | record (fields : List (String × Value))
  | creature (attributes : List (String × Value))
  | method
  | calculator
  deriving Inhabited

namespace Value

/-- A number: an exact integer or a binary64 number. -/
inductive Number where
  | int (n : Int)
  | float (x : Binary64)
  deriving DecidableEq, Inhabited

/-- The number that a value stands for. -/
def number? : Value → Option Number
  | .bool b => some (.int (if b then 1 else 0))
  | .int n => some (.int n)
  | .float x => some (.float x)
  | _ => none

/-- A number as a value. -/
def ofNumber : Number → Value
  | .int n => .int n
  | .float x => .float x

/-- The integer that a value stands for: an integer or a truth value. -/
def int? : Value → Option Int
  | .bool b => some (if b then 1 else 0)
  | .int n => some n
  | _ => none

/-- The name of a value's type. -/
def typeName : Value → String
  | .null => "NoneType"
  | .bool _ => "bool"
  | .int _ => "int"
  | .float _ => "float"
  | .text _ => "str"
  | .list _ => "list"
  | .record _ => "dict"
  | .creature _ => "Pokemon"
  | .method => "method"
  | .calculator => "DamageStatCalc"

/-- Whether a value counts as true: all do but null, the zeros and what is empty. -/
def truthy : Value → Bool
  | .null => false
  | .bool b => b
  | .int n => n != 0
  | .float x => !x.isZero
  | .text s => s != ""
  | .list items => !items.isEmpty
  | .record fields => !fields.isEmpty
  | _ => true

/-- Whether a value is a given text. -/
def isText (s : String) : Value → Bool
  | .text t => t == s
  | _ => false

/-- A number given by its decimal digits, the last `places` of them after the point. -/
def decimal (digits places : Nat) : Value := .float (Binary64.ofDecimal false digits (-(places : Int)))

/-- The most digits of an integer that is read from a text. -/
def maxDigits : Nat := 4300

/-- Whether a value may be looked up in a record: lists and records may not. -/
def isKey : Value → Bool
  | .list _ => false
  | .record _ => false
  | _ => true

end Value

namespace Value.Number

/-- How two numbers compare, exactly; `none` if one is not a number. -/
def compare? : Number → Number → Option Ordering
  | .int a, .int b => some (compare a b)
  | .float x, .int b => x.compareInt? b
  | .int a, .float y => (y.compareInt? a).map Ordering.swap
  | .float x, .float y => x.compare? y

/-- Whether two numbers are equal. -/
def same (a b : Number) : Bool := a.compare? b == some .eq

end Value.Number

namespace Value

mutual

/-- Whether two values are equal.  Numbers are compared by what they stand for and records without regard to
order; a method or calculator is only equal to itself. -/
def same : Value → Value → Bool
  | .null, .null => true
  | .text s, .text t => s == t
  | .list xs, .list ys => sameItems xs ys
  | .record fs, .record gs => fs.length == gs.length && sameFields fs gs
  | .creature fs, .creature gs => fs.length == gs.length && sameFields fs gs
  | .method, .method => true
  | .calculator, .calculator => true
  | .bool b, y => sameNumber (.int (if b then 1 else 0)) y
  | .int n, y => sameNumber (.int n) y
  | .float x, y => sameNumber (.float x) y
  | _, _ => false

/-- Whether a value is a number equal to a given one. -/
def sameNumber (a : Number) (y : Value) : Bool :=
  match y.number? with
  | some b => a.same b
  | none => false

/-- Whether two lists have equal members. -/
def sameItems : List Value → List Value → Bool
  | [], [] => true
  | x :: xs, y :: ys => same x y && sameItems xs ys
  | _, _ => false

/-- Whether every field of the first table has an equal one in the second. -/
def sameFields : List (String × Value) → List (String × Value) → Bool
  | [], _ => true
  | (k, v) :: fs, gs =>
    (match Fields.get? k gs with
      | some w => same v w
      | none => false) && sameFields fs gs

end

end Value

end Docsmith
