import Docsmith.Binary64.Decimal
import Docsmith.Text.Quoted
import Docsmith.Value.Basic

/-!
# Texts of values

How a value is written inside a message or a page: `literal` quotes texts, `display` writes a text at the top as it
is.
-/

namespace Docsmith.Value

/-- An integer in decimal digits. -/
def intText (n : Int) : List Char :=
  if n < 0 then '-' :: Nat.toDigits 10 n.natAbs else Nat.toDigits 10 n.natAbs

mutual

/-- The value as it stands in a list or a message, with texts in quotes. -/
def literal : Value → List Char
  | .null => "None".toList
  | .bool b => if b then "True".toList else "False".toList
  | .int n => intText n
  | .float x => x.text
  | .text s => Text.quoted s.toList
  | .list items => '[' :: literalItems items ++ [']']
  | .record fields => '\x7b' :: literalFields fields ++ ['\x7d']
  | .creature _ => "<Pokemon>".toList
  | .method => "<method>".toList
  | .calculator => "<DamageStatCalc>".toList

/-- The members of a list, with commas between them. -/
def literalItems : List Value → List Char
  | [] => []
  | [v] => literal v
  | v :: w :: vs => literal v ++ ',' :: ' ' :: literalItems (w :: vs)

/-- The fields of a record, with commas between them. -/
def literalFields : List (String × Value) → List Char
  | [] => []
  | [(k, v)] => Text.quoted k.toList ++ ':' :: ' ' :: literal v
  | (k, v) :: f :: fs => Text.quoted k.toList ++ ':' :: ' ' :: literal v ++ ',' :: ' ' :: literalFields (f :: fs)

end

/-- The value as it stands on a page, with a text as it is. -/
def display : Value → List Char
  | .text s => s.toList
  | v => v.literal

end Docsmith.Value
