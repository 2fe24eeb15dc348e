/-!
# Properties of code points

A property of code points is stored as the increasing list of the code points at which it changes; it is false
before the first of them.
-/

namespace Docsmith.Text

/-- Whether the property that changes at the listed code points holds at `c`. -/
def holdsAt (changes : List Nat) (c : Nat) : Bool :=
  match changes with
  | [] => false
  | p :: rest => if c < p then false else !holdsAt rest c

end Docsmith.Text
