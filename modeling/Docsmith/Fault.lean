import Docsmith.Text.Search
import Docsmith.Text.Utf8
import Docsmith.Value.Printer

/-!
# Faults

Everything that can stop a computation, as its cause.  `Fault.kind` names the class of a fault and `Fault.message?`
gives the wording where the wording is part of the answer.
-/

namespace Docsmith

/-- Why a creature is refused. -/
inductive Refusal where
  | species (name : Value)
  | noMoves
  | move (name : Value)
  | level
  | nature (name : Value)
  | effortBelowZero
  | effortAboveLimit
  | effortNotInteger
  deriving Inhabited

/-- The wording of a refusal. -/
def Refusal.text : Refusal → List Char
  | .species name => "Invalid pokemon chosen: ".toList ++ name.display ++ ['.']
  | .noMoves => "Moves must be provided.".toList
  | .move name => "Invalid move chosen: ".toList ++ name.display ++ ['.']
  | .level => "Level must be between 1 and 100".toList
  | .nature name => "Invalid nature chosen: ".toList ++ name.display
  | .effortBelowZero => "EVs cannot be less than 0.".toList
  | .effortAboveLimit => "EVs cannot exceed 255.".toList
  | .effortNotInteger => "EVs must be integer values.".toList

/-- The cause of a failed computation. -/
inductive Fault where
  /-- A value of the named type lacks an attribute. -/
  | noAttribute (typeName name : String)
  | refused (reason : Refusal)
  | missingKey (key : Value)
  /-- A division by zero, of binary64 numbers or of integers. -/
  | divisionByZero (float : Bool)
  | notFound (path : String)
  | notDirectory (path : String)
  | isDirectory (path : String)
  | undecodable (failure : Text.Utf8.Failure)
  /-- An operation on values of a type that does not have it. -/
  | wrongType
  /-- A number beyond the range of its format. -/
  | overflow
  | badIndex
  /-- A name that no branch has given a value. -/
  | unassigned
  | badSyntax
  | badIndentation
  | mixedTabs
  | badValue
  | badJson
  /-- A process that could not be run. -/
  | process
  deriving Inhabited

namespace Fault

/-- The class of a fault. -/
def kind : Fault → String
  | .noAttribute _ _ => "AttributeError"
  | .refused _ => "AttributeError"
  | .missingKey _ => "KeyError"
  | .divisionByZero _ => "ZeroDivisionError"
  | .notFound _ => "FileNotFoundError"
  | .notDirectory _ => "NotADirectoryError"
  | .isDirectory _ => "IsADirectoryError"
  | .undecodable _ => "UnicodeDecodeError"
  | .wrongType => "TypeError"
  | .overflow => "OverflowError"
  | .badIndex => "IndexError"
  | .unassigned => "UnboundLocalError"
  | .badSyntax => "SyntaxError"
  | .badIndentation => "IndentationError"
  | .mixedTabs => "TabError"
  | .badValue => "ValueError"
  | .badJson => "JSONDecodeError"
  | .process => "RuntimeError"

/-- The wording of bytes that cannot be read. -/
def undecodableText (f : Text.Utf8.Failure) : List Char :=
  let place :=
    if f.length = 1 then
      "byte 0x".toList ++ Text.hexDigits 2 f.byte ++ " in position ".toList ++ Nat.toDigits 10 f.position
    else
      "bytes in position ".toList ++ Nat.toDigits 10 f.position ++
        '-' :: Nat.toDigits 10 (f.position + f.length - 1)
  "'utf-8' codec can't decode ".toList ++ place ++ ':' :: ' ' :: f.reason.text.toList

/-- The wording of a fault of the file system. -/
def pathText (number : Nat) (wording path : String) : List Char :=
  "[Errno ".toList ++ Nat.toDigits 10 number ++ "] ".toList ++ wording.toList ++ ':' :: ' ' ::
    Text.quoted path.toList

/-- The wording of a fault, where it has one. -/
def message? : Fault → Option (List Char)
  | .noAttribute typeName name =>
    some (Text.join [] ["'".toList, typeName.toList, "' object has no attribute '".toList, name.toList, ['\'']])
  | .refused reason => some reason.text
  | .missingKey key => some key.literal
  | .divisionByZero float => some ((if float then "float ".toList else []) ++ "division by zero".toList)
  | .notFound path => some (pathText 2 "No such file or directory" path)
  | .notDirectory path => some (pathText 20 "Not a directory" path)
  | .isDirectory path => some (pathText 21 "Is a directory" path)
  | .undecodable failure => some (undecodableText failure)
  | _ => none

end Fault

/-- The result of a computation that a fault may stop. -/
abbrev Outcome (α : Type) := Except Fault α

end Docsmith
