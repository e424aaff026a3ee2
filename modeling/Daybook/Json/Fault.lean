import Daybook.Text.Decimal
import Daybook.Text.Visible

/-!
# What can be wrong with a JSON text

A text may end early, break the grammar, or be well formed without having the expected shape.  Each
fault has a cause, the place in the value being read, and the amount of input that was left when it
was noticed, from which its line and column follow.

## Main definitions

* `Json.Cause`, `Json.Category` : the causes of a fault and their three categories.
* `Json.Fault` : a cause with its place.
* `Json.Fault.describe` : the sentence that reports a fault.
-/

namespace Daybook.Json

/-- What was being read when the input ended. -/
inductive Unfinished where
  | list
  | object
  | string
  | value
deriving DecidableEq, Repr

/-- The ways in which a text breaks the grammar. -/
inductive Malformation where
  | expectedColon
  | expectedListCommaOrEnd
  | expectedObjectCommaOrEnd
  | expectedIdentifier
  | expectedValue
  | invalidEscape
  | invalidNumber
  | numberOutOfRange
  | invalidCodePoint
  | controlCharacter
  | keyNotString
  | loneSurrogate
  | trailingComma
  | trailingCharacters
  | unfinishedSurrogatePair
  | nestedTooDeeply
deriving DecidableEq, Repr

/-- A value found where another kind of value was expected. -/
inductive Found where
  | null
  | boolean (b : Bool)
  | integer (n : Int)
  | real (numeral : String)
  | text (s : String)
  | list
  | object
deriving DecidableEq, Repr

/-- The ways in which a well-formed value differs from what was expected. -/
inductive Mismatch where
  | kind (found : Found) (expected : String)
  | range (found : Found) (expected : String)
  | length (count : Nat) (expected : String)
  | missing (field : String)
  | duplicate (field : String)
  | unreadable (reason : String)
deriving DecidableEq, Repr

/-- The cause of a fault. -/
inductive Cause where
  | truncated (u : Unfinished)
  | malformed (m : Malformation)
  | mismatched (m : Mismatch)
deriving DecidableEq, Repr

/-- The categories of faults: the input ends early, breaks the grammar, or has the wrong shape. -/
inductive Category where
  | truncated
  | malformed
  | mismatched
deriving DecidableEq, Repr

/-- The category of a cause. -/
def Cause.category : Cause → Category
  | .truncated _ => .truncated
  | .malformed _ => .malformed
  | .mismatched _ => .mismatched

/-- A step from a value to one of its parts. -/
inductive Step where
  | member (key : String)
  | element (index : Nat)
deriving DecidableEq, Repr

/-- A cause, the path to the part that was being read, and the number of bytes that were left when
the fault was noticed, once that is settled. -/
structure Fault where
  cause : Cause
  path : List Step
  remaining : Option Nat
deriving DecidableEq, Repr

/-! ### Messages -/

/-- The words for what the input ended in. -/
def Unfinished.words : Unfinished → String
  | .list => "a list"
  | .object => "an object"
  | .string => "a string"
  | .value => "a value"

/-- The words for a breach of the grammar. -/
def Malformation.message : Malformation → String
  | .expectedColon => "expected `:`"
  | .expectedListCommaOrEnd => "expected `,` or `]`"
  | .expectedObjectCommaOrEnd => "expected `,` or `\x7d`"
  | .expectedIdentifier => "expected ident"
  | .expectedValue => "expected value"
  | .invalidEscape => "invalid escape"
  | .invalidNumber => "invalid number"
  | .numberOutOfRange => "number out of range"
  | .invalidCodePoint => "invalid unicode code point"
  | .controlCharacter => "control character (\\u0000-\\u001F) found while parsing a string"
  | .keyNotString => "key must be a string"
  | .loneSurrogate => "lone leading surrogate in hex escape"
  | .trailingComma => "trailing comma"
  | .trailingCharacters => "trailing characters"
  | .unfinishedSurrogatePair => "unexpected end of hex escape"
  | .nestedTooDeeply => "recursion limit exceeded"

/-- The words for a value that was found. -/
def Found.words : Found → String
  | .null => "null"
  | .boolean b => "boolean `" ++ (if b then "true" else "false") ++ "`"
  | .integer n => "integer `" ++ String.ofList (Decimal.integer n) ++ "`"
  | .real numeral => "floating point `" ++ numeral ++ "`"
  | .text s => "string " ++ Text.visible s
  | .list => "sequence"
  | .object => "map"

/-- The words for a value of the wrong shape. -/
def Mismatch.message : Mismatch → String
  | .kind found expected => "invalid type: " ++ found.words ++ ", expected " ++ expected
  | .range found expected => "invalid value: " ++ found.words ++ ", expected " ++ expected
  | .length count expected =>
    "invalid length " ++ String.ofList (Decimal.digits count) ++ ", expected " ++ expected
  | .missing field => "missing field `" ++ field ++ "`"
  | .duplicate field => "duplicate field `" ++ field ++ "`"
  | .unreadable reason => reason

/-- The words for a cause. -/
def Cause.message : Cause → String
  | .truncated u => "EOF while parsing " ++ u.words
  | .malformed m => m.message
  | .mismatched m => m.message

/-- The path of a fault: keys after a point, positions in brackets. -/
def pathText : List Step → String
  | [] => ""
  | .element i :: rest => "[" ++ String.ofList (Decimal.digits i) ++ "]" ++ tailText rest
  | .member k :: rest => k ++ tailText rest
where
  /-- The path after its first step. -/
  tailText : List Step → String
    | [] => ""
    | .element i :: rest => "[" ++ String.ofList (Decimal.digits i) ++ "]" ++ tailText rest
    | .member k :: rest => "." ++ k ++ tailText rest

/-- The line and the column that follow the given bytes: lines are counted from one, and a column
is the number of bytes since the line began. -/
def position (read : List UInt8) : Nat × Nat :=
  read.foldl
    (fun (line, column) (b : UInt8) => if b = 10 then (line + 1, 0) else (line, column + 1)) (1, 0)

/-- The sentence that reports a fault in an input: the path if there is one, the cause, and the line
and column. -/
def Fault.describe (input : List UInt8) (f : Fault) : String :=
  let (line, column) := position (input.take (input.length - f.remaining.getD 0))
  let path := if f.path.isEmpty then "" else pathText f.path ++ ": "
  path ++ f.cause.message ++ " at line " ++ String.ofList (Decimal.digits line) ++ " column " ++
    String.ofList (Decimal.digits column)

end Daybook.Json
