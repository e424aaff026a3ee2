import Daybook.Json.Fault
import Daybook.Text.Hex
import Daybook.Text.Real
import Daybook.Text.Utf8

/-!
# Reading JSON from bytes

A reader takes the bytes that are left and answers a result together with the bytes that are then
left.  A reader that fails also says where it stopped, since some callers go on from there.

## Main definitions

* `Json.Reader` : readers, with sequencing.
* `Json.string`, `Json.skipString` : the rest of a string after its opening quotation mark.
* `Json.number` : a number.
* `Json.skipValue` : any value, whose contents are not looked at.
* `Json.wrongKind` : the fault for a value of an unexpected kind.
-/

namespace Daybook.Json

/-- A result, and the bytes left afterwards. -/
structure Reading (α : Type) where
  result : Except Fault α
  rest : Bytes

/-- A reader of a value from the bytes that are left. -/
def Reader (α : Type) : Type :=
  Bytes → Reading α

namespace Reader

variable {α β : Type}

/-- The reader that reads nothing. -/
protected def pure (a : α) : Reader α :=
  fun s => ⟨.ok a, s⟩

/-- One reader after another; the second depends on what the first has read. -/
protected def bind (r : Reader α) (f : α → Reader β) : Reader β := fun s =>
  match r s with
  | ⟨.ok a, rest⟩ => f a rest
  | ⟨.error e, rest⟩ => ⟨.error e, rest⟩

instance : Monad Reader where
  pure := Reader.pure
  bind := Reader.bind

/-- Fails here. -/
def fail (c : Cause) : Reader α :=
  fun s => ⟨.error ⟨c, [], some s.length⟩, s⟩

/-- Fails at the byte that comes next. -/
def failAhead (c : Cause) : Reader α :=
  fun s => ⟨.error ⟨c, [], some (s.length - 1)⟩, s⟩

/-- Fails with a cause whose place is settled by the enclosing value. -/
def failSomewhere (c : Cause) : Reader α :=
  fun s => ⟨.error ⟨c, [], none⟩, s⟩

/-- Adds a step to the path of a fault. -/
def inside (step : Step) (r : Reader α) : Reader α := fun s =>
  match r s with
  | ⟨.error e, rest⟩ => ⟨.error { e with path := step :: e.path }, rest⟩
  | ok => ok

/-- Reads the end of a bracketed value after its contents.  After a fault in the contents the end is
still tried for, and a fault without a place is placed where that stops. -/
def closedBy (r : Reader α) (close : Reader Unit) : Reader α := fun s =>
  match r s with
  | ⟨.ok a, rest⟩ =>
    match close rest with
    | ⟨.ok (), rest⟩ => ⟨.ok a, rest⟩
    | ⟨.error e, rest⟩ => ⟨.error e, rest⟩
  | ⟨.error e, rest⟩ =>
    let rest := (close rest).rest
    ⟨.error { e with remaining := some (e.remaining.getD rest.length) }, rest⟩

/-- What a reader reads, if it does not fail; otherwise nothing, at the place where it stopped. -/
def attempt (r : Reader α) : Reader (Option α) := fun s =>
  match r s with
  | ⟨.ok a, rest⟩ => ⟨.ok (some a), rest⟩
  | ⟨.error _, rest⟩ => ⟨.ok none, rest⟩

end Reader

open Reader

/-! ### Blanks and single bytes -/

/-- Whether a byte is a space, a line feed, a tab or a carriage return. -/
def isSpace (b : UInt8) : Bool :=
  b == 0x20 || b == 0x0A || b == 0x09 || b == 0x0D

/-- Whether a byte is an ASCII digit. -/
def isDigit (b : UInt8) : Bool :=
  0x30 ≤ b && b ≤ 0x39

/-- The byte that comes next, if any. -/
def ahead : Reader (Option UInt8) :=
  fun s => ⟨.ok s.head?, s⟩

/-- The byte that comes next after blanks, which are skipped. -/
def aheadOfSpace : Reader (Option UInt8) := fun s =>
  let rest := s.dropWhile isSpace
  ⟨.ok rest.head?, rest⟩

/-- Skips a byte. -/
def skip : Reader Unit :=
  fun s => ⟨.ok (), s.drop 1⟩

/-- The rest of a literal after its first letter. -/
def identifier : List Char → Reader Unit
  | [] => pure ()
  | c :: cs => fun s =>
    match s with
    | [] => fail (.truncated .value) []
    | b :: rest =>
      if b.toNat = c.toNat then identifier cs rest
      else fail (.malformed .expectedIdentifier) rest

/-! ### Strings -/

/-- The byte that a one-letter escape stands for. -/
def simpleEscape? (b : UInt8) : Option UInt8 :=
  match Char.ofNat b.toNat with
  | '"' => some 0x22
  | '\\' => some 0x5C
  | '/' => some 0x2F
  | 'b' => some 0x08
  | 'f' => some 0x0C
  | 'n' => some 0x0A
  | 'r' => some 0x0D
  | 't' => some 0x09
  | _ => none

/-- The number that hexadecimal digits denote. -/
def hexNumber? (ds : Bytes) : Option Nat :=
  ds.foldlM (fun n (b : UInt8) => (Hex.value? (Char.ofNat b.toNat)).map fun d => 16 * n + d.val) 0

/-- Whether a number is the first half of a surrogate pair. -/
def isLeadingSurrogate (n : Nat) : Bool :=
  0xD800 ≤ n && n ≤ 0xDBFF

/-- Whether a number is the second half of a surrogate pair. -/
def isTrailingSurrogate (n : Nat) : Bool :=
  0xDC00 ≤ n && n ≤ 0xDFFF

/-- The character of a surrogate pair. -/
def surrogatePair (n₁ n₂ : Nat) : Char :=
  Char.ofNat ((n₁ - 0xD800) * 0x400 + (n₂ - 0xDC00) + 0x10000)

/-- Where a reader stands inside a string: between characters, after a backslash, among the four
digits of an escape that may complete a surrogate pair, or between the halves of such a pair. -/
inductive StringState where
  | plain
  | escape
  | digits (found : Bytes) (leading : Option Nat)
  | pairBackslash (leading : Nat)
  | pairLetter (leading : Nat)

/-- The bytes of a character, in reverse. -/
def reversedBytes (c : Char) : Bytes :=
  (String.utf8EncodeChar c).reverse

/-- The bytes that a string stands for, up to its closing quotation mark; those already found are
kept in reverse. -/
def stringBytes : StringState → Bytes → Bytes → Reading Bytes
  | _, _, [] => fail (.truncated .string) []
  | .plain, found, b :: rest =>
    if b = 0x22 then ⟨.ok found.reverse, rest⟩
    else if b = 0x5C then stringBytes .escape found rest
    else if b < 0x20 then fail (.malformed .controlCharacter) rest
    else stringBytes .plain (b :: found) rest
  | .escape, found, b :: rest =>
    if b = 0x75 then stringBytes (.digits [] none) found rest
    else
      match simpleEscape? b with
      | some c => stringBytes .plain (c :: found) rest
      | none => fail (.malformed .invalidEscape) rest
  | .digits ds leading, found, b :: rest =>
    if ds.length < 3 then stringBytes (.digits (ds ++ [b]) leading) found rest
    else
      match hexNumber? (ds ++ [b]), leading with
      | none, _ => fail (.malformed .invalidEscape) rest
      | some n, none =>
        if isTrailingSurrogate n then fail (.malformed .loneSurrogate) rest
        else if isLeadingSurrogate n then stringBytes (.pairBackslash n) found rest
        else stringBytes .plain (reversedBytes (Char.ofNat n) ++ found) rest
      | some n, some n₁ =>
        if isTrailingSurrogate n then
          stringBytes .plain (reversedBytes (surrogatePair n₁ n) ++ found) rest
        else fail (.malformed .loneSurrogate) rest
  | .pairBackslash n, found, b :: rest =>
    if b = 0x5C then stringBytes (.pairLetter n) found rest
    else fail (.malformed .unfinishedSurrogatePair) rest
  | .pairLetter n, found, b :: rest =>
    if b = 0x75 then stringBytes (.digits [] (some n)) found rest
    else fail (.malformed .unfinishedSurrogatePair) rest

/-- The text of a string after its opening quotation mark.  Bytes that are no text are a fault as
far before the end of the string as there are bytes from the first malformed part on. -/
def string : Reader String := fun s =>
  match stringBytes .plain [] s with
  | ⟨.ok bs, rest⟩ =>
    match Utf8.decode? bs with
    | some text => ⟨.ok text, rest⟩
    | none =>
      let remaining := rest.length + (Utf8.fromMalformed 0 bs).length
      ⟨.error ⟨.malformed .invalidCodePoint, [], some remaining⟩, rest⟩
  | ⟨.error e, rest⟩ => ⟨.error e, rest⟩

/-- Where a reader stands inside a string whose text is not wanted. -/
inductive SkipState where
  | plain
  | escape
  | digits (found : Bytes)

/-- Skips a string up to its closing quotation mark.  Its escapes are checked, its encoding is
not. -/
def skipStringFrom : SkipState → Bytes → Reading Unit
  | _, [] => fail (.truncated .string) []
  | .plain, b :: rest =>
    if b = 0x22 then ⟨.ok (), rest⟩
    else if b = 0x5C then skipStringFrom .escape rest
    else if b < 0x20 then fail (.malformed .controlCharacter) (b :: rest)
    else skipStringFrom .plain rest
  | .escape, b :: rest =>
    if b = 0x75 then skipStringFrom (.digits []) rest
    else if (simpleEscape? b).isSome then skipStringFrom .plain rest
    else fail (.malformed .invalidEscape) rest
  | .digits ds, b :: rest =>
    if ds.length < 3 then skipStringFrom (.digits (ds ++ [b])) rest
    else if (hexNumber? (ds ++ [b])).isSome then skipStringFrom .plain rest
    else fail (.malformed .invalidEscape) rest

/-- Skips a string after its opening quotation mark. -/
def skipString : Reader Unit :=
  skipStringFrom .plain

/-! ### Numbers -/

/-- A number: an integer of 64 bits, or a decimal fraction that a double-precision number is
taken for. -/
inductive Number where
  | natural (n : Nat)
  | negative (n : Int)
  | real (negative : Bool) (significand : Nat) (exponent : Int)
deriving DecidableEq, Repr

/-- The greatest exponent that is kept; greater ones stand for it. -/
def exponentLimit : Nat :=
  2147483647

/-- The decimal fraction of a numeral, unless it is too great for a double-precision number. -/
def real (negative : Bool) (significand : Nat) (exponent : Int) : Reader Number :=
  match Real.ofDecimal? significand exponent with
  | some _ => pure (.real negative significand exponent)
  | none => fail (.malformed .numberOutOfRange)

/-- The value of a digit. -/
def digitValue (b : UInt8) : Nat :=
  b.toNat - 0x30

/-- The digits of an exponent after the first.  An exponent beyond the limit makes the number zero
or out of range. -/
def exponentDigits (negative down : Bool) (significand : Nat) (base : Int) (exponent : Nat) :
    Bytes → Reading Number
  | [] => finish exponent []
  | b :: rest =>
    if isDigit b then
      let exponent' := exponent * 10 + digitValue b
      if exponentLimit < exponent' then
        if significand != 0 && !down then fail (.malformed .numberOutOfRange) rest
        else ⟨.ok (.real negative 0 0), rest.dropWhile isDigit⟩
      else exponentDigits negative down significand base exponent' rest
    else finish exponent (b :: rest)
where
  /-- The number with a complete exponent. -/
  finish (exponent : Nat) (rest : Bytes) : Reading Number :=
    real negative significand (if down then base - exponent else base + exponent) rest

/-- The exponent after its letter. -/
def exponent (negative : Bool) (significand : Nat) (base : Int) : Reader Number := do
  let sign ← ahead
  if sign = some 0x2B ∨ sign = some 0x2D then skip
  match ← ahead with
  | none => fail (.truncated .value)
  | some b =>
    skip
    if isDigit b then
      exponentDigits negative (sign = some 0x2D) significand base (digitValue b)
    else fail (.malformed .invalidNumber)

/-- Whether a byte is the letter before an exponent. -/
def isExponentLetter (b : UInt8) : Bool :=
  b == 0x65 || b == 0x45

/-- The greatest significand that is kept. -/
def significandLimit : Nat :=
  UInt64.size - 1

/-- The digits of a fraction.  Once the significand has reached its limit further digits are
dropped.  `count` tells how many digits were seen. -/
def fractionDigits (negative : Bool) (count : Nat) (full : Bool) (significand : Nat)
    (base : Int) : Bytes → Reading Number
  | [] =>
    if count = 0 then failAhead (.truncated .value) [] else real negative significand base []
  | b :: rest =>
    if isDigit b then
      let significand' := significand * 10 + digitValue b
      if full || decide (significandLimit < significand') then
        fractionDigits negative (count + 1) true significand base rest
      else fractionDigits negative (count + 1) false significand' (base - 1) rest
    else if count = 0 then failAhead (.malformed .invalidNumber) (b :: rest)
    else if isExponentLetter b then exponent negative significand base rest
    else real negative significand base (b :: rest)

/-- What follows the digits before the point. -/
def afterDigits (negative full : Bool) (significand : Nat) (base : Int) : Reader Number := do
  match ← ahead with
  | some 0x2E => skip; fractionDigits negative 0 false significand base
  | some b =>
    if isExponentLetter b then do skip; exponent negative significand base
    else whole
  | none => whole
where
  /-- A number without point and exponent: an integer unless it is too long, or a zero with a
  sign. -/
  whole : Reader Number :=
    if full then real negative significand base
    else if !negative then pure (.natural significand)
    else if significand = 0 ∨ Nat.pow 2 63 < significand then pure (.real true significand 0)
    else pure (.negative (-(significand : Int)))

/-- The digits before the point after the first.  Once the significand has reached its limit further
digits only count toward the exponent. -/
def wholeDigits (negative full : Bool) (significand : Nat) (base : Int) : Bytes → Reading Number
  | [] => afterDigits negative full significand base []
  | b :: rest =>
    if isDigit b then
      let significand' := significand * 10 + digitValue b
      if full || decide (significandLimit < significand') then
        wholeDigits negative true significand (base + 1) rest
      else wholeDigits negative false significand' 0 rest
    else afterDigits negative full significand base (b :: rest)

/-- A number after its sign. -/
def unsignedNumber (negative : Bool) : Reader Number := do
  match ← ahead with
  | none => fail (.truncated .value)
  | some b =>
    skip
    if b = 0x30 then
      match ← ahead with
      | some d =>
        if isDigit d then failAhead (.malformed .invalidNumber)
        else afterDigits negative false 0 0
      | none => afterDigits negative false 0 0
    else if isDigit b then wholeDigits negative false (digitValue b) 0
    else fail (.malformed .invalidNumber)

/-- A number, whose first byte is known to be a minus sign or a digit. -/
def number : Reader Number := do
  if (← ahead) = some 0x2D then do skip; unsignedNumber true
  else unsignedNumber false

/-- Skips the digits that follow. -/
def skipDigits : Reader Unit :=
  fun s => ⟨.ok (), s.dropWhile isDigit⟩

/-- Skips a byte that has to be a digit, and the digits after it. -/
def skipSomeDigits (none : Reader Unit) : Reader Unit := do
  match ← ahead with
  | some b => if isDigit b then skipDigits else none
  | _ => none

/-- Skips a number whose value is not wanted, after its sign. -/
def skipNumber : Reader Unit := do
  let first ← ahead
  skip
  match first with
  | some 0x30 =>
    if (← ahead).any isDigit then failAhead (.malformed .invalidNumber)
  | some b => if isDigit b then skipDigits else fail (.malformed .invalidNumber)
  | none => fail (.malformed .invalidNumber)
  if (← ahead) = some 0x2E then do
    skip
    skipSomeDigits (failAhead (.malformed .invalidNumber))
  if (← ahead).any isExponentLetter then do
    skip
    let sign ← ahead
    if sign = some 0x2B ∨ sign = some 0x2D then skip
    skipSomeDigits (do skip; fail (.malformed .invalidNumber))

/-! ### Values that are not wanted -/

/-- The two kinds of brackets. -/
inductive Bracket where
  | square
  | curly
deriving DecidableEq, Repr

/-- The closing bracket of a kind. -/
def Bracket.close : Bracket → UInt8
  | .square => 0x5D
  | .curly => 0x7D

/-- What is missing when the input ends between brackets. -/
def Bracket.unfinished : Bracket → Unfinished
  | .square => .list
  | .curly => .object

/-- The breach of the grammar when neither a comma nor the closing bracket follows. -/
def Bracket.expectedCommaOrEnd : Bracket → Malformation
  | .square => .expectedListCommaOrEnd
  | .curly => .expectedObjectCommaOrEnd

/-- Closes as many open brackets as the input does, innermost first.  The answer is what is still
open before a further value, or nothing when all is closed.  Right after an opening bracket no comma
may follow. -/
def closeBrackets (comma : Bool) : List Bracket → Reader (Option (Bracket × List Bracket))
  | [] => pure none
  | inner :: outer => do
    match ← aheadOfSpace with
    | none => failAhead (.truncated inner.unfinished)
    | some b =>
      if comma && b == 0x2C then do
        skip
        pure (some (inner, outer))
      else if b == inner.close then do
        skip
        closeBrackets true outer
      else if comma then failAhead (.malformed inner.expectedCommaOrEnd)
      else pure (some (inner, outer))

/-- Skips a key and the colon after it. -/
def skipKey : Reader Unit := do
  match ← aheadOfSpace with
  | some 0x22 => skip
  | some _ => failAhead (.malformed .keyNotString)
  | none => failAhead (.truncated .object)
  skipString
  match ← aheadOfSpace with
  | some 0x3A => skip
  | some _ => failAhead (.malformed .expectedColon)
  | none => failAhead (.truncated .object)

/-- Skips the start of a value: a whole scalar, or an opening bracket, which is answered. -/
def skipStart : Reader (Option Bracket) := do
  match ← aheadOfSpace with
  | none => failAhead (.truncated .value)
  | some b =>
    if b = 0x6E then do skip; identifier ['u', 'l', 'l']; pure none
    else if b = 0x74 then do skip; identifier ['r', 'u', 'e']; pure none
    else if b = 0x66 then do skip; identifier ['a', 'l', 's', 'e']; pure none
    else if b = 0x2D then do skip; skipNumber; pure none
    else if isDigit b then do skipNumber; pure none
    else if b = 0x22 then do skip; skipString; pure none
    else if b = 0x5B then do skip; pure (some .square)
    else if b = 0x7B then do skip; pure (some .curly)
    else failAhead (.malformed .expectedValue)

/-- Skips a value inside the given open brackets, and then all that these brackets hold.  Each step
skips at least a byte, so the bytes that are left can count the steps. -/
def skipValues : Bytes → List Bracket → Reader Unit
  | [], _ => fail (.malformed .expectedValue)
  | _ :: steps, outer => do
    let opened ← skipStart
    match ← closeBrackets opened.isNone (opened.toList ++ outer) with
    | none => pure ()
    | some (inner, outer) => do
      if inner = .curly then skipKey
      skipValues steps (inner :: outer)

/-- Skips a value of any kind and depth. -/
def skipValue : Reader Unit :=
  fun s => skipValues (0 :: s) [] s

/-! ### Values of an unexpected kind -/

/-- A number as it is reported when something else was expected. -/
def Number.found : Number → Found
  | .natural n => .integer n
  | .negative n => .integer n
  | .real below significand exponent => .real (Real.text below significand exponent)

/-- Fails because something else was expected than the value that comes next.  A scalar is read for
the report. -/
def wrongKind {α : Type} (expected : String) : Reader α := do
  match ← aheadOfSpace with
  | none => failAhead (.truncated .value)
  | some b =>
    if b = 0x6E then do
      skip
      identifier ['u', 'l', 'l']
      fail (.mismatched (.kind .null expected))
    else if b = 0x74 then do
      skip
      identifier ['r', 'u', 'e']
      fail (.mismatched (.kind (.boolean true) expected))
    else if b = 0x66 then do
      skip
      identifier ['a', 'l', 's', 'e']
      fail (.mismatched (.kind (.boolean false) expected))
    else if b = 0x2D || isDigit b then do
      let n ← number
      fail (.mismatched (.kind n.found expected))
    else if b = 0x22 then do
      skip
      let text ← string
      fail (.mismatched (.kind (.text text) expected))
    else if b = 0x5B then fail (.mismatched (.kind .list expected))
    else if b = 0x7B then fail (.mismatched (.kind .object expected))
    else failAhead (.malformed .expectedValue)

/-- Fails unless only blanks are left. -/
def atEnd : Reader Unit := do
  match ← aheadOfSpace with
  | none => pure ()
  | some _ => failAhead (.malformed .trailingCharacters)

end Daybook.Json
