import Daybook.Settings.Flag

/-!
# Reading the command line and the environment

Flags are read from left to right, and then the variables of those settings that no flag has given.

## Main definitions

* `Arguments.Word` : the kinds of arguments.
* `Arguments.read` : the settings that are given by arguments and variables.
-/

namespace Daybook.Arguments

/-- The kinds of arguments. -/
inductive Word where
  /-- Asks for help. -/
  | help
  /-- A flag that takes no value. -/
  | switch (f : Flag)
  /-- A flag that takes a value, which may be attached. -/
  | valued (f : Flag) (value : Option String)
  /-- A flag that takes no value, with a value attached. -/
  | overfull
  /-- A flag that is not known. -/
  | unknown
  /-- The mark after which there are no flags. -/
  | separator
  /-- Any other argument. -/
  | plain (s : String)
deriving DecidableEq, Repr

/-- An argument that begins with two hyphens, by what comes before and after its first equality
sign. -/
def long (name : String) (value : Option String) : Word :=
  if name = "help" then if value.isSome then .overfull else .help
  else
    match Flag.ofName? name with
    | none => .unknown
    | some .databaseTls => if value.isSome then .overfull else .switch .databaseTls
    | some f => .valued f value

/-- The kind of an argument.  A single hyphen is no flag. -/
def Word.of (s : String) : Word :=
  match s.toList with
  | ['-', '-'] => .separator
  | '-' :: '-' :: cs =>
    let name := String.ofList (cs.takeWhile (· ≠ '='))
    long name (if '=' ∈ cs then some (String.ofList ((cs.dropWhile (· ≠ '=')).drop 1)) else none)
  | '-' :: c :: _ => if c = 'h' then .help else .unknown
  | _ => .plain s

/-- The values that were given to settings. -/
abbrev Given := List (Flag × String)

/-- Adds the value of a setting that was not given before. -/
def give (given : Given) (f : Flag) (value : String) : Except UsageError Given :=
  if given.any (·.1 == f) then .error .repeated
  else do
    f.check value
    .ok (given ++ [(f, value)])

/-- A flag whose value comes in the next argument, once it has come. -/
abbrev Pending := Option (Flag × Option String)

/-- Adds the value of a flag that is pending. -/
def settle (given : Given) : Pending → Except UsageError Given
  | none => .ok given
  | some (_, none) => .error .invalidValue
  | some (f, some value) => give given f value

/-- The settings given by arguments after those already read. -/
def readFrom (given : Given) (pending : Pending) : List String → Except UsageError Given
  | [] => settle given pending
  | s :: rest =>
    match Word.of s with
    | .help => do
      let _ ← settle given pending
      .error .help
    | .switch f => do
      let given ← give (← settle given pending) f "true"
      readFrom given none rest
    | .valued f (some value) => do
      let given ← give (← settle given pending) f value
      readFrom given none rest
    | .valued f none => do
      let given ← settle given pending
      readFrom given (some (f, none)) rest
    | .overfull => .error .unexpectedValue
    | .unknown => .error .unknownArgument
    | .separator => if rest.isEmpty then settle given pending else .error .unknownArgument
    | .plain s =>
      match pending with
      | some (f, none) => readFrom given (some (f, some s)) rest
      | _ => .error .unknownArgument

/-- The settings given by variables, in addition to those that were given before. -/
def readVariables (environment : List (String × String)) :
    List Flag → Given → Except UsageError Given
  | [], given => .ok given
  | f :: fs, given =>
    if given.any (·.1 == f) then readVariables environment fs given
    else
      match environment.lookup f.environmentName with
      | some value => do readVariables environment fs (← give given f value)
      | none => readVariables environment fs given

/-- The settings given by arguments and variables. -/
def read (arguments : List String) (environment : List (String × String)) :
    Except UsageError Given := do
  let given ← readFrom [] none arguments
  let given ← readVariables environment Flag.all given
  if Flag.all.any fun f => f.isRequired && !given.any (·.1 == f) then .error .missing
  else .ok given

end Daybook.Arguments
