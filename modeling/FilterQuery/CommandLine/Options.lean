/-
# FilterQuery.CommandLine.Options -- options on a command line

An option has a short and a long name and takes a value or none. Values are given as
`--name value`, `--name=value`, `-n value`, `-nvalue` or `-n=value`; short options
without values can stand together before another one. A value of its own must not
begin with a hyphen, unless it is just one. Options must not be repeated, and
nothing else may be on the line; a `--` at its end does no harm.
-/

namespace FilterQuery

namespace CommandLine

/-- **An option** that a command knows. -/
structure OptionSpec where
  short : Char
  long : String
  takesValue : Bool

/-- The options that were given, by their long names. One without a value has the empty
text. -/
abbrev Given := List (String × String)

/-- Adds an option that has not been given before. -/
def give? (spec : OptionSpec) (value : String) (given : Given) : Option Given :=
  if (given.lookup spec.long).isSome then none else some ((spec.long, value) :: given)

/-- Splits a text at the first equals sign. -/
def splitAtEquals : List Char → List Char × Option (List Char)
  | [] => ([], none)
  | c :: rest =>
    if c = '=' then ([], some rest)
    else (c :: (splitAtEquals rest).1, (splitAtEquals rest).2)

/-- Whether an argument can be the value of the option before it. -/
def isValue (arg : String) : Bool :=
  match arg.toList with
  | '-' :: _ :: _ => false
  | _ => true

/-- Reads short options that stand together. The last may still wait for its value. -/
def readShort? (specs : List OptionSpec) (given : Given) :
    List Char → Option (Given × Option OptionSpec)
  | [] => some (given, none)
  | c :: rest =>
    match specs.find? (·.short == c) with
    | none => none
    | some spec =>
      if !spec.takesValue then
        match give? spec "" given with
        | none => none
        | some given => readShort? specs given rest
      else
        match rest with
        | [] => some (given, some spec)
        | '=' :: value => (give? spec (String.ofList value) given).map (·, none)
        | value => (give? spec (String.ofList value) given).map (·, none)

/-- Reads a long option. It may still wait for its value. -/
def readLong? (specs : List OptionSpec) (given : Given) (text : List Char) :
    Option (Given × Option OptionSpec) :=
  let (name, value) := splitAtEquals text
  match specs.find? (·.long == String.ofList name), value with
  | none, _ => none
  | some spec, some value =>
    if spec.takesValue then (give? spec (String.ofList value) given).map (·, none) else none
  | some spec, none =>
    if spec.takesValue then some (given, some spec) else (give? spec "" given).map (·, none)

/-- Reads one argument. -/
def readArgument? (specs : List OptionSpec) (given : Given) (arg : String) :
    Option (Given × Option OptionSpec) :=
  match arg.toList with
  | '-' :: '-' :: long => readLong? specs given long
  | '-' :: short :: others => readShort? specs given (short :: others)
  | _ => none

/-- **Reads the options of a command.** -/
def readOptions? (specs : List OptionSpec) (given : Given) : List String → Option Given
  | [] => some given
  | ["--"] => some given
  | arg :: rest =>
    match readArgument? specs given arg with
    | none => none
    | some (given, none) => readOptions? specs given rest
    | some (given, some spec) =>
      match rest with
      | [] => none
      | value :: rest =>
        if isValue value then
          match give? spec value given with
          | none => none
          | some given => readOptions? specs given rest
        else none

end CommandLine

end FilterQuery
