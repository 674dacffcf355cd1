/-
Module: BoxProbe.CommandLine.Arguments
Purpose: Reading the arguments of the command line.
Main exports: Arguments, ArgumentFault, Token, Arguments.parse, Arguments.overrides
-/
import BoxProbe.CommandLine.Option
import BoxProbe.Settings.Basic
import BoxProbe.Settings.Value
import BoxProbe.Text.Quoted

/-!
The arguments are first told apart, from left to right: options, arguments that start like an
option but are none, and plain ones, among them all behind two dashes.  Then the options are taken
one after another, each with its value.  There are no positional arguments, so a plain argument that
is no option's value is refused, but only when everything else is right.
-/

namespace BoxProbe

/-- What the command line asks for. -/
structure Arguments where
  url : Option String := none
  lifetime : Option Double := none
  logLevel : Option LogLevel := none
  envFile : Option String := none
  serveMock : Bool := false
  host : Option String := none
  port : Option Int := none
  qrText : Option String := none
deriving DecidableEq, Repr

/-- Why arguments are refused. -/
inductive ArgumentFault where
  /-- Several options start like this. -/
  | ambiguous (argument : String) (names : List String)
  | missingValue (option : CommandOption)
  | unwantedValue (option : CommandOption) (value : String)
  /-- The value does not read as what the option wants. -/
  | badValue (option : CommandOption) (kind value : String)
  | badChoice (option : CommandOption) (value : String) (choices : List String)
  | unrecognized (arguments : List String)
deriving DecidableEq, Repr

namespace ArgumentFault

/-- A text in quotes. -/
def quoted (s : String) : Text :=
  (Text.ofString s).quoted

/-- What is said about an option. -/
def about (o : CommandOption) (t : Text) : Text :=
  Text.ofString ("argument " ++ o.display ++ ": ") ++ t

/-- A fault as text. -/
def message : ArgumentFault → Text
  | .ambiguous argument names =>
    Text.ofString s!"ambiguous option: {argument} could match " ++
      Text.ofString (", ".intercalate names)
  | .missingValue o => about o "expected one argument"
  | .unwantedValue o value => about o (("ignored explicit argument " : Text) ++ quoted value)
  | .badValue o kind value =>
    about o (Text.ofString s!"invalid {kind} value: " ++ quoted value)
  | .badChoice o value choices =>
    about o (("invalid choice: " : Text) ++ quoted value ++ (" (choose from " : Text) ++
      Text.joinWith (", " : Text) (choices.map quoted) ++ (")" : Text))
  | .unrecognized arguments =>
    Text.ofString ("unrecognized arguments: " ++ " ".intercalate arguments)

end ArgumentFault

/-- What an argument is. -/
inductive Token where
  /-- An argument that can be a value. -/
  | plain (text : String)
  /-- Two dashes. -/
  | dashes
  /-- An option as it is spelled, perhaps with a value. -/
  | option (o : CommandOption) (isLong : Bool) (value : Option String)
  /-- Something like an option that is none. -/
  | unknown (text : String)
deriving DecidableEq, Repr

namespace Token

/-- A negative number, with an optional line end behind it: it can be a value although it starts
like an option. -/
def isNegativeNumber (cs : List Char) : Bool :=
  let isDigit (c : Char) : Bool := (CodePoint.ofChar c).digit?.isSome
  let cs := if cs.getLast? = some '\n' then cs.dropLast else cs
  match cs with
  | '-' :: body =>
    match body.dropWhile isDigit with
    | [] => !body.isEmpty
    | '.' :: fraction => !fraction.isEmpty && fraction.all isDigit
    | _ => false
  | _ => false

/-- Splits a text at its first equals sign. -/
def splitValue (cs : List Char) : List Char × Option String :=
  match cs.dropWhile (· ≠ '=') with
  | _ :: value => (cs.takeWhile (· ≠ '='), some (String.ofList value))
  | [] => (cs, none)

/-- The options that a text with a dash in front can stand for when it is not the name of one. -/
def candidates (cs : List Char) : List (String × CommandOption × Bool × Option String) :=
  match cs with
  | '-' :: '-' :: _ =>
    let (start, value) := splitValue cs
    (CommandOption.matching (String.ofList start)).map fun n => (n.1, n.2, true, value)
  | '-' :: letter :: value =>
    match CommandOption.ofName? (String.ofList ['-', letter]) with
    | some o => [(String.ofList ['-', letter], o, false, some (String.ofList value))]
    | none => []
  | _ => []

/-- Whether a name is a long one. -/
def isLongName (cs : List Char) : Bool :=
  ['-', '-'].isPrefixOf cs

/-- What an argument before any two dashes is. -/
def ofArgument (argument : String) : Except ArgumentFault Token :=
  let cs := argument.toList
  if cs.head? ≠ some '-' ∨ cs = ['-'] then .ok (.plain argument)
  else
    match CommandOption.ofName? argument with
    | some o => .ok (.option o (isLongName cs) none)
    | none =>
      let (name, value) := splitValue cs
      match value, CommandOption.ofName? (String.ofList name) with
      | some _, some o => .ok (.option o (isLongName name) value)
      | _, _ =>
        match candidates cs with
        | [(_, o, isLong, value)] => .ok (.option o isLong value)
        | [] =>
          if isNegativeNumber cs || cs.contains ' ' then .ok (.plain argument)
          else .ok (.unknown argument)
        | several => .error (.ambiguous argument (several.map (·.1)))

/-- What each argument is. -/
def ofArguments : List String → Except ArgumentFault (List Token)
  | [] => .ok []
  | argument :: rest =>
    if argument = "--" then .ok (.dashes :: rest.map .plain)
    else
      match ofArgument argument with
      | .error fault => .error fault
      | .ok token => (ofArguments rest).map (token :: ·)

end Token

/-- What a command line comes to. -/
inductive CommandLine where
  | arguments (a : Arguments)
  | help
  | fault (f : ArgumentFault)
deriving DecidableEq, Repr

namespace Arguments

/-- Takes an option's value. -/
def store (a : Arguments) (o : CommandOption) (value : String) : Except ArgumentFault Arguments :=
  match o with
  | .url => .ok { a with url := some value }
  | .lifetime =>
    match Setting.double? value with
    | some d => .ok { a with lifetime := some d }
    | none => .error (.badValue o "float" value)
  | .logLevel =>
    match LogLevel.ofName? value with
    | some level => .ok { a with logLevel := some level }
    | none => .error (.badChoice o value (LogLevel.all.map LogLevel.name))
  | .envFile => .ok { a with envFile := some value }
  | .host => .ok { a with host := some value }
  | .port =>
    match Setting.int? value with
    | some n => .ok { a with port := some n }
    | none => .error (.badValue o "int" value)
  | .qrText => .ok { a with qrText := some value }
  | .help | .serveMock => .error (.unwantedValue o value)

/-- What follows a short switch without a space in between: more short switches, or a value that is
not wanted. -/
def shortSwitches (o : CommandOption) : (value : List Char) → Except ArgumentFault Unit
  | [] => .ok ()
  | letter :: rest =>
    if CommandOption.ofName? (String.ofList ['-', letter]) = some o then shortSwitches o rest
    else .error (.unwantedValue o (String.ofList (letter :: rest)))

/-- The fault of a switch with a value, if it is one. -/
def switchFault? (o : CommandOption) (isLong : Bool) : Option String → Option ArgumentFault
  | none => none
  | some value =>
    if isLong || value.isEmpty then some (.unwantedValue o value)
    else
      match shortSwitches o value.toList with
      | .ok () => none
      | .error fault => some fault

/-- Takes the options one after another; `others` are the arguments that are neither options nor
their values. -/
def take (a : Arguments) (others : List String) : List Token → CommandLine
  | [] => if others = [] then .arguments a else .fault (.unrecognized others)
  | .plain text :: rest => take a (others ++ [text]) rest
  | .dashes :: rest => take a (others ++ ["--"]) rest
  | .unknown text :: rest => take a (others ++ [text]) rest
  | .option .help isLong value :: _ =>
    match switchFault? .help isLong value with
    | some fault => .fault fault
    | none => .help
  | .option .serveMock isLong value :: rest =>
    match switchFault? .serveMock isLong value with
    | some fault => .fault fault
    | none => take { a with serveMock := true } others rest
  | .option o _ (some value) :: rest =>
    match a.store o value with
    | .ok a => take a others rest
    | .error fault => .fault fault
  | .option o _ none :: .plain value :: rest =>
    match a.store o value with
    | .ok a => take a others rest
    | .error fault => .fault fault
  | .option o _ none :: _ => .fault (.missingValue o)

/-- Reads a command line. -/
def parse (arguments : List String) : CommandLine :=
  match Token.ofArguments arguments with
  | .ok tokens => take {} [] tokens
  | .error fault => .fault fault

/-- The settings that arguments take precedence over. -/
def overrides (a : Arguments) : Settings.Overrides :=
  { url := a.url, lifetime := a.lifetime, logLevel := a.logLevel, host := a.host, port := a.port,
    qrText := a.qrText }

end Arguments

end BoxProbe
