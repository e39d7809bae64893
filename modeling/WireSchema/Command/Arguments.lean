/-!
The arguments of the command line. Options may stand anywhere before `--`; what is no option is a
positional argument, and the first of these is the destination. An argument is refused as soon as it is met;
missing arguments and options that exclude each other are looked for at the end.
-/

namespace WireSchema.Command

/-- What the arguments have asked for so far; positional arguments last first. -/
structure Arguments where
  config : Option String := none
  verbose : Nat := 0
  quiet : Nat := 0
  positional : List String := []
  deriving DecidableEq, Repr

/-- What stops the reading of arguments. -/
inductive Stop where
  | refused
  | help
  | version
  deriving DecidableEq, Repr

/-- Counts of options stay within a byte. -/
def countUp (n : Nat) : Nat :=
  min 255 (n + 1)

/-- A path is not empty. The settings file is given at most once. -/
def Arguments.withConfig (a : Arguments) (path : String) : Except Stop Arguments :=
  if path = "" ∨ a.config.isSome then .error .refused else .ok { a with config := some path }

def Arguments.withPositional (a : Arguments) (path : String) : Except Stop Arguments :=
  if path = "" then .error .refused else .ok { a with positional := path :: a.positional }

/-- Letters after a dash; whether the next argument is the settings file. What follows the letter of the
settings file is its path. -/
def shortOptions (a : Arguments) : List Char → Except Stop (Arguments × Bool)
  | [] => .ok (a, false)
  | 'v' :: cs => shortOptions { a with verbose := countUp a.verbose } cs
  | 'q' :: cs => shortOptions { a with quiet := countUp a.quiet } cs
  | 'h' :: _ => .error .help
  | 'V' :: _ => .error .version
  | ['c'] => .ok (a, true)
  | 'c' :: '=' :: cs => (a.withConfig (String.ofList cs)).map (·, false)
  | 'c' :: cs => (a.withConfig (String.ofList cs)).map (·, false)
  | _ => .error .refused

/-- A name after two dashes; whether the next argument is the settings file. -/
def longOption (a : Arguments) (cs : List Char) : Except Stop (Arguments × Bool) :=
  match String.ofList (cs.takeWhile (· != '=')), cs.dropWhile (· != '=') with
  | "config", [] => .ok (a, true)
  | "config", _ :: value => (a.withConfig (String.ofList value)).map (·, false)
  | "verbose", [] => .ok ({ a with verbose := countUp a.verbose }, false)
  | "quiet", [] => .ok ({ a with quiet := countUp a.quiet }, false)
  | "help", [] => .error .help
  | "version", [] => .error .version
  | _, _ => .error .refused

def positionalOnly (a : Arguments) : List String → Except Stop Arguments
  | [] => .ok a
  | arg :: args =>
    match a.withPositional arg with
    | .ok a => positionalOnly a args
    | .error e => .error e

/-- An argument that cannot be the value of an option. -/
def isOption (arg : String) : Bool :=
  match arg.toList with
  | '-' :: _ :: _ => true
  | _ => false

/-- Reads arguments; `pending` if the next one is the settings file. -/
def readFrom (a : Arguments) (pending : Bool) : List String → Except Stop Arguments
  | [] => if pending then .error .refused else .ok a
  | arg :: args =>
    if pending then
      if isOption arg then .error .refused
      else
        match a.withConfig arg with
        | .ok a => readFrom a false args
        | .error e => .error e
    else if arg = "--" then positionalOnly a args
    else
      let read :=
        match arg.toList with
        | '-' :: '-' :: cs => longOption a cs
        | '-' :: c :: cs => shortOptions a (c :: cs)
        | _ => (a.withPositional arg).map (·, false)
      match read with
      | .ok (a, pending) => readFrom a pending args
      | .error e => .error e

/-- What a run works on. -/
structure Request where
  config : Option String
  verbose : Nat
  quiet : Nat
  destination : String
  sources : List String
  deriving DecidableEq, Repr

/-- A destination and at least one source are needed, and `verbose` and `quiet` exclude each other. -/
def Arguments.request (a : Arguments) : Except Stop Request :=
  match a.positional.reverse with
  | destination :: source :: sources =>
    if 0 < a.verbose ∧ 0 < a.quiet then .error .refused
    else
      .ok { config := a.config, verbose := a.verbose, quiet := a.quiet, destination,
            sources := source :: sources }
  | _ => .error .refused

def parse (args : List String) : Except Stop Request :=
  match readFrom {} false args with
  | .ok a => a.request
  | .error e => .error e

end WireSchema.Command
