/-!
Arguments of a command line: options by long or short names, and plain arguments. A long option takes
its value after an equals sign or from the next argument, a short one from the rest of its own
argument or from the next; two dashes alone end the options.
-/

namespace Tabletop.Command

/-- An option. -/
structure OptionName where
  long : String
  short : Option Char := none
  takesValue : Bool := true
deriving DecidableEq, Repr

/-- What a command line holds: options in their order, with their values if they take any, and
plain arguments. -/
structure Arguments where
  options : List (OptionName × String) := []
  plain : List String := []
deriving DecidableEq, Repr

namespace Arguments

/-- The values given for an option, in their order. -/
def valuesOf (arguments : Arguments) (option : OptionName) : List String :=
  (arguments.options.filter fun given => given.1 = option).map Prod.snd

/-- The value given last for an option. -/
def valueOf? (arguments : Arguments) (option : OptionName) : Option String :=
  (arguments.valuesOf option).getLast?

/-- The arguments with options in front. -/
def withOptions (given : List (OptionName × String)) (arguments : Arguments) : Arguments :=
  { arguments with options := given ++ arguments.options }

/-- The arguments with a plain one in front. -/
def withPlain (argument : String) (arguments : Arguments) : Arguments :=
  { arguments with plain := argument :: arguments.plain }

end Arguments

/-! ## Single arguments -/

/-- What one argument is. -/
inductive Token where
  | plain
  /-- Two dashes alone. -/
  | stop
  /-- Options that are complete. -/
  | complete (given : List (OptionName × String))
  /-- Options of which the last one waits for its value. -/
  | waiting (given : List (OptionName × String)) (last : OptionName)
deriving DecidableEq, Repr

/-- The long option of an argument without its dashes. -/
def longToken? (known : List OptionName) (body : List Char) : Option Token := do
  let name := String.ofList (body.takeWhile (· != '='))
  let option ← known.find? fun option => option.long == name
  match body.dropWhile (· != '='), option.takesValue with
  | [], true => some (.waiting [] option)
  | [], false => some (.complete [(option, "")])
  | _ :: value, true => some (.complete [(option, String.ofList value)])
  | _ :: _, false => none

/-- The short options of an argument without its dash, given those before them. -/
def shortToken? (known : List OptionName) (given : List (OptionName × String)) :
    List Char → Option Token
  | [] => some (.complete given)
  | letter :: rest => do
      let option ← known.find? fun option => option.short = some letter
      if option.takesValue then
        if rest.isEmpty then some (.waiting given option)
        else some (.complete (given ++ [(option, String.ofList rest)]))
      else shortToken? known (given ++ [(option, "")]) rest

/-- What an argument is; nothing if it names an option that is not known. -/
def token? (known : List OptionName) (argument : String) : Option Token :=
  match argument.toList with
  | ['-', '-'] => some .stop
  | '-' :: '-' :: body => longToken? known body
  | '-' :: letter :: rest => shortToken? known [] (letter :: rest)
  | _ => some .plain

/-! ## Command lines -/

/-- Reads a command line. If options may not stand behind plain arguments, the first plain argument
ends them. -/
def readArguments? (known : List OptionName) (interspersed : Bool) :
    List String → Option Arguments
  | [] => some {}
  | argument :: rest => do
      match ← token? known argument with
      | .stop => some { plain := rest }
      | .plain =>
          if interspersed then
            (readArguments? known interspersed rest).map (·.withPlain argument)
          else some { plain := argument :: rest }
      | .complete given => (readArguments? known interspersed rest).map (·.withOptions given)
      | .waiting given last =>
          match rest with
          | [] => none
          | value :: rest =>
              (readArguments? known interspersed rest).map
                (·.withOptions (given ++ [(last, value)]))

end Tabletop.Command
