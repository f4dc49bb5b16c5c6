import Tabletop.Command.Arguments
import Tabletop.Command.Stats
import Tabletop.Glossary
import Tabletop.Prompt
import Tabletop.Referee
import Tabletop.Report

/-!
The commands of the program: what a command line asks for, and the reply to it.
-/

namespace Tabletop

/-- What the program is asked to do. -/
inductive Command where
  /-- Lists the rolls that a text asks for. -/
  | suggest (text : String)
  | roll (expression : String) (seed : Option Int)
  /-- Resolves an action as a player describes it. -/
  | resolve (text : String) (stats : List String) (level : Level) (weapon : Option String)
      (proficiency seed : Option Int)
  /-- Lists the weapons and spells. -/
  | catalog
  /-- Lists the terms of the rules that a text mentions. -/
  | rules (text : String)

namespace Command

/-! ## Reading -/

def verboseOption : OptionName := { long := "verbose", short := some 'v', takesValue := false }

def seedOption : OptionName := { long := "seed" }

def statOption : OptionName := { long := "stat", short := some 's' }

def levelOption : OptionName := { long := "level", short := some 'l' }

def weaponOption : OptionName := { long := "weapon", short := some 'w' }

def proficiencyOption : OptionName := { long := "proficiency", short := some 'p' }

/-- The integer given for an option, if it is given at all. -/
def intOf? (arguments : Arguments) (option : OptionName) : Option (Option Int) :=
  match arguments.valueOf? option with
  | none => some none
  | some text => ((Numeral.readInt text.toList).toOption).map some

/-- The only plain argument. -/
def onlyPlain? (arguments : Arguments) : Option String :=
  match arguments.plain with
  | [text] => some text
  | _ => none

/-- The level given, else the first. -/
def levelOf? (arguments : Arguments) : Option Level := do
  match ← intOf? arguments levelOption with
  | none => some Level.first
  | some value =>
      if low : 1 ≤ value then
        if high : value ≤ 20 then some ⟨value, low, high⟩ else none
      else none

/-- Reads the arguments of a command. -/
def ofName? (name : String) (rest : List String) : Option Command := do
  match name with
  | "suggest" => do
      let arguments ← readArguments? [] true rest
      some (.suggest (← onlyPlain? arguments))
  | "roll" => do
      let arguments ← readArguments? [seedOption] true rest
      some (.roll (← onlyPlain? arguments) (← intOf? arguments seedOption))
  | "resolve" => do
      let arguments ← readArguments?
        [statOption, levelOption, weaponOption, proficiencyOption, seedOption] true rest
      some (.resolve (← onlyPlain? arguments) (arguments.valuesOf statOption)
        (← levelOf? arguments) (arguments.valueOf? weaponOption)
        (← intOf? arguments proficiencyOption) (← intOf? arguments seedOption))
  | "catalog" => do
      let arguments ← readArguments? [] true rest
      if arguments.plain.isEmpty then some .catalog else none
  | "rules" => do
      let arguments ← readArguments? [] true rest
      some (.rules (← onlyPlain? arguments))
  | _ => none

/-- Reads a command line; nothing if it is none that the program understands. -/
def ofArguments? (arguments : List String) : Option Command := do
  match (← readArguments? [verboseOption] false arguments).plain with
  | name :: rest => ofName? name rest
  | [] => none

/-! ## Replies -/

/-- What the program prints and the code with which it ends. -/
structure Reply where
  exitCode : Nat
  lines : List String
deriving DecidableEq, Repr

namespace Reply

/-- The reply to a command line that is not understood. -/
def misused : Reply := ⟨2, []⟩

/-- The reply of these lines. -/
def ofLines (exitCode : Nat) (lines : List (List Char)) : Reply :=
  ⟨exitCode, Console.plainLines lines⟩

end Reply

/-- Whether a fault lies in the notation of dice. -/
def isDiceFault : Fault → Bool
  | .malformedDice _ => true
  | .nonPositiveDice _ _ => true
  | _ => false

/-- The draws of a seed, if one is given. -/
def trayOf (source : Source) (seed : Option Int) : Tray :=
  { source := (seed.map Source.ofSeed).getD source }

/-- The result of work with the dice of a tray. -/
def rolled {α : Type} (work : Rolling α) (tray : Tray) : Except Fault α :=
  (Id.run (work tray)).1

/-- Rolls dice notation. -/
def replyToRoll (expression : String) (tray : Tray) : Except Fault Reply :=
  match rolled (rollText expression) tray with
  | .ok result => .ofLines 0 <$> Report.roll result
  | .error fault =>
      match fault.message? with
      | some message =>
          if isDiceFault fault then .ofLines 1 <$> Report.error message else .error fault
      | none => .error fault

/-- The reply to a command, with the dice of a source where no seed is given. -/
def reply (command : Command) (referee : Referee) (source : Source) : Except Fault Reply :=
  match command with
  | .suggest text => do
      let found ← suggestions text
      .ofLines 0 <$> Report.suggestions found
  | .roll expression seed => replyToRoll expression (trayOf source seed)
  | .resolve text stats level weapon proficiency seed =>
      match readStats stats with
      | .error (.notAScore _) => .ok .misused
      | .error fault => .error fault
      | .ok stats => do
          let character : Character :=
            { scores := stats.toScores, level := level, equippedWeapon := weapon }
          let outcome ←
            rolled (referee.resolveFree text character proficiency) (trayOf source seed)
          .ofLines 0 <$> Report.outcome outcome
  | .catalog => .ofLines 0 <$> Report.compendium referee.compendium
  | .rules text => .ofLines 0 <$> Report.references (ruleReferences text)

end Command

end Tabletop
