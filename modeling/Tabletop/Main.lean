import Tabletop.Command
import Tabletop.Compendium.Content
import Tabletop.Compendium.Standard

/-!
The program: reads the settings and the compendium that they name, and answers one command.
-/

namespace Tabletop

/-- The text of a file, if it can be read. -/
def fileText? (path : String) : IO (Option String) :=
  try some <$> IO.FS.readFile path catch _ => pure none

/-- The settings in the working directory, or the usual ones. -/
def loadSettings : IO (Except Fault Settings) := do
  match ← fileText? "config.toml" with
  | none => pure (.ok {})
  | some text => pure (do Settings.ofDatum (← Toml.parse text))

/-- The compendium in a directory, or the one that comes with the rules. -/
def loadCompendium (path : Option String) : IO (Except Fault Compendium) :=
  match path with
  | none => pure (.ok Compendium.standard)
  | some path => do
      let weapons ← fileText? (path ++ "/weapons.toml")
      let spells ← fileText? (path ++ "/spells.toml")
      pure (Compendium.ofFiles weapons spells)

/-- The referee of the working directory. -/
def loadReferee : IO (Except Fault Referee) := do
  match ← loadSettings with
  | .error fault => pure (.error fault)
  | .ok settings => do
      let compendium ← loadCompendium settings.compendiumPath
      pure (compendium.map fun compendium => ⟨compendium, settings⟩)

/-- The exit code of a run that a fault ended. -/
def faultCode : UInt32 := 1

/-- Prints a reply, or the fault that took its place. -/
def printReply : Except Fault Command.Reply → IO UInt32
  | .ok reply => do
      for line in reply.lines do
        IO.println line
      pure reply.exitCode.toUInt32
  | .error fault => do
      IO.eprintln (fault.message?.getD "The command could not be carried out.")
      pure faultCode

end Tabletop

/-- Answers the command line, with draws of a new seed. -/
def main (arguments : List String) : IO UInt32 := do
  match Tabletop.Command.ofArguments? arguments with
  | none => Tabletop.printReply (.ok .misused)
  | some command => do
      let seed ← IO.rand 0 18446744073709551615
      let referee ← Tabletop.loadReferee
      Tabletop.printReply (do command.reply (← referee) (Tabletop.Source.ofSeed seed))
