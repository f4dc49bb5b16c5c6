import Tabletop.Ability
import Tabletop.Binary
import Tabletop.Binary.Shortest
import Tabletop.Casting
import Tabletop.Character
import Tabletop.Combat
import Tabletop.Command
import Tabletop.Command.Arguments
import Tabletop.Command.Stats
import Tabletop.Compendium
import Tabletop.Compendium.Content
import Tabletop.Compendium.Spells
import Tabletop.Compendium.Standard
import Tabletop.Compendium.Weapons
import Tabletop.Console
import Tabletop.Console.Lines
import Tabletop.Console.Markup
import Tabletop.Console.Panel
import Tabletop.Console.Table
import Tabletop.Datum
import Tabletop.Datum.Checked
import Tabletop.Dice
import Tabletop.Dice.Notation
import Tabletop.Dice.Roll
import Tabletop.Draw
import Tabletop.Draw.Twister
import Tabletop.Fault
import Tabletop.Glossary
import Tabletop.Main
import Tabletop.NameSet
import Tabletop.Numeral
import Tabletop.Outcome
import Tabletop.Pattern
import Tabletop.Pattern.CharClass
import Tabletop.Pattern.Names
import Tabletop.Pattern.Scan
import Tabletop.Prompt
import Tabletop.Prompt.Form
import Tabletop.Proofs.Binary
import Tabletop.Proofs.Binary.Nearest
import Tabletop.Proofs.Binary.Rounding
import Tabletop.Proofs.Binary.Units
import Tabletop.Proofs.Casting
import Tabletop.Proofs.Character
import Tabletop.Proofs.Character.Snapshot
import Tabletop.Proofs.Command.Roll
import Tabletop.Proofs.Command.Score
import Tabletop.Proofs.Command.Stats
import Tabletop.Proofs.Compendium.Lookup
import Tabletop.Proofs.Console
import Tabletop.Proofs.Console.Bracket
import Tabletop.Proofs.Console.Lines
import Tabletop.Proofs.Console.Markup
import Tabletop.Proofs.Console.Quoted
import Tabletop.Proofs.Console.Table
import Tabletop.Proofs.Dice.Canonical
import Tabletop.Proofs.Dice.Damage
import Tabletop.Proofs.Dice.Flaw
import Tabletop.Proofs.Dice.Grammar
import Tabletop.Proofs.Dice.Notation
import Tabletop.Proofs.Dice.Pools
import Tabletop.Proofs.Dice.Roll
import Tabletop.Proofs.Draw
import Tabletop.Proofs.Draw.Account
import Tabletop.Proofs.Draw.Faces
import Tabletop.Proofs.Names
import Tabletop.Proofs.Names.Known
import Tabletop.Proofs.Numeral
import Tabletop.Proofs.Outcome.Account
import Tabletop.Proofs.Outcome.Coherence
import Tabletop.Proofs.Outcome.Improvement
import Tabletop.Proofs.Outcome.Judgement
import Tabletop.Proofs.Outcome.Proficiency
import Tabletop.Proofs.Outcome.Relevance
import Tabletop.Proofs.Outcome.Scaling
import Tabletop.Proofs.Outcome.Stages
import Tabletop.Proofs.Outline
import Tabletop.Proofs.Outline.Boundaries
import Tabletop.Proofs.Outline.Keys
import Tabletop.Proofs.Pattern.Caseless
import Tabletop.Proofs.Pattern.Embedding
import Tabletop.Proofs.Pattern.Hits
import Tabletop.Proofs.Pattern.Numerals
import Tabletop.Proofs.Pattern.Parts
import Tabletop.Proofs.Pattern.Passing
import Tabletop.Proofs.Pattern.Prospect
import Tabletop.Proofs.Pattern.Reading
import Tabletop.Proofs.Pattern.Search
import Tabletop.Proofs.Pattern.Sketch
import Tabletop.Proofs.Pattern.Tracking
import Tabletop.Proofs.Prompt.Bracket
import Tabletop.Proofs.Prompt.Candidates
import Tabletop.Proofs.Prompt.Caseless
import Tabletop.Proofs.Prompt.Checks
import Tabletop.Proofs.Prompt.Damage
import Tabletop.Proofs.Prompt.Description
import Tabletop.Proofs.Prompt.Difficulties
import Tabletop.Proofs.Prompt.Kinds
import Tabletop.Proofs.Prompt.Numbers
import Tabletop.Proofs.Prompt.Opening
import Tabletop.Proofs.Prompt.Parts
import Tabletop.Proofs.Prompt.Placement
import Tabletop.Proofs.Prompt.Request
import Tabletop.Proofs.Prompt.Rivals
import Tabletop.Proofs.Prompt.RoundTrip
import Tabletop.Proofs.Prompt.Task
import Tabletop.Proofs.Prompt.Transfer
import Tabletop.Proofs.Prompt.Whole
import Tabletop.Proofs.Prompt.Wording
import Tabletop.Proofs.Referee.Agreement
import Tabletop.Proofs.Referee.Caseless
import Tabletop.Proofs.Referee.Failure
import Tabletop.Proofs.Referee.Free
import Tabletop.Proofs.Referee.Hearing
import Tabletop.Proofs.Referee.Naming
import Tabletop.Proofs.Referee.Numbers
import Tabletop.Proofs.Referee.Resolution
import Tabletop.Proofs.Referee.Spelling
import Tabletop.Proofs.Report.Line
import Tabletop.Proofs.Report.Suggestions
import Tabletop.Proofs.Results
import Tabletop.Proofs.Rolling
import Tabletop.Proofs.Rolling.Breaking
import Tabletop.Proofs.Rolling.InStep
import Tabletop.Proofs.Sorting
import Tabletop.Proofs.Skill
import Tabletop.Proofs.Span.Cascade
import Tabletop.Proofs.Span.Choice
import Tabletop.Proofs.Span.Parts
import Tabletop.Proofs.Span.Priority
import Tabletop.Proofs.Span.Sole
import Tabletop.Proofs.Span.Ties
import Tabletop.Proofs.Text.Blank
import Tabletop.Proofs.Text.Bracket
import Tabletop.Proofs.Text.Case
import Tabletop.Proofs.Text.Caseless
import Tabletop.Proofs.Text.Digit
import Tabletop.Proofs.Text.Lower
import Tabletop.Proofs.Text.Quoted
import Tabletop.Proofs.Text.Word
import Tabletop.Proofs.Text.Written
import Tabletop.Referee
import Tabletop.Referee.Wording
import Tabletop.Report
import Tabletop.ScoreSheet
import Tabletop.Settings
import Tabletop.Skill
import Tabletop.Sorting
import Tabletop.Span
import Tabletop.Spell
import Tabletop.Suggestion
import Tabletop.Sum
import Tabletop.Text.Blank
import Tabletop.Text.Case
import Tabletop.Text.Case.Context
import Tabletop.Text.Case.Lowered
import Tabletop.Text.Case.Shift
import Tabletop.Text.Case.Titled
import Tabletop.Text.Digit
import Tabletop.Text.Interval
import Tabletop.Text.Printable
import Tabletop.Text.Quoted
import Tabletop.Text.Width
import Tabletop.Text.Word
import Tabletop.Toml
import Tabletop.Toml.Document
import Tabletop.Toml.Lexeme
import Tabletop.Toml.Number
import Tabletop.Weapon
