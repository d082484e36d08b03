import BargeIn.Document.Json
import BargeIn.Document.Loose.Reading
import BargeIn.Document.Loose.Value
import BargeIn.Document.Readable
import BargeIn.Document.Tagged
import BargeIn.Document.Toml.Text
import BargeIn.Document.Toml.Value
import BargeIn.Document.Yaml.Node
import BargeIn.Document.Yaml.Scalar
import BargeIn.Document.Yaml.Token
import BargeIn.Document.Yaml.Values
import BargeIn.Fault
import BargeIn.Files.Tree
import BargeIn.Frame
import BargeIn.Language
import BargeIn.Lexicon.Classifier
import BargeIn.Lexicon.Config
import BargeIn.Lexicon.Vocabulary
import BargeIn.Main
import BargeIn.Number.Binary64
import BargeIn.Number.Decimal
import BargeIn.Number.Shortest
import BargeIn.Pipeline.Processor
import BargeIn.Pipeline.Feeding
import BargeIn.Pipeline.Run
import BargeIn.Pipeline.Stages
import BargeIn.Policy.Config
import BargeIn.Policy.Decision
import BargeIn.Policy.Session
import BargeIn.Policy.Suppressor
import BargeIn.Program
import BargeIn.Proofs.Text.Words
import BargeIn.Replay.Event
import BargeIn.Replay.Playback
import BargeIn.Settings.Basic
import BargeIn.Settings.Load
import BargeIn.Settings.Layers
import BargeIn.Settings.LexiconFile
import BargeIn.Settings.Reading
import BargeIn.Text.Alphanumeric
import BargeIn.Text.Blank
import BargeIn.Text.Case
import BargeIn.Text.Grapheme
import BargeIn.Text.Grapheme.Tables
import BargeIn.Text.Quotation
import BargeIn.Text.Utf8
import BargeIn.Text.Words
import BargeIn.Time.Instant
import BargeIn.Proofs.Lexicon.Matching
import BargeIn.Proofs.Lexicon.Vocabulary
import BargeIn.Proofs.Lexicon.Classification
import BargeIn.Proofs.Pipeline.Calls
import BargeIn.Proofs.Policy.Transition
import BargeIn.Proofs.Pipeline.StopCommands
import BargeIn.Proofs.Pipeline.Standard
import BargeIn.Proofs.Pipeline.Utterances
import BargeIn.Proofs.Pipeline.Withholding
import BargeIn.Proofs.Lexicon.Learning
import BargeIn.Proofs.Pipeline.Interleaving
import BargeIn.Proofs.Run.Moves
import BargeIn.Proofs.Run.Settling
import BargeIn.Proofs.Run.Standard
import BargeIn.Proofs.Run.Confirmation
import BargeIn.Proofs.Run.Flow
import BargeIn.Proofs.Run.Unfinished
import BargeIn.Proofs.Run.Underway
import BargeIn.Proofs.Run.Refinement
import BargeIn.Proofs.Pipeline.Stages
import BargeIn.Proofs.Pipeline.Commuting
import BargeIn.Proofs.Policy.Sessions
import BargeIn.Proofs.Pipeline.FreshStart
import BargeIn.Proofs.Run.Recording
import BargeIn.Proofs.Run.Closing
import BargeIn.Proofs.Run.Accounts
import BargeIn.Proofs.Run.Throughout
import BargeIn.Proofs.Pipeline.Provenance
import BargeIn.Proofs.Run.Deeds
import BargeIn.Proofs.Run.Pauses
import BargeIn.Proofs.Run.Shutdown
import BargeIn.Proofs.Run.Draining
import BargeIn.Proofs.Run.Ending
import BargeIn.Proofs.Run.Backlog
import BargeIn.Proofs.Run.Feeding
import BargeIn.Proofs.Run.StreamEnd
import BargeIn.Proofs.Replay.Playback
import BargeIn.Proofs.Pipeline.Barred
import BargeIn.Proofs.Run.Lockstep
import BargeIn.Proofs.Run.Hints
import BargeIn.Proofs.Lexicon.Listing
import BargeIn.Proofs.Settings.LexiconFiles
import BargeIn.Proofs.Run.Reach
import BargeIn.Proofs.Run.Wakes
import BargeIn.Proofs.Text.SmallLetters
import BargeIn.Proofs.Text.Clusters
import BargeIn.Proofs.Text.Sieve
import BargeIn.Proofs.Text.Spacing
import BargeIn.Proofs.Lexicon.Speech
import BargeIn.Proofs.Lexicon.Growth
import BargeIn.Proofs.Lexicon.Teaching
import BargeIn.Proofs.Policy.Durations
import BargeIn.Proofs.Policy.Waiting
import BargeIn.Proofs.Policy.Suppressor
import BargeIn.Proofs.Policy.Timeouts
import BargeIn.Proofs.Lexicon.Building
import BargeIn.Proofs.Policy.Backchannel
import BargeIn.Proofs.Settings.StrictLexicons
import BargeIn.Proofs.Number.Rounding
import BargeIn.Proofs.Number.Values
import BargeIn.Proofs.Policy.Seconds
import BargeIn.Proofs.Lexicon.Windows
import BargeIn.Proofs.Text.Pieces
import BargeIn.Proofs.Text.Trimming
import BargeIn.Proofs.Settings.WordLists
