import Subtitler.Text.Blank
import Subtitler.Text.Split
import Subtitler.Text.Utf8
import Subtitler.Text.Percent
import Subtitler.Text.Case
import Subtitler.Number.Shortest
import Subtitler.Json.Reader
import Subtitler.Json.Printer
import Subtitler.Json.Record
import Subtitler.Media.Context
import Subtitler.Subtitle.Format
import Subtitler.Subtitle.Cue
import Subtitler.FileTree.Basic
import Subtitler.Subtitle.Matcher
import Subtitler.Preference
import Subtitler.Subtitle.Srt
import Subtitler.Record
import Subtitler.Toml.Reader
import Subtitler.Environment
import Subtitler.Settings.Store
import Subtitler.Player.Launch
import Subtitler.Player.Control
import Subtitler.Client.Fetch
import Subtitler.Prompt
import Subtitler.CommandLine.Command
import Subtitler.Output
import Subtitler.Listener
import Subtitler.Log
import Subtitler.Run
import Subtitler.Rendering
import Subtitler.Manager.Basic
import Subtitler.Manager.Step
import Subtitler.Broadcast
import Subtitler.Manager.Hub
import Subtitler.Program.Basic
import Subtitler.Program.Configure
import Subtitler.Program.Search
import Subtitler.Program.Play
import Subtitler.Program.Start
import Subtitler.Main
import Subtitler.Proofs.Listener.Delivery
import Subtitler.Proofs.Rendering.Effects
import Subtitler.Proofs.Manager.State
import Subtitler.Proofs.Manager.Scene
import Subtitler.Proofs.Manager.Display
import Subtitler.Proofs.Manager.Ledger
import Subtitler.Proofs.Manager.Offset
import Subtitler.Proofs.Manager.Supersession
import Subtitler.Proofs.Manager.Selection
import Subtitler.Proofs.Manager.Screen
import Subtitler.Proofs.Manager.Arrival
import Subtitler.Proofs.Manager.Renumbering
import Subtitler.Proofs.Manager.Stop
import Subtitler.Proofs.Manager.Pausing
import Subtitler.Proofs.Manager.Fetching
import Subtitler.Proofs.Manager.Following
import Subtitler.Proofs.Text.Runs
import Subtitler.Proofs.Text.Utf8
import Subtitler.Proofs.Subtitle.Grammar
import Subtitler.Proofs.Subtitle.Styling
import Subtitler.Proofs.Subtitle.Writing
import Subtitler.Proofs.FileTree.Standing
import Subtitler.Proofs.Client.Cache
import Subtitler.Proofs.Client.Sharing
import Subtitler.Proofs.Client.Writing
import Subtitler.Proofs.Client.Failure
import Subtitler.Proofs.Client.Repetition
import Subtitler.Proofs.Settings.Updates
import Subtitler.Proofs.Listener.Rounds
import Subtitler.Proofs.Number.Order
import Subtitler.Proofs.Subtitle.Choosing
import Subtitler.Proofs.CommandLine.Levels
import Subtitler.Proofs.Manager.Settling
import Subtitler.Proofs.Media.Name
import Subtitler.Proofs.Program.Choice
import Subtitler.Proofs.Subtitle.Naming
import Subtitler.Proofs.Text.ByteOrder
import Subtitler.Proofs.Client.Grouping
import Subtitler.Proofs.Subtitle.Tags
import Subtitler.Proofs.Subtitle.LineEnds
import Subtitler.Proofs.Manager.Swap
import Subtitler.Proofs.Manager.Reset
import Subtitler.Proofs.Text.Percent
import Subtitler.Proofs.Text.Lines
import Subtitler.Proofs.Program.Configuring
import Subtitler.Proofs.Player.Replies
import Subtitler.Proofs.Number.Decimal
import Subtitler.Proofs.Media.Quality
