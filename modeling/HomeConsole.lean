import HomeConsole.Backend.Address
import HomeConsole.Backend.Endpoint
import HomeConsole.Backend.Error
import HomeConsole.Backend.Http
import HomeConsole.Backend.Record
import HomeConsole.Backend.Source
import HomeConsole.Backend.Wire
import HomeConsole.Command.Arguments
import HomeConsole.Command.Run
import HomeConsole.Console.Basic
import HomeConsole.Console.Update
import HomeConsole.Decimal.Shortest
import HomeConsole.Json.Basic
import HomeConsole.Json.Fault
import HomeConsole.Json.Parser
import HomeConsole.Key
import HomeConsole.Main
import HomeConsole.Notice
import HomeConsole.Panel.Detail
import HomeConsole.Panel.Flag
import HomeConsole.Panel.Navigation
import HomeConsole.Panel.Overview
import HomeConsole.Panel.Prompt
import HomeConsole.Panel.Still
import HomeConsole.Presentation.Basic
import HomeConsole.Presentation.Draw
import HomeConsole.Proofs.Backend.Arrival
import HomeConsole.Proofs.Backend.IntegerId
import HomeConsole.Proofs.Backend.Request
import HomeConsole.Proofs.Backend.Shown
import HomeConsole.Proofs.Command.Dump
import HomeConsole.Proofs.Console.Coherence
import HomeConsole.Proofs.Console.Headless
import HomeConsole.Proofs.Console.History
import HomeConsole.Proofs.Console.Provenance
import HomeConsole.Proofs.Console.Revisit
import HomeConsole.Proofs.Console.Schedule
import HomeConsole.Proofs.Console.Step
import HomeConsole.Proofs.Json.Integer
import HomeConsole.Proofs.Json.Layout
import HomeConsole.Proofs.Json.Nesting
import HomeConsole.Proofs.Json.Object
import HomeConsole.Proofs.Json.Shape
import HomeConsole.Proofs.Panel.Cursor
import HomeConsole.Proofs.Panel.Listing
import HomeConsole.Proofs.Panel.RawView
import HomeConsole.Proofs.Panel.Reach
import HomeConsole.Proofs.Panel.Row
import HomeConsole.Proofs.Presentation.Choice
import HomeConsole.Proofs.Presentation.Highlight
import HomeConsole.Proofs.Presentation.Layout
import HomeConsole.Proofs.Presentation.OpenPrompt
import HomeConsole.Proofs.Presentation.Redraw
import HomeConsole.Proofs.Route.Canonical
import HomeConsole.Proofs.Route.Match
import HomeConsole.Proofs.Route.Opening
import HomeConsole.Proofs.Route.Resolve
import HomeConsole.Proofs.Route.Table
import HomeConsole.Proofs.Screen.Content
import HomeConsole.Proofs.Screen.Drawn
import HomeConsole.Proofs.Screen.Rows
import HomeConsole.Proofs.Screen.Scrolled
import HomeConsole.Proofs.Screen.Strokes
import HomeConsole.Proofs.Screen.Wrapped
import HomeConsole.Proofs.Session.Answers
import HomeConsole.Proofs.Session.Attuned
import HomeConsole.Proofs.Session.OpenRow
import HomeConsole.Proofs.Session.Reads
import HomeConsole.Proofs.Session.Run
import HomeConsole.Proofs.Session.Settle
import HomeConsole.Proofs.Settings.Loading
import HomeConsole.Proofs.Settings.Rank
import HomeConsole.Proofs.Text.Blank
import HomeConsole.Proofs.Text.Charset
import HomeConsole.Proofs.Text.Columns
import HomeConsole.Proofs.Text.Fit
import HomeConsole.Proofs.Text.Lines
import HomeConsole.Proofs.Text.MultiByte
import HomeConsole.Proofs.Text.Numeral
import HomeConsole.Proofs.Text.Percent
import HomeConsole.Proofs.Text.Ranges
import HomeConsole.Proofs.Text.Utf8
import HomeConsole.Proofs.Toml.Remark
import HomeConsole.Proofs.Url.Path
import HomeConsole.Proofs.View
import HomeConsole.Route
import HomeConsole.Screen.Area
import HomeConsole.Screen.Box
import HomeConsole.Screen.Canvas
import HomeConsole.Screen.Line
import HomeConsole.Screen.Paragraph
import HomeConsole.Screen.Picture
import HomeConsole.Screen.Scroll
import HomeConsole.Screen.Style
import HomeConsole.Screen.Window
import HomeConsole.Screen.Wrap
import HomeConsole.Session
import HomeConsole.Settings.Basic
import HomeConsole.Settings.Environment
import HomeConsole.Settings.EnvironmentFile
import HomeConsole.Settings.File
import HomeConsole.Settings.Home
import HomeConsole.Terminal.Input
import HomeConsole.Terminal.Output
import HomeConsole.Text.Alphanumeric
import HomeConsole.Text.Blank
import HomeConsole.Text.Charset
import HomeConsole.Text.Cluster.Basic
import HomeConsole.Text.Cluster.Class
import HomeConsole.Text.Columns
import HomeConsole.Text.Emoji
import HomeConsole.Text.Fit
import HomeConsole.Text.Index.Big5
import HomeConsole.Text.Index.Gb18030
import HomeConsole.Text.Index.Jis
import HomeConsole.Text.Index.Korean
import HomeConsole.Text.Likeness
import HomeConsole.Text.Lines
import HomeConsole.Text.Marks
import HomeConsole.Text.MultiByte
import HomeConsole.Text.Numeral
import HomeConsole.Text.Percent
import HomeConsole.Text.Quoted
import HomeConsole.Text.Ranges
import HomeConsole.Text.Rows
import HomeConsole.Text.SingleByte
import HomeConsole.Text.Unprintable
import HomeConsole.Text.Utf8
import HomeConsole.Text.Wide
import HomeConsole.Toml.Document
import HomeConsole.Toml.Number
import HomeConsole.Toml.Reader
import HomeConsole.Toml.Table
import HomeConsole.Toml.Text
import HomeConsole.Toml.Value
import HomeConsole.Url.Basic
import HomeConsole.Url.Domain
import HomeConsole.Url.Host
import HomeConsole.Url.Name.Composition
import HomeConsole.Url.Name.Folding
import HomeConsole.Url.Name.Label
import HomeConsole.Url.Parser
import HomeConsole.Url.Punycode
import HomeConsole.View
