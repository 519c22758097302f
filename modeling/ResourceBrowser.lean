import ResourceBrowser.App
import ResourceBrowser.App.Run
import ResourceBrowser.Cluster.Feed
import ResourceBrowser.Cluster.Listing
import ResourceBrowser.Cluster.Manifest
import ResourceBrowser.Cluster.Request
import ResourceBrowser.Cluster.Resource
import ResourceBrowser.Cluster.Selector
import ResourceBrowser.Cluster.Simulation
import ResourceBrowser.Cluster.Typical
import ResourceBrowser.Config
import ResourceBrowser.Fuzzy.Anchor
import ResourceBrowser.Fuzzy.Score
import ResourceBrowser.Json.Printer
import ResourceBrowser.Json.Reader
import ResourceBrowser.Json.Value
import ResourceBrowser.Key.Binding
import ResourceBrowser.Key.Keymap
import ResourceBrowser.Key.Press
import ResourceBrowser.KeyList
import ResourceBrowser.Main
import ResourceBrowser.Number.Age
import ResourceBrowser.Number.Decimal
import ResourceBrowser.Number.Quantity
import ResourceBrowser.Number.Word
import ResourceBrowser.Options
import ResourceBrowser.Pattern.Expr
import ResourceBrowser.Pattern.Match
import ResourceBrowser.Pattern.Property
import ResourceBrowser.Pattern.Reader
import ResourceBrowser.Pattern.Regex
import ResourceBrowser.Pattern.Size
import ResourceBrowser.Pattern.Tree
import ResourceBrowser.Proofs.App.Frame
import ResourceBrowser.Proofs.App.Lasting
import ResourceBrowser.Proofs.App.Modes
import ResourceBrowser.Proofs.App.Source
import ResourceBrowser.Proofs.App.Stopping
import ResourceBrowser.Proofs.Cluster.AgeOrder
import ResourceBrowser.Proofs.Cluster.Arithmetic
import ResourceBrowser.Proofs.Cluster.Changes
import ResourceBrowser.Proofs.Cluster.Churn
import ResourceBrowser.Proofs.Cluster.Flapping
import ResourceBrowser.Proofs.Cluster.Health
import ResourceBrowser.Proofs.Cluster.Listing
import ResourceBrowser.Proofs.Cluster.Lookup
import ResourceBrowser.Proofs.Cluster.Requests
import ResourceBrowser.Proofs.Cluster.Selector
import ResourceBrowser.Proofs.Cluster.Stepping
import ResourceBrowser.Proofs.Config
import ResourceBrowser.Proofs.Fuzzy.Search
import ResourceBrowser.Proofs.Key.Binding
import ResourceBrowser.Proofs.Key.Keymap
import ResourceBrowser.Proofs.Key.Press
import ResourceBrowser.Proofs.Number.Age
import ResourceBrowser.Proofs.Number.AgeText
import ResourceBrowser.Proofs.Number.Decimal
import ResourceBrowser.Proofs.Number.Word
import ResourceBrowser.Proofs.Screen.Area
import ResourceBrowser.Proofs.Screen.Breaking
import ResourceBrowser.Proofs.Screen.Canvas
import ResourceBrowser.Proofs.Screen.Drawing
import ResourceBrowser.Proofs.Screen.Help
import ResourceBrowser.Proofs.Screen.Keys
import ResourceBrowser.Proofs.Screen.Popups
import ResourceBrowser.Proofs.Table.Alignment
import ResourceBrowser.Proofs.Table.Columns
import ResourceBrowser.Proofs.Table.Composing
import ResourceBrowser.Proofs.Table.Drawing
import ResourceBrowser.Proofs.Table.Dump
import ResourceBrowser.Proofs.Table.Faults
import ResourceBrowser.Proofs.Table.Filter
import ResourceBrowser.Proofs.Table.Marks
import ResourceBrowser.Proofs.Table.Order
import ResourceBrowser.Proofs.Table.Plan
import ResourceBrowser.Proofs.Table.Redrawing
import ResourceBrowser.Proofs.Table.Refusal
import ResourceBrowser.Proofs.Table.RowChange
import ResourceBrowser.Proofs.Table.Selecting
import ResourceBrowser.Proofs.Table.Selection
import ResourceBrowser.Proofs.Table.ShownColumns
import ResourceBrowser.Proofs.Table.SortColumn
import ResourceBrowser.Proofs.Table.Sorting
import ResourceBrowser.Proofs.Table.Source
import ResourceBrowser.Proofs.Table.Toggles
import ResourceBrowser.Proofs.Table.Tracking
import ResourceBrowser.Proofs.Table.Typing
import ResourceBrowser.Proofs.Table.VisibleRows
import ResourceBrowser.Proofs.Text.Blank
import ResourceBrowser.Proofs.Tunnel.Candidate
import ResourceBrowser.Proofs.Tunnel.EventOrder
import ResourceBrowser.Proofs.Tunnel.Listing
import ResourceBrowser.Proofs.Tunnel.Numbers
import ResourceBrowser.Proofs.Tunnel.Outcome
import ResourceBrowser.Proofs.Tunnel.Ownership
import ResourceBrowser.Proofs.Tunnel.Start
import ResourceBrowser.Proofs.Tunnel.Step
import ResourceBrowser.Proofs.Tunnel.StopRequest
import ResourceBrowser.Proofs.View.Bindings
import ResourceBrowser.Proofs.View.Dialog
import ResourceBrowser.Scope
import ResourceBrowser.Screen.Area
import ResourceBrowser.Screen.Canvas
import ResourceBrowser.Screen.Frame
import ResourceBrowser.Screen.Input
import ResourceBrowser.Screen.Line
import ResourceBrowser.Screen.Panel
import ResourceBrowser.Screen.Popup
import ResourceBrowser.Screen.State
import ResourceBrowser.Screen.Style
import ResourceBrowser.Table.Csv
import ResourceBrowser.Table.Csv.Reader
import ResourceBrowser.Table.Engine
import ResourceBrowser.Table.Filter
import ResourceBrowser.Table.Grid
import ResourceBrowser.Table.Header
import ResourceBrowser.Table.Live
import ResourceBrowser.Table.NativeEngine
import ResourceBrowser.Table.Operation
import ResourceBrowser.Table.Order
import ResourceBrowser.Table.Plan
import ResourceBrowser.Table.Query
import ResourceBrowser.Table.Row
import ResourceBrowser.Text.Age
import ResourceBrowser.Text.Blank
import ResourceBrowser.Text.Case
import ResourceBrowser.Text.Category
import ResourceBrowser.Text.CodeSet
import ResourceBrowser.Text.Grapheme
import ResourceBrowser.Text.Hex
import ResourceBrowser.Text.Latin
import ResourceBrowser.Text.Property
import ResourceBrowser.Text.Quoted
import ResourceBrowser.Text.Script
import ResourceBrowser.Text.Width
import ResourceBrowser.Tunnel.Basic
import ResourceBrowser.Tunnel.Candidate
import ResourceBrowser.Tunnel.Registry
import ResourceBrowser.Tunnel.Start
import ResourceBrowser.Tunnel.System
import ResourceBrowser.View.Action
import ResourceBrowser.View.Browser
import ResourceBrowser.View.Dialog
