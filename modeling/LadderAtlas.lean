import LadderAtlas.Calendar
import LadderAtlas.Catalog
import LadderAtlas.Chart.Controls
import LadderAtlas.Chart.Format
import LadderAtlas.Chart.League
import LadderAtlas.Chart.Population
import LadderAtlas.Chart.Race
import LadderAtlas.Chart.Source
import LadderAtlas.Command.Invocation
import LadderAtlas.Command.Run
import LadderAtlas.Command.Words
import LadderAtlas.Command.World
import LadderAtlas.Config
import LadderAtlas.Dimension
import LadderAtlas.Fetch.Context
import LadderAtlas.Fetch.Error
import LadderAtlas.Fetch.Exchange
import LadderAtlas.Fetch.Schedule
import LadderAtlas.Fetch.Source
import LadderAtlas.Fetch.Status
import LadderAtlas.Fetch.Store
import LadderAtlas.Fetch.Wire
import LadderAtlas.Graph.Axes
import LadderAtlas.Graph.Canvas
import LadderAtlas.Graph.Error
import LadderAtlas.Graph.Event
import LadderAtlas.Graph.Graph
import LadderAtlas.Graph.Hover
import LadderAtlas.Graph.Mark
import LadderAtlas.Graph.Page
import LadderAtlas.Graph.Plot
import LadderAtlas.Graph.Scale
import LadderAtlas.Graph.Svg
import LadderAtlas.Graph.Viewport
import LadderAtlas.Json.Basic
import LadderAtlas.Json.Decode
import LadderAtlas.Json.Text
import LadderAtlas.Json.Token
import LadderAtlas.Keyed
import LadderAtlas.Layout
import LadderAtlas.Main
import LadderAtlas.Number.Binary64
import LadderAtlas.Number.Decimal
import LadderAtlas.Number.Exact
import LadderAtlas.Number.Numeral
import LadderAtlas.Number.Reading
import LadderAtlas.Number.Scalar
import LadderAtlas.Number.Word
import LadderAtlas.Proofs.Calendar
import LadderAtlas.Proofs.Chart.Computing
import LadderAtlas.Proofs.Chart.Controls
import LadderAtlas.Proofs.Chart.Grouping
import LadderAtlas.Proofs.Chart.Points
import LadderAtlas.Proofs.Chart.Refusals
import LadderAtlas.Proofs.Chart.SeasonLast
import LadderAtlas.Proofs.Chart.Shares
import LadderAtlas.Proofs.Chart.Span
import LadderAtlas.Proofs.Chart.Stacking
import LadderAtlas.Proofs.Chart.Tops
import LadderAtlas.Proofs.Fetch.Addresses
import LadderAtlas.Proofs.Fetch.Lasting
import LadderAtlas.Proofs.Fetch.Moves
import LadderAtlas.Proofs.Fetch.Orderly
import LadderAtlas.Proofs.Fetch.Replacement
import LadderAtlas.Proofs.Fetch.Responses
import LadderAtlas.Proofs.Fetch.SingleFlight
import LadderAtlas.Proofs.Graph.Baseline
import LadderAtlas.Proofs.Graph.CanvasHeight
import LadderAtlas.Proofs.Graph.Changes
import LadderAtlas.Proofs.Graph.Columns
import LadderAtlas.Proofs.Graph.Dates
import LadderAtlas.Proofs.Graph.Document
import LadderAtlas.Proofs.Graph.Gradients
import LadderAtlas.Proofs.Graph.Gridlines
import LadderAtlas.Proofs.Graph.Hovering
import LadderAtlas.Proofs.Graph.Inverses
import LadderAtlas.Proofs.Graph.Labels
import LadderAtlas.Proofs.Graph.MouseOver
import LadderAtlas.Proofs.Graph.Pointing
import LadderAtlas.Proofs.Graph.Polygon
import LadderAtlas.Proofs.Graph.Recomputing
import LadderAtlas.Proofs.Graph.Redraw
import LadderAtlas.Proofs.Graph.Ticks
import LadderAtlas.Proofs.Graph.Viewports
import LadderAtlas.Proofs.Json.Numbers
import LadderAtlas.Proofs.Json.Records
import LadderAtlas.Proofs.Json.Rendering
import LadderAtlas.Proofs.Json.Scanning
import LadderAtlas.Proofs.Number.Arithmetic
import LadderAtlas.Proofs.Number.DoubleOrder
import LadderAtlas.Proofs.Number.Exact
import LadderAtlas.Proofs.Number.Numerals
import LadderAtlas.Proofs.Number.Packing
import LadderAtlas.Proofs.Number.Rounding
import LadderAtlas.Proofs.Number.Specials
import LadderAtlas.Proofs.Number.WholeNumbers
import LadderAtlas.Proofs.Number.Words
import LadderAtlas.Proofs.Results
import LadderAtlas.Proofs.Seasons
import LadderAtlas.Proofs.Stats.Addressing
import LadderAtlas.Proofs.Stats.Bounds
import LadderAtlas.Proofs.Stats.Breakdown
import LadderAtlas.Proofs.Stats.Collections
import LadderAtlas.Proofs.Stats.Counts
import LadderAtlas.Proofs.Stats.FilterTexts
import LadderAtlas.Proofs.Stats.Influence
import LadderAtlas.Proofs.Stats.Modes
import LadderAtlas.Proofs.Stats.Paths
import LadderAtlas.Proofs.Stats.Reading
import LadderAtlas.Proofs.Stats.Rearranging
import LadderAtlas.Proofs.Stats.Selection
import LadderAtlas.Proofs.Stats.StorageOrder
import LadderAtlas.Proofs.Stats.Totals
import LadderAtlas.Proofs.Table.Agreement
import LadderAtlas.Proofs.Table.Columns
import LadderAtlas.Proofs.Table.Rows
import LadderAtlas.Proofs.Table.Sums
import LadderAtlas.Proofs.Table.Viewing
import LadderAtlas.Proofs.Text.Escaping
import LadderAtlas.Proofs.Text.Markup
import LadderAtlas.Proofs.Url.Joining
import LadderAtlas.Record
import LadderAtlas.Season
import LadderAtlas.Settings
import LadderAtlas.Stats.Aggregate
import LadderAtlas.Stats.Collection
import LadderAtlas.Stats.Error
import LadderAtlas.Stats.Filter
import LadderAtlas.Stats.Mode
import LadderAtlas.Stats.Tally
import LadderAtlas.Table.Basic
import LadderAtlas.Table.History
import LadderAtlas.Table.Latest
import LadderAtlas.Table.View
import LadderAtlas.Text.Blank
import LadderAtlas.Text.CodeTable
import LadderAtlas.Text.Composition.Basic
import LadderAtlas.Text.Composition.Class
import LadderAtlas.Text.Composition.Pair
import LadderAtlas.Text.Direction
import LadderAtlas.Text.Joining
import LadderAtlas.Text.Mark
import LadderAtlas.Text.Separated
import LadderAtlas.Text.Xml
import LadderAtlas.Toml.Document
import LadderAtlas.Toml.Quoted
import LadderAtlas.Toml.Scalar
import LadderAtlas.Toml.Value
import LadderAtlas.Url.Basic
import LadderAtlas.Url.Domain.Basic
import LadderAtlas.Url.Domain.Label
import LadderAtlas.Url.Domain.Replacement
import LadderAtlas.Url.Error
import LadderAtlas.Url.Host
import LadderAtlas.Url.Path
import LadderAtlas.Url.Percent
import LadderAtlas.Url.Punycode
import LadderAtlas.Url.Reading
