import AssetAtlas.Files.Tree
import AssetAtlas.Main
import AssetAtlas.Proofs.Graph.Accounting
import AssetAtlas.Proofs.Graph.Confluence
import AssetAtlas.Proofs.Loading.Freshness
import AssetAtlas.Proofs.Loading.Pagination
import AssetAtlas.Proofs.Loading.Settlement
import AssetAtlas.Proofs.Query.Counting
import AssetAtlas.Proofs.Query.FilterTexts
import AssetAtlas.Proofs.Exposure.Agreement
import AssetAtlas.Proofs.Loading.Calls
import AssetAtlas.Proofs.Graph.Merging
import AssetAtlas.Proofs.Query.Columns
import AssetAtlas.Proofs.Query.Limits
import AssetAtlas.Proofs.Classification.Findings
import AssetAtlas.Proofs.Classification.KnownExploited
import AssetAtlas.Proofs.Classification.Vulnerability
import AssetAtlas.Proofs.Classification.ImageTotals
import AssetAtlas.Proofs.Graph.Extension
import AssetAtlas.Proofs.Graph.Respelling
import AssetAtlas.Proofs.Criteria.Editing
import AssetAtlas.Proofs.Criteria.RoundTrip
import AssetAtlas.Proofs.Text.Casing
import AssetAtlas.Proofs.Classification.Severity
import AssetAtlas.Proofs.Report.SeverityOrder
import AssetAtlas.Proofs.Graph.Distances
import AssetAtlas.Proofs.Query.Parsing
import AssetAtlas.Proofs.Query.Reversal
import AssetAtlas.Proofs.Classification.Sources
import AssetAtlas.Proofs.Classification.Repetition
import AssetAtlas.Proofs.Classification.ImageMaps
import AssetAtlas.Proofs.Classification.Lists
import AssetAtlas.Proofs.Classification.Aliases
import AssetAtlas.Proofs.Exposure.Connections
import AssetAtlas.Proofs.Exposure.Idempotence
import AssetAtlas.Proofs.Loading.Pages
import AssetAtlas.Proofs.Report.Tables
import AssetAtlas.Proofs.Store.Failures
import AssetAtlas.Proofs.Record.Decoding
import AssetAtlas.Proofs.Report.Accounts
import AssetAtlas.Proofs.Graph.Placement
import AssetAtlas.Proofs.CommandLine.Flags
import AssetAtlas.Proofs.Settings.Acceptance
import AssetAtlas.Proofs.Store.Totals
