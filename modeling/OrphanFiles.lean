import OrphanFiles.Main
import OrphanFiles.Proofs.Analysis.Exact
import OrphanFiles.Proofs.Analysis.Stages
import OrphanFiles.Proofs.Analysis.Survey
import OrphanFiles.Proofs.FileSystem.Linkless
import OrphanFiles.Proofs.FileSystem.Plain
import OrphanFiles.Proofs.FileSystem.Resolution
import OrphanFiles.Proofs.Index.Contents
import OrphanFiles.Proofs.Path.Location
import OrphanFiles.Proofs.Path.Spelling
import OrphanFiles.Proofs.Source.Calls
import OrphanFiles.Proofs.Source.QuotedCall
import OrphanFiles.Proofs.Source.Scan
import OrphanFiles.Proofs.Source.Targets
import OrphanFiles.Proofs.Text.Arrangement
import OrphanFiles.Proofs.Verdict.Asset
import OrphanFiles.Proofs.Verdict.Growth
import OrphanFiles.Proofs.Verdict.ImportGraph
import OrphanFiles.Proofs.Verdict.Reference
import OrphanFiles.Proofs.Walk.Files
import OrphanFiles.Proofs.Walk.Listing
import OrphanFiles.Proofs.Report.Summary
import OrphanFiles.Proofs.Verdict.Cleanup
import OrphanFiles.Proofs.Analysis.Losses
import OrphanFiles.Proofs.Path.Anchored
import OrphanFiles.Proofs.Analysis.Coherence
import OrphanFiles.Proofs.Analysis.Completion
import OrphanFiles.Proofs.Analysis.Extent
import OrphanFiles.Proofs.Report.Printing
import OrphanFiles.Proofs.Analysis.Agreement
import OrphanFiles.Proofs.Analysis.Dependence
import OrphanFiles.Proofs.Analysis.Relocation
import OrphanFiles.Proofs.Json.Reading
import OrphanFiles.Proofs.Json.RoundTrip
import OrphanFiles.Proofs.Source.Occurrence
import OrphanFiles.Proofs.Json.Characters
import OrphanFiles.Proofs.FileSystem.Reordering
import OrphanFiles.Proofs.Report.Restoration
import OrphanFiles.Proofs.Walk.Reach
import OrphanFiles.Proofs.FileSystem.Writing
import OrphanFiles.Proofs.CommandLine.Effect
import OrphanFiles.Proofs.Text.Ending
import OrphanFiles.Proofs.Source.Selection
import OrphanFiles.Proofs.Source.ImportForms
import OrphanFiles.Proofs.Path.Components
import OrphanFiles.Proofs.Path.Classification
import OrphanFiles.Proofs.Analysis.Pages
import OrphanFiles.Proofs.Verdict.Reasons
import OrphanFiles.Proofs.Verdict.GivenOrder
import OrphanFiles.Proofs.Index.Exact
import OrphanFiles.Proofs.Analysis.DamagedFiles
import OrphanFiles.Proofs.Index.Rereading
import OrphanFiles.Proofs.Report.Shape
import OrphanFiles.Proofs.Report.Characters
import OrphanFiles.Proofs.Report.Listing
import OrphanFiles.Proofs.Report.Color
import OrphanFiles.Proofs.ByteSize.Exact
import OrphanFiles.Proofs.ByteSize.Fit
import OrphanFiles.Proofs.ByteSize.Order
import OrphanFiles.Proofs.CommandLine.Rejection
import OrphanFiles.Proofs.Report.Sizes
import OrphanFiles.Proofs.Source.LazyLoad
