import SourceRecovery.Main
import SourceRecovery.Proofs.CommandLine.Printing
import SourceRecovery.Proofs.CommandLine.Running
import SourceRecovery.Proofs.Configuration.Document
import SourceRecovery.Proofs.Configuration.Saving
import SourceRecovery.Proofs.Dependency.Detection
import SourceRecovery.Proofs.Dependency.Injection
import SourceRecovery.Proofs.Dependency.Placeholder
import SourceRecovery.Proofs.Dependency.RawBytes
import SourceRecovery.Proofs.Dependency.Record
import SourceRecovery.Proofs.Dependency.Walk
import SourceRecovery.Proofs.FileTree.Closed
import SourceRecovery.Proofs.FileTree.Contents
import SourceRecovery.Proofs.FileTree.Descent
import SourceRecovery.Proofs.FileTree.LastName
import SourceRecovery.Proofs.FileTree.MakeDirectories
import SourceRecovery.Proofs.FileTree.Place
import SourceRecovery.Proofs.FileTree.Reach
import SourceRecovery.Proofs.FileTree.Segments
import SourceRecovery.Proofs.Json.Grammar
import SourceRecovery.Proofs.Json.Skipping
import SourceRecovery.Proofs.Json.Tokens
import SourceRecovery.Proofs.Mapping.CaptureOrders
import SourceRecovery.Proofs.Mapping.ClassLine
import SourceRecovery.Proofs.Mapping.Concatenation
import SourceRecovery.Proofs.Mapping.Entries
import SourceRecovery.Proofs.Mapping.Index
import SourceRecovery.Proofs.Mapping.LineByLine
import SourceRecovery.Proofs.Mapping.Overwriting
import SourceRecovery.Proofs.Mapping.Written
import SourceRecovery.Proofs.Pattern.Literal
import SourceRecovery.Proofs.Relocation.Agreement
import SourceRecovery.Proofs.Relocation.Effect
import SourceRecovery.Proofs.Relocation.Footprint
import SourceRecovery.Proofs.Relocation.InPlace
import SourceRecovery.Proofs.Relocation.Inverse
import SourceRecovery.Proofs.Relocation.Naming
import SourceRecovery.Proofs.Relocation.Outcome
import SourceRecovery.Proofs.Relocation.Plain
import SourceRecovery.Proofs.Relocation.Plan
import SourceRecovery.Proofs.Relocation.Replacement
import SourceRecovery.Proofs.Relocation.Site
import SourceRecovery.Proofs.Restoration.Account
import SourceRecovery.Proofs.Restoration.Confinement
import SourceRecovery.Proofs.Restoration.Conservation
import SourceRecovery.Proofs.Restoration.Ending
import SourceRecovery.Proofs.Restoration.Frame
import SourceRecovery.Proofs.Restoration.Independence
import SourceRecovery.Proofs.Restoration.Inversion
import SourceRecovery.Proofs.Restoration.Kept
import SourceRecovery.Proofs.Restoration.Resumption
import SourceRecovery.Proofs.Restoration.Sequence
import SourceRecovery.Proofs.Source.AroundStatement
import SourceRecovery.Proofs.Source.Declaration
import SourceRecovery.Proofs.Source.DeclaredName
import SourceRecovery.Proofs.Source.Exchange
import SourceRecovery.Proofs.Source.Package
import SourceRecovery.Proofs.Source.RenamingBack
import SourceRecovery.Proofs.Source.Replacing
import SourceRecovery.Proofs.Source.Search
import SourceRecovery.Proofs.Source.Statement
import SourceRecovery.Proofs.Source.Undo
import SourceRecovery.Proofs.Text.Lossy
import SourceRecovery.Proofs.Text.Pieces
import SourceRecovery.Proofs.Text.Splitting
import SourceRecovery.Proofs.Text.Trimming
import SourceRecovery.Proofs.Text.Utf8
