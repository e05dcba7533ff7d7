import KubeHcl.Main
import KubeHcl.Proofs.Outcome
import KubeHcl.Proofs.Entries
import KubeHcl.Proofs.Trees
import KubeHcl.Proofs.TemplateReading
import KubeHcl.Proofs.EscapedLines
import KubeHcl.Proofs.Tokens
import KubeHcl.Proofs.Names
import KubeHcl.Proofs.ValidNames
import KubeHcl.Proofs.TextExtraction
import KubeHcl.Proofs.ExtractedTexts
import KubeHcl.Proofs.Resources
import KubeHcl.Proofs.RewriteOutcome
import KubeHcl.Proofs.RewriteEffect
import KubeHcl.Proofs.Recording
import KubeHcl.Proofs.LoadOutcome
import KubeHcl.Proofs.Declarations
import KubeHcl.Proofs.RenderOutcome
import KubeHcl.Proofs.RenderRun
import KubeHcl.Proofs.WrittenBlocks
import KubeHcl.Proofs.Operations
import KubeHcl.Proofs.CurrentIdentities
import KubeHcl.Proofs.RenderedFiles
import KubeHcl.Proofs.References
import KubeHcl.Proofs.Evaluation
import KubeHcl.Proofs.ReadBack
import KubeHcl.Proofs.RewriteResult
import KubeHcl.Proofs.RewriteOrder
import KubeHcl.Proofs.FileDependence
import KubeHcl.Proofs.Normalization
import KubeHcl.Proofs.DistinctKeys
import KubeHcl.Proofs.Additions
import KubeHcl.Proofs.Places
import KubeHcl.Proofs.TokenPlaces
import KubeHcl.Proofs.ReplacedTexts
import KubeHcl.Proofs.RewriteChanges
import KubeHcl.Proofs.StoppedRendering
import KubeHcl.Proofs.LeftTokens
import KubeHcl.Proofs.StatedIdentity
import KubeHcl.Proofs.DelimiterSearch
import KubeHcl.Proofs.HeredocReading
import KubeHcl.Proofs.DistinctNames
import KubeHcl.Proofs.IdentityConflicts
import KubeHcl.Proofs.FileWalks
import KubeHcl.Proofs.WorldRuns
import KubeHcl.Proofs.MissingDirectories
import KubeHcl.Proofs.OutputDirectory
import KubeHcl.Proofs.WrittenFiles
import KubeHcl.Proofs.RecordedPlaceholders
import KubeHcl.Proofs.LoadedPrefix
import KubeHcl.Proofs.SubstitutedPlaces
import KubeHcl.Proofs.Requirements
import KubeHcl.Proofs.ExactNormalization
import KubeHcl.Proofs.WatchedRuns
import KubeHcl.Proofs.OpenedPaths
import KubeHcl.Proofs.LastSeparator
import KubeHcl.Proofs.ByteOrder
import KubeHcl.Proofs.ListedFiles
import KubeHcl.Proofs.ResolvedPaths
import KubeHcl.Proofs.ReadFiles
import KubeHcl.Proofs.LoadedDirectories
