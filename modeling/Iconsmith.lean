import Iconsmith.Main
import Iconsmith.Proofs.Disk.Changes
import Iconsmith.Proofs.Output.Writing
import Iconsmith.Proofs.Output.Atomicity
import Iconsmith.Proofs.Markup.Trees
import Iconsmith.Proofs.Drawing.Refinement
import Iconsmith.Proofs.Assets.Sources
import Iconsmith.Proofs.Generation
import Iconsmith.Proofs.Program
import Iconsmith.Proofs.Markup.Cuts
import Iconsmith.Proofs.Markup.Alike
import Iconsmith.Proofs.Markup.Faultless
import Iconsmith.Proofs.Markup.Shadows
import Iconsmith.Proofs.Markup.Runs
import Iconsmith.Proofs.Markup.Trimming
import Iconsmith.Proofs.Drawing.Cleanability
import Iconsmith.Proofs.Assets.Faults
import Iconsmith.Proofs.Elm.DemoRows
import Iconsmith.Proofs.Elm.Exports
import Iconsmith.Proofs.Elm.Reader
import Iconsmith.Proofs.Elm.Unambiguity
import Iconsmith.Proofs.Elm.Lines
import Iconsmith.Proofs.Elm.Literals
import Iconsmith.Proofs.Elm.Determination
import Iconsmith.Proofs.Drawing.Idempotence
import Iconsmith.Proofs.Assets.IconFolders
import Iconsmith.Proofs.Assets.Reordering
import Iconsmith.Proofs.Confinement
import Iconsmith.Proofs.Rerun
import Iconsmith.Proofs.Generation.Accounting
import Iconsmith.Proofs.Assets.Sharing
import Iconsmith.Proofs.Elm.Unwrapping
import Iconsmith.Proofs.Markup.Attributes
import Iconsmith.Proofs.Drawing.Background
import Iconsmith.Proofs.Output.Effect
import Iconsmith.Proofs.Markup.Structure
import Iconsmith.Proofs.Assets.IconRows
import Iconsmith.Proofs.Assets.Detection
import Iconsmith.Proofs.Assets.Decoding
import Iconsmith.Proofs.Generation.Rearranging
import Iconsmith.Proofs.Elm.Documentation
import Iconsmith.Proofs.Catalog.Manifest
import Iconsmith.Proofs.Assets.Completeness
import Iconsmith.Proofs.Catalog.Names
import Iconsmith.Proofs.Telemetry.KeyValues
import Iconsmith.Proofs.Telemetry.Lifecycle
import Iconsmith.Proofs.Weight
