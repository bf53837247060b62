import LogTriage.Main
import LogTriage.Files.Tree
import LogTriage.Proofs.Engine.Deliveries
import LogTriage.Proofs.Engine.Evidence
import LogTriage.Proofs.Engine.Extraction
import LogTriage.Proofs.Engine.Products
import LogTriage.Proofs.Engine.Scan
import LogTriage.Proofs.Engine.Stopped
import LogTriage.Proofs.Line.Limits
import LogTriage.Proofs.Phase.Library
import LogTriage.Proofs.Report.Enclosed
import LogTriage.Proofs.Report.Packing
import LogTriage.Proofs.Run.Capped
import LogTriage.Proofs.Run.Coherent
import LogTriage.Proofs.Stream.Encodings
import LogTriage.Proofs.Stream.Recovery
import LogTriage.Proofs.Verbatim
import LogTriage.Proofs.Zip.Opening
import LogTriage.Proofs.Report.Sections
import LogTriage.Proofs.Report.Normal
import LogTriage.Proofs.Text.Trimmed
import LogTriage.Proofs.Phase.Faults
import LogTriage.Proofs.Phase.Triggers
import LogTriage.Proofs.Catalog
import LogTriage.Proofs.Discovery.Found
import LogTriage.Proofs.Libraries.Notations
import LogTriage.Proofs.Config.Settings
import LogTriage.Proofs.Escaping
import LogTriage.Proofs.Config.Phrases
import LogTriage.Proofs.Engine.Gathered
