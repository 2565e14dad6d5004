import NameService.Cluster
import NameService.Main
import NameService.Proofs.Catalog.Delivery
import NameService.Proofs.Catalog.Retelling
import NameService.Proofs.Catalog.Recovery
import NameService.Proofs.Checkpoint.Store
import NameService.Proofs.Image.Assembly
import NameService.Proofs.Image.Codec
import NameService.Proofs.Image.RoundTrip
import NameService.Proofs.Image.Validity
import NameService.Proofs.Json.Rest
import NameService.Proofs.Log.Archive
import NameService.Proofs.Log.Course
import NameService.Proofs.Log.Fetching
import NameService.Proofs.Log.Reopening
import NameService.Proofs.Log.Straddling
import NameService.Proofs.Primary.Course
import NameService.Proofs.Cluster.Covering
import NameService.Proofs.Cluster.Following
import NameService.Proofs.Catalog.Reopening
import NameService.Proofs.Primary.Service
import NameService.Proofs.Primary.Feeding
import NameService.Proofs.Primary.Telling
import NameService.Proofs.Primary.Traffic
import NameService.Proofs.Cluster.CatchingUp
import NameService.Proofs.Checkpoint.Info
import NameService.Proofs.FilePath.Walk
import NameService.Proofs.Upload.Interleaving
import NameService.Proofs.Backup.Course
import NameService.Proofs.Backup.Images
import NameService.Proofs.Tree.Digest
import NameService.Proofs.Tree.Kinds
import NameService.Proofs.Tree.Indexing
import NameService.Proofs.Upload.Framing
import NameService.Proofs.Primary.Watermark
import NameService.Proofs.Primary.Recalling
import NameService.Proofs.Tree.Refusals
import NameService.Proofs.Recovery.Order
import NameService.Proofs.Log.Flusher
import NameService.Proofs.Log.Naming
import NameService.Proofs.Fleet.Balance
import NameService.Proofs.Fleet.Eviction
import NameService.Proofs.Cluster.Attendance
import NameService.Proofs.Inspection.Leftover
import NameService.Proofs.Inspection.Segments
import NameService.Proofs.Tree.Rebuilding
