import StreamGate.Block.Stored
import StreamGate.Connection.Crowd
import StreamGate.Gateway.Deployment
import StreamGate.Gateway.Run
import StreamGate.Main
import StreamGate.Proofs.Archive.Discarding
import StreamGate.Proofs.Archive.Relaying
import StreamGate.Proofs.Archive.Tokens
import StreamGate.Proofs.Catalog.Isolation
import StreamGate.Proofs.Catalog.StoredForms
import StreamGate.Proofs.Cipher.Material
import StreamGate.Proofs.Cipher.Pieces
import StreamGate.Proofs.Cipher.Sealing
import StreamGate.Proofs.Connection.WakeUps
import StreamGate.Proofs.Gateway.Answers
import StreamGate.Proofs.Gateway.BodyLength
import StreamGate.Proofs.Gateway.Bookkeeping
import StreamGate.Proofs.Gateway.Chronicle
import StreamGate.Proofs.Gateway.Confinement
import StreamGate.Proofs.Gateway.FileDelivery
import StreamGate.Proofs.Gateway.HeadAsGet
import StreamGate.Proofs.Gateway.HeadRequests
import StreamGate.Proofs.Gateway.LastByte
import StreamGate.Proofs.Gateway.Scoping
import StreamGate.Proofs.Http.Naming
import StreamGate.Proofs.Range.Display
import StreamGate.Proofs.Storage.AsInMemory
import StreamGate.Proofs.Storage.BlockPaths
import StreamGate.Proofs.Storage.BrokenPuts
import StreamGate.Proofs.Storage.KeptFiles
import StreamGate.Proofs.Storage.WholeBlocks
import StreamGate.Proofs.Tables
import StreamGate.Proofs.Transfer.Accounting
import StreamGate.Proofs.Transfer.BrokenOff
import StreamGate.Proofs.Transfer.Buffering
import StreamGate.Proofs.Transfer.Countdown
import StreamGate.Proofs.Transfer.Custody
import StreamGate.Proofs.Transfer.Lifecycle
import StreamGate.Proofs.Transfer.ReadAhead
import StreamGate.Proofs.Transfer.Resuming
import StreamGate.Transfer.Drain
import StreamGate.Transfer.Script
