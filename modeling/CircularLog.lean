import CircularLog.Main
import CircularLog.NamedGate
import CircularLog.Proofs.Inquiry
import CircularLog.Proofs.Ledger
import CircularLog.Proofs.Sequel
import CircularLog.Station
import CircularLog.Workload
import CircularLog.Proofs.Complete
import CircularLog.Proofs.Drain
import CircularLog.Proofs.Feeding
import CircularLog.Proofs.Writers
import CircularLog.Proofs.Readers
import CircularLog.Proofs.Detection
import CircularLog.Proofs.Accumulation
import CircularLog.Proofs.Decoding
import CircularLog.Proofs.Cuts
import CircularLog.Proofs.Rows
import CircularLog.Proofs.Texts
import CircularLog.Proofs.Seeking
import CircularLog.Proofs.Ways
import CircularLog.Proofs.Spelling
import CircularLog.Proofs.Streams
import CircularLog.Proofs.Numbering
import CircularLog.Proofs.PlaceNames
import CircularLog.Proofs.Interrupts
import CircularLog.Proofs.Registry
