import DongleLink.Dump.Watch
import DongleLink.Main
import DongleLink.Port.Action
import DongleLink.Port.InUse.Action
import DongleLink.Port.InUse.Event
import DongleLink.Port.Interleaving
import DongleLink.Port.Writers
import DongleLink.Proofs.Agreement
import DongleLink.Proofs.BoundedQueue
import DongleLink.Proofs.ChunkSize
import DongleLink.Proofs.Drained
import DongleLink.Proofs.EntryPoints
import DongleLink.Proofs.Fitness
import DongleLink.Proofs.HangUp
import DongleLink.Proofs.Heeded
import DongleLink.Proofs.InUse
import DongleLink.Proofs.Interleaving
import DongleLink.Proofs.Isolation
import DongleLink.Proofs.Ledger
import DongleLink.Proofs.Lifecycle
import DongleLink.Proofs.Loopback
import DongleLink.Proofs.MissingKeys
import DongleLink.Proofs.Opening
import DongleLink.Proofs.Overdue
import DongleLink.Proofs.Overlay
import DongleLink.Proofs.PayloadText
import DongleLink.Proofs.Port
import DongleLink.Proofs.Release
import DongleLink.Proofs.RingPositions
import DongleLink.Proofs.SavedConfig
import DongleLink.Proofs.Script
import DongleLink.Proofs.Settle
import DongleLink.Proofs.SharedDongle
import DongleLink.Proofs.Sharing
import DongleLink.Proofs.ShownLines
import DongleLink.Proofs.Stalled
import DongleLink.Proofs.TargetGrammar
import DongleLink.Proofs.TargetRoutes
import DongleLink.Proofs.WakeUp
import DongleLink.Proofs.Watch
import DongleLink.Proofs.WriteAccount
import DongleLink.Proofs.Writers
import DongleLink.Wire.Bench
import DongleLink.Wire.Scripted
import DongleLink.Wire.Traced
