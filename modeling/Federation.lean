import Federation.Time.Tag
import Federation.Identifier
import Federation.Connection
import Federation.Bytes.LittleEndian
import Federation.Frame.Basic
import Federation.Frame.Encode
import Federation.Frame.Reader
import Federation.Frame.Decode
import Federation.Duration
import Federation.Fault
import Federation.Plan
import Federation.Board.Wait
import Federation.Federate
import Federation.ClockSync.Round
import Federation.ClockSync.Startup
import Federation.Retry
import Federation.Assembly
import Federation.Command
import Federation.Duration.Written
import Federation.Link.Transport
import Federation.Link.Joining
import Federation.Link.Introduction
import Federation.Link.ServerPort
import Federation.Session.Start
import Federation.Session.Rehearsal
import Federation.Coordinator.Hearing
import Federation.Link.Inflow
import Federation.Main
import Federation.Proofs.Delivery
import Federation.Proofs.Mirror
import Federation.Proofs.History
import Federation.Proofs.Waiting
import Federation.Proofs.Tardiness
import Federation.Proofs.Announcement
import Federation.Proofs.OnlyTakes
import Federation.Proofs.Canonical
import Federation.Proofs.Peers
import Federation.Proofs.Neighbors
import Federation.Proofs.Opening
import Federation.Proofs.Independence
import Federation.Proofs.Modes
import Federation.Proofs.Legible
import Federation.Proofs.Registration
import Federation.Proofs.LifeCycle
import Federation.Proofs.BestEffort
import Federation.Proofs.Relaying
import Federation.Proofs.Native
import Federation.Proofs.Outflow
import Federation.Proofs.Admittance
import Federation.Proofs.Carriage
import Federation.Proofs.Truncation
import Federation.Proofs.DelayOrder
import Federation.Proofs.Violation
import Federation.Proofs.Classification
import Federation.Proofs.Fitting
import Federation.Proofs.Failure
import Federation.Proofs.Gate
import Federation.Proofs.Adjustment
import Federation.Proofs.Synchronizing
import Federation.Proofs.Attempts
import Federation.Proofs.Inquiry
import Federation.Proofs.Reading
import Federation.Proofs.PeerReading
import Federation.Proofs.Interleaving
import Federation.Proofs.CoordinatorReading
import Federation.Proofs.Listening
import Federation.Proofs.Resolution
