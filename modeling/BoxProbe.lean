import BoxProbe.Main
import BoxProbe.Proofs.Session.Path
import BoxProbe.Proofs.Session.Course
import BoxProbe.Proofs.Session.Deadline
import BoxProbe.Proofs.Session.Stage
import BoxProbe.Proofs.Session.Settled
import BoxProbe.Proofs.Session.EventGrammar
import BoxProbe.Proofs.Session.EventOrder
import BoxProbe.Proofs.Protocol.QrCode
import BoxProbe.Proofs.Session.FrameFold
import BoxProbe.Proofs.ControlBox.Registers
import BoxProbe.Proofs.Session.Agreement
import BoxProbe.Proofs.ControlBox.Interruption
import BoxProbe.Proofs.Session.Handshake
import BoxProbe.Proofs.Session.Isolation
import BoxProbe.Proofs.Session.SharedCourse
import BoxProbe.Proofs.Session.SharedReturns
import BoxProbe.Proofs.Session.Tally
import BoxProbe.Proofs.Session.Requests
import BoxProbe.Proofs.Session.Window
import BoxProbe.Proofs.Failure.Desk
import BoxProbe.Proofs.CommandLine.Program
import BoxProbe.Proofs.Session.BinaryFrames
import BoxProbe.Proofs.Session.ShortForm
import BoxProbe.Proofs.Protocol.TypeTag
import BoxProbe.Proofs.Protocol.Leniency
import BoxProbe.Proofs.Log.Output
import BoxProbe.Proofs.Log.Reconfiguration
