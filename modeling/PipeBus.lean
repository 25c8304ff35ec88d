import PipeBus.Main
import PipeBus.Stream.Link
import PipeBus.Proofs.Session
import PipeBus.Proofs.Replay
import PipeBus.Proofs.Delay
import PipeBus.Proofs.EchoRoundTrip
import PipeBus.Proofs.PortTable
import PipeBus.Proofs.CounterGate
import PipeBus.Proofs.PipeEnd
import PipeBus.Proofs.StopAndWait
import PipeBus.Proofs.Loading
import PipeBus.Proofs.Decoding
import PipeBus.Proofs.Reading
import PipeBus.Proofs.Fleet
import PipeBus.Proofs.EchoAccount
import PipeBus.Proofs.Walking
import PipeBus.Proofs.Recall
import PipeBus.Proofs.Broadcast
import PipeBus.Proofs.Damage
import PipeBus.Proofs.Wakeups
import PipeBus.Proofs.Acknowledgement
import PipeBus.Proofs.Realignment
import PipeBus.Proofs.Handover
import PipeBus.Proofs.Routing
import PipeBus.Proofs.Writing
import PipeBus.Proofs.PortDraw
import PipeBus.Proofs.Polling
import PipeBus.Proofs.EchoTenancy
import PipeBus.Proofs.Backlog
import PipeBus.Proofs.Advertisement
import PipeBus.Proofs.Records
import PipeBus.Proofs.HexSpelling
import PipeBus.Proofs.Capacity
import PipeBus.Proofs.Backoff
import PipeBus.Proofs.Accounting
import PipeBus.Proofs.Settling
