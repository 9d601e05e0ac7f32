import FlowOffload.Engine.Run
import FlowOffload.Service.Delivery
import FlowOffload.Service.Inspection

/-!
# Dispatch

What the service does with one decoded frame.  The operations that only answer
with a status have one shape, those that return a value another; an operation
whose payload cannot be read is refused before the engine sees it.
-/

namespace FlowOffload

open Foundation

/-- The response to a request, with its operation and correlation. -/
def Frame.reply (request : Frame) (status : ReasonCode) (payload : Bytes) :
    Frame :=
  { operation := request.operation
    correlation := request.correlation
    status := status
    payload := payload }

/-- An operation that answers with its status. -/
def dispatchStatus {α : Type} (s : Impl) (request : Frame)
    (decode : CanonicalReader α) (apply : α → Impl × Status) : Impl × Frame :=
  match decodePayload decode request.payload with
  | none => (s, request.reply .protocolMalformedFrame [])
  | some value =>
      let applied := apply value
      (applied.1, request.reply applied.2.code [])

/-- An operation that also returns a value. -/
def dispatchValue {α : Type} (s : Impl) (request : Frame)
    (decode : CanonicalReader α) (apply : α → Impl × ReasonCode × Bytes) :
    Impl × Frame :=
  match decodePayload decode request.payload with
  | none => (s, request.reply .protocolMalformedFrame [])
  | some value =>
      let applied := apply value
      match encodePayload applied.2.2 with
      | none => (applied.1, request.reply .protocolBackpressure [])
      | some payload => (applied.1, request.reply applied.2.1 payload)

def Impl.hello (s : Impl) : HelloResponse :=
  { libraryVersion := "1.0.0", epoch := s.epoch, boot := s.boot }

def renderExport (state : EngineExport) : ExportFormat → Bytes
  | .binary => exportBinary state
  | .text => exportText state
  | .json => exportJson state {}

def dispatchExport (s : Impl) (request : Frame) : Impl × Frame :=
  match decodePayload decodeEnum request.payload with
  | none => (s, request.reply .protocolMalformedFrame [])
  | some format =>
      let rendered := renderExport s.exportState format
      if rendered.isEmpty then (s, request.reply .protocolBackpressure [])
      else if rendered.length > kMaxFramePayloadBytes then
        (s, request.reply .protocolOversizedFrame [])
      else (s, request.reply .protocolOk rendered)

/--
`Service::dispatch`.  As in the engine, the answer of the store to the commit
that the operation may cause is an argument.
-/
def dispatch (s : Impl) (request : Frame) (answer : Status) : Impl × Frame :=
  match request.operation with
  | .hello =>
      dispatchValue s request HelloRequest.decode fun _ =>
        (s, .protocolOk, s.hello.encode)
  | .declareTarget =>
      dispatchStatus s request TargetDescriptor.decode fun target =>
        s.declareTarget target answer
  | .registerFlow =>
      dispatchStatus s request FlowDescriptor.decode fun flow =>
        s.registerFlow flow answer
  | .ingestLoad =>
      dispatchStatus s request decodeObservation fun observed =>
        s.ingestLoad observed.1
  | .setPolicy =>
      dispatchStatus s request Policy.decode fun policy =>
        s.setPolicy policy answer
  | .registerContract =>
      dispatchStatus s request MigrationContract.decode fun contract =>
        s.registerMigrationContract contract answer
  | .place =>
      dispatchValue s request PlacementRequest.decode fun placement =>
        let placed := s.placeLocked placement answer
        (placed.1, placed.2.status, placed.2.encode)
  | .rebalance =>
      dispatchValue s request RebalanceRequest.decode fun rebalance =>
        let moved := s.rebalanceLocked rebalance answer
        (moved.1, moved.2.status, moved.2.encode)
  | .explain =>
      dispatchValue s request readId fun flow =>
        let explained := s.explainFlow flow {}
        (s, explained.1.code, explained.2.encode)
  | .exportState => dispatchExport s request
  | .shutdown => (s, request.reply .acceptedShutdownRequested [])

end FlowOffload
