import FlowOffload.Service.Calls
import FlowOffload.Service.Stream

/-!
# The client

The blocking client.  A call sends one frame and reads one; the peer is a
function from the bytes of the request to the bytes that then arrive, up to the
end of the stream.  What a call leaves unread is read by the next one.
-/

namespace FlowOffload

open Foundation

structure Client where
  connected : Bool := false
  nextCorrelation : UInt64 := 1
  maxFrameBytes : Nat := kMaxFrameBytes
  /-- What has arrived and no call has read. -/
  unread : Bytes := []
  deriving DecidableEq, Repr

/-- A write that fails carries its status. -/
abbrev Peer := Bytes → Except ReasonCode Bytes

namespace Client

/-- `connect`, once the socket is connected. -/
def connect (c : Client) (maxFrameBytes : Nat) : Client :=
  { c with
    connected := true
    maxFrameBytes :=
      if maxFrameBytes < kFrameOverheadBytes then kMaxFrameBytes
      else maxFrameBytes
    unread := [] }

def close (c : Client) : Client := { c with connected := false, unread := [] }

/-- The reply of the peer to one request. -/
def receive (c : Client) (request : Frame) (stream : Bytes) :
    Client × Except ReasonCode Frame :=
  match nextFrame c.maxFrameBytes stream with
  | none => ({ c with unread := [] }, .error .protocolTruncatedFrame)
  | some (received, rest) =>
      let read := { c with unread := rest }
      match received with
      | .oversized _ _ => (read, .error .protocolOversizedFrame)
      | .broken status => (read, .error status)
      | .frame reply =>
          if reply.correlation ≠ request.correlation then
            (read, .error .protocolMalformedFrame)
          else (read, .ok reply)

/-- `call`: the reply, or the status of a call that has none. -/
def call (c : Client) (operation : Operation) (payload : Bytes) (peer : Peer) :
    Client × Except ReasonCode Frame :=
  if !c.connected then (c, .error .protocolNotConnected)
  else
    let request : Frame :=
      { operation := operation
        correlation := c.nextCorrelation
        payload := payload }
    let numbered := { c with nextCorrelation := c.nextCorrelation + 1 }
    match encodeFrame request c.maxFrameBytes with
    | none => (numbered, .error .protocolOversizedFrame)
    | some bytes =>
        match peer bytes with
        | .error failure => (numbered, .error failure)
        | .ok arrived => numbered.receive request (c.unread ++ arrived)

/-- The status of a call. -/
def statusOf : Except ReasonCode Frame → ReasonCode
  | .error status => status
  | .ok reply => reply.status

/-- The operations that only return a status. -/
def callStatus (c : Client) (operation : Operation) (value : Bytes)
    (peer : Peer) : Client × ReasonCode :=
  match encodePayload value with
  | none => (c, .rejectedOversizedInput)
  | some payload =>
      let called := c.call operation payload peer
      (called.1, statusOf called.2)

/-- The operations that return a value when their status is an acceptance. -/
def callValue {α : Type} (c : Client) (operation : Operation) (value : Bytes)
    (decode : Bytes → Option α) (peer : Peer) :
    Client × ReasonCode × Option α :=
  match encodePayload value with
  | none => (c, .rejectedOversizedInput, none)
  | some payload =>
      let called := c.call operation payload peer
      match called.2 with
      | .error status => (called.1, status, none)
      | .ok reply =>
          if !reply.status.isAcceptance then (called.1, reply.status, none)
          else
            match decode reply.payload with
            | none => (called.1, .protocolMalformedFrame, none)
            | some result => (called.1, reply.status, some result)

/-- The version that the client states in its greeting. -/
def kClientVersion : UInt32 := 10000

def hello (c : Client) (clientName : String) (peer : Peer) :
    Client × ReasonCode × Option HelloResponse :=
  c.callValue .hello (HelloRequest.encode ⟨clientName, kClientVersion⟩)
    (decodePayload HelloResponse.decode) peer

def declareTarget (c : Client) (target : TargetDescriptor) (peer : Peer) :
    Client × ReasonCode :=
  c.callStatus .declareTarget target.encode peer

def registerFlow (c : Client) (flow : FlowDescriptor) (peer : Peer) :
    Client × ReasonCode :=
  c.callStatus .registerFlow flow.encode peer

def ingestLoad (c : Client) (evidence : LoadEvidence) (instant : Timestamp)
    (peer : Peer) : Client × ReasonCode :=
  c.callStatus .ingestLoad (encodeObservation evidence instant) peer

def setPolicy (c : Client) (policy : Policy) (peer : Peer) :
    Client × ReasonCode :=
  c.callStatus .setPolicy policy.encode peer

def registerContract (c : Client) (contract : MigrationContract)
    (peer : Peer) : Client × ReasonCode :=
  c.callStatus .registerContract contract.encode peer

def place (c : Client) (request : PlacementRequest) (peer : Peer) :
    Client × ReasonCode × Option PlacementResult :=
  c.callValue .place request.encode (decodePayload PlacementResult.decode) peer

def rebalance (c : Client) (request : RebalanceRequest) (peer : Peer) :
    Client × ReasonCode × Option RebalanceReport :=
  c.callValue .rebalance request.encode (decodePayload RebalanceReport.decode)
    peer

/-- The explanation is read whatever the status of the call is. -/
def explain (c : Client) (flow : FlowId) (peer : Peer) :
    Client × ReasonCode × Option Explanation :=
  match encodePayload (writeId flow) with
  | none => (c, .rejectedOversizedInput, none)
  | some payload =>
      let called := c.call .explain payload peer
      let response := called.2.toOption.elim [] Frame.payload
      match decodePayload Explanation.decode response with
      | none => (called.1, .protocolMalformedFrame, none)
      | some explanation => (called.1, statusOf called.2, some explanation)

def exportState (c : Client) (format : ExportFormat) (peer : Peer) :
    Client × ReasonCode × Option Bytes :=
  c.callValue .exportState (encodeEnum format) some peer

def shutdownServer (c : Client) (peer : Peer) : Client × ReasonCode :=
  let called := c.call .shutdown [] peer
  (called.1, statusOf called.2)

end Client

end FlowOffload
