import FlowOffload.Laws.Results
import FlowOffload.Laws.Streams
import FlowOffload.Service.Client

/-!
# Calls over a connection

What a client is told is what the engine answered.  A frame with a payload that
the service can read is the same call at the engine, with the same outcome, or
with word that the outcome does not fit a frame; and the replies to several
frames come back in order.
-/

namespace FlowOffload

open Foundation

/-! ## Frames that fit -/

/-- The bytes of a frame. -/
def Frame.bytes (frame : Frame) : Bytes :=
  frame.body ++ (Sha256.of frame.body).bytes

/-- The frame fits this bound and the one on payloads. -/
structure Frame.Fits (frame : Frame) (maxFrameBytes : Nat) : Prop where
  version : frame.version = kProtocolVersion
  whole : frame.payload.length + kFrameOverheadBytes ≤ maxFrameBytes
  payload : frame.payload.length ≤ kMaxFramePayloadBytes

/--
What is sent when this is the response: a response that is too long for a frame
is replaced.
-/
def Frame.within (response : Frame) (maxFrameBytes : Nat) (request : Frame) :
    Frame :=
  if response.payload.length + kFrameOverheadBytes ≤ maxFrameBytes then
    response
  else request.reply .protocolBackpressure []

section Fits

variable {frame request response : Frame} {bound maxFrameBytes : Nat}

theorem Frame.Fits.mono (h : frame.Fits bound) (hle : bound ≤ maxFrameBytes) :
    frame.Fits maxFrameBytes :=
  ⟨h.version, h.whole.trans hle, h.payload⟩

theorem encodeFrame_of_fits (h : frame.Fits bound) :
    encodeFrame frame bound = some frame.bytes :=
  encodeFrame_eq_some_iff.mpr ⟨⟨h.whole, h.payload⟩, rfl⟩

theorem nextFrame_of_fits (h : frame.Fits maxFrameBytes) (more : Bytes) :
    nextFrame maxFrameBytes (frame.bytes ++ more) =
      some (.frame frame, more) :=
  nextFrame_encode h.version (encodeFrame_of_fits h) h.whole more

theorem fits_reply {status : ReasonCode}
    (hroom : kFrameOverheadBytes ≤ maxFrameBytes) :
    (request.reply status []).Fits maxFrameBytes := by
  refine ⟨rfl, ?_, Nat.zero_le _⟩
  change 0 + kFrameOverheadBytes ≤ maxFrameBytes
  omega

theorem fits_within (hversion : response.version = kProtocolVersion)
    (hpayload : response.payload.length ≤ kMaxFramePayloadBytes)
    (hroom : kFrameOverheadBytes ≤ maxFrameBytes) :
    (response.within maxFrameBytes request).Fits maxFrameBytes := by
  unfold Frame.within
  by_cases hfits : response.payload.length + kFrameOverheadBytes ≤
    maxFrameBytes
  · rw [if_pos hfits]
    exact ⟨hversion, hfits, hpayload⟩
  · rw [if_neg hfits]
    exact fits_reply hroom

theorem encodeResponse_eq (hversion : response.version = kProtocolVersion)
    (hpayload : response.payload.length ≤ kMaxFramePayloadBytes)
    (hroom : kFrameOverheadBytes ≤ maxFrameBytes) :
    Service.encodeResponse maxFrameBytes request response =
      some (response.within maxFrameBytes request).bytes := by
  unfold Service.encodeResponse Frame.within
  by_cases hfits : response.payload.length + kFrameOverheadBytes ≤
    maxFrameBytes
  · rw [if_pos hfits, encodeFrame_of_fits ⟨hversion, hfits, hpayload⟩]
    rfl
  · have hnone : encodeFrame response maxFrameBytes = none := by
      cases hbytes : encodeFrame response maxFrameBytes with
      | none => rfl
      | some bytes => exact absurd (encodeFrame_eq_some_iff.mp hbytes).1.1 hfits
    rw [if_neg hfits, hnone]
    exact encodeFrame_of_fits (fits_reply hroom)

end Fits

/-! ## Responses -/

section Responses

variable {request : Frame} {call : ServiceCall} {status : ReasonCode}
  {value : Bytes}

/-- A response has the operation and the correlation of its request. -/
structure Frame.Replies (response request : Frame) : Prop where
  version : response.version = kProtocolVersion
  operation : response.operation = request.operation
  correlation : response.correlation = request.correlation
  payload : response.payload.length ≤ kMaxFramePayloadBytes

theorem replies_reply (hvalue : value.length ≤ kMaxFramePayloadBytes) :
    (request.reply status value).Replies request :=
  ⟨rfl, rfl, rfl, hvalue⟩

theorem replies_respond :
    (request.respond call status value).Replies request := by
  unfold Frame.respond
  by_cases hlong : kMaxFramePayloadBytes < value.length
  · rw [if_pos hlong]
    exact replies_reply (Nat.zero_le _)
  · rw [if_neg hlong]
    split
    · exact replies_reply (Nat.zero_le _)
    · exact replies_reply (Nat.le_of_not_lt hlong)

theorem Frame.Replies.within {response : Frame} {maxFrameBytes : Nat}
    (h : response.Replies request) :
    (response.within maxFrameBytes request).Replies request := by
  unfold Frame.within
  split
  · exact h
  · exact replies_reply (Nat.zero_le _)

/-- Only the outcome of an export can be empty in place of a value. -/
theorem respond_of_fits (hcall : call.operation ≠ .exportState)
    (hvalue : value.length ≤ kMaxFramePayloadBytes) :
    request.respond call status value = request.reply status value := by
  unfold Frame.respond
  rw [if_neg (Nat.not_lt.mpr hvalue), if_neg fun h => hcall h.1]

theorem respond_of_long (hcall : call.operation ≠ .exportState)
    (hvalue : kMaxFramePayloadBytes < value.length) :
    request.respond call status value =
      request.reply .protocolBackpressure [] := by
  unfold Frame.respond
  rw [if_pos hvalue, if_neg hcall]

end Responses

/-! ## The engine behind a frame -/

/-- The frame has the operation of the call and the payload encoded for it. -/
structure Frame.Encodes (request : Frame) (call : ServiceCall) : Prop where
  operation : request.operation = call.operation
  payload : request.payload = call.payload

section Encodes

variable {s : Impl} {answer : Status} {frame : Frame} {call : ServiceCall}

theorem dispatch_of_encodes (h : frame.Encodes call) (hvalid : call.Valid) :
    dispatch s frame answer =
      ((call.op answer).elim s s.step,
        frame.respond call (s.perform answer call).1
          (s.perform answer call).2) := by
  rw [dispatch_eq, call?_of_payload hvalid h.operation h.payload]
  rfl

/-- A call without a value is answered with its status. -/
theorem dispatch_of_status (h : frame.Encodes call) (hvalid : call.Valid)
    (hcall : call.operation ≠ .exportState)
    (hvalue : (s.perform answer call).2 = []) :
    dispatch s frame answer =
      ((call.op answer).elim s s.step,
        frame.reply (s.perform answer call).1 []) := by
  rw [dispatch_of_encodes h hvalid, hvalue,
    respond_of_fits hcall (Nat.zero_le _)]

end Encodes

/-- The response has the status and the value, or says that these do not fit. -/
def Frame.Delivers {α : Type} (response request : Frame) (status : ReasonCode)
    (value : α) (encoded : Bytes) (decode : CanonicalReader α) : Prop :=
  if encoded.length ≤ kMaxFramePayloadBytes then
    response = request.reply status encoded ∧
      decodePayload decode response.payload = some value
  else response = request.reply .protocolBackpressure []

theorem delivers_respond {α : Type} {valid : α → Prop} {encode : α → Bytes}
    {decode : CanonicalReader α}
    (hdecode : ∀ bytes v rest, decode.run bytes = .ok (v, rest) ↔
      valid v ∧ bytes = encode v ++ rest) {request : Frame}
    {call : ServiceCall} (hcall : call.operation ≠ .exportState)
    {status : ReasonCode} {value : α} (hvalid : valid value) :
    (request.respond call status (encode value)).Delivers request status value
      (encode value) decode := by
  unfold Frame.Delivers
  by_cases hfits : (encode value).length ≤ kMaxFramePayloadBytes
  · rw [if_pos hfits, respond_of_fits hcall hfits]
    exact ⟨rfl, decodePayload_encode hdecode hvalid⟩
  · rw [if_neg hfits, respond_of_long hcall (Nat.lt_of_not_le hfits)]

/-- A call with a value delivers that value. -/
theorem dispatch_of_value {α : Type} {valid : α → Prop} {encode : α → Bytes}
    {decode : CanonicalReader α}
    (hdecode : ∀ bytes v rest, decode.run bytes = .ok (v, rest) ↔
      valid v ∧ bytes = encode v ++ rest) {s : Impl} {answer : Status}
    {frame : Frame} (call : ServiceCall) (h : frame.Encodes call)
    (hcalled : call.Valid) (hcall : call.operation ≠ .exportState)
    {status : ReasonCode} {value : α} (hvalid : valid value)
    (hperform : s.perform answer call = (status, encode value)) :
    (dispatch s frame answer).1 = (call.op answer).elim s s.step ∧
      (dispatch s frame answer).2.Delivers frame status value (encode value)
        decode := by
  rw [dispatch_of_encodes h hcalled, hperform]
  exact ⟨rfl, delivers_respond hdecode hcall hvalid⟩

/-- A placement that asks for more alternatives than a reader admits. -/
def wideRequest : PlacementRequest :=
  { Impl.sampleRequest 1 1 [1] with maxAlternatives := 17 }

/-- The engine places the flow, and the service refuses the frame. -/
theorem wide_request_is_refused_by_service :
    let s := engine.run (Impl.init {} []) Impl.twinSetup
    let frame : Frame := { operation := .place, payload := wideRequest.encode }
    frame.payload.length ≤ kMaxFramePayloadBytes ∧
      (s.placeLocked wideRequest Impl.committed).2.status =
        .acceptedSchedulePublished ∧
      (s.placeLocked wideRequest Impl.committed).1.assignments.size = 1 ∧
      (dispatch s frame Impl.committed).2.status = .protocolMalformedFrame ∧
      (dispatch s frame Impl.committed).1.assignments.size = 0 := by
  decide +kernel

/--
A frame with a payload that its reader admits is the call at the engine: the
same next state and the same status; and the placement or the rebalance that
comes back is read as the one that the engine made, unless it is too long for a
frame.
-/
theorem transport_follows_library (s : Impl) (answer : Status)
    (frame : Frame) :
    (∀ target, frame.Encodes (.declareTarget target) →
      definedCapabilities target.capabilities = true →
      dispatch s frame answer = ((s.declareTarget target answer).1,
        frame.reply (s.declareTarget target answer).2.code [])) ∧
    (∀ flow, frame.Encodes (.registerFlow flow) →
      definedCapabilities flow.requiredCapabilities = true →
      dispatch s frame answer = ((s.registerFlow flow answer).1,
        frame.reply (s.registerFlow flow answer).2.code [])) ∧
    (∀ evidence instant, frame.Encodes (.ingestLoad evidence instant) →
      dispatch s frame answer = ((s.ingestLoad evidence).1,
        frame.reply (s.ingestLoad evidence).2.code [])) ∧
    (∀ policy, frame.Encodes (.setPolicy policy) → policy.CodecValid →
      dispatch s frame answer = ((s.setPolicy policy answer).1,
        frame.reply (s.setPolicy policy answer).2.code [])) ∧
    (∀ contract, frame.Encodes (.registerContract contract) →
      dispatch s frame answer =
        ((s.registerMigrationContract contract answer).1, frame.reply
          (s.registerMigrationContract contract answer).2.code [])) ∧
    (∀ request, frame.Encodes (.place request) →
      request.items.length ≤ kMaxFlows →
      request.maxAlternatives ≤ kMaxAlternatives →
      let result := (s.placeLocked request answer).2
      (dispatch s frame answer).1 = (s.placeLocked request answer).1 ∧
        (dispatch s frame answer).2.Delivers frame result.status result
          result.encode PlacementResult.decode) ∧
    ∀ request, frame.Encodes (.rebalance request) →
      request.maxMigrations.toNat ≤ kMaxRebalanceMigrations →
      s.config.maxRebalanceMigrations ≤ kMaxRebalanceMigrations →
      let report := (s.rebalanceLocked request answer).2
      (dispatch s frame answer).1 = (s.rebalanceLocked request answer).1 ∧
        (dispatch s frame answer).2.Delivers frame report.status report
          report.encode RebalanceReport.decode := by
  refine ⟨fun target h hvalid => ?_, fun flow h hvalid => ?_,
    fun evidence instant h => ?_, fun policy h hvalid => ?_,
    fun contract h => ?_, fun request h hitems halternatives => ?_,
    fun request h hmigrations hlimit => ?_⟩
  · exact dispatch_of_status h hvalid (fun h => by cases h) rfl
  · exact dispatch_of_status h hvalid (fun h => by cases h) rfl
  · exact dispatch_of_status h trivial (fun h => by cases h) rfl
  · exact dispatch_of_status h hvalid (fun h => by cases h) rfl
  · exact dispatch_of_status h trivial (fun h => by cases h) rfl
  · exact dispatch_of_value (fun _ _ _ => decodePlacementResult_ok_iff)
      (.place request) h ⟨hitems, halternatives⟩ (fun h => by cases h)
      (Impl.codecValid_placeLocked s hitems answer) rfl
  · exact dispatch_of_value (fun _ _ _ => decodeRebalanceReport_ok_iff)
      (.rebalance request) h hmigrations (fun h => by cases h)
      (Impl.codecValid_rebalanceLocked s request answer hlimit) rfl

theorem sample_transport_follows_library :
    dispatch {} { operation := .declareTarget
                  payload := (Impl.sampleHost 1).encode } Impl.committed =
      ((Impl.declareTarget {} (Impl.sampleHost 1) Impl.committed).1,
        Frame.reply { operation := .declareTarget
                      payload := (Impl.sampleHost 1).encode }
          (Impl.declareTarget {} (Impl.sampleHost 1) Impl.committed).2.code
          []) :=
  (transport_follows_library {} Impl.committed _).1 (Impl.sampleHost 1)
    ⟨rfl, rfl⟩ (by decide)

/-! ## A connection of the service -/

/-- The frame carries the call within the bound of the service. -/
structure Frame.Carries (request : Frame) (call : ServiceCall)
    (maxFrameBytes : Nat) : Prop where
  fits : request.Fits maxFrameBytes
  valid : call.Valid
  operation : request.operation = call.operation
  payload : request.payload = call.payload

theorem splits_requests {maxFrameBytes : Nat} {requests : List Frame}
    (h : ∀ request ∈ requests, request.Fits maxFrameBytes) :
    (frames maxFrameBytes).Splits (requests.map .frame)
      (requests.flatMap Frame.bytes) [] := by
  induction requests with
  | nil => exact rfl
  | cons request requests ih =>
      refine ⟨requests.flatMap Frame.bytes, ?_,
        ih fun other hother => h other (List.mem_cons_of_mem _ hother)⟩
      exact nextFrame_of_fits (h request List.mem_cons_self) _

theorem frames_nil (maxFrameBytes : Nat) :
    (frames maxFrameBytes).next [] = none := by
  change nextFrame maxFrameBytes [] = none
  unfold nextFrame
  rw [if_pos (by decide)]

/-- Frames that were all served are the exchanges of the connection. -/
theorem served_of_received {history : List Exchange} {requests : List Frame}
    (h : history.map Exchange.received = requests.map .frame) :
    history = (history.filterMap Exchange.served?).map
        (fun exchange => .served exchange.1 exchange.2) ∧
      (history.filterMap Exchange.served?).map Prod.fst = requests := by
  induction history generalizing requests with
  | nil =>
      cases requests with
      | nil => exact ⟨rfl, rfl⟩
      | cons request requests => cases h
  | cons exchange history ih =>
      cases requests with
      | nil => cases h
      | cons request requests =>
          rw [List.map_cons, List.map_cons, List.cons.injEq] at h
          obtain ⟨hfirst, hrest⟩ := h
          obtain ⟨hhistory, hrequests⟩ := ih hrest
          cases exchange with
          | oversized operation correlation => cases hfirst
          | broken status => cases hfirst
          | served served response =>
              cases hfirst
              refine ⟨?_, ?_⟩
              · change _ :: history = _ :: _
                exact congrArg _ hhistory
              · change request :: _ = request :: _
                rw [hrequests]

/-- An entry of a consistent history is right after those before it. -/
theorem answers_of_consistent {first : Impl} {log before after : List Entry}
    {entry : Entry} (h : Consistent first log)
    (hlog : log = before ++ entry :: after) :
    entry.Answers (replay first before) := by
  rw [hlog, consistent_append] at h
  exact h.2.1

/-- The replies that a connection is sent. -/
def repliesOf (maxFrameBytes id : Nat) (log : List Entry) : List Frame :=
  (exchangesOf id log).map fun exchange =>
    exchange.2.within maxFrameBytes exchange.1

theorem mem_exchangesOf {id : Nat} {log : List Entry} {request response : Frame}
    (h : (request, response) ∈ exchangesOf id log) :
    ∃ before answer after,
      log = before ++ .served id request answer response :: after := by
  obtain ⟨entry, hentry, hsome⟩ := List.mem_filterMap.mp h
  obtain ⟨before, after, hlog⟩ := List.append_of_mem hentry
  cases entry with
  | called op => cases hsome
  | served connection served answer result =>
      dsimp only at hsome
      by_cases hsame : connection = id
      · rw [if_pos hsame] at hsome
        cases hsome
        exact ⟨before, answer, after, hsame ▸ hlog⟩
      · rw [if_neg hsame] at hsome
        cases hsome

/--
What the connection was served are calls, each with its outcome where it stands
in the history of the engine.
-/
def Responded (first : Impl) (maxFrameBytes id : Nat) (log : List Entry) :
    Prop :=
  ∀ before request answer response after,
    log = before ++ .served id request answer response :: after →
    ∃ call, request.Carries call maxFrameBytes ∧
      response = request.respond call
        ((replay first before).perform answer call).1
        ((replay first before).perform answer call).2

section Responded

variable {first : Impl} {maxFrameBytes id : Nat} {log : List Entry}

theorem responded_of_consistent (h : Consistent first log)
    (hcarries : ∀ request ∈ (exchangesOf id log).map Prod.fst,
      ∃ call, request.Carries call maxFrameBytes) :
    Responded first maxFrameBytes id log := by
  intro before request answer response after hlog
  have hmem : request ∈ (exchangesOf id log).map Prod.fst := by
    rw [hlog, exchangesOf_append]
    refine List.mem_map.mpr ⟨(request, response), ?_, rfl⟩
    refine List.mem_append_right _ (List.mem_filterMap.mpr ⟨_,
      List.mem_cons_self, ?_⟩)
    exact if_pos rfl
  obtain ⟨call, hcall⟩ := hcarries request hmem
  have hanswers := answers_of_consistent h hlog
  change response = request.call?.elim _ _ at hanswers
  rw [call?_of_payload hcall.valid hcall.operation hcall.payload] at hanswers
  exact ⟨call, hcall, hanswers⟩

theorem Responded.replies (h : Responded first maxFrameBytes id log)
    {exchange : Frame × Frame} (hmem : exchange ∈ exchangesOf id log) :
    exchange.2.Replies exchange.1 ∧ kFrameOverheadBytes ≤ maxFrameBytes := by
  obtain ⟨request, response⟩ := exchange
  obtain ⟨before, answer, after, hlog⟩ := mem_exchangesOf hmem
  obtain ⟨call, hcarries, hresponse⟩ :=
    h before request answer response after hlog
  have hwhole := hcarries.fits.whole
  refine ⟨?_, by omega⟩
  rw [hresponse]
  exact replies_respond

/-- The responses are sent as the replies. -/
theorem Responded.encoded (h : Responded first maxFrameBytes id log) :
    ((exchangesOf id log).flatMap fun exchange =>
        (Service.encodeResponse maxFrameBytes exchange.1 exchange.2).getD []) =
      (repliesOf maxFrameBytes id log).flatMap Frame.bytes := by
  rw [repliesOf, List.flatMap_map]
  refine List.flatMap_congr fun exchange hmem => ?_
  obtain ⟨hresponse, hroom⟩ := h.replies hmem
  rw [encodeResponse_eq hresponse.version hresponse.payload hroom]
  rfl

/-- A peer that admits frames as long reads the replies one by one. -/
theorem Responded.splits (h : Responded first maxFrameBytes id log)
    {bound : Nat} (hbound : maxFrameBytes ≤ bound) :
    (frames bound).Splits ((repliesOf maxFrameBytes id log).map .frame)
      ((repliesOf maxFrameBytes id log).flatMap Frame.bytes) [] := by
  refine splits_requests fun reply hmem => ?_
  obtain ⟨exchange, hexchange, rfl⟩ := List.mem_map.mp hmem
  obtain ⟨hresponse, hroom⟩ := h.replies hexchange
  exact (fits_within hresponse.version hresponse.payload hroom).mono hbound

theorem Responded.correlation (h : Responded first maxFrameBytes id log) :
    (repliesOf maxFrameBytes id log).map Frame.correlation =
      ((exchangesOf id log).map Prod.fst).map Frame.correlation := by
  rw [repliesOf, List.map_map, List.map_map]
  refine List.map_congr_left fun exchange hmem => ?_
  exact (h.replies hmem).1.within.correlation

end Responded

/--
A connection at rest whose peer sent frames that carry calls: the engine has
served exactly these, in this order; the peer has been sent one reply for each,
in the same order and with its correlation; and each response is the outcome of
its call where it stands in the history of the engine.
-/
theorem clients_are_answered (first : Impl) (config : ServiceConfig)
    (events : List Service.Event)
    (hrun : ServiceRun (.start first config) events) (id : Nat)
    (c : Connection)
    (hc : (service.run (.start first config) events).connections[id]? =
      some c)
    (requests : List Frame)
    (hrequests : ∀ request ∈ requests,
      ∃ call, request.Carries call config.maxFrameBytes)
    (hsent : c.arrived = requests.flatMap Frame.bytes)
    (hread : c.unread = [])
    (hrest : c.stage.pending = [] ∧ c.stage.unsent = [] ∧ c.broken = false)
    (maxFrameBytes : Nat) (hbound : config.maxFrameBytes ≤ maxFrameBytes) :
    let log := (service.run (.start first config) events).log
    let replies := repliesOf config.maxFrameBytes id log
    (exchangesOf id log).map Prod.fst = requests ∧
      (frames maxFrameBytes).Splits (replies.map .frame) c.written [] ∧
      replies.map Frame.correlation = requests.map Frame.correlation ∧
      ∀ before request answer response after,
        log = before ++ .served id request answer response :: after →
        ∃ call, request.Carries call config.maxFrameBytes ∧
          response = request.respond call
            ((replay first before).perform answer call).1
            ((replay first before).perform answer call).2 := by
  have hconfig := config_run (.start first config) events
  have hconsistent := (linear_run first config hrun).consistent
  obtain ⟨history, hanswered, hserved⟩ :=
    (inOrder_run first config hrun).keeps id c hc
  rw [hconfig] at hanswered
  generalize (service.run (.start first config) events).log = log at *
  change c.Answered config.maxFrameBytes history at hanswered
  obtain ⟨hpending, hunsent, hbroken⟩ := hrest
  have hreads := hanswered.reads
  rw [hpending, List.append_nil, hsent, hread] at hreads
  have hfits : ∀ request ∈ requests, request.Fits config.maxFrameBytes := by
    intro request hmem
    obtain ⟨call, hcarries⟩ := hrequests request hmem
    exact hcarries.fits
  obtain ⟨hhistory, hfirst⟩ := served_of_received
    (hreads.total (frames_nil _) (splits_requests hfits))
  rw [hserved] at hhistory hfirst
  have hresponded : Responded first config.maxFrameBytes id log := by
    refine responded_of_consistent hconsistent ?_
    rw [hfirst]
    exact hrequests
  have hwritten : c.written =
      (repliesOf config.maxFrameBytes id log).flatMap Frame.bytes := by
    have hwrites := hanswered.writes hbroken
    rw [hunsent, List.append_nil, hhistory, List.flatMap_map] at hwrites
    exact hwrites.trans hresponded.encoded
  refine ⟨hfirst, ?_, ?_, hresponded⟩
  · rw [hwritten]
    exact hresponded.splits hbound
  · rw [← hfirst]
    exact hresponded.correlation

theorem sample_clients_are_answered :
    (exchangesOf 0 (service.run (.start {} {}) sampleServiceRun).log).map
        Prod.fst = [sampleShutdownFrame] := by
  have hrun : ServiceRun (.start {} {}) sampleServiceRun := by decide +kernel
  have hconnection : ((service.run (.start {} {})
      sampleServiceRun).connections[0]?.map fun c =>
        (c.arrived, c.unread, c.stage.pending, c.stage.unsent, c.broken)) =
      some ([sampleShutdownFrame].flatMap Frame.bytes, [], [], [], false) := by
    decide +kernel
  obtain ⟨c, hc, hfields⟩ := Option.map_eq_some_iff.mp hconnection
  simp only [Prod.mk.injEq] at hfields
  obtain ⟨hsent, hread, hrest⟩ := hfields
  have hcarries : sampleShutdownFrame.Carries .shutdown kMaxFrameBytes :=
    ⟨⟨rfl, by decide, by decide⟩, trivial, rfl, rfl⟩
  exact (clients_are_answered {} {} sampleServiceRun hrun 0 c hc
    [sampleShutdownFrame] (fun request hmem => ⟨.shutdown, by
      rw [List.mem_singleton.mp hmem]
      exact hcarries⟩) hsent hread hrest kMaxFrameBytes (Nat.le_refl _)).1

/-! ## A call of the client -/

/-- The service behind a connection at rest, as the peer of a call. -/
def Impl.answering (s : Impl) (maxFrameBytes : Nat) (answer : Status) : Peer :=
  fun stream =>
    match nextFrame maxFrameBytes stream with
    | some (.frame request, _) =>
        .ok ((Service.encodeResponse maxFrameBytes request
          (dispatch s request answer).2).getD [])
    | _ => .ok []

namespace Client

/-- The frame in which the client sends a call. -/
def request (c : Client) (call : ServiceCall) : Frame :=
  { operation := call.operation
    correlation := c.nextCorrelation
    payload := call.payload }

/-- The client can send the call, and the service reads it. -/
structure Sends (c : Client) (call : ServiceCall) (maxFrameBytes : Nat) :
    Prop where
  connected : c.connected = true
  unread : c.unread = []
  carries : (c.request call).Carries call maxFrameBytes
  bound : maxFrameBytes ≤ c.maxFrameBytes

/-- What a client is told of a value that comes with a status. -/
def told {α : Type} (maxFrameBytes : Nat) (status : ReasonCode) (value : α)
    (encoded : Bytes) : ReasonCode × Option α :=
  if encoded.length + kFrameOverheadBytes ≤ maxFrameBytes ∧
      encoded.length ≤ kMaxFramePayloadBytes then
    (status, if status.isAcceptance then some value else none)
  else (.protocolBackpressure, none)

variable {c : Client} {s : Impl} {call : ServiceCall} {maxFrameBytes : Nat}
  {answer : Status}

theorem receive_of_fits {request reply : Frame}
    (hreply : reply.Fits c.maxFrameBytes)
    (hcorrelation : reply.correlation = request.correlation) :
    c.receive request reply.bytes = ({ c with unread := [] }, .ok reply) := by
  have hnext := nextFrame_of_fits hreply []
  rw [List.append_nil] at hnext
  unfold receive
  rw [hnext]
  dsimp only
  rw [if_neg fun hne => hne hcorrelation]

/-- A call returns the response of the engine, as far as it fits. -/
theorem call_answering (h : c.Sends call maxFrameBytes) :
    c.call call.operation call.payload (s.answering maxFrameBytes answer) =
      ({ c with nextCorrelation := c.nextCorrelation + 1, unread := [] },
        .ok (((c.request call).respond call (s.perform answer call).1
          (s.perform answer call).2).within maxFrameBytes
            (c.request call))) := by
  have hfits := h.carries.fits
  have hroom : kFrameOverheadBytes ≤ maxFrameBytes := by
    have hwhole := hfits.whole
    omega
  have hdispatch : dispatch s (c.request call) answer = _ :=
    dispatch_of_encodes ⟨h.carries.operation, h.carries.payload⟩ h.carries.valid
  have hreplies : ((c.request call).respond call (s.perform answer call).1
      (s.perform answer call).2).Replies (c.request call) := replies_respond
  have hpeer : s.answering maxFrameBytes answer (c.request call).bytes =
      .ok (((c.request call).respond call (s.perform answer call).1
        (s.perform answer call).2).within maxFrameBytes
          (c.request call)).bytes := by
    have hnext := nextFrame_of_fits hfits []
    rw [List.append_nil] at hnext
    unfold Impl.answering
    rw [hnext]
    dsimp only
    rw [hdispatch, encodeResponse_eq hreplies.version hreplies.payload hroom]
    rfl
  have hencode := encodeFrame_of_fits (hfits.mono h.bound)
  have hwithin : (Frame.within _ maxFrameBytes (c.request call)).Fits
      maxFrameBytes := fits_within hreplies.version hreplies.payload hroom
  have hreply := hwithin.mono h.bound
  have hreceive := receive_of_fits (c := { c with
    nextCorrelation := c.nextCorrelation + 1 }) hreply
    hreplies.within.correlation
  unfold Client.request at hencode hpeer hreceive ⊢
  unfold Client.call
  dsimp only at hreceive ⊢
  rw [h.connected, if_neg (by decide), hencode]
  dsimp only
  rw [hpeer]
  dsimp only
  rw [h.connected, h.unread] at hreceive
  rw [h.unread, List.nil_append]
  exact hreceive

theorem within_respond {request : Frame} {status : ReasonCode} {value : Bytes}
    (hcall : call.operation ≠ .exportState) :
    (request.respond call status value).within maxFrameBytes request =
      if value.length + kFrameOverheadBytes ≤ maxFrameBytes ∧
          value.length ≤ kMaxFramePayloadBytes then
        request.reply status value
      else request.reply .protocolBackpressure [] := by
  by_cases hpayload : value.length ≤ kMaxFramePayloadBytes
  · rw [respond_of_fits hcall hpayload, Frame.within]
    exact if_congr (and_iff_left hpayload).symm rfl rfl
  · rw [respond_of_long hcall (Nat.lt_of_not_le hpayload),
      if_neg fun h => hpayload h.2, Frame.within]
    split <;> rfl

/-- A value that its reader admits is read back as it was. -/
theorem callValue_answering (call : ServiceCall) {α : Type} {valid : α → Prop}
    {encode : α → Bytes} {decode : CanonicalReader α}
    (hdecode : ∀ bytes v rest, decode.run bytes = .ok (v, rest) ↔
      valid v ∧ bytes = encode v ++ rest)
    (h : c.Sends call maxFrameBytes) (hcall : call.operation ≠ .exportState)
    {value : α} (hvalue : (s.perform answer call).2 = encode value)
    (hvalid : valid value) :
    (c.callValue call.operation call.payload (decodePayload decode)
        (s.answering maxFrameBytes answer)).2 =
      told maxFrameBytes (s.perform answer call).1 value (encode value) := by
  have hcalled : c.call call.operation call.payload
      (s.answering maxFrameBytes answer) = _ := call_answering h
  have hpayload : call.payload.length ≤ kMaxFramePayloadBytes :=
    h.carries.fits.payload
  rw [within_respond hcall, hvalue] at hcalled
  unfold callValue encodePayload told
  rw [if_pos hpayload]
  dsimp only
  rw [hcalled]
  dsimp only
  by_cases hfits : (encode value).length + kFrameOverheadBytes ≤
      maxFrameBytes ∧ (encode value).length ≤ kMaxFramePayloadBytes
  · rw [if_pos hfits, if_pos hfits]
    simp only [Frame.reply, decodePayload_encode hdecode hvalid]
    cases (s.perform answer call).1.isAcceptance <;> rfl
  · rw [if_neg hfits, if_neg hfits]
    rfl

theorem callStatus_answering (h : c.Sends call maxFrameBytes)
    (hcall : call.operation ≠ .exportState)
    (hvalue : (s.perform answer call).2 = []) :
    (c.callStatus call.operation call.payload
        (s.answering maxFrameBytes answer)).2 = (s.perform answer call).1 := by
  have hcalled : c.call call.operation call.payload
      (s.answering maxFrameBytes answer) = _ := call_answering h
  have hpayload : call.payload.length ≤ kMaxFramePayloadBytes :=
    h.carries.fits.payload
  have hroom : ([] : Bytes).length + kFrameOverheadBytes ≤ maxFrameBytes := by
    have hwhole := h.carries.fits.whole
    rw [List.length_nil]
    omega
  rw [within_respond hcall, hvalue,
    if_pos ⟨hroom, Nat.zero_le _⟩] at hcalled
  unfold callStatus encodePayload
  rw [if_pos hpayload]
  dsimp only
  rw [hcalled]
  rfl

/-- An explanation is read whatever its status is; without it there is none. -/
theorem explain_answering {flow : FlowId}
    (h : c.Sends (.explain flow) maxFrameBytes) :
    (c.explain flow (s.answering maxFrameBytes answer)).2 =
      if (s.explainFlow flow {}).2.encode.length + kFrameOverheadBytes ≤
            maxFrameBytes ∧
          (s.explainFlow flow {}).2.encode.length ≤ kMaxFramePayloadBytes then
        ((s.explainFlow flow {}).1.code, some (s.explainFlow flow {}).2)
      else (.protocolMalformedFrame, none) := by
  have hcalled : c.call .explain (writeId flow)
      (s.answering maxFrameBytes answer) = (_, .ok
        (if (s.explainFlow flow {}).2.encode.length + kFrameOverheadBytes ≤
              maxFrameBytes ∧ (s.explainFlow flow {}).2.encode.length ≤
                kMaxFramePayloadBytes then
          (c.request (.explain flow)).reply (s.explainFlow flow {}).1.code
            (s.explainFlow flow {}).2.encode
        else (c.request (.explain flow)).reply .protocolBackpressure [])) :=
    (call_answering h).trans (congrArg (fun reply => (_, Except.ok reply))
      (within_respond fun h => by cases h))
  have hpayload : (writeId flow).length ≤ kMaxFramePayloadBytes :=
    h.carries.fits.payload
  have hvalid := Impl.codecValid_explainFlow s flow
    (show Explanation.CodecValid {} from ⟨stepsValid_nil, stepsValid_nil⟩)
  generalize s.explainFlow flow {} = explained at hcalled hvalid ⊢
  unfold explain encodePayload
  rw [if_pos hpayload]
  dsimp only
  rw [hcalled]
  by_cases hfits : explained.2.encode.length + kFrameOverheadBytes ≤
      maxFrameBytes ∧ explained.2.encode.length ≤ kMaxFramePayloadBytes
  · rw [if_pos hfits, if_pos hfits]
    simp only [Except.toOption, Option.elim, Frame.reply, statusOf,
      decodePayload_encode (fun _ _ _ => decodeExplanation_ok_iff) hvalid]
  · rw [if_neg hfits, if_neg hfits]
    rfl

end Client

end FlowOffload
