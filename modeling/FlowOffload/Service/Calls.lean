import FlowOffload.Service.Dispatch

/-!
# Calls

What a client asks for, independent of how it is carried: a call has a form on
the wire and a meaning at the engine.  The service does for a frame what the
engine does for the call that the frame carries.
-/

namespace FlowOffload

open Foundation

inductive ServiceCall where
  | hello (greeting : HelloRequest)
  | declareTarget (target : TargetDescriptor)
  | registerFlow (flow : FlowDescriptor)
  | ingestLoad (evidence : LoadEvidence) (instant : Timestamp)
  | setPolicy (policy : Policy)
  | registerContract (contract : MigrationContract)
  | place (request : PlacementRequest)
  | rebalance (request : RebalanceRequest)
  | explain (flow : FlowId)
  | exportState (format : ExportFormat)
  | shutdown
  deriving DecidableEq, Repr

namespace ServiceCall

def operation : ServiceCall → Operation
  | .hello _ => .hello
  | .declareTarget _ => .declareTarget
  | .registerFlow _ => .registerFlow
  | .ingestLoad _ _ => .ingestLoad
  | .setPolicy _ => .setPolicy
  | .registerContract _ => .registerContract
  | .place _ => .place
  | .rebalance _ => .rebalance
  | .explain _ => .explain
  | .exportState _ => .exportState
  | .shutdown => .shutdown

/-- The bytes that the client encodes. -/
def payload : ServiceCall → Bytes
  | .hello greeting => greeting.encode
  | .declareTarget target => target.encode
  | .registerFlow flow => flow.encode
  | .ingestLoad evidence instant => encodeObservation evidence instant
  | .setPolicy policy => policy.encode
  | .registerContract contract => contract.encode
  | .place request => request.encode
  | .rebalance request => request.encode
  | .explain flow => writeId flow
  | .exportState format => encodeEnum format
  | .shutdown => []

/-- What the service checks before the engine sees the call. -/
def Valid : ServiceCall → Prop
  | .hello greeting => TextValid kMaxNameBytes greeting.clientName
  | .declareTarget target => definedCapabilities target.capabilities = true
  | .registerFlow flow => definedCapabilities flow.requiredCapabilities = true
  | .setPolicy policy => policy.CodecValid
  | .place request => request.items.length ≤ kMaxFlows ∧
      request.maxAlternatives ≤ kMaxAlternatives
  | .rebalance request =>
      request.maxMigrations.toNat ≤ kMaxRebalanceMigrations
  | _ => True

/-- The operation of the engine that a call stands for. -/
def op (answer : Status) : ServiceCall → Option Op
  | .declareTarget target => some (.declareTarget target answer)
  | .registerFlow flow => some (.registerFlow flow answer)
  | .ingestLoad evidence _ => some (.ingestLoad evidence)
  | .setPolicy policy => some (.setPolicy policy answer)
  | .registerContract contract =>
      some (.registerMigrationContract contract answer)
  | .place request => some (.place request answer)
  | .rebalance request => some (.rebalance request answer)
  | _ => none

end ServiceCall

/-- The call at the engine itself: its status and what it returns. -/
def Impl.perform (s : Impl) (answer : Status) :
    ServiceCall → ReasonCode × Bytes
  | .hello _ => (.protocolOk, s.hello.encode)
  | .declareTarget target => ((s.declareTarget target answer).2.code, [])
  | .registerFlow flow => ((s.registerFlow flow answer).2.code, [])
  | .ingestLoad evidence _ => ((s.ingestLoad evidence).2.code, [])
  | .setPolicy policy => ((s.setPolicy policy answer).2.code, [])
  | .registerContract contract =>
      ((s.registerMigrationContract contract answer).2.code, [])
  | .place request =>
      ((s.placeLocked request answer).2.status,
        (s.placeLocked request answer).2.encode)
  | .rebalance request =>
      ((s.rebalanceLocked request answer).2.status,
        (s.rebalanceLocked request answer).2.encode)
  | .explain flow =>
      ((s.explainFlow flow {}).1.code, (s.explainFlow flow {}).2.encode)
  | .exportState format => (.protocolOk, renderExport s.exportState format)
  | .shutdown => (.acceptedShutdownRequested, [])

/-- The call that a frame carries, when its payload can be read. -/
def Frame.call? (request : Frame) : Option ServiceCall :=
  match request.operation with
  | .hello =>
      (decodePayload HelloRequest.decode request.payload).map .hello
  | .declareTarget =>
      (decodePayload TargetDescriptor.decode request.payload).map
        .declareTarget
  | .registerFlow =>
      (decodePayload FlowDescriptor.decode request.payload).map .registerFlow
  | .ingestLoad =>
      (decodePayload decodeObservation request.payload).map fun observed =>
        .ingestLoad observed.1 observed.2
  | .setPolicy => (decodePayload Policy.decode request.payload).map .setPolicy
  | .registerContract =>
      (decodePayload MigrationContract.decode request.payload).map
        .registerContract
  | .place =>
      (decodePayload PlacementRequest.decode request.payload).map .place
  | .rebalance =>
      (decodePayload RebalanceRequest.decode request.payload).map .rebalance
  | .explain => (decodePayload readId request.payload).map .explain
  | .exportState =>
      (decodePayload decodeEnum request.payload).map .exportState
  | .shutdown => some .shutdown

/-- The response to a call with this status and value. -/
def Frame.respond (request : Frame) (call : ServiceCall) (status : ReasonCode)
    (value : Bytes) : Frame :=
  if kMaxFramePayloadBytes < value.length then
    request.reply
      (if call.operation = .exportState then .protocolOversizedFrame
        else .protocolBackpressure) []
  else if call.operation = .exportState ∧ value = [] then
    request.reply .protocolBackpressure []
  else request.reply status value

/-! ## Frames carry calls -/

theorem call?_of_payload {request : Frame} {call : ServiceCall}
    (hvalid : call.Valid)
    (hoperation : request.operation = call.operation)
    (hpayload : request.payload = call.payload) :
    request.call? = some call := by
  unfold Frame.call?
  rw [hoperation, hpayload]
  cases call with
  | hello greeting =>
      exact congrArg (Option.map _) (decodePayload_encode
        (fun _ _ _ => decodeHelloRequest_ok_iff) hvalid)
  | declareTarget target =>
      exact congrArg (Option.map _) (decodePayload_encode
        (fun _ _ _ => decodeTargetDescriptor_ok_iff) hvalid)
  | registerFlow flow =>
      exact congrArg (Option.map _) (decodePayload_encode
        (fun _ _ _ => decodeFlowDescriptor_ok_iff) hvalid)
  | ingestLoad evidence instant =>
      have hread := decodePayload_eq_some_iff.mpr
        (decodeObservation_ok_iff.mpr (List.append_nil
          (encodeObservation (evidence, instant).1
            (evidence, instant).2)).symm)
      exact congrArg (Option.map _) hread
  | setPolicy policy =>
      exact congrArg (Option.map _) (decodePayload_encode
        (fun _ _ _ => decodePolicy_ok_iff) hvalid)
  | registerContract contract =>
      exact congrArg (Option.map _) (decodePayload_eq_some_iff.mpr
        (decodeMigrationContract_ok_iff.mpr (List.append_nil _).symm))
  | place placement =>
      exact congrArg (Option.map _) (decodePayload_encode
        (fun _ _ _ => decodePlacementRequest_ok_iff) hvalid)
  | rebalance rebalance =>
      exact congrArg (Option.map _) (decodePayload_encode
        (fun _ _ _ => decodeRebalanceRequest_ok_iff) hvalid)
  | explain flow =>
      exact congrArg (Option.map _) (decodePayload_eq_some_iff.mpr
        (readId_ok_iff.mpr (List.append_nil _).symm))
  | exportState format =>
      exact congrArg (Option.map _) (decodePayload_eq_some_iff.mpr
        (decodeEnum_ok_iff.mpr (List.append_nil _).symm))
  | shutdown => rfl

/-- What a payload is read as, when its reader admits exactly these bytes. -/
theorem map_decodePayload_eq_some_iff {α : Type} {valid : α → Prop}
    {encode : α → Bytes} {decode : CanonicalReader α}
    (hdecode : ∀ bytes v rest, decode.run bytes = .ok (v, rest) ↔
      valid v ∧ bytes = encode v ++ rest) {f : α → ServiceCall}
    {payload : Bytes} {call : ServiceCall} :
    (decodePayload decode payload).map f = some call ↔
      ∃ v, f v = call ∧ valid v ∧ payload = encode v := by
  rw [Option.map_eq_some_iff]
  constructor
  · rintro ⟨v, hv, hcall⟩
    rw [decodePayload_eq_some_iff, hdecode, List.append_nil] at hv
    exact ⟨v, hcall, hv⟩
  · rintro ⟨v, hcall, hvalid, hpayload⟩
    refine ⟨v, ?_, hcall⟩
    rw [decodePayload_eq_some_iff, hdecode, List.append_nil]
    exact ⟨hvalid, hpayload⟩

/-- What a reader of payloads accepts is the payload of the call it makes. -/
theorem carried_of_decodePayload {α : Type} {valid : α → Prop}
    {encode : α → Bytes} {decode : CanonicalReader α}
    (hdecode : ∀ bytes v rest, decode.run bytes = .ok (v, rest) ↔
      valid v ∧ bytes = encode v ++ rest) {f : α → ServiceCall}
    {operation : Operation} {payload : Bytes} {call : ServiceCall}
    (h : (decodePayload decode payload).map f = some call)
    (hvalid : ∀ v, valid v → (f v).Valid)
    (hoperation : ∀ v, operation = (f v).operation)
    (hpayload : ∀ v, encode v = (f v).payload) :
    call.Valid ∧ operation = call.operation ∧
      (call = .shutdown ∨ payload = call.payload) := by
  obtain ⟨v, rfl, hv, rfl⟩ := (map_decodePayload_eq_some_iff hdecode).mp h
  exact ⟨hvalid v hv, hoperation v, Or.inr (hpayload v)⟩

/--
A frame carries a call exactly when it has the operation of the call and, but
for a shutdown, whose payload nobody reads, the very bytes that a client sends
for it; and these are bytes that pass the checks of the service.
-/
theorem frames_carry_calls (request : Frame) (call : ServiceCall) :
    request.call? = some call ↔
      call.Valid ∧ request.operation = call.operation ∧
        (call = .shutdown ∨ request.payload = call.payload) := by
  constructor
  · intro h
    unfold Frame.call? at h
    cases hoperation : request.operation with
    | hello =>
        rw [hoperation] at h
        exact carried_of_decodePayload
          (fun _ _ _ => decodeHelloRequest_ok_iff) h (fun _ hvalid => hvalid)
          (fun _ => rfl) (fun _ => rfl)
    | declareTarget =>
        rw [hoperation] at h
        exact carried_of_decodePayload
          (fun _ _ _ => decodeTargetDescriptor_ok_iff) h (fun _ hvalid => hvalid)
          (fun _ => rfl) (fun _ => rfl)
    | registerFlow =>
        rw [hoperation] at h
        exact carried_of_decodePayload
          (fun _ _ _ => decodeFlowDescriptor_ok_iff) h (fun _ hvalid => hvalid)
          (fun _ => rfl) (fun _ => rfl)
    | ingestLoad =>
        rw [hoperation] at h
        exact carried_of_decodePayload (fun _ _ _ =>
          decodeObservation_ok_iff.trans (and_iff_right trivial).symm) h
          (fun _ _ => trivial) (fun _ => rfl) (fun _ => rfl)
    | setPolicy =>
        rw [hoperation] at h
        exact carried_of_decodePayload
          (fun _ _ _ => decodePolicy_ok_iff) h (fun _ hvalid => hvalid)
          (fun _ => rfl) (fun _ => rfl)
    | registerContract =>
        rw [hoperation] at h
        exact carried_of_decodePayload (fun _ _ _ =>
          decodeMigrationContract_ok_iff.trans (and_iff_right trivial).symm) h
          (fun _ _ => trivial) (fun _ => rfl) (fun _ => rfl)
    | place =>
        rw [hoperation] at h
        exact carried_of_decodePayload
          (fun _ _ _ => decodePlacementRequest_ok_iff) h (fun _ hvalid => hvalid)
          (fun _ => rfl) (fun _ => rfl)
    | rebalance =>
        rw [hoperation] at h
        exact carried_of_decodePayload
          (fun _ _ _ => decodeRebalanceRequest_ok_iff) h (fun _ hvalid => hvalid)
          (fun _ => rfl) (fun _ => rfl)
    | explain =>
        rw [hoperation] at h
        exact carried_of_decodePayload (fun _ _ _ =>
          readId_ok_iff.trans (and_iff_right trivial).symm) h
          (fun _ _ => trivial) (fun _ => rfl) (fun _ => rfl)
    | exportState =>
        rw [hoperation] at h
        exact carried_of_decodePayload (fun _ _ _ =>
          decodeEnum_ok_iff.trans (and_iff_right trivial).symm) h
          (fun _ _ => trivial) (fun _ => rfl) (fun _ => rfl)
    | shutdown =>
        rw [hoperation] at h
        cases h
        exact ⟨trivial, rfl, Or.inl rfl⟩
  · rintro ⟨hvalid, hoperation, hpayload⟩
    rcases hpayload with rfl | hpayload
    · unfold Frame.call?
      rw [hoperation]
      rfl
    · exact call?_of_payload hvalid hoperation hpayload

/-! ## Frames do what calls do -/

theorem dispatchStatus_eq {α : Type} {s : Impl} {request : Frame}
    {decode : CanonicalReader α} {apply : α → Impl × Status} :
    dispatchStatus s request decode apply =
      (decodePayload decode request.payload).elim
        (s, request.reply .protocolMalformedFrame []) fun value =>
          ((apply value).1, request.reply (apply value).2.code []) := by
  unfold dispatchStatus
  cases decodePayload decode request.payload <;> rfl

theorem dispatchValue_eq {α : Type} {s : Impl} {request : Frame}
    {decode : CanonicalReader α} {apply : α → Impl × ReasonCode × Bytes} :
    dispatchValue s request decode apply =
      (decodePayload decode request.payload).elim
        (s, request.reply .protocolMalformedFrame []) fun value =>
          ((apply value).1,
            if kMaxFramePayloadBytes < (apply value).2.2.length then
              request.reply .protocolBackpressure []
            else request.reply (apply value).2.1 (apply value).2.2) := by
  unfold dispatchValue
  cases decodePayload decode request.payload with
  | none => rfl
  | some value =>
      dsimp only [Option.elim]
      unfold encodePayload
      by_cases hfits : (apply value).2.2.length ≤ kMaxFramePayloadBytes
      · rw [if_pos hfits, if_neg (Nat.not_lt.mpr hfits)]
      · rw [if_neg hfits, if_pos (Nat.lt_of_not_le hfits)]

theorem dispatchExport_eq {s : Impl} {request : Frame} :
    dispatchExport s request =
      (decodePayload (decodeEnum (E := ExportFormat)) request.payload).elim
        (s, request.reply .protocolMalformedFrame []) fun format =>
          (s, request.respond (.exportState format) .protocolOk
            (renderExport s.exportState format)) := by
  unfold dispatchExport
  cases decodePayload (decodeEnum (E := ExportFormat)) request.payload with
  | none => rfl
  | some format =>
      dsimp only [Option.elim]
      generalize renderExport s.exportState format = rendered
      unfold Frame.respond
      rw [apply_ite (Prod.mk s), apply_ite (Prod.mk s)]
      cases rendered with
      | nil => rfl
      | cons byte rendered =>
          rw [if_neg (by simp)]
          refine if_congr Iff.rfl rfl ?_
          rw [if_neg (fun h => absurd h.2 (List.cons_ne_nil _ _))]

/-- The engine takes the step of the call, and the response is its outcome. -/
theorem dispatch_eq (s : Impl) (request : Frame) (answer : Status) :
    dispatch s request answer =
      request.call?.elim (s, request.reply .protocolMalformedFrame [])
        fun call =>
          ((call.op answer).elim s s.step,
            request.respond call (s.perform answer call).1
              (s.perform answer call).2) := by
  unfold dispatch Frame.call?
  cases request.operation with
  | hello =>
      dsimp only
      rw [dispatchValue_eq]
      cases decodePayload HelloRequest.decode request.payload <;> rfl
  | declareTarget =>
      dsimp only
      rw [dispatchStatus_eq]
      cases decodePayload TargetDescriptor.decode request.payload <;> rfl
  | registerFlow =>
      dsimp only
      rw [dispatchStatus_eq]
      cases decodePayload FlowDescriptor.decode request.payload <;> rfl
  | ingestLoad =>
      dsimp only
      rw [dispatchStatus_eq]
      cases decodePayload decodeObservation request.payload <;> rfl
  | setPolicy =>
      dsimp only
      rw [dispatchStatus_eq]
      cases decodePayload Policy.decode request.payload <;> rfl
  | registerContract =>
      dsimp only
      rw [dispatchStatus_eq]
      cases decodePayload MigrationContract.decode request.payload <;> rfl
  | place =>
      dsimp only
      rw [dispatchValue_eq]
      cases decodePayload PlacementRequest.decode request.payload <;> rfl
  | rebalance =>
      dsimp only
      rw [dispatchValue_eq]
      cases decodePayload RebalanceRequest.decode request.payload <;> rfl
  | explain =>
      dsimp only
      rw [dispatchValue_eq]
      cases decodePayload readId request.payload <;> rfl
  | exportState =>
      dsimp only
      rw [dispatchExport_eq]
      cases decodePayload (decodeEnum (E := ExportFormat)) request.payload <;>
        rfl
  | shutdown => rfl

end FlowOffload
