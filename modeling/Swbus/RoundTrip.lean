import Swbus.SimpleClient
/-
# `Swbus.RoundTrip` — from one actor's `OutgoingMessage` to another's `IncomingMessage`

`outgoing_message_to_swbus_message` encodes an actor's message for the bus and
`handle_received_message` decodes a bus message for an actor.  The two were written
apart: the encoder turns the error code into an `i32` with `into()` and keeps the
response body, the decoder reads the code back with `try_from` (falling back to
`UnknownError`) and drops the body.  The round trip pins down exactly what survives.

## What is proved

For every sending client `C`, every outgoing message whose body is a request or a
response, and every receiving client `R` that is not a sink or is the message's
destination, encoding cannot panic and decoding hands `R`'s actor the message with
`C`'s fresh id, `C`'s address as source, the same destination and the same body —
except that a response's `response_body` is gone (`outgoing_roundTrip`).  The error
code survives because prost's `try_from` inverts `into()` on every declared code
(`SwbusErrorCode.tryFrom_toI32`).

## What it is NOT

A management request cannot be sent: the encoder is `unimplemented!()` there.
-/

namespace Swbus

/-- The body as it arrives: a response loses its `response_body`, nothing else
changes. -/
def MessageBody.withoutResponseBody : MessageBody → MessageBody
  | .response requestId errorCode errorMessage _ => .response requestId errorCode errorMessage none
  | b => b

variable (mgmtTypes : List (BitVec 32 × String))

theorem outgoing_decode (C R : SimpleSwbusEdgeClient) (o : OutgoingMessage)
    (hb : ∀ t args, o.body ≠ .managementRequest t args)
    (hR : R.sink = false ∨ R.source = o.destination) :
    ∃ m C', C.outgoingMessageToSwbusMessage o = .ok ((C.idGenerator.next, m), C') ∧
      m.header = some (.new C.source o.destination C.idGenerator.next) ∧
      R.handleReceivedMessage mgmtTypes m =
        .ok (.passToActor ⟨C.idGenerator.next, C.source, o.destination,
          o.body.withoutResponseBody⟩, R) := by
  have hd : R.sink = false ∨ o.destination = R.source := hR.imp id Eq.symm
  obtain ⟨dst, body⟩ := o
  cases body with
  | request payload =>
    refine ⟨_, _, rfl, rfl, ?_⟩
    rw [R.handleReceivedMessage_eq rfl rfl rfl rfl, R.handleUnwrapped_body _ hd]
    rfl
  | response requestId errorCode errorMessage responseBody =>
    refine ⟨_, _, rfl, rfl, ?_⟩
    rw [R.handleReceivedMessage_eq rfl rfl rfl rfl, R.handleUnwrapped_body _ hd]
    simp [MessageBody.withoutResponseBody]
  | managementRequest t args => exact absurd rfl (hb t args)

/-- Encoding with `C` and decoding with `R` is the identity on the envelope, up to the
dropped response body. -/
theorem outgoing_roundTrip (C R : SimpleSwbusEdgeClient) (o : OutgoingMessage)
    (hb : ∀ t args, o.body ≠ .managementRequest t args)
    (hR : R.sink = false ∨ R.source = o.destination) :
    ∃ m C', C.outgoingMessageToSwbusMessage o = .ok ((C.idGenerator.next, m), C') ∧
      R.handleReceivedMessage mgmtTypes m =
        .ok (.passToActor ⟨C.idGenerator.next, C.source, o.destination,
          o.body.withoutResponseBody⟩, R) :=
  let ⟨m, C', ho, _, hd⟩ := outgoing_decode mgmtTypes C R o hb hR
  ⟨m, C', ho, hd⟩

theorem outgoing_roundTrip_response :
    let C : SimpleSwbusEdgeClient :=
      ⟨⟨"region-a", "cluster-a", "10.0.0.2-dpu0", "dpu", "0", "hamgrd", "0"⟩, ⟨41⟩, false⟩
    let R : SimpleSwbusEdgeClient :=
      ⟨⟨"region-a", "cluster-a", "10.0.0.1-dpu0", "testsvc", "0", "ping", "0"⟩, ⟨0⟩, false⟩
    let o : OutgoingMessage :=
      ⟨R.source, .response 9 .resourceExhausted "full" (some (.managementQueryResult "x"))⟩
    (∀ t args, o.body ≠ .managementRequest t args) ∧ (R.sink = false ∨ R.source = o.destination) ∧
      ∃ m C', C.outgoingMessageToSwbusMessage o = .ok ((41, m), C') ∧
        R.handleReceivedMessage [] m =
          .ok (.passToActor ⟨41, C.source, R.source, .response 9 .resourceExhausted "full" none⟩, R) := by
  intro C R o
  have hb : ∀ t args, o.body ≠ .managementRequest t args := fun _ _ h => by cases h
  exact ⟨hb, .inl rfl, outgoing_roundTrip [] C R o hb (.inl rfl)⟩

end Swbus
