import Swbus.Relay
import Swbus.RoundTrip
/-
# `Swbus.Bus` — a client's message across remote hops, end to end

A message an actor sends leaves its client with the default TTL `63`
(`SwbusMessageHeader::new`), crosses remote next hops, each queueing a copy with the
TTL lowered by one, and is taken off by the client it is addressed to.  The pieces
are proved where they live — the encoding and decoding in `Swbus.RoundTrip`, the
hops in `Swbus.Relay` — and this module puts them together.

## What is proved

For every sending client `C`, every outgoing request or response `o`, every client
`R` that takes messages for `o.destination`, every chain of remote hops, in either
build:

    the message is queued at most 62 times, and the original and every copy,
    handed to R, give R's actor C's id, C's address, o's destination and
    o's body, less a response body                                    (`send_relay_receive`)

So the TTL-`0` failure of `relay_ttlZero_release` never starts at a client: it takes
a peer that leaves `ttl` out.

## What it is NOT

Which hop hands a copy to `R` is the multiplexer's routing (`mux.rs`, not in the
excerpt); the theorem holds wherever along the chain that happens.
-/

namespace Swbus

theorem SimpleSwbusEdgeClient.handleReceivedMessage_setTtl (mgmtTypes : List (BitVec 32 × String))
    (c : SimpleSwbusEdgeClient) (m : SwbusMessage) (t : UInt32) :
    c.handleReceivedMessage mgmtTypes (m.setTtl t) = c.handleReceivedMessage mgmtTypes m := by
  obtain ⟨_ | h, b⟩ := m <;> rfl

variable (mgmtTypes : List (BitVec 32 × String))

/-- A client's message crosses at most 62 remote hops, and wherever along the way it
is handed to the client it is addressed to, that client's actor receives what the
sender wrote. -/
theorem send_relay_receive (oc : Bool) (C R : SimpleSwbusEdgeClient) (o : OutgoingMessage)
    (hb : ∀ t args, o.body ≠ .managementRequest t args)
    (hR : R.sink = false ∨ R.source = o.destination)
    (hops : List (SwbusNextHop × Swbusd)) (hall : SwbusNextHop.AllRemote hops) :
    ∃ m C', C.outgoingMessageToSwbusMessage o = .ok ((C.idGenerator.next, m), C') ∧
      (SwbusNextHop.relay mgmtTypes oc hops m).1.length ≤ 62 ∧
      ∀ m' ∈ m :: (SwbusNextHop.relay mgmtTypes oc hops m).1,
        R.handleReceivedMessage mgmtTypes m' =
          .ok (.passToActor ⟨C.idGenerator.next, C.source, o.destination,
            o.body.withoutResponseBody⟩, R) := by
  obtain ⟨m, C', ho, hm, hd⟩ := outgoing_decode mgmtTypes C R o hb hR
  have h63 : (SwbusMessageHeader.new C.source o.destination C.idGenerator.next).ttl ≠ 0 :=
    show (63 : UInt32) ≠ 0 by decide
  refine ⟨m, C', ho, SwbusNextHop.relay_length_le hops m _ hall hm (.inr h63), ?_⟩
  intro m' hm'
  rcases List.mem_cons.mp hm' with rfl | hmem
  · exact hd
  · obtain ⟨i, hi⟩ := List.mem_iff_getElem?.mp hmem
    obtain ⟨t, rfl, -, -⟩ := SwbusNextHop.relay_copies hops m _ hall hm (.inr h63) i m' hi
    rw [SimpleSwbusEdgeClient.handleReceivedMessage_setTtl, hd]

theorem send_relay_receive_request :
    let C : SimpleSwbusEdgeClient :=
      ⟨⟨"region-a", "cluster-a", "10.0.0.2-dpu0", "", "", "hamgrd", "0"⟩, ⟨41⟩, false⟩
    let R : SimpleSwbusEdgeClient :=
      ⟨⟨"region-a", "cluster-a", "10.0.0.1-dpu0", "", "", "hamgrd", "0"⟩, ⟨0⟩, true⟩
    let o : OutgoingMessage := ⟨R.source, .request [1, 2]⟩
    let hops : List (SwbusNextHop × Swbusd) :=
      [(SwbusNextHop.newRemote ⟨0⟩ 5,
        { mux := ⟨⟨"region-a", "cluster-a", "10.0.0.2-dpu0", "", "", "", ""⟩, [], ⟨0⟩⟩,
          queues := fun _ => ⟨[], 16, false⟩ })]
    (∀ t args, o.body ≠ .managementRequest t args) ∧ (R.sink = false ∨ R.source = o.destination) ∧
      SwbusNextHop.AllRemote hops ∧
      ∃ m C', C.outgoingMessageToSwbusMessage o = .ok ((41, m), C') ∧
        (SwbusNextHop.relay [] false hops m).1.length ≤ 62 ∧
        ∀ m' ∈ m :: (SwbusNextHop.relay [] false hops m).1,
          R.handleReceivedMessage [] m' =
            .ok (.passToActor ⟨41, C.source, R.source, .request [1, 2]⟩, R) := by
  intro C R o hops
  have hb : ∀ t args, o.body ≠ .managementRequest t args := fun _ _ h => by cases h
  have hall : SwbusNextHop.AllRemote hops := fun x hx => by rw [List.mem_singleton.mp hx]; rfl
  exact ⟨hb, .inr rfl, hall, send_relay_receive [] false C R o hb (.inr rfl) hops hall⟩

end Swbus
