import Swbus.Proto
/-
# `Swbus.Mux` — the daemon state a next hop reads and writes

`SwbusNextHop::queue_message` takes `&SwbusMultiplexer` and, on a remote hop, the
connection proxy it holds; `mux.rs`, `conn.rs` and `message_id_generator.rs` are not
in the excerpt, so the parts of them the next hop touches are *modelled from the
spec*:

* `MessageIdGenerator` — "a strictly increasing counter with no gaps per process"
  (§4.E), an atomic counter (§5), so a `u64` that `generate` returns and bumps;
* `SwbusMultiplexer` — the daemon's own service path (`get_my_service_path`), the
  route-table snapshot `export_routes(None)` returns, and the id generator;
* `SendQueue` / `SwbusConnProxy` — a connection's bounded send queue, and a handle
  naming it; clones of a proxy name the same queue (§3, "Connection Proxy");
* `Swbusd` — one daemon: its multiplexer and every send queue, by proxy.

The route table's lookup, installation and teardown are not modelled: no function
of the excerpt calls them.
-/

namespace Swbus

/-! ## Message ids -/

/-- Modelled from the spec: `MessageIdGenerator`, an atomic `u64` counter. -/
structure MessageIdGenerator where
  next : UInt64
deriving DecidableEq, Repr

/-- `MessageIdGenerator::generate`: the current value, and the counter one past it
(`fetch_add` wraps). -/
def MessageIdGenerator.generate (g : MessageIdGenerator) : UInt64 × MessageIdGenerator :=
  (g.next, ⟨g.next + 1⟩)

@[simp] theorem MessageIdGenerator.generate_fst (g : MessageIdGenerator) :
    g.generate.1 = g.next := rfl

@[simp] theorem MessageIdGenerator.generate_snd (g : MessageIdGenerator) :
    g.generate.2 = ⟨g.next + 1⟩ := rfl

/-! ## The multiplexer -/

/-- Modelled from the spec: the part of `SwbusMultiplexer` a next hop reads. -/
structure SwbusMultiplexer where
  mySp : ServicePath
  routes : List RouteQueryResultEntry
  idGenerator : MessageIdGenerator
deriving DecidableEq, Repr

namespace SwbusMultiplexer

/-- `mux.get_my_service_path()`. -/
def getMyServicePath (mux : SwbusMultiplexer) : ServicePath := mux.mySp

/-- `mux.export_routes(None)`: the whole route table, unfiltered. -/
def exportRoutes (mux : SwbusMultiplexer) : List RouteQueryResultEntry := mux.routes

/-- `mux.generate_message_id()`. -/
def generateMessageId (mux : SwbusMultiplexer) : UInt64 × SwbusMultiplexer :=
  (mux.idGenerator.next, { mux with idGenerator := mux.idGenerator.generate.2 })

@[simp] theorem generateMessageId_fst (mux : SwbusMultiplexer) :
    mux.generateMessageId.1 = mux.idGenerator.next := rfl

@[simp] theorem generateMessageId_snd (mux : SwbusMultiplexer) :
    mux.generateMessageId.2 = { mux with idGenerator := ⟨mux.idGenerator.next + 1⟩ } := rfl

end SwbusMultiplexer

/-! ## Connections -/

/-- Modelled from the spec: a connection's bounded send queue.  The queue carries
`Result<SwbusMessage, Status>`; a next hop only ever queues `Ok`, so only those are
kept. -/
structure SendQueue where
  items : List SwbusMessage
  capacity : Nat
  closed : Bool
deriving DecidableEq, Repr

/-- Modelled from the spec: `SwbusConnProxy::try_queue`.  Never waits: a closed
queue refuses with `connectionClosed`, a saturated one with `queueFull`. -/
def SendQueue.tryQueue (q : SendQueue) (m : SwbusMessage) : Except SwbusError SendQueue :=
  if q.closed then .error .connectionClosed
  else if q.capacity ≤ q.items.length then .error .queueFull
  else .ok { q with items := q.items ++ [m] }

theorem SendQueue.tryQueue_ok {q q' : SendQueue} {m : SwbusMessage}
    (h : q.tryQueue m = .ok q') : q' = { q with items := q.items ++ [m] } := by
  unfold tryQueue at h
  split at h
  · cases h
  · split at h
    · cases h
    · exact (Except.ok.inj h).symm

/-- Modelled from the spec: `SwbusConnProxy`, the handle on a connection's send
queue.  Clones are equal, so they name the same queue. -/
structure SwbusConnProxy where
  queue : Nat
deriving DecidableEq, Repr

/-! ## A daemon -/

/-- One `swbusd`: its multiplexer and its connections' send queues. -/
structure Swbusd where
  mux : SwbusMultiplexer
  queues : Nat → SendQueue

/-- Queue `m` on the send queue `p` names. -/
def Swbusd.tryQueue (d : Swbusd) (p : SwbusConnProxy) (m : SwbusMessage) :
    Except SwbusError Swbusd :=
  (d.queues p.queue).tryQueue m |>.map fun q => { d with queues := Function.update d.queues p.queue q }

theorem Swbusd.tryQueue_ok {d d' : Swbusd} {p : SwbusConnProxy} {m : SwbusMessage}
    (h : d.tryQueue p m = .ok d') :
    d'.mux = d.mux ∧ (d'.queues p.queue).items = (d.queues p.queue).items ++ [m] ∧
      ∀ n, n ≠ p.queue → d'.queues n = d.queues n := by
  unfold tryQueue at h
  cases hq : (d.queues p.queue).tryQueue m with
  | error e => simp [hq, Except.map] at h
  | ok q =>
    simp only [hq, Except.map, Except.ok.injEq] at h
    subst h
    refine ⟨rfl, by simp [SendQueue.tryQueue_ok hq], fun n hn => ?_⟩
    simp [Function.update_noteq hn]

theorem Swbusd.tryQueue_ok_eq {d d' : Swbusd} {p : SwbusConnProxy} {m : SwbusMessage}
    (h : d.tryQueue p m = .ok d') :
    (d.queues p.queue).closed = false ∧
      (d.queues p.queue).items.length < (d.queues p.queue).capacity ∧
      d' = { d with queues := (Function.update d.queues p.queue
        { (d.queues p.queue) with items := (d.queues p.queue).items ++ [m] }) } := by
  simp only [tryQueue, SendQueue.tryQueue] at h
  split_ifs at h with hc hl
  · simp [Except.map] at h
  · simp [Except.map] at h
  · exact ⟨by simpa using hc, Nat.lt_of_not_le hl, (Except.ok.inj h).symm⟩

theorem Swbusd.tryQueue_of_room {d : Swbusd} {p : SwbusConnProxy} (m : SwbusMessage)
    (hc : (d.queues p.queue).closed = false)
    (hl : (d.queues p.queue).items.length < (d.queues p.queue).capacity) :
    ∃ d', d.tryQueue p m = .ok d' := by
  simp [tryQueue, SendQueue.tryQueue, hc, Nat.not_le.mpr hl, Except.map]

end Swbus
