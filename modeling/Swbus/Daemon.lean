import Swbus.NextHop
import Swbus.Runs
/-
# `Swbus.Daemon` — a daemon's next hops over a whole run

The multiplexer (`mux.rs`, not in the excerpt) routes every message to a next hop
and calls `queue_message` on it; a response the call returns is routed in turn
(§4.D).  Seen from the daemon's state, a run is therefore any sequence of
`queue_message` calls on its next hops, each on the state the previous one left,
whatever hops and messages the routing picks.

## What is proved

* `queueMessage_ok_cases` — everything one call that returns can do: answer,
  drawing exactly one id and touching no queue; drop the message or fail to queue
  it, changing nothing; or append the message, its TTL lowered by one, to the
  remote hop's own send queue, which was open and below capacity.
* `runDaemon_ids` — so the responses a daemon's next hops synthesize over a run
  carry consecutive ids from the generator's value at the start, "no gaps" (§4.E);
  by `runCalls_ids_nodup` they are distinct while the counter does not wrap.
* `runDaemon_evolved` — a run never changes the daemon's own address or its route
  table, nor any send queue's capacity or closed flag, and only ever appends to a
  send queue: nothing queued is lost or reordered.
* `runDaemon_bounded` — no send queue ever holds more than its capacity.

## What it is NOT

The connections' outbound tasks, which take messages off the send queues, and the
route table's updates are not in the excerpt: a run here is `queue_message` calls
alone.  A run ends at the first panic (`Swbus.Panics` says where those are).
-/

namespace Swbus

namespace SwbusNextHop

/-- One call of `queue_message`: a next hop of the daemon, and the message the
multiplexer routes to it. -/
structure Delivery where
  nh : SwbusNextHop
  message : SwbusMessage

/-- The response a result of `queue_message` hands back for routing, if any. -/
def answer : Except SwbusError (Option SwbusMessage) → Option SwbusMessage
  | .ok r => r
  | .error _ => none

variable (mgmtTypes : List (BitVec 32 × String)) (oc : Bool)

/-- `queue_message` as one call of a run. -/
def deliver (d : Swbusd) (x : Delivery) : Except Panic (Option SwbusMessage × Swbusd) :=
  (queueMessage mgmtTypes oc x.nh d x.message).map fun (r, d) => (answer r, d)

/-- A run of a daemon: the responses its next hops return, in order, and the daemon
after the last call. -/
def runDaemon (d : Swbusd) (xs : List Delivery) : List SwbusMessage × Swbusd :=
  runCalls (deliver mgmtTypes oc) d xs

/-! ## One call -/

section Step
variable {mgmtTypes} {oc} {nh : SwbusNextHop} {d d' : Swbusd} {m : SwbusMessage}

theorem unwrapResponse_ok {x : Except SwbusError SwbusMessage × SwbusMultiplexer}
    {r : Except SwbusError (Option SwbusMessage)} {mux' : SwbusMultiplexer}
    (h : unwrapResponse x = .ok (r, mux')) : ∃ y, r = .ok (some y) := by
  obtain ⟨e | y, mux⟩ := x
  · cases h
  · exact ⟨y, (Prod.mk.inj (Except.ok.inj h)).1.symm⟩

theorem processLocalMessage_ok {mux mux' : SwbusMultiplexer}
    {r : Except SwbusError (Option SwbusMessage)}
    (hq : processLocalMessage mgmtTypes mux m = .ok (r, mux')) :
    (∃ x, r = .ok (some x)) ∨ (r = .ok none ∧ mux' = mux) := by
  unfold processLocalMessage at hq
  split at hq
  · cases hq
  · split at hq
    · cases hq
    · split at hq
      · exact .inl ⟨_, (Prod.mk.inj (Except.ok.inj hq)).1.symm⟩
      · split at hq
        · exact .inl (unwrapResponse_ok hq)
        · exact .inl (unwrapResponse_ok hq)
        · obtain ⟨hr, hmux⟩ := Prod.mk.inj (Except.ok.inj hq)
          exact .inr ⟨hr.symm, hmux.symm⟩

/-- Everything a call of `queue_message` that returns can do to the daemon. -/
theorem queueMessage_ok_cases {r : Except SwbusError (Option SwbusMessage)}
    (hq : queueMessage mgmtTypes oc nh d m = .ok (r, d')) :
    (∃ x, r = .ok (some x) ∧ x.headerId = some d.mux.idGenerator.next ∧
      d' = { d with mux := d.mux.generateMessageId.2 }) ∨
    ((r = .ok none ∨ ∃ e, r = .error e) ∧ d' = d) ∨
    (r = .ok none ∧ nh.nhType = .remote ∧ ∃ h p, m.header = some h ∧ nh.connProxy = some p ∧
      h.ttl - 1 ≠ 0 ∧ d.tryQueue p { m with header := some { h with ttl := h.ttl - 1 } } = .ok d') := by
  cases hm : m.header with
  | none =>
    cases hn : nh.nhType
    · simp [queueMessage_local d hn, processLocalMessage_noHeader d.mux hm, Except.map] at hq
    · simp [queueMessage_remote_noHeader d hn hm] at hq
  | some h =>
    by_cases hs : ∃ x, r = .ok (some x)
    · obtain ⟨x, rfl⟩ := hs
      obtain ⟨hmux, hqs, hr⟩ := queueMessage_some hm hq
      refine .inl ⟨x, rfl, ?_, ?_⟩
      · rcases hr with ⟨-, _, _, _, rfl⟩ | ⟨-, -, rfl⟩ <;> rfl
      · obtain ⟨mux', qs'⟩ := d'
        simp only at hmux hqs
        rw [hmux, hqs]
    · right
      cases hn : nh.nhType with
      | «local» =>
        rw [queueMessage_local d hn] at hq
        cases hp : processLocalMessage mgmtTypes d.mux m with
        | error e => simp [hp, Except.map] at hq
        | ok res =>
          obtain ⟨r0, mux'⟩ := res
          simp only [hp, Except.map, Except.ok.injEq, Prod.mk.injEq] at hq
          obtain ⟨rfl, rfl⟩ := hq
          rcases processLocalMessage_ok hp with hx | ⟨hr, rfl⟩
          · exact absurd hx hs
          · exact .inl ⟨.inl hr, rfl⟩
      | remote =>
        cases ht : u32SubOne oc h.ttl with
        | error p => simp [queueMessage_remote_overflow d hn hm ht] at hq
        | ok t =>
          by_cases ht0 : t = 0
          · subst ht0
            rw [queueMessage_remote_expire d hn hm ht] at hq
            exact absurd ⟨_, (Prod.mk.inj (Except.ok.inj hq)).1.symm⟩ hs
          · obtain ⟨p, hp⟩ := Option.isSome_iff_exists.mp (nh.remote_proxy hn)
            obtain rfl := (u32SubOne_ok ht).1
            rw [queueMessage_remote_forward d hn hp hm ht ht0] at hq
            split at hq
            · obtain ⟨rfl, rfl⟩ := Prod.mk.inj (Except.ok.inj hq)
              exact .inl ⟨.inr ⟨_, rfl⟩, rfl⟩
            · obtain ⟨rfl, rfl⟩ := Prod.mk.inj (Except.ok.inj hq)
              exact .inr ⟨rfl, rfl, h, p, rfl, hp, ht0, ‹_›⟩

theorem deliver_ok {x : Delivery} {r : Option SwbusMessage}
    (h : deliver mgmtTypes oc d x = .ok (r, d')) :
    ∃ r₀, queueMessage mgmtTypes oc x.nh d x.message = .ok (r₀, d') ∧ r = answer r₀ := by
  cases hq : queueMessage mgmtTypes oc x.nh d x.message with
  | error p => simp [deliver, hq, Except.map] at h
  | ok res =>
    simp only [deliver, hq, Except.map, Except.ok.injEq, Prod.mk.injEq] at h
    exact ⟨res.1, by rw [← h.2], h.1.symm⟩

end Step

theorem deliver_drawsIds :
    DrawsIds (deliver mgmtTypes oc) fun d : Swbusd => d.mux.idGenerator.next := by
  intro d x r d' h
  obtain ⟨r₀, hq, rfl⟩ := deliver_ok h
  rcases queueMessage_ok_cases hq with ⟨y, rfl, hy, rfl⟩ | ⟨hr, rfl⟩ | ⟨rfl, -, _, p, -, -, -, ht⟩
  · exact .inr ⟨y, rfl, hy, rfl⟩
  · rcases hr with rfl | ⟨e, rfl⟩ <;> exact .inl ⟨rfl, rfl⟩
  · exact .inl ⟨rfl, congrArg (fun mux => mux.idGenerator.next) (Swbusd.tryQueue_ok ht).1⟩

/-! ## Invariants of a run -/

/-- What calls of `queue_message` can have done to a daemon that was `d₀`. -/
structure Evolved (d₀ d : Swbusd) : Prop where
  mySp : d.mux.mySp = d₀.mux.mySp
  routes : d.mux.routes = d₀.mux.routes
  capacity : ∀ n, (d.queues n).capacity = (d₀.queues n).capacity
  closed : ∀ n, (d.queues n).closed = (d₀.queues n).closed
  appended : ∀ n, (d₀.queues n).items <+: (d.queues n).items

theorem Evolved.refl (d : Swbusd) : Evolved d d :=
  ⟨rfl, rfl, fun _ => rfl, fun _ => rfl, fun _ => List.prefix_refl _⟩

theorem Evolved.trans {d₁ d₂ d₃ : Swbusd} (h₁ : Evolved d₁ d₂) (h₂ : Evolved d₂ d₃) :
    Evolved d₁ d₃ :=
  ⟨h₂.mySp.trans h₁.mySp, h₂.routes.trans h₁.routes,
    fun n => (h₂.capacity n).trans (h₁.capacity n), fun n => (h₂.closed n).trans (h₁.closed n),
    fun n => (h₁.appended n).trans (h₂.appended n)⟩

/-- No send queue holds more messages than its capacity. -/
def Bounded (d : Swbusd) : Prop :=
  ∀ n, (d.queues n).items.length ≤ (d.queues n).capacity

section Step
variable {mgmtTypes} {oc} {nh : SwbusNextHop} {d d' : Swbusd} {m : SwbusMessage}
  {r : Except SwbusError (Option SwbusMessage)}

theorem queueMessage_evolved (hq : queueMessage mgmtTypes oc nh d m = .ok (r, d')) :
    Evolved d d' := by
  rcases queueMessage_ok_cases hq with ⟨-, -, -, rfl⟩ | ⟨-, rfl⟩ | ⟨-, -, _, p, -, -, -, ht⟩
  · exact ⟨rfl, rfl, fun _ => rfl, fun _ => rfl, fun _ => List.prefix_refl _⟩
  · exact .refl _
  · obtain ⟨-, -, rfl⟩ := Swbusd.tryQueue_ok_eq ht
    refine ⟨rfl, rfl, fun n => ?_, fun n => ?_, fun n => ?_⟩ <;>
      rcases eq_or_ne n p.queue with rfl | hn <;> simp [Function.update_noteq, *]

theorem queueMessage_bounded (hq : queueMessage mgmtTypes oc nh d m = .ok (r, d'))
    (hb : Bounded d) : Bounded d' := by
  rcases queueMessage_ok_cases hq with ⟨-, -, -, rfl⟩ | ⟨-, rfl⟩ | ⟨-, -, _, p, -, -, -, ht⟩
  · exact hb
  · exact hb
  · obtain ⟨-, hl, rfl⟩ := Swbusd.tryQueue_ok_eq ht
    intro n
    rcases eq_or_ne n p.queue with rfl | hn
    · simp only [Function.update_same, List.length_append, List.length_singleton]
      omega
    · simpa [Function.update_noteq hn] using hb n

end Step

/-- The responses a daemon's next hops return over a run carry consecutive ids,
from the generator's value at the start. -/
theorem runDaemon_ids (d : Swbusd) (xs : List Delivery) :
    (runDaemon mgmtTypes oc d xs).1.map (fun m => m.headerId.map UInt64.toNat) =
      (List.range (runDaemon mgmtTypes oc d xs).1.length).map
        fun i => some ((d.mux.idGenerator.next.toNat + i) % UInt64.size) :=
  runCalls_ids (deliver_drawsIds mgmtTypes oc) d xs

/-- Over a run, the daemon's address, route table and queue settings stay as they
were, and its send queues are only appended to. -/
theorem runDaemon_evolved (d : Swbusd) (xs : List Delivery) :
    Evolved d (runDaemon mgmtTypes oc d xs).2 :=
  runCalls_rel Evolved Evolved.refl (fun _ _ _ => Evolved.trans)
    (fun _ _ _ _ h => let ⟨_, hq, _⟩ := deliver_ok h; queueMessage_evolved hq) d xs

/-- From a daemon whose send queues are within capacity, every run keeps them so. -/
theorem runDaemon_bounded (d : Swbusd) (xs : List Delivery) (hb : Bounded d) :
    Bounded (runDaemon mgmtTypes oc d xs).2 :=
  runCalls_rel (fun d d' => Bounded d → Bounded d') (fun _ h => h)
    (fun _ _ _ h₁ h₂ h => h₂ (h₁ h))
    (fun _ _ _ _ h => let ⟨_, hq, _⟩ := deliver_ok h; queueMessage_bounded hq) d xs hb

end SwbusNextHop

end Swbus
