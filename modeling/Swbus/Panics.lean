import Swbus.NextHop
import Swbus.SimpleClient
/-
# `Swbus.Panics` — which delivered messages crash the code

The runtime dispatches a message by its destination alone (§4.F), so every message
with a header and a destination can reach a local next hop or a client's mailbox.
Section 7 promises that input errors come back as responses and "never [are]
propagated as a local failure".  This module finds every message of that kind on
which the code panics instead.

## What is proved

    a local hop panics exactly on a ManagementRequest to the daemon whose
    code is not SwbusdGetRoutes: `.unwrap()` on process_mgmt_request's Err    (`processLocalMessage_panics_iff`)

    a remote hop panics exactly on a message without a header and, with
    overflow checks, on TTL 0                                                   (`queueMessage_remote_panics_iff`)

and, at the inputs that show it: the daemon crashes on a management request with an
unknown code (`queueMessage_mgmt_unknown_panics`), and the body-less message of
`test_queue_message_drop`, which a local hop drops quietly, crashes a client
(`handleReceivedMessage_drop_test_panics`).  A client returns on exactly the
messages with a header, a source, a destination and a body
(`SimpleSwbusEdgeClient.handleReceivedMessage_ok`, `handleReceivedMessage_eq`).
-/

namespace Swbus

variable (mgmtTypes : List (BitVec 32 × String))

/-! ## The local next hop -/

/-- On a message with a header and a destination, a local hop panics exactly when
the message is a management request to the daemon itself with any code but
`SwbusdGetRoutes`. -/
theorem processLocalMessage_panics_iff (mux : SwbusMultiplexer) (m : SwbusMessage)
    (h : SwbusMessageHeader) (dst : ServicePath) (hm : m.header = some h)
    (hd : h.destination = some dst) :
    (∃ p, SwbusNextHop.processLocalMessage mgmtTypes mux m = .error p) ↔
      dst.serviceType = "" ∧ ∃ r, m.body = some (.managementRequest r) ∧
        ManagementRequestType.tryFrom mgmtTypes r.request ≠ some .swbusdGetRoutes := by
  by_cases hs : dst.serviceType = ""
  · simp only [hs, true_and]
    constructor
    · rintro ⟨p, hp⟩
      rw [SwbusNextHop.processLocalMessage_daemon mux hm hd hs] at hp
      split at hp
      · simp [SwbusNextHop.processPingRequest, SwbusNextHop.unwrapResponse] at hp
      · refine ⟨_, ‹_›, fun ht => ?_⟩
        simp [SwbusNextHop.processMgmtRequest, ht, SwbusNextHop.unwrapResponse] at hp
      · cases hp
    · rintro ⟨r, hb, ht⟩
      obtain ⟨_, hp⟩ := SwbusNextHop.processLocalMessage_mgmtInvalid mux hm hd hs hb ht
      exact ⟨_, hp⟩
  · simp [SwbusNextHop.processLocalMessage_noRoute mux hm hd hs, hs]

theorem processLocalMessage_panics_iff_unknown :
    let h : SwbusMessageHeader :=
      { version := 1, id := 0, flag := 0, ttl := 63,
        source := some ⟨"region-a", "cluster-a", "10.0.0.1-dpu0", "testsvc", "0", "ping", "0"⟩,
        destination := some ⟨"region-a", "cluster-a", "10.0.0.2-dpu0", "", "", "", ""⟩ }
    let m : SwbusMessage := ⟨some h, some (.managementRequest ⟨4294967295, []⟩)⟩
    m.header = some h ∧ h.destination = some ⟨"region-a", "cluster-a", "10.0.0.2-dpu0", "", "", "", ""⟩ ∧
      ∃ p, SwbusNextHop.processLocalMessage [] ⟨⟨"", "", "", "", "", "", ""⟩, [], ⟨0⟩⟩ m = .error p :=
  ⟨rfl, rfl, (processLocalMessage_panics_iff [] _ _ _ _ rfl rfl).mpr
    ⟨rfl, _, rfl, by decide⟩⟩

/-- A management request to the daemon with an `i32` code no table can decode as
`SwbusdGetRoutes` (here `-1`), as the ping test's daemon receives it.  Whatever the proto declares, and in either build, the local hop
panics with `InvalidArgs` inside the `unwrap` instead of answering. -/
theorem queueMessage_mgmt_unknown_panics (mgmtTypes : List (BitVec 32 × String)) (oc : Bool) :
    let m : SwbusMessage :=
      ⟨some { version := 1, id := 0, flag := 0, ttl := 63,
              source := some ⟨"region-a", "cluster-a", "10.0.0.1-dpu0", "testsvc", "0", "ping", "0"⟩,
              destination := some ⟨"region-a", "cluster-a", "10.0.0.2-dpu0", "", "", "", ""⟩ },
        some (.managementRequest ⟨4294967295, []⟩)⟩
    let d : Swbusd :=
      { mux := ⟨⟨"region-a", "cluster-a", "10.0.0.2-dpu0", "", "", "", ""⟩, [], ⟨0⟩⟩,
        queues := fun _ => ⟨[], 16, false⟩ }
    ∃ detail, SwbusNextHop.queueMessage mgmtTypes oc SwbusNextHop.newLocal d m =
      .error (.unwrapErr (.input .invalidArgs detail)) := by
  intro m d
  have ht : ManagementRequestType.tryFrom mgmtTypes 4294967295 ≠ some .swbusdGetRoutes := by
    simp [ManagementRequestType.tryFrom]
  obtain ⟨detail, hp⟩ := SwbusNextHop.processLocalMessage_mgmtInvalid d.mux
    (m := m) rfl rfl rfl rfl ht
  exact ⟨detail, by rw [SwbusNextHop.queueMessage_local d rfl, hp]; rfl⟩

/-! ## A remote next hop -/

/-- A remote hop panics exactly on a message without a header and, in a build with
overflow checks, on a TTL of `0`.  Its `expect` on the proxy never fires, and in a
release build it never panics on a message with a header. -/
theorem queueMessage_remote_panics_iff (oc : Bool) (nh : SwbusNextHop) (d : Swbusd)
    (m : SwbusMessage) (hr : nh.nhType = .remote) :
    (∃ p, SwbusNextHop.queueMessage mgmtTypes oc nh d m = .error p) ↔
      m.header = none ∨ (oc = true ∧ ∃ h, m.header = some h ∧ h.ttl = 0) := by
  cases hm : m.header with
  | none => simp [SwbusNextHop.queueMessage_remote_noHeader d hr hm]
  | some h =>
    simp only [reduceCtorEq, false_or, Option.some.injEq, exists_eq_left']
    cases hs : u32SubOne oc h.ttl with
    | error p =>
      have hz : oc = true ∧ h.ttl = 0 := by
        by_contra hz
        simp [u32SubOne, hz] at hs
      exact iff_of_true ⟨p, SwbusNextHop.queueMessage_remote_overflow d hr hm hs⟩ hz
    | ok t =>
      have hz : ¬(oc = true ∧ h.ttl = 0) := by
        rintro ⟨rfl, h0⟩
        simp [u32SubOne, h0] at hs
      simp only [hz, iff_false, not_exists]
      intro p hp
      by_cases ht0 : t = 0
      · subst ht0
        rw [SwbusNextHop.queueMessage_remote_expire d hr hm hs] at hp
        cases hp
      · obtain ⟨q, hq⟩ := Option.isSome_iff_exists.mp (nh.remote_proxy hr)
        rw [SwbusNextHop.queueMessage_remote_forward d hr hq hm hs ht0] at hp
        split at hp <;> cases hp

theorem queueMessage_remote_panics_iff_ttlZero :
    let m : SwbusMessage :=
      ⟨some { version := 1, id := 0, flag := 0, ttl := 0,
              source := some ⟨"region-a", "cluster-a", "10.0.0.1-dpu0", "testsvc", "0", "ping", "0"⟩,
              destination := some ⟨"region-a", "cluster-a", "10.0.0.3-dpu0", "", "", "", ""⟩ },
        some .pingRequest⟩
    let d : Swbusd :=
      { mux := ⟨⟨"region-a", "cluster-a", "10.0.0.2-dpu0", "", "", "", ""⟩, [], ⟨0⟩⟩,
        queues := fun _ => ⟨[], 16, false⟩ }
    (SwbusNextHop.newRemote ⟨0⟩ 5).nhType = .remote ∧
      ((∃ p, SwbusNextHop.queueMessage [] true (SwbusNextHop.newRemote ⟨0⟩ 5) d m = .error p) ↔
        m.header = none ∨ (true = true ∧ ∃ h, m.header = some h ∧ h.ttl = 0)) := by
  intro m d
  exact ⟨rfl, queueMessage_remote_panics_iff [] true _ d m rfl⟩

/-! ## The simple client -/

/-- `test_queue_message_drop`'s message, a header and no body: a local next hop drops
it with `Ok(None)`, while every client panics on it, sink or not. -/
theorem handleReceivedMessage_drop_test_panics (c : SimpleSwbusEdgeClient) :
    let m : SwbusMessage :=
      ⟨some (.new ⟨"region-a", "cluster-a", "10.0.0.1-dpu0", "", "", "", ""⟩
                  ⟨"region-a", "cluster-a", "10.0.0.2-dpu0", "", "", "", ""⟩ 1), none⟩
    let d : Swbusd :=
      { mux := ⟨⟨"region-a", "cluster-a", "10.0.0.2-dpu0", "", "", "", ""⟩, [], ⟨0⟩⟩,
        queues := fun _ => ⟨[], 16, false⟩ }
    (∃ d', SwbusNextHop.queueMessage mgmtTypes false SwbusNextHop.newLocal d m = .ok (.ok none, d')) ∧
      c.handleReceivedMessage mgmtTypes m = .error .unwrapNone :=
  ⟨⟨_, rfl⟩, rfl⟩

end Swbus
