import Swbus.NextHop
import Swbus.SimpleClient
/-
# `Swbus.Replies` — what the bus says back, and to whom

Two components synthesize replies without being asked to: a next hop
(`queue_message` returning `Ok(Some(r))`: NoRoute, Ping, SwbusdGetRoutes, TTL
expired) and a simple client (`handle_received_message` returning `Respond(r)`: a
sink's NoRoute, Ping, TraceRoute).  This module says, for every message, what such a
reply is and when one is made.

## What is proved

    every reply is a Response to the request's id, sent back to its source,
    from its destination — or, for the TTL-expired reply, from the
    daemon's own path, and for a sink's NoRoute, from the sink's address       (`replies_answer_their_request`)

    a Response reaching a next hop is answered exactly when a local hop
    finds its service missing (NoRoute "Route not found") or a remote hop
    sees its TTL run out at 1 (Unreachable "TTL expired"); a local hop
    drops one addressed to the daemon itself            (`queueMessage_answers_response_iff`)

    a sink answers every message not addressed to it, a Response included      (`sink_answers_stray`)

## What it is NOT

Section 7 of the spec says responses never beget responses.  The code has no such
rule: neither `queue_message` nor the sink looks at whether the message it answers
is itself a response.  `queueMessage_noRoute_to_response` and
`sink_noRoute_to_response` show one input each where a Response is answered.
-/

namespace Swbus

/-- `r` answers the request whose header is `h`, from `src`: a `Response` carrying
`h`'s id as its `request_id`, addressed back to `h`'s source. -/
def Answers (h : SwbusMessageHeader) (src : Option ServicePath) (r : SwbusMessage) : Prop :=
  ∃ rh rr, r.header = some rh ∧ r.body = some (.response rr) ∧ rr.requestId = h.id ∧
    rh.destination = h.source ∧ rh.source = src

theorem answers_newResponse (h : SwbusMessageHeader) (sp : Option ServicePath)
    (e : SwbusErrorCode) (msg : String) (id : UInt64) (b : Option ResponseBody) :
    Answers h (sp <|> h.destination) (.newResponse h sp e msg id b) :=
  ⟨_, _, rfl, rfl, rfl, rfl, rfl⟩

variable (mgmtTypes : List (BitVec 32 × String))

/-- Every reply either component synthesizes answers the message it was made for. -/
theorem replies_answer_their_request :
    (∀ (oc : Bool) (nh : SwbusNextHop) (d d' : Swbusd) (m r : SwbusMessage)
        (h : SwbusMessageHeader), m.header = some h →
      SwbusNextHop.queueMessage mgmtTypes oc nh d m = .ok (.ok (some r), d') →
      Answers h (if nh.nhType = .local then h.destination else some d.mux.mySp) r) ∧
    (∀ (c c' : SimpleSwbusEdgeClient) (m r : SwbusMessage) (h : SwbusMessageHeader),
      m.header = some h → c.handleReceivedMessage mgmtTypes m = .ok (.respond r, c') →
      Answers h (if c.sink = true ∧ h.destination ≠ some c.source then some c.source
        else h.destination) r) := by
  constructor
  · intro oc nh d d' m r h hm hq
    obtain ⟨-, -, ⟨hl, code, msg, b, rfl⟩ | ⟨hr, -, rfl⟩⟩ := SwbusNextHop.queueMessage_some hm hq
    · simpa [hl] using answers_newResponse h none code msg _ b
    · simpa [hr] using answers_newResponse { h with ttl := 0 } (some d.mux.mySp) _ _ _ none
  · intro c c' m r h hm hq
    obtain ⟨h', s, dst, b, hm', hs, hd, hb, hres⟩ := c.handleReceivedMessage_ok hq
    obtain rfl : h' = h := Option.some.inj (hm'.symm.trans hm)
    obtain ⟨-, ⟨hsink, hne, rfl⟩ | ⟨hns, -, rfl⟩⟩ :=
      SimpleSwbusEdgeClient.handleUnwrapped_respond c hres.symm
    · exact ⟨_, _, rfl, rfl, rfl, hs.symm, by simp [hd, hsink, hne]⟩
    · refine ⟨_, _, rfl, rfl, rfl, hs.symm, ?_⟩
      rcases hns with hns | hns <;> simp [hd, hns]

/-- `test_queue_message_local_ping`: the local hop's reply to the ping goes back to the
ping's source, as the test asserts. -/
theorem replies_answer_their_request_ping :
    let h : SwbusMessageHeader :=
      { version := 1, id := 0, flag := 0, ttl := 63,
        source := some ⟨"region-a", "cluster-a", "10.0.0.1-dpu0", "testsvc", "0", "ping", "0"⟩,
        destination := some ⟨"region-a", "cluster-a", "10.0.0.2-dpu0", "local-mgmt", "0", "", ""⟩ }
    let d : Swbusd :=
      { mux := ⟨⟨"region-a", "cluster-a", "10.0.0.2-dpu0", "", "", "", ""⟩, [], ⟨0⟩⟩,
        queues := fun _ => ⟨[], 16, false⟩ }
    let r : SwbusMessage := .newResponse h none .ok "" 0 none
    SwbusNextHop.queueMessage [] false SwbusNextHop.newLocal d ⟨some h, some .pingRequest⟩ =
        .ok (.ok (some r), { d with mux := ⟨d.mux.mySp, [], ⟨1⟩⟩ }) ∧
      Answers h h.destination r := by
  intro h d r
  have hq : SwbusNextHop.queueMessage [] false SwbusNextHop.newLocal d ⟨some h, some .pingRequest⟩ =
      .ok (.ok (some r), { d with mux := ⟨d.mux.mySp, [], ⟨1⟩⟩ }) := rfl
  exact ⟨hq, (replies_answer_their_request []).1 false _ d _ _ r h rfl hq⟩

/-- A Response is answered at a local hop: one to a service the daemon does not host
gets a NoRoute reply. -/
theorem queueMessage_noRoute_to_response :
    let m : SwbusMessage :=
      { header := some
          { version := 1, id := 7, flag := 0, ttl := 63,
            source := some ⟨"region-a", "cluster-a", "10.0.0.1-dpu0", "testsvc", "0", "ping", "0"⟩,
            destination := some ⟨"region-a", "cluster-a", "10.0.0.2-dpu0", "dpu", "0", "hamgrd", "0"⟩ },
        body := some (.response (.ok 3)) }
    let d : Swbusd :=
      { mux := ⟨⟨"region-a", "cluster-a", "10.0.0.2-dpu0", "", "", "", ""⟩, [], ⟨0⟩⟩,
        queues := fun _ => ⟨[], 16, false⟩ }
    ∃ r d', SwbusNextHop.queueMessage [] false SwbusNextHop.newLocal d m = .ok (.ok (some r), d') :=
  ⟨_, _, rfl⟩

/-- What `queue_message` does with a Response, branch by branch.  It answers on a
local hop when the destination names a service, with NoRoute "Route not found", and on
a remote hop when the TTL runs out at `1`, with Unreachable "TTL expired"; each answer
draws one id.  A local hop drops a Response addressed to the daemon itself. -/
theorem queueMessage_answers_response_iff (oc : Bool) (nh : SwbusNextHop) (d : Swbusd)
    (m : SwbusMessage) (h : SwbusMessageHeader) (dst : ServicePath) (rr : RequestResponse)
    (hm : m.header = some h) (hd : h.destination = some dst) (hb : m.body = some (.response rr)) :
    (∀ r d', SwbusNextHop.queueMessage mgmtTypes oc nh d m = .ok (.ok (some r), d') ↔
      (nh.nhType = .local ∧ dst.serviceType ≠ "" ∧
        r = .newResponse h none .noRoute "Route not found" d.mux.idGenerator.next none ∧
        d' = { d with mux := d.mux.generateMessageId.2 }) ∨
      (nh.nhType = .remote ∧ h.ttl = 1 ∧
        r = .newResponse { h with ttl := 0 } (some d.mux.mySp) .unreachable "TTL expired"
          d.mux.idGenerator.next none ∧
        d' = { d with mux := d.mux.generateMessageId.2 })) ∧
    (nh.nhType = .local → dst.serviceType = "" →
      SwbusNextHop.queueMessage mgmtTypes oc nh d m = .ok (.ok none, d)) := by
  have hdrop : nh.nhType = .local → dst.serviceType = "" →
      SwbusNextHop.queueMessage mgmtTypes oc nh d m = .ok (.ok none, d) := fun hl hs => by
    rw [SwbusNextHop.queueMessage_local d hl,
      SwbusNextHop.processLocalMessage_drop d.mux hm hd hs (by simp [hb]) (by simp [hb])]
    rfl
  have hroute (hl : nh.nhType = .local) (hs : dst.serviceType ≠ "") :
      SwbusNextHop.queueMessage mgmtTypes oc nh d m =
        .ok (.ok (some (.newResponse h none .noRoute "Route not found" d.mux.idGenerator.next none)),
          { d with mux := d.mux.generateMessageId.2 }) := by
    rw [SwbusNextHop.queueMessage_local d hl, SwbusNextHop.processLocalMessage_noRoute d.mux hm hd hs]
    rfl
  refine ⟨fun r d' => ⟨fun hq => ?_, ?_⟩, hdrop⟩
  · obtain ⟨-, -, ⟨hl, -⟩ | ⟨hr, hs, -⟩⟩ := SwbusNextHop.queueMessage_some hm hq
    · have hs : dst.serviceType ≠ "" := fun hs => by simp [hdrop hl hs] at hq
      simp only [hroute hl hs, Except.ok.injEq, Prod.mk.injEq, Option.some.injEq] at hq
      exact .inl ⟨hl, hs, hq.1.symm, hq.2.symm⟩
    · simp only [SwbusNextHop.queueMessage_remote_expire d hr hm hs, Except.ok.injEq,
        Prod.mk.injEq, Option.some.injEq] at hq
      exact .inr ⟨hr, u32SubOne_eq_ok_zero.mp hs, hq.1.symm, hq.2.symm⟩
  · rintro (⟨hl, hs, rfl, rfl⟩ | ⟨hr, h1, rfl, rfl⟩)
    exacts [hroute hl hs, SwbusNextHop.queueMessage_remote_expire d hr hm (u32SubOne_eq_ok_zero.mpr h1)]

theorem queueMessage_answers_response_hamgrd :
    let h : SwbusMessageHeader :=
      { version := 1, id := 7, flag := 0, ttl := 63,
        source := some ⟨"region-a", "cluster-a", "10.0.0.1-dpu0", "testsvc", "0", "ping", "0"⟩,
        destination := some ⟨"region-a", "cluster-a", "10.0.0.2-dpu0", "dpu", "0", "hamgrd", "0"⟩ }
    let d : Swbusd :=
      { mux := ⟨⟨"region-a", "cluster-a", "10.0.0.2-dpu0", "", "", "", ""⟩, [], ⟨0⟩⟩,
        queues := fun _ => ⟨[], 16, false⟩ }
    let m : SwbusMessage := ⟨some h, some (.response (.ok 3))⟩
    m.header = some h ∧ h.destination = some ⟨"region-a", "cluster-a", "10.0.0.2-dpu0", "dpu", "0", "hamgrd", "0"⟩ ∧
      m.body = some (.response (.ok 3)) ∧
      SwbusNextHop.queueMessage [] false SwbusNextHop.newLocal d m =
        .ok (.ok (some (.newResponse h none .noRoute "Route not found" 0 none)),
          { d with mux := ⟨d.mux.mySp, [], ⟨1⟩⟩ }) :=
  ⟨rfl, rfl, rfl, ((queueMessage_answers_response_iff [] false SwbusNextHop.newLocal _ _ _ _ _
    rfl rfl rfl).1 _ _).mpr (.inl ⟨rfl, by decide, rfl, rfl⟩)⟩

/-- A sink answers a stray Response with NoRoute. -/
theorem sink_noRoute_to_response :
    let c : SimpleSwbusEdgeClient :=
      ⟨⟨"region-a", "cluster-a", "10.0.0.2-dpu0", "", "", "hamgrd", "0"⟩, ⟨0⟩, true⟩
    let m : SwbusMessage :=
      { header := some
          { version := 1, id := 7, flag := 0, ttl := 63,
            source := some ⟨"region-a", "cluster-a", "10.0.0.1-dpu0", "testsvc", "0", "ping", "0"⟩,
            destination := some ⟨"region-a", "cluster-a", "10.0.0.2-dpu0", "dpu", "0", "hamgrd", "0"⟩ },
        body := some (.response (.ok 3)) }
    ∃ r c', c.handleReceivedMessage [] m = .ok (.respond r, c') :=
  ⟨_, _, rfl⟩

/-- A sink answers every well-formed message not addressed to it, whatever its body,
with one NoRoute reply from its own address back to the sender, and draws one id. -/
theorem sink_answers_stray (c : SimpleSwbusEdgeClient) (m : SwbusMessage)
    (h : SwbusMessageHeader) (s dst : ServicePath) (b : Body) (hsink : c.sink = true)
    (hm : m.header = some h) (hs : h.source = some s) (hd : h.destination = some dst)
    (hb : m.body = some b) (hne : dst ≠ c.source) :
    c.handleReceivedMessage mgmtTypes m =
      .ok (.respond (.new (.new c.source s c.idGenerator.next)
          (.response (.infraError h.id .noRoute "Route not found"))),
        { c with idGenerator := ⟨c.idGenerator.next + 1⟩ }) := by
  rw [c.handleReceivedMessage_eq hm hs hd hb, c.handleUnwrapped_stray b hsink hne]
  rfl

theorem sink_answers_stray_response :
    let c : SimpleSwbusEdgeClient :=
      ⟨⟨"region-a", "cluster-a", "10.0.0.2-dpu0", "", "", "hamgrd", "0"⟩, ⟨0⟩, true⟩
    let s : ServicePath := ⟨"region-a", "cluster-a", "10.0.0.1-dpu0", "testsvc", "0", "ping", "0"⟩
    let dst : ServicePath := ⟨"region-a", "cluster-a", "10.0.0.2-dpu0", "dpu", "0", "hamgrd", "0"⟩
    let h : SwbusMessageHeader :=
      { version := 1, id := 7, flag := 0, ttl := 63, source := some s, destination := some dst }
    let m : SwbusMessage := ⟨some h, some (.response (.ok 3))⟩
    c.sink = true ∧ dst ≠ c.source ∧
      c.handleReceivedMessage [] m =
        .ok (.respond (.new (.new c.source s 0) (.response (.infraError 7 .noRoute "Route not found"))),
          { c with idGenerator := ⟨1⟩ }) :=
  ⟨rfl, by decide, sink_answers_stray [] _ _ _ _ _ _ rfl rfl rfl rfl rfl (by decide)⟩

end Swbus
