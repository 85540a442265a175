import Swbus.Mux
/-
# `Swbus.NextHop` — `nexthop.rs`, line by line

`SwbusNextHop::queue_message(mux, message) -> Result<Option<SwbusMessage>>` is the
forwarding decision of one daemon.  Its return contract (§4.D): `Ok(Some(r))` —
the caller must route `r`; `Ok(None)` — handled or dropped; `Err(e)` — the hop
itself failed.  Here it is a function

    queueMessage mgmtTypes overflowChecks nh d message
      : Except Panic (Except SwbusError (Option SwbusMessage) × Swbusd)

whose outer `Except` is the panic the Rust code may raise, whose inner one is the
`Result` it returns, and which threads the daemon state `d`: the id generator a
synthesized response draws from, and the send queue a remote hop feeds.

Two parameters are not in the source text:

* `mgmtTypes`, the proto's table of management request types (see `Swbus.Proto`);
* `overflowChecks`, the build profile: `header.ttl -= 1` on a `u32` panics at `0`
  in a build with overflow checks and wraps to `u32::MAX` in one without.

The branches, and the lemma that states each:

    local,  no header / no destination                 panics           `processLocalMessage_noHeader`, `_noDestination`
    local,  service_type ≠ ""                          NoRoute          `processLocalMessage_noRoute`
    local,  service_type = "", PingRequest             Ok               `processLocalMessage_ping`
    local,  service_type = "", SwbusdGetRoutes         Ok + routes      `processLocalMessage_getRoutes`
    local,  service_type = "", other management type   panics (unwrap)  `processLocalMessage_mgmtInvalid`
    local,  service_type = "", any other body          dropped          `processLocalMessage_drop`
    remote, no header                                  panics           `queueMessage_remote_noHeader`
    remote, ttl - 1 overflows                          panics           `queueMessage_remote_overflow`
    remote, ttl - 1 = 0                                Unreachable      `queueMessage_remote_expire`
    remote, ttl - 1 ≠ 0                                try_queue        `queueMessage_remote_forward`
-/

namespace Swbus

/-! ## The next hop -/

/-- `NextHopType`. -/
inductive NextHopType
  | «local»
  | remote
deriving DecidableEq, Repr

/-- `SwbusNextHop`.  Its fields are private to `nexthop.rs`, where only `new_remote`
and `new_local` build one, so every value has what they establish: a remote hop
holds a proxy.  `conn_info` is read only by the tracing span and is left out. -/
structure SwbusNextHop where
  nhType : NextHopType
  connProxy : Option SwbusConnProxy
  hopCount : UInt32
  remote_proxy : nhType = .remote → connProxy.isSome

namespace SwbusNextHop

/-- `SwbusNextHop::new_remote(conn_info, conn_proxy, hop_count)`. -/
def newRemote (connProxy : SwbusConnProxy) (hopCount : UInt32) : SwbusNextHop :=
  ⟨.remote, some connProxy, hopCount, fun _ => rfl⟩

/-- `SwbusNextHop::new_local()`. -/
def newLocal : SwbusNextHop :=
  ⟨.local, none, 0, fun h => nomatch h⟩

variable (mgmtTypes : List (BitVec 32 × String))

/-! ## The local branch -/

/-- `process_ping_request`: an `Ok` response with a fresh id; it never fails. -/
def processPingRequest (mux : SwbusMultiplexer) (request : SwbusMessageHeader) :
    Except SwbusError SwbusMessage × SwbusMultiplexer :=
  let (id, mux) := mux.generateMessageId
  (.ok (.newResponse request none .ok "" id none), mux)

/-- `process_mgmt_request`: `SwbusdGetRoutes` answers with the route table; an
undecodable code and every other type are `InvalidArgs` errors, with no id drawn. -/
def processMgmtRequest (mux : SwbusMultiplexer) (request : SwbusMessageHeader)
    (mgmtRequest : ManagementRequest) : Except SwbusError SwbusMessage × SwbusMultiplexer :=
  match ManagementRequestType.tryFrom mgmtTypes mgmtRequest.request with
  | none =>
    (.error (.input .invalidArgs
      ("Invalid management request: " ++ toString mgmtRequest.request.toInt)), mux)
  | some .swbusdGetRoutes =>
    let routes := mux.exportRoutes
    let (id, mux) := mux.generateMessageId
    (.ok (.newResponse request none .ok "" id (some (.routeQueryResult routes))), mux)
  | some _ =>
    (.error (.input .invalidArgs
      ("Invalid management request: " ++ mgmtRequest.fmtDebug mgmtTypes)), mux)

/-- `helper(..).unwrap()` followed by `Ok(Some(response))`. -/
def unwrapResponse :
    Except SwbusError SwbusMessage × SwbusMultiplexer →
      Except Panic (Except SwbusError (Option SwbusMessage) × SwbusMultiplexer)
  | (.ok r, mux) => .ok (.ok (some r), mux)
  | (.error e, _) => .error (.unwrapErr e)

/-- `process_local_message`. -/
def processLocalMessage (mux : SwbusMultiplexer) (message : SwbusMessage) :
    Except Panic (Except SwbusError (Option SwbusMessage) × SwbusMultiplexer) :=
  match message.header with
  | none => .error .unwrapNone
  | some header =>
    match header.destination with
    | none => .error .unwrapNone
    | some destSp =>
      if destSp.serviceType ≠ "" then
        let (id, mux) := mux.generateMessageId
        .ok (.ok (some (.newResponse header none .noRoute "Route not found" id none)), mux)
      else
        match message.body with
        | some .pingRequest => unwrapResponse (processPingRequest mux header)
        | some (.managementRequest r) => unwrapResponse (processMgmtRequest mgmtTypes mux header r)
        | _ => .ok (.ok none, mux)

/-! ## `queue_message` -/

/-- `SwbusNextHop::queue_message`. -/
def queueMessage (overflowChecks : Bool) (nh : SwbusNextHop) (d : Swbusd)
    (message : SwbusMessage) : Except Panic (Except SwbusError (Option SwbusMessage) × Swbusd) :=
  match nh.nhType with
  | .local =>
    (processLocalMessage mgmtTypes d.mux message).map fun (r, mux) => (r, { d with mux })
  | .remote =>
    match message.header with
    | none => .error (.expect "missing header")
    | some header =>
      match u32SubOne overflowChecks header.ttl with
      | .error p => .error p
      | .ok ttl =>
        let header := { header with ttl }
        let message := { message with header := some header }
        if ttl = 0 then
          let (id, mux) := d.mux.generateMessageId
          .ok (.ok (some (.newResponse header (some d.mux.getMyServicePath) .unreachable
            "TTL expired" id none)), { d with mux })
        else
          match nh.connProxy with
          | none => .error (.expect "conn_proxy shouldn't be None in remote nexthop")
          | some p =>
            match d.tryQueue p message with
            | .error e => .ok (.error e, d)
            | .ok d' => .ok (.ok none, d')

/-- Every error of `process_mgmt_request` is `InvalidArgs` naming the request, by its
code when that does not decode and by its `Debug` rendering otherwise, and draws no
id. -/
theorem processMgmtRequest_error {mux mux' : SwbusMultiplexer} {request : SwbusMessageHeader}
    {r : ManagementRequest} {e : SwbusError}
    (h : processMgmtRequest mgmtTypes mux request r = (.error e, mux')) :
    mux' = mux ∧ ∃ detail, e = .input .invalidArgs ("Invalid management request: " ++ detail) ∧
      (detail = toString r.request.toInt ∨ detail = r.fmtDebug mgmtTypes) := by
  unfold processMgmtRequest at h
  split at h
  · obtain ⟨⟨⟩, rfl⟩ := Prod.mk.inj h
    exact ⟨rfl, _, rfl, .inl rfl⟩
  · cases h
  · obtain ⟨⟨⟩, rfl⟩ := Prod.mk.inj h
    exact ⟨rfl, _, rfl, .inr rfl⟩

/-! ## One lemma per branch of `process_local_message` -/

section Local
variable {mgmtTypes} (mux : SwbusMultiplexer) {m : SwbusMessage} {h : SwbusMessageHeader}
  {dst : ServicePath}

theorem processLocalMessage_noHeader (hm : m.header = none) :
    processLocalMessage mgmtTypes mux m = .error .unwrapNone := by
  simp [processLocalMessage, hm]

theorem processLocalMessage_noDestination (hm : m.header = some h) (hd : h.destination = none) :
    processLocalMessage mgmtTypes mux m = .error .unwrapNone := by
  simp [processLocalMessage, hm, hd]

theorem processLocalMessage_noRoute (hm : m.header = some h) (hd : h.destination = some dst)
    (hs : dst.serviceType ≠ "") :
    processLocalMessage mgmtTypes mux m =
      .ok (.ok (some (.newResponse h none .noRoute "Route not found" mux.idGenerator.next none)),
        mux.generateMessageId.2) := by
  simp [processLocalMessage, hm, hd, hs]

theorem processLocalMessage_daemon (hm : m.header = some h) (hd : h.destination = some dst)
    (hs : dst.serviceType = "") :
    processLocalMessage mgmtTypes mux m =
      match m.body with
      | some .pingRequest => unwrapResponse (processPingRequest mux h)
      | some (.managementRequest r) => unwrapResponse (processMgmtRequest mgmtTypes mux h r)
      | _ => .ok (.ok none, mux) := by
  simp [processLocalMessage, hm, hd, hs]

theorem processLocalMessage_ping (hm : m.header = some h) (hd : h.destination = some dst)
    (hs : dst.serviceType = "") (hb : m.body = some .pingRequest) :
    processLocalMessage mgmtTypes mux m =
      .ok (.ok (some (.newResponse h none .ok "" mux.idGenerator.next none)),
        mux.generateMessageId.2) := by
  rw [processLocalMessage_daemon mux hm hd hs, hb]
  rfl

theorem processLocalMessage_getRoutes (hm : m.header = some h) (hd : h.destination = some dst)
    (hs : dst.serviceType = "") {r : ManagementRequest} (hb : m.body = some (.managementRequest r))
    (ht : ManagementRequestType.tryFrom mgmtTypes r.request = some .swbusdGetRoutes) :
    processLocalMessage mgmtTypes mux m =
      .ok (.ok (some (.newResponse h none .ok "" mux.idGenerator.next
        (some (.routeQueryResult mux.routes)))), mux.generateMessageId.2) := by
  rw [processLocalMessage_daemon mux hm hd hs, hb]
  simp [processMgmtRequest, ht, unwrapResponse, SwbusMultiplexer.exportRoutes]

theorem processLocalMessage_mgmtInvalid (hm : m.header = some h) (hd : h.destination = some dst)
    (hs : dst.serviceType = "") {r : ManagementRequest} (hb : m.body = some (.managementRequest r))
    (ht : ManagementRequestType.tryFrom mgmtTypes r.request ≠ some .swbusdGetRoutes) :
    ∃ detail, processLocalMessage mgmtTypes mux m =
      .error (.unwrapErr (.input .invalidArgs detail)) := by
  rw [processLocalMessage_daemon mux hm hd hs, hb]
  simp only [processMgmtRequest]
  split
  · exact ⟨_, rfl⟩
  · exact absurd ‹_› ht
  · exact ⟨_, rfl⟩

theorem processLocalMessage_drop (hm : m.header = some h) (hd : h.destination = some dst)
    (hs : dst.serviceType = "") (hp : m.body ≠ some .pingRequest)
    (hr : ∀ r, m.body ≠ some (.managementRequest r)) :
    processLocalMessage mgmtTypes mux m = .ok (.ok none, mux) := by
  rw [processLocalMessage_daemon mux hm hd hs]
  split
  · exact absurd ‹_› hp
  · exact absurd ‹_› (hr _)
  · rfl

end Local

/-! ## One lemma per branch of the remote arm -/

section Remote
variable {mgmtTypes} {oc : Bool} {nh : SwbusNextHop} (d : Swbusd) {m : SwbusMessage}
  {h : SwbusMessageHeader}

theorem queueMessage_local (hl : nh.nhType = .local) :
    queueMessage mgmtTypes oc nh d m =
      (processLocalMessage mgmtTypes d.mux m).map fun (r, mux) => (r, { d with mux }) := by
  simp [queueMessage, hl]

theorem queueMessage_remote_noHeader (hr : nh.nhType = .remote) (hm : m.header = none) :
    queueMessage mgmtTypes oc nh d m = .error (.expect "missing header") := by
  simp [queueMessage, hr, hm]

theorem queueMessage_remote_overflow (hr : nh.nhType = .remote) (hm : m.header = some h)
    {p : Panic} (hsub : u32SubOne oc h.ttl = .error p) :
    queueMessage mgmtTypes oc nh d m = .error p := by
  simp [queueMessage, hr, hm, hsub]

theorem queueMessage_remote_expire (hr : nh.nhType = .remote) (hm : m.header = some h)
    (hsub : u32SubOne oc h.ttl = .ok 0) :
    queueMessage mgmtTypes oc nh d m =
      .ok (.ok (some (.newResponse { h with ttl := 0 } (some d.mux.mySp) .unreachable
        "TTL expired" d.mux.idGenerator.next none)), { d with mux := d.mux.generateMessageId.2 }) := by
  simp [queueMessage, hr, hm, hsub, SwbusMultiplexer.getMyServicePath]

theorem queueMessage_remote_forward (hr : nh.nhType = .remote) {p : SwbusConnProxy}
    (hp : nh.connProxy = some p) (hm : m.header = some h) {t : UInt32}
    (hsub : u32SubOne oc h.ttl = .ok t) (ht : t ≠ 0) :
    queueMessage mgmtTypes oc nh d m =
      match d.tryQueue p { m with header := some { h with ttl := t } } with
      | .error e => .ok (.error e, d)
      | .ok d' => .ok (.ok none, d') := by
  simp [queueMessage, hr, hm, hsub, ht, hp]

end Remote

/-! ## What an answer can be

`Ok(Some(r))` is the one outcome whose result the caller must route.  These two
lemmas say everything it can be; `Swbus.Replies` and `Swbus.Accounting` start from
them. -/

section Answers
variable {mgmtTypes} {m : SwbusMessage} {h : SwbusMessageHeader} {r : SwbusMessage}

theorem processLocalMessage_some {mux mux' : SwbusMultiplexer} (hm : m.header = some h)
    (hq : processLocalMessage mgmtTypes mux m = .ok (.ok (some r), mux')) :
    mux' = mux.generateMessageId.2 ∧
      ∃ code msg b, r = .newResponse h none code msg mux.idGenerator.next b := by
  cases hd : h.destination with
  | none => simp [processLocalMessage_noDestination mux hm hd] at hq
  | some dst =>
    by_cases hs : dst.serviceType = ""
    · rw [processLocalMessage_daemon mux hm hd hs] at hq
      split at hq
      · simp only [processPingRequest, unwrapResponse, Except.ok.injEq, Prod.mk.injEq,
          Option.some.injEq] at hq
        exact ⟨hq.2.symm, _, _, _, hq.1.symm⟩
      · simp only [processMgmtRequest] at hq
        split at hq <;> simp only [unwrapResponse, Except.ok.injEq, Prod.mk.injEq,
          Option.some.injEq, reduceCtorEq] at hq
        exact ⟨hq.2.symm, _, _, _, hq.1.symm⟩
      · simp at hq
    · rw [processLocalMessage_noRoute mux hm hd hs] at hq
      simp only [Except.ok.injEq, Prod.mk.injEq, Option.some.injEq] at hq
      exact ⟨hq.2.symm, _, _, _, hq.1.symm⟩

theorem queueMessage_some {oc : Bool} {nh : SwbusNextHop} {d d' : Swbusd}
    (hm : m.header = some h) (hq : queueMessage mgmtTypes oc nh d m = .ok (.ok (some r), d')) :
    d'.mux = d.mux.generateMessageId.2 ∧ d'.queues = d.queues ∧
    ((nh.nhType = .local ∧
        ∃ code msg b, r = .newResponse h none code msg d.mux.idGenerator.next b) ∨
     (nh.nhType = .remote ∧ u32SubOne oc h.ttl = .ok 0 ∧
        r = .newResponse { h with ttl := 0 } (some d.mux.mySp) .unreachable "TTL expired"
          d.mux.idGenerator.next none)) := by
  cases ht : nh.nhType with
  | «local» =>
    rw [queueMessage_local d ht] at hq
    cases hp : processLocalMessage mgmtTypes d.mux m with
    | error e => simp [hp, Except.map] at hq
    | ok res =>
      simp only [hp, Except.map, Except.ok.injEq] at hq
      obtain ⟨hres, rfl⟩ := Prod.mk.inj hq
      obtain ⟨hmux, hr⟩ := processLocalMessage_some hm (by rw [hp, ← hres])
      exact ⟨hmux, rfl, .inl ⟨rfl, hr⟩⟩
  | remote =>
    cases hs : u32SubOne oc h.ttl with
    | error p => simp [queueMessage_remote_overflow d ht hm hs] at hq
    | ok t =>
      by_cases ht0 : t = 0
      · subst ht0
        simp only [queueMessage_remote_expire d ht hm hs, Except.ok.injEq, Prod.mk.injEq,
          Option.some.injEq] at hq
        obtain ⟨rfl, rfl⟩ := hq
        exact ⟨rfl, rfl, .inr ⟨rfl, rfl, rfl⟩⟩
      · obtain ⟨p, hp⟩ := Option.isSome_iff_exists.mp (nh.remote_proxy ht)
        rw [queueMessage_remote_forward d ht hp hm hs ht0] at hq
        split at hq <;> simp at hq

end Answers

end SwbusNextHop

end Swbus
