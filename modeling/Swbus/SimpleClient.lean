import Swbus.Mux
/-
# `Swbus.SimpleClient` — `simple_client.rs`, line by line

`SimpleSwbusEdgeClient` is the façade an actor talks to (§4.G).  Inbound, it takes
bus messages out of its handler mailbox and either hands the actor an
`IncomingMessage`, answers on its own (ping, trace-route, and a sink's strays), or
drops; outbound, it stamps an `OutgoingMessage` with a fresh id and its own address.

    handleReceivedMessage mgmtTypes c msg
      : Except Panic (HandleReceivedMessage × SimpleSwbusEdgeClient)
    outgoingMessageToSwbusMessage c o
      : Except Panic ((UInt64 × SwbusMessage) × SimpleSwbusEdgeClient)
    recv mgmtTypes sendResult c rt mailbox : Except Panic RecvOutcome

The client state is what the functions read: the address, the id generator and the
sink flag.  The runtime handle `rt` and the mailbox `handler_rx` are passed on their
own, since `recv` changes both.

`handle_received_message` is split where the source splits it: four `unwrap`s
(`handleReceivedMessage`), then the sink check and the match on the body
(`handleUnwrapped`).  `recv`'s `loop` is structural recursion on the buffered
messages.

## Modelled from the spec

`SwbusEdgeRuntime::send` is not in the excerpt.  What the runtime does with a message
is routing (§4.F); what `recv` sees is only whether `send` returned `Ok`.  So the
runtime is the list of messages sent so far and an outcome `sendResult`, which may
depend on everything sent before.  A tokio channel's `recv` returns `None` only once
every sender is gone and the buffer is empty, and otherwise waits: the mailbox is the
buffered messages and that `closed` flag.
-/

namespace Swbus

/-! ## The actor-facing envelope -/

/-- `MessageResponseBody`. -/
inductive MessageResponseBody
  | managementQueryResult (payload : String)
deriving DecidableEq, Repr

/-- `MessageBody`: `Body` without the infra messages. -/
inductive MessageBody
  | request (payload : List UInt8)
  | response (requestId : UInt64) (errorCode : SwbusErrorCode) (errorMessage : String)
      (responseBody : Option MessageResponseBody)
  | managementRequest (request : ManagementRequestType) (args : List (String × String))
deriving DecidableEq, Repr

/-- `IncomingMessage`. -/
structure IncomingMessage where
  id : UInt64
  source : ServicePath
  destination : ServicePath
  body : MessageBody
deriving DecidableEq, Repr

/-- `OutgoingMessage`. -/
structure OutgoingMessage where
  destination : ServicePath
  body : MessageBody
deriving DecidableEq, Repr

/-- `HandleReceivedMessage`. -/
inductive HandleReceivedMessage
  | passToActor (msg : IncomingMessage)
  | respond (msg : SwbusMessage)
  | ignore
deriving DecidableEq, Repr

/-- One insert of `collect()`: `HashMap::insert(arg.name, arg.value)`, which replaces the
value of a name already present. -/
def insertArg (m : List (String × String)) (a : ManagementRequestArg) : List (String × String) :=
  m.filter (fun e => e.1 != a.name) ++ [(a.name, a.value)]

/-- `arguments.iter().map(..).collect()` into a `HashMap`, inserting the pairs in order.
The map is kept as its entries. -/
def collectArgs (args : List ManagementRequestArg) : List (String × String) :=
  args.foldl insertArg []

/-! ## The client -/

/-- `SimpleSwbusEdgeClient`, without its runtime handle and mailbox. -/
structure SimpleSwbusEdgeClient where
  source : ServicePath
  idGenerator : MessageIdGenerator
  sink : Bool
deriving DecidableEq, Repr

/-- Modelled from the spec: `SwbusEdgeRuntime`, as the client sees it — the messages
handed to `send` so far. -/
structure SwbusEdgeRuntime where
  sent : List SwbusMessage
deriving DecidableEq, Repr

/-- Modelled from the spec: `SwbusEdgeRuntime::send`.  Whether it succeeds is
`sendResult`; a message it accepts is appended to `sent`. -/
def SwbusEdgeRuntime.send (sendResult : List SwbusMessage → SwbusMessage → Except SwbusError Unit)
    (rt : SwbusEdgeRuntime) (m : SwbusMessage) : Except SwbusError SwbusEdgeRuntime :=
  (sendResult rt.sent m).map fun _ => ⟨rt.sent ++ [m]⟩

/-- A message the mailbox holds, and whether every sender is gone. -/
structure Mailbox where
  buffered : List SwbusMessage
  closed : Bool
deriving DecidableEq, Repr

/-- Where a call of `recv` stands: returned, or parked on an empty open channel. -/
inductive Recv
  | received (msg : Option IncomingMessage)
  | waiting
deriving DecidableEq, Repr

/-- What a returned `recv` hands its caller: one message, or none. -/
def Recv.toList : Recv → List IncomingMessage
  | .received (some i) => [i]
  | _ => []

/-- `recv`'s result with the state it leaves. -/
structure RecvOutcome where
  result : Recv
  client : SimpleSwbusEdgeClient
  rt : SwbusEdgeRuntime
  mailbox : Mailbox
deriving DecidableEq, Repr

namespace SimpleSwbusEdgeClient

variable (mgmtTypes : List (BitVec 32 × String))
  (sendResult : List SwbusMessage → SwbusMessage → Except SwbusError Unit)

/-- `Respond(SwbusMessage::new(SwbusMessageHeader::new(src, dst,
self.id_generator.generate()), Body::Response(resp)))`. -/
def respond (c : SimpleSwbusEdgeClient) (src dst : ServicePath) (resp : RequestResponse) :
    HandleReceivedMessage × SimpleSwbusEdgeClient :=
  let (id, g) := c.idGenerator.generate
  (.respond (.new (.new src dst id) (.response resp)), { c with idGenerator := g })

/-- `handle_received_message` after its `unwrap`s: the sink check, then the body. -/
def handleUnwrapped (c : SimpleSwbusEdgeClient) (id : UInt64) (source destination : ServicePath)
    (body : Body) : HandleReceivedMessage × SimpleSwbusEdgeClient :=
  if c.sink ∧ destination ≠ c.source then
    c.respond c.source source (.infraError id .noRoute "Route not found")
  else
    match body with
    | .dataRequest payload => (.passToActor ⟨id, source, destination, .request payload⟩, c)
    | .response r =>
      (.passToActor ⟨id, source, destination,
        .response r.requestId ((SwbusErrorCode.tryFrom r.errorCode).getD .unknownError)
          r.errorMessage none⟩, c)
    | .pingRequest => c.respond destination source (.ok id)
    | .traceRouteRequest => c.respond destination source (.ok id)
    | .managementRequest r =>
      match ManagementRequestType.tryFrom mgmtTypes r.request with
      | none => (.ignore, c)
      | some t =>
        (.passToActor ⟨id, source, destination, .managementRequest t (collectArgs r.arguments)⟩, c)
    | .other => (.ignore, c)

/-- `handle_received_message`: `msg.header.unwrap()`, `header.source.unwrap()`,
`header.destination.unwrap()`, `msg.body.unwrap()`, then `handleUnwrapped`. -/
def handleReceivedMessage (c : SimpleSwbusEdgeClient) (msg : SwbusMessage) :
    Except Panic (HandleReceivedMessage × SimpleSwbusEdgeClient) :=
  match msg.header with
  | none => .error .unwrapNone
  | some header =>
    match header.source, header.destination, msg.body with
    | some source, some destination, some body =>
      .ok (c.handleUnwrapped mgmtTypes header.id source destination body)
    | _, _, _ => .error .unwrapNone

/-- `outgoing_message_to_swbus_message`: a fresh id, this client's address as the
source; a management request is `unimplemented!()`. -/
def outgoingMessageToSwbusMessage (c : SimpleSwbusEdgeClient) (msg : OutgoingMessage) :
    Except Panic ((UInt64 × SwbusMessage) × SimpleSwbusEdgeClient) :=
  let (id, g) := c.idGenerator.generate
  let c := { c with idGenerator := g }
  let header := SwbusMessageHeader.new c.source msg.destination id
  match msg.body with
  | .request payload => .ok ((id, ⟨some header, some (.dataRequest payload)⟩), c)
  | .response requestId errorCode errorMessage responseBody =>
    let responseBody := responseBody.map fun
      | .managementQueryResult payload => .managementQueryResult payload
    .ok ((id, ⟨some header, some (.response ⟨requestId, errorCode.toI32, errorMessage,
      responseBody⟩)⟩), c)
  | .managementRequest .. => .error .unimplemented

/-- `send`: compile the message, then `send_raw` it through the runtime. -/
def send (c : SimpleSwbusEdgeClient) (rt : SwbusEdgeRuntime) (msg : OutgoingMessage) :
    Except Panic (Except SwbusError UInt64 × SimpleSwbusEdgeClient × SwbusEdgeRuntime) :=
  match c.outgoingMessageToSwbusMessage msg with
  | .error p => .error p
  | .ok ((id, m), c) =>
    match rt.send sendResult m with
    | .ok rt => .ok (.ok id, c, rt)
    | .error e => .ok (.error e, c, rt)

/-- The `loop` of `recv`, over the buffered messages. -/
def recvLoop (closed : Bool) :
    SimpleSwbusEdgeClient → SwbusEdgeRuntime → List SwbusMessage → Except Panic RecvOutcome
  | c, rt, [] => .ok ⟨if closed then .received none else .waiting, c, rt, ⟨[], closed⟩⟩
  | c, rt, msg :: rest =>
    match c.handleReceivedMessage mgmtTypes msg with
    | .error p => .error p
    | .ok (.passToActor m, c) => .ok ⟨.received (some m), c, rt, ⟨rest, closed⟩⟩
    | .ok (.respond r, c) =>
      match rt.send sendResult r with
      | .ok rt => recvLoop closed c rt rest
      | .error e => .error (.unwrapErr e)
    | .ok (.ignore, c) => recvLoop closed c rt rest

/-- `recv`: `Some(message)` for the actor, or `None` once nothing more will come. -/
def recv (c : SimpleSwbusEdgeClient) (rt : SwbusEdgeRuntime) (mb : Mailbox) :
    Except Panic RecvOutcome :=
  recvLoop mgmtTypes sendResult mb.closed c rt mb.buffered

/-- The body's translation for the actor: what a message that is not a sink's stray
is handed on as, if it is handed on at all. -/
def incoming (id : UInt64) (s dst : ServicePath) : Body → Option IncomingMessage
  | .dataRequest payload => some ⟨id, s, dst, .request payload⟩
  | .response r =>
    some ⟨id, s, dst, .response r.requestId ((SwbusErrorCode.tryFrom r.errorCode).getD .unknownError)
      r.errorMessage none⟩
  | .managementRequest r =>
    (ManagementRequestType.tryFrom mgmtTypes r.request).map fun t =>
      ⟨id, s, dst, .managementRequest t (collectArgs r.arguments)⟩
  | _ => none

/-! ## Small lemmas -/

section Lemmas
variable {mgmtTypes} (c : SimpleSwbusEdgeClient)

@[simp] theorem respond_snd (src dst : ServicePath) (resp : RequestResponse) :
    (c.respond src dst resp).2 = { c with idGenerator := ⟨c.idGenerator.next + 1⟩ } := rfl

@[simp] theorem respond_fst (src dst : ServicePath) (resp : RequestResponse) :
    (c.respond src dst resp).1 =
      .respond (.new (.new src dst c.idGenerator.next) (.response resp)) := rfl

theorem handleReceivedMessage_eq {msg : SwbusMessage} {h : SwbusMessageHeader}
    {s dst : ServicePath} {b : Body} (hh : msg.header = some h) (hs : h.source = some s)
    (hd : h.destination = some dst) (hb : msg.body = some b) :
    c.handleReceivedMessage mgmtTypes msg = .ok (c.handleUnwrapped mgmtTypes h.id s dst b) := by
  simp [handleReceivedMessage, hh, hs, hd, hb]

theorem handleUnwrapped_stray {id : UInt64} {s dst : ServicePath} (b : Body)
    (hsink : c.sink = true) (hd : dst ≠ c.source) :
    c.handleUnwrapped mgmtTypes id s dst b =
      c.respond c.source s (.infraError id .noRoute "Route not found") := by
  simp [handleUnwrapped, hsink, hd]

theorem handleUnwrapped_body {id : UInt64} {s dst : ServicePath} (b : Body)
    (hd : c.sink = false ∨ dst = c.source) :
    c.handleUnwrapped mgmtTypes id s dst b =
      match b with
      | .dataRequest payload => (.passToActor ⟨id, s, dst, .request payload⟩, c)
      | .response r =>
        (.passToActor ⟨id, s, dst,
          .response r.requestId ((SwbusErrorCode.tryFrom r.errorCode).getD .unknownError)
            r.errorMessage none⟩, c)
      | .pingRequest => c.respond dst s (.ok id)
      | .traceRouteRequest => c.respond dst s (.ok id)
      | .managementRequest r =>
        match ManagementRequestType.tryFrom mgmtTypes r.request with
        | none => (.ignore, c)
        | some t => (.passToActor ⟨id, s, dst, .managementRequest t (collectArgs r.arguments)⟩, c)
      | .other => (.ignore, c) := by
  have : ¬(c.sink = true ∧ dst ≠ c.source) := by
    rcases hd with hd | hd <;> simp [hd]
  simp only [handleUnwrapped, this, if_false]

/-- `handle_received_message` returns only once all four `unwrap`s succeed. -/
theorem handleReceivedMessage_ok {msg : SwbusMessage}
    {res : HandleReceivedMessage × SimpleSwbusEdgeClient}
    (hq : c.handleReceivedMessage mgmtTypes msg = .ok res) :
    ∃ h s dst b, msg.header = some h ∧ h.source = some s ∧ h.destination = some dst ∧
      msg.body = some b ∧ res = c.handleUnwrapped mgmtTypes h.id s dst b := by
  unfold handleReceivedMessage at hq
  split at hq
  · cases hq
  · split at hq
    · exact ⟨_, _, _, _, ‹_›, ‹_›, ‹_›, ‹_›, (Except.ok.inj hq).symm⟩
    · cases hq

section Unwrapped
variable {id : UInt64} {s dst : ServicePath} {b : Body}
  {c' : SimpleSwbusEdgeClient}

theorem not_stray {c : SimpleSwbusEdgeClient} (h : ¬(c.sink = true ∧ dst ≠ c.source)) :
    c.sink = false ∨ dst = c.source := by
  cases hs : c.sink <;> simp_all

theorem handleUnwrapped_respond {r : SwbusMessage}
    (hu : c.handleUnwrapped mgmtTypes id s dst b = (.respond r, c')) :
    c' = { c with idGenerator := ⟨c.idGenerator.next + 1⟩ } ∧
    ((c.sink = true ∧ dst ≠ c.source ∧
        r = .new (.new c.source s c.idGenerator.next)
          (.response (.infraError id .noRoute "Route not found"))) ∨
     ((c.sink = false ∨ dst = c.source) ∧ (b = .pingRequest ∨ b = .traceRouteRequest) ∧
        r = .new (.new dst s c.idGenerator.next) (.response (.ok id)))) := by
  by_cases hst : c.sink = true ∧ dst ≠ c.source
  · rw [handleUnwrapped_stray c b hst.1 hst.2] at hu
    simp only [respond, Prod.mk.injEq, HandleReceivedMessage.respond.injEq] at hu
    exact ⟨hu.2.symm, .inl ⟨hst.1, hst.2, hu.1.symm⟩⟩
  · rw [handleUnwrapped_body c b (not_stray hst)] at hu
    cases b with
    | pingRequest =>
      simp only [respond, Prod.mk.injEq, HandleReceivedMessage.respond.injEq] at hu
      exact ⟨hu.2.symm, .inr ⟨not_stray hst, .inl rfl, hu.1.symm⟩⟩
    | traceRouteRequest =>
      simp only [respond, Prod.mk.injEq, HandleReceivedMessage.respond.injEq] at hu
      exact ⟨hu.2.symm, .inr ⟨not_stray hst, .inr rfl, hu.1.symm⟩⟩
    | managementRequest r => dsimp only at hu; split at hu <;> simp at hu
    | _ => simp at hu

theorem handleUnwrapped_snd_of_not_respond
    (hu : ∀ r, (c.handleUnwrapped mgmtTypes id s dst b).1 ≠ .respond r) :
    (c.handleUnwrapped mgmtTypes id s dst b).2 = c := by
  by_cases hst : c.sink = true ∧ dst ≠ c.source
  · exact absurd (by rw [handleUnwrapped_stray c b hst.1 hst.2]; rfl) (hu _)
  · rw [handleUnwrapped_body c b (not_stray hst)] at hu ⊢
    cases b with
    | pingRequest => exact absurd rfl (hu _)
    | traceRouteRequest => exact absurd rfl (hu _)
    | managementRequest r => dsimp only; split <;> rfl
    | _ => rfl

theorem handleUnwrapped_fst_pass (hd : c.sink = false ∨ dst = c.source) (i : IncomingMessage) :
    (c.handleUnwrapped mgmtTypes id s dst b).1 = .passToActor i ↔
      incoming mgmtTypes id s dst b = some i := by
  rw [handleUnwrapped_body c b hd]
  cases b with
  | managementRequest r =>
    dsimp only [incoming]
    split <;> simp_all
  | _ => simp [incoming, respond]

end Unwrapped

end Lemmas

end SimpleSwbusEdgeClient

end Swbus
