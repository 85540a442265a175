import Mathlib.Data.List.Basic
/-
# `Swbus.Proto` — the wire types the bus core reads and writes

`nexthop.rs`, `simple_client.rs` and `main.rs` build and take apart values of the
`swbus_proto` crate, whose sources are not in the excerpt.  Everything here is
therefore *modelled from the spec* (§3, §4.B, §6): the envelope `SwbusMessage`,
its header, the body union, the error codes, and the four constructors the source
calls (`SwbusMessageHeader::new`, `SwbusMessage::new`, `SwbusMessage::new_response`,
`RequestResponse::ok` / `::infra_error`).

## Choices, and why they are safe

* Every field the protobuf wire format makes optional stays an `Option`: the
  header of a message, the body, and the header's `source` and `destination`.
  The source unwraps them, and where it does, a message without one panics
  (`Swbus.Panics`).
* Fixed-width fields keep their width: `ttl`, `version` and `flag` are `UInt32`,
  ids are `UInt64`, and the proto's `i32` enum fields are `BitVec 32`.
* `SwbusErrorCode` has the seven codes §6 names.  The spec gives the value of
  `Ok` (0) only; the others are numbered here in the spec's order.  No result
  depends on the numbers, only on their being distinct, as prost requires.
* `ManagementRequestType` is open: §6 names `SwbusdGetRoutes` and calls every
  other type reserved.  Which `i32` values the proto declares besides `0` is a
  table the excerpt does not contain, so every decoder takes it as a parameter
  `mgmtTypes`, and every result holds for every such table.
* `Body.other` stands for the body variants the source's `_` arms catch; nothing
  reads their contents.

## Panics

A Rust panic is a value of `Panic`.  A function of the source that can panic is
modelled as a function into `Except Panic _`, and "does not panic" means
"evaluates to `.ok`".
-/

namespace Swbus

/-! ## Addresses -/

/-- `ServicePath`: `region.cluster.node/resource_type/resource_id/service_type/service_id`
(§3).  Equality is componentwise. -/
structure ServicePath where
  regionId : String
  clusterId : String
  nodeId : String
  resourceType : String
  resourceId : String
  serviceType : String
  serviceId : String
deriving DecidableEq, Repr

/-! ## Enumerations and their `i32` encodings -/

/-- Modelled from the spec: `SwbusErrorCode` (§6). -/
inductive SwbusErrorCode
  | ok
  | invalidArgs
  | noRoute
  | unreachable
  | resourceExhausted
  | timeout
  | unknownError
deriving DecidableEq, Repr

namespace SwbusErrorCode

/-- `code as i32`, prost's `From<SwbusErrorCode> for i32`. -/
def toI32 : SwbusErrorCode → BitVec 32
  | ok => 0
  | invalidArgs => 1
  | noRoute => 2
  | unreachable => 3
  | resourceExhausted => 4
  | timeout => 5
  | unknownError => 6

/-- Every code, in declaration order. -/
def all : List SwbusErrorCode :=
  [ok, invalidArgs, noRoute, unreachable, resourceExhausted, timeout, unknownError]

/-- `SwbusErrorCode::try_from(i32)`: a declared value decodes to its code, any other
value is an `UnknownEnumValue`. -/
def tryFrom (v : BitVec 32) : Option SwbusErrorCode :=
  all.find? (fun e => e.toI32 == v)

@[simp] theorem tryFrom_toI32 (e : SwbusErrorCode) : tryFrom e.toI32 = some e := by
  cases e <;> decide

end SwbusErrorCode

/-- Modelled from the spec: `ManagementRequestType` (§6).  A reserved type is kept
by its Rust name, which is what its `Debug` prints. -/
inductive ManagementRequestType
  | swbusdGetRoutes
  | reserved (name : String)
deriving DecidableEq, Repr

namespace ManagementRequestType

/-- `ManagementRequestType::try_from(i32)`.  `0` is `SwbusdGetRoutes`, the first
value of a proto3 enum; `mgmtTypes` lists the other declared values with their
names; every other value is an `UnknownEnumValue`. -/
def tryFrom (mgmtTypes : List (BitVec 32 × String)) (v : BitVec 32) :
    Option ManagementRequestType :=
  if v = 0 then some swbusdGetRoutes else (mgmtTypes.lookup v).map reserved

/-- The `Debug` rendering of a type, as prost prints an enumeration field. -/
def fmtDebug : ManagementRequestType → String
  | swbusdGetRoutes => "SwbusdGetRoutes"
  | reserved name => name

end ManagementRequestType

/-! ## Bodies -/

/-- One argument of a `ManagementRequest`. -/
structure ManagementRequestArg where
  name : String
  value : String
deriving DecidableEq, Repr

/-- `ManagementRequest { request: i32, arguments }`. -/
structure ManagementRequest where
  request : BitVec 32
  arguments : List ManagementRequestArg
deriving DecidableEq, Repr

/-- The derived `Debug` of a `ManagementRequest`, as `{mgmt_request:?}` formats it:
the enumeration field by its variant name when the value decodes, by its number
otherwise. -/
def ManagementRequest.fmtDebug (mgmtTypes : List (BitVec 32 × String))
    (r : ManagementRequest) : String :=
  let request := match ManagementRequestType.tryFrom mgmtTypes r.request with
    | some t => t.fmtDebug
    | none => toString r.request.toInt
  let arg (a : ManagementRequestArg) : String :=
    "ManagementRequestArg \x7b name: " ++ a.name.quote ++ ", value: " ++ a.value.quote ++ " \x7d"
  "ManagementRequest \x7b request: " ++ request ++ ", arguments: [" ++
    ", ".intercalate (r.arguments.map arg) ++ "] \x7d"

/-- Modelled from the spec: one row of the route-table snapshot `export_routes`
returns (§4.E).  No modelled function looks inside a row. -/
structure RouteQueryResultEntry where
  servicePath : ServicePath
  nhId : String
  hopCount : UInt32
deriving DecidableEq, Repr

/-- `response_body` of a `Response` (§3). -/
inductive ResponseBody
  | routeQueryResult (entries : List RouteQueryResultEntry)
  | managementQueryResult (value : String)
deriving DecidableEq, Repr

/-- `RequestResponse`; the error code travels as its `i32`. -/
structure RequestResponse where
  requestId : UInt64
  errorCode : BitVec 32
  errorMessage : String
  responseBody : Option ResponseBody
deriving DecidableEq, Repr

/-- `swbus_message::Body`. -/
inductive Body
  | response (r : RequestResponse)
  | pingRequest
  | traceRouteRequest
  | managementRequest (r : ManagementRequest)
  | dataRequest (payload : List UInt8)
  | other
deriving DecidableEq, Repr

/-! ## The envelope -/

/-- `SwbusMessageHeader` (§3). -/
structure SwbusMessageHeader where
  version : UInt32
  id : UInt64
  flag : UInt32
  ttl : UInt32
  source : Option ServicePath
  destination : Option ServicePath
deriving DecidableEq, Repr

/-- `SwbusMessage`: both parts optional on the wire. -/
structure SwbusMessage where
  header : Option SwbusMessageHeader
  body : Option Body
deriving DecidableEq, Repr

/-- Modelled from the spec: `SwbusMessageHeader::new(source, destination, id)`.  The
TTL is the system default 63 (§3); version 1 and flag 0 are the values the
repository's test headers carry. -/
def SwbusMessageHeader.new (source destination : ServicePath) (id : UInt64) :
    SwbusMessageHeader :=
  { version := 1, id, flag := 0, ttl := 63, source := some source,
    destination := some destination }

/-- `SwbusMessage::new(header, body)`. -/
def SwbusMessage.new (header : SwbusMessageHeader) (body : Body) : SwbusMessage :=
  { header := some header, body := some body }

/-- Modelled from the spec: `RequestResponse::ok(request_id)`. -/
def RequestResponse.ok (requestId : UInt64) : RequestResponse :=
  { requestId, errorCode := SwbusErrorCode.ok.toI32, errorMessage := "",
    responseBody := none }

/-- Modelled from the spec: `RequestResponse::infra_error(request_id, code, message)`. -/
def RequestResponse.infraError (requestId : UInt64) (code : SwbusErrorCode)
    (message : String) : RequestResponse :=
  { requestId, errorCode := code.toI32, errorMessage := message, responseBody := none }

/-- Modelled from the spec: `SwbusMessage::new_response` (§4.B).  It reads only the
request's header, which every caller has already unwrapped, so it takes that:
`source = responder_sp or request.destination`, `destination = request.source`,
`request_id = request.id`, and the TTL back at its default. -/
def SwbusMessage.newResponse (request : SwbusMessageHeader) (responderSp : Option ServicePath)
    (errorCode : SwbusErrorCode) (errorMessage : String) (id : UInt64)
    (responseBody : Option ResponseBody) : SwbusMessage :=
  { header := some { version := 1, id, flag := 0, ttl := 63,
                     source := responderSp <|> request.destination,
                     destination := request.source },
    body := some (.response { requestId := request.id, errorCode := errorCode.toI32,
                              errorMessage, responseBody }) }

/-- A message with the four parts a receiver unwraps: header, source, destination
and body. -/
def SwbusMessage.wellFormed (m : SwbusMessage) : Bool :=
  match m.header with
  | some h => h.source.isSome && h.destination.isSome && m.body.isSome
  | none => false

/-- `m`'s header, source, destination and body are `h`, `s`, `dst` and `b`. -/
def SwbusMessage.Unwraps (m : SwbusMessage) (h : SwbusMessageHeader) (s dst : ServicePath)
    (b : Body) : Prop :=
  m.header = some h ∧ h.source = some s ∧ h.destination = some dst ∧ m.body = some b

theorem SwbusMessage.wellFormed_iff (m : SwbusMessage) :
    m.wellFormed = true ↔ ∃ h s dst b, m.Unwraps h s dst b := by
  obtain ⟨_ | h, b⟩ := m <;> simp [wellFormed, Unwraps, Option.isSome_iff_exists, and_assoc]

theorem SwbusMessage.Unwraps.unique {m : SwbusMessage} {h h' : SwbusMessageHeader}
    {s s' dst dst' : ServicePath} {b b' : Body} (hu : m.Unwraps h s dst b)
    (hu' : m.Unwraps h' s' dst' b') : h' = h ∧ s' = s ∧ dst' = dst ∧ b' = b := by
  obtain ⟨hh, hs, hd, hb⟩ := hu
  obtain ⟨hh', hs', hd', hb'⟩ := hu'
  obtain rfl := Option.some.inj (hh'.symm.trans hh)
  exact ⟨rfl, Option.some.inj (hs'.symm.trans hs), Option.some.inj (hd'.symm.trans hd),
    Option.some.inj (hb'.symm.trans hb)⟩

/-! ## Failures -/

/-- Modelled from the spec: `SwbusError` (§7).  `input` is `SwbusError::input`; a
connection proxy refuses a message with `queueFull` or, once its outbound task is
gone, `connectionClosed`. -/
inductive SwbusError
  | input (code : SwbusErrorCode) (detail : String)
  | queueFull
  | connectionClosed
deriving DecidableEq, Repr

/-- A Rust panic, by the construct that raised it. -/
inductive Panic
  /-- `Option::unwrap` on `None`. -/
  | unwrapNone
  /-- `Option::expect(msg)` on `None`. -/
  | expect (msg : String)
  /-- `Result::unwrap` on `Err(e)`. -/
  | unwrapErr (e : SwbusError)
  /-- `unimplemented!()`. -/
  | unimplemented
  /-- `x -= 1` on an unsigned `0` with overflow checks on. -/
  | subtractOverflow
deriving DecidableEq, Repr

/-- `u32` decrement, `x -= 1`.  Rust checks it with Cargo's `overflow-checks` (on in
debug builds) and panics at `0`; without them it wraps to `u32::MAX`. -/
def u32SubOne (overflowChecks : Bool) (x : UInt32) : Except Panic UInt32 :=
  if overflowChecks ∧ x = 0 then .error .subtractOverflow else .ok (x - 1)

/-! ## Small lemmas -/

@[simp] theorem SwbusMessageHeader.new_source (s d : ServicePath) (id : UInt64) :
    (SwbusMessageHeader.new s d id).source = some s := rfl

@[simp] theorem SwbusMessageHeader.new_destination (s d : ServicePath) (id : UInt64) :
    (SwbusMessageHeader.new s d id).destination = some d := rfl

@[simp] theorem SwbusMessageHeader.new_id (s d : ServicePath) (id : UInt64) :
    (SwbusMessageHeader.new s d id).id = id := rfl

@[simp] theorem SwbusMessage.new_header (h : SwbusMessageHeader) (b : Body) :
    (SwbusMessage.new h b).header = some h := rfl

@[simp] theorem SwbusMessage.new_body (h : SwbusMessageHeader) (b : Body) :
    (SwbusMessage.new h b).body = some b := rfl

namespace SwbusMessage

@[simp] theorem newResponse_header (request : SwbusMessageHeader) (sp : Option ServicePath)
    (e : SwbusErrorCode) (msg : String) (id : UInt64) (b : Option ResponseBody) :
    (newResponse request sp e msg id b).header =
      some { version := 1, id, flag := 0, ttl := 63, source := sp <|> request.destination,
             destination := request.source } := rfl

@[simp] theorem newResponse_body (request : SwbusMessageHeader) (sp : Option ServicePath)
    (e : SwbusErrorCode) (msg : String) (id : UInt64) (b : Option ResponseBody) :
    (newResponse request sp e msg id b).body =
      some (.response { requestId := request.id, errorCode := e.toI32,
                        errorMessage := msg, responseBody := b }) := rfl

end SwbusMessage

theorem u32SubOne_of_ne_zero (oc : Bool) {x : UInt32} (h : x ≠ 0) :
    u32SubOne oc x = .ok (x - 1) := by
  simp [u32SubOne, h]

theorem u32SubOne_ok {oc : Bool} {x t : UInt32} (hs : u32SubOne oc x = .ok t) :
    t = x - 1 ∧ (oc = false ∨ x ≠ 0) := by
  unfold u32SubOne at hs
  split at hs
  · cases hs
  · cases hs
    cases oc <;> simp_all

theorem u32SubOne_ok_ne_zero {oc : Bool} {x t : UInt32} (hs : u32SubOne oc x = .ok t)
    (hz : oc = true ∨ x ≠ 0) : t = x - 1 ∧ x ≠ 0 := by
  obtain ⟨rfl, h⟩ := u32SubOne_ok hs
  refine ⟨rfl, ?_⟩
  rcases hz with rfl | hz
  · simpa using h
  · exact hz

theorem UInt32.toNat_sub_one {x : UInt32} (h : x ≠ 0) : (x - 1).toNat + 1 = x.toNat := by
  have hx : x.toNat ≠ 0 := fun h0 => h (UInt32.toNat.inj h0)
  have hle : (1 : UInt32) ≤ x := by
    rw [UInt32.le_def, BitVec.le_def]
    show 1 ≤ x.toNat
    omega
  rw [UInt32.toNat_sub_of_le x 1 hle]
  show x.toNat - 1 + 1 = x.toNat
  omega

theorem UInt32.sub_one_eq_zero {x : UInt32} (h : x ≠ 0) : x - 1 = 0 ↔ x = 1 := by
  have hn := UInt32.toNat_sub_one h
  constructor
  · intro h1
    rw [h1, UInt32.toNat_zero] at hn
    exact UInt32.toNat.inj (show x.toNat = 1 by omega)
  · rintro rfl
    rfl

theorem u32SubOne_eq_ok_zero {oc : Bool} {x : UInt32} : u32SubOne oc x = .ok 0 ↔ x = 1 := by
  constructor
  · intro hs
    obtain ⟨h1, hz⟩ := u32SubOne_ok hs
    have hx : x ≠ 0 := by
      rintro rfl
      cases oc
      · exact absurd h1 (by decide)
      · simp at hz
    exact (UInt32.sub_one_eq_zero hx).mp h1.symm
  · rintro rfl
    cases oc <;> rfl

end Swbus
