import Swbus.NextHop
/-
# `Swbus.Relay` — a message passed from remote hop to remote hop

The TTL is the bus's only defence against routing loops (§8, "TTL termination"):
every remote hop lowers it by one and answers `Unreachable "TTL expired"` instead of
forwarding once it reaches zero.  Whether that bounds a loop is a statement about
*runs*, not about one call, so this module strings `queue_message` calls together.

`relay mgmtTypes oc hops m` passes `m` to the first hop of `hops` (each hop with the
daemon it lives on); whatever that hop puts on its send queue is delivered to the
next hop, and so on, until a hop answers, fails, panics, drops the message, or the
list ends.  It returns the copies queued, in order, and how the relay stopped.  The
copy a hop queued is read off its send queue (`queued`), not assumed.

## What is proved

For every build profile, every message with a header whose TTL `T` is not the
release-build `T = 0`, and every list of remote hops:

    the copies are m with TTL T-1, T-2, …, nothing else changed     (`relay_copies`)
    there are at most T-1 of them, none with a TTL at or above T     (`relay_length_le`)
    a relay that ends in a reply ends in the TTL-expired reply of the
    hop the last copy reached, hops[T-1]                              (`relay_answered`)

and, when there are at least `T ≥ 1` hops and the first `T-1` have room on their
queues, the relay queues exactly `T-1` copies and ends in exactly one `Unreachable`
reply, that of hops[T-1] (`relay_expires`).

## What it is NOT

The release-build `T = 0` case is excluded for a reason: there `header.ttl -= 1`
wraps, the first hop queues a copy with TTL `u32::MAX`, and the bound fails
(`relay_ttlZero_release`).  A peer that omits `ttl` sends exactly that `0`.
-/

namespace Swbus

/-- `m` with its TTL set to `t`; every other field is `m`'s. -/
def SwbusMessage.setTtl (m : SwbusMessage) (t : UInt32) : SwbusMessage :=
  { m with header := m.header.map fun h => { h with ttl := t } }

@[simp] theorem SwbusMessage.setTtl_header (m : SwbusMessage) (t : UInt32) :
    (m.setTtl t).header = m.header.map fun h => { h with ttl := t } := rfl

@[simp] theorem SwbusMessage.setTtl_body (m : SwbusMessage) (t : UInt32) :
    (m.setTtl t).body = m.body := rfl

@[simp] theorem SwbusMessage.setTtl_setTtl (m : SwbusMessage) (t t' : UInt32) :
    (m.setTtl t).setTtl t' = m.setTtl t' := by
  simp [SwbusMessage.setTtl, Option.map_map, Function.comp_def]

theorem SwbusMessage.setTtl_of_header {m : SwbusMessage} {h : SwbusMessageHeader}
    (hm : m.header = some h) (t : UInt32) :
    { m with header := some { h with ttl := t } } = m.setTtl t := by
  simp [SwbusMessage.setTtl, hm]

namespace SwbusNextHop

variable (mgmtTypes : List (BitVec 32 × String))

/-- The copy `nh` put on its send queue between `d` and `d'`, if any. -/
def queued (nh : SwbusNextHop) (d d' : Swbusd) : Option SwbusMessage :=
  nh.connProxy.bind fun p =>
    ((d'.queues p.queue).items.drop (d.queues p.queue).items.length).head?

/-- How a relay stopped. -/
inductive RelayEnd
  /-- The hops ran out; the last copy is still on its way. -/
  | inFlight
  /-- A hop returned `Ok(Some(r))`. -/
  | answered (r : SwbusMessage)
  /-- A hop returned `Ok(None)` without queueing (a local hop's drop). -/
  | dropped
  /-- A hop returned `Err(e)`. -/
  | failed (e : SwbusError)
  /-- A hop panicked. -/
  | panicked (p : Panic)
deriving DecidableEq, Repr

/-- A message passed along `hops`: each copy a hop queues is the next hop's input. -/
def relay (oc : Bool) : List (SwbusNextHop × Swbusd) → SwbusMessage →
    List SwbusMessage × RelayEnd
  | [], _ => ([], .inFlight)
  | (nh, d) :: hops, m =>
    match queueMessage mgmtTypes oc nh d m with
    | .error p => ([], .panicked p)
    | .ok (.error e, _) => ([], .failed e)
    | .ok (.ok (some r), _) => ([], .answered r)
    | .ok (.ok none, d') =>
      match queued nh d d' with
      | none => ([], .dropped)
      | some m' => (m' :: (relay oc hops m').1, (relay oc hops m').2)

/-- The reply a remote hop on daemon `mux` gives when the TTL runs out. -/
def ttlExpired (mux : SwbusMultiplexer) (h : SwbusMessageHeader) : SwbusMessage :=
  .newResponse { h with ttl := 0 } (some mux.mySp) .unreachable "TTL expired"
    mux.idGenerator.next none

/-! ## One remote hop -/

section Step
variable {mgmtTypes} {oc : Bool} {nh : SwbusNextHop} {d : Swbusd}
  {hops : List (SwbusNextHop × Swbusd)} {m : SwbusMessage} {h : SwbusMessageHeader}

theorem relay_expire (hr : nh.nhType = .remote) (hm : m.header = some h)
    (hs : u32SubOne oc h.ttl = .ok 0) :
    relay mgmtTypes oc ((nh, d) :: hops) m = ([], .answered (ttlExpired d.mux h)) := by
  simp [relay, queueMessage_remote_expire d hr hm hs, ttlExpired]

theorem relay_forward (hr : nh.nhType = .remote) {p : SwbusConnProxy}
    (hp : nh.connProxy = some p) (hm : m.header = some h) {t : UInt32}
    (hs : u32SubOne oc h.ttl = .ok t) (ht : t ≠ 0) {d' : Swbusd}
    (hq : d.tryQueue p (m.setTtl t) = .ok d') :
    relay mgmtTypes oc ((nh, d) :: hops) m =
      (m.setTtl t :: (relay mgmtTypes oc hops (m.setTtl t)).1,
        (relay mgmtTypes oc hops (m.setTtl t)).2) := by
  obtain ⟨-, hitems, -⟩ := Swbusd.tryQueue_ok hq
  simp [relay, queueMessage_remote_forward d hr hp hm hs ht, SwbusMessage.setTtl_of_header hm, hq,
    queued, hp, hitems]

theorem relay_remote (hr : nh.nhType = .remote) (hm : m.header = some h) :
    (∃ p, relay mgmtTypes oc ((nh, d) :: hops) m = ([], .panicked p)) ∨
    (u32SubOne oc h.ttl = .ok 0 ∧
      relay mgmtTypes oc ((nh, d) :: hops) m = ([], .answered (ttlExpired d.mux h))) ∨
    (∃ t, u32SubOne oc h.ttl = .ok t ∧ t ≠ 0 ∧
      ((∃ e, relay mgmtTypes oc ((nh, d) :: hops) m = ([], .failed e)) ∨
       relay mgmtTypes oc ((nh, d) :: hops) m =
         (m.setTtl t :: (relay mgmtTypes oc hops (m.setTtl t)).1,
          (relay mgmtTypes oc hops (m.setTtl t)).2))) := by
  obtain ⟨p, hp⟩ := Option.isSome_iff_exists.mp (nh.remote_proxy hr)
  cases hs : u32SubOne oc h.ttl with
  | error q => exact .inl ⟨q, by simp [relay, queueMessage_remote_overflow d hr hm hs]⟩
  | ok t =>
    by_cases ht : t = 0
    · subst ht
      exact .inr (.inl ⟨rfl, relay_expire hr hm hs⟩)
    · refine .inr (.inr ⟨t, rfl, ht, ?_⟩)
      cases hq : d.tryQueue p (m.setTtl t) with
      | error e =>
        exact .inl ⟨e, by simp [relay, queueMessage_remote_forward d hr hp hm hs ht,
          SwbusMessage.setTtl_of_header hm, hq]⟩
      | ok d' => exact .inr (relay_forward hr hp hm hs ht hq)

end Step

/-! ## Whole relays -/

section Run
variable {mgmtTypes} {oc : Bool}

/-- Every hop of the relay is a remote one. -/
def AllRemote (hops : List (SwbusNextHop × Swbusd)) : Prop :=
  ∀ x ∈ hops, x.1.nhType = .remote

theorem AllRemote.tail {x} {hops : List (SwbusNextHop × Swbusd)} (h : AllRemote (x :: hops)) :
    AllRemote hops := fun y hy => h y (List.mem_cons_of_mem x hy)

theorem relay_copies : ∀ (hops : List (SwbusNextHop × Swbusd)) (m : SwbusMessage)
    (h : SwbusMessageHeader), AllRemote hops → m.header = some h → (oc = true ∨ h.ttl ≠ 0) →
    ∀ i c, (relay mgmtTypes oc hops m).1[i]? = some c →
      ∃ t : UInt32, c = m.setTtl t ∧ t ≠ 0 ∧ t.toNat + (i + 1) = h.ttl.toNat
  | [], _, _, _, _, _, i, c, hc => by simp [relay] at hc
  | (nh, d) :: hops, m, h, hall, hm, hz, i, c, hc => by
    rcases @relay_remote mgmtTypes oc nh d hops m h (hall _ (List.mem_cons_self _ _)) hm with
      ⟨p, hrel⟩ | ⟨-, hrel⟩ | ⟨t, hs, ht, ⟨e, hrel⟩ | hrel⟩
    · simp [hrel] at hc
    · simp [hrel] at hc
    · simp [hrel] at hc
    · obtain ⟨rfl, h0⟩ := u32SubOne_ok_ne_zero hs hz
      have hn := UInt32.toNat_sub_one h0
      rw [hrel] at hc
      cases i with
      | zero => exact ⟨h.ttl - 1, by simpa using hc.symm, ht, by omega⟩
      | succ i =>
        obtain ⟨t', rfl, ht', hn'⟩ := relay_copies hops (m.setTtl (h.ttl - 1))
          { h with ttl := h.ttl - 1 } hall.tail (by simp [hm]) (.inr ht) i c (by simpa using hc)
        exact ⟨t', by simp, ht', by simp at hn'; omega⟩

theorem relay_length_le (hops : List (SwbusNextHop × Swbusd)) (m : SwbusMessage)
    (h : SwbusMessageHeader) (hall : AllRemote hops) (hm : m.header = some h)
    (hz : oc = true ∨ h.ttl ≠ 0) :
    (relay mgmtTypes oc hops m).1.length ≤ h.ttl.toNat - 1 := by
  have key := @relay_copies mgmtTypes oc hops m h hall hm hz
  generalize (relay mgmtTypes oc hops m).1 = xs at key ⊢
  rcases Nat.eq_zero_or_pos xs.length with hn | hn
  · omega
  · obtain ⟨t, -, ht, htt⟩ := key (xs.length - 1) _ (List.getElem?_eq_getElem (by omega))
    have : t.toNat ≠ 0 := fun h0 => ht (UInt32.toNat.inj h0)
    omega

/-- A relay ends in a reply only after `T - 1` copies, when the last copy arrives with
TTL `1`, and the reply is the TTL-expired one of the hop that copy reached. -/
theorem relay_answered : ∀ (hops : List (SwbusNextHop × Swbusd)) (m : SwbusMessage)
    (h : SwbusMessageHeader) (r : SwbusMessage), AllRemote hops → m.header = some h →
    (oc = true ∨ h.ttl ≠ 0) → (relay mgmtTypes oc hops m).2 = .answered r →
    (relay mgmtTypes oc hops m).1.length + 1 = h.ttl.toNat ∧
      ∃ x, hops[(relay mgmtTypes oc hops m).1.length]? = some x ∧ r = ttlExpired x.2.mux h
  | [], _, _, _, _, _, _, hr => by simp [relay] at hr
  | (nh, d) :: hops, m, h, r, hall, hm, hz, hr => by
    rcases @relay_remote mgmtTypes oc nh d hops m h (hall _ (List.mem_cons_self _ _)) hm with
      ⟨p, hrel⟩ | ⟨hs, hrel⟩ | ⟨t, hs, ht, ⟨e, hrel⟩ | hrel⟩
    · simp [hrel] at hr
    · obtain ⟨h1, h0⟩ := u32SubOne_ok_ne_zero hs hz
      have hn := UInt32.toNat_sub_one h0
      rw [← h1, UInt32.toNat_zero] at hn
      simp only [hrel, RelayEnd.answered.injEq] at hr ⊢
      exact ⟨by simpa using hn, (nh, d), by simp, hr.symm⟩
    · simp [hrel] at hr
    · obtain ⟨rfl, h0⟩ := u32SubOne_ok_ne_zero hs hz
      have hn := UInt32.toNat_sub_one h0
      rw [hrel] at hr ⊢
      obtain ⟨hlen, x, hx, rfl⟩ := relay_answered hops (m.setTtl (h.ttl - 1))
        { h with ttl := h.ttl - 1 } r hall.tail (by simp [hm]) (.inr ht) hr
      refine ⟨by simp at hlen ⊢; omega, x, by simpa using hx, ?_⟩
      simp [ttlExpired]

/-- **The TTL bound**, for every TTL but the release-build `0`: the copies are the
message with its TTL lowered one at a time, there are at most `T - 1` of them, and a
relay that ends in a reply ends, after exactly `T - 1` copies, in the TTL-expired
reply of the hop the last copy reached. -/
theorem relay_ttl_bound (hops : List (SwbusNextHop × Swbusd)) (m : SwbusMessage)
    (h : SwbusMessageHeader) (hall : AllRemote hops) (hm : m.header = some h)
    (hz : oc = true ∨ h.ttl ≠ 0) :
    (∀ i c, (relay mgmtTypes oc hops m).1[i]? = some c →
      ∃ t : UInt32, c = m.setTtl t ∧ t ≠ 0 ∧ t.toNat + (i + 1) = h.ttl.toNat) ∧
    (relay mgmtTypes oc hops m).1.length ≤ h.ttl.toNat - 1 ∧
    ∀ r, (relay mgmtTypes oc hops m).2 = .answered r →
      (relay mgmtTypes oc hops m).1.length + 1 = h.ttl.toNat ∧
        ∃ x, hops[(relay mgmtTypes oc hops m).1.length]? = some x ∧ r = ttlExpired x.2.mux h :=
  ⟨relay_copies hops m h hall hm hz, relay_length_le hops m h hall hm hz,
    fun r => relay_answered hops m h r hall hm hz⟩

/-- A hop whose send queue is open and below capacity. -/
def HasRoom (x : SwbusNextHop × Swbusd) : Prop :=
  ∀ p, x.1.connProxy = some p →
    (x.2.queues p.queue).closed = false ∧
      (x.2.queues p.queue).items.length < (x.2.queues p.queue).capacity

theorem relay_ends_answered : ∀ (hops : List (SwbusNextHop × Swbusd)) (m : SwbusMessage)
    (h : SwbusMessageHeader), AllRemote hops → (∀ x ∈ hops.take (h.ttl.toNat - 1), HasRoom x) →
    m.header = some h → h.ttl ≠ 0 → h.ttl.toNat ≤ hops.length →
    ∃ r, (relay mgmtTypes oc hops m).2 = .answered r
  | [], _, h, _, _, _, h0, hlen =>
    absurd (UInt32.toNat.inj (show h.ttl.toNat = (0 : UInt32).toNat by simp at hlen ⊢; omega)) h0
  | (nh, d) :: hops, m, h, hall, hroom, hm, h0, hlen => by
    have hr := hall _ (List.mem_cons_self _ _)
    by_cases h1 : h.ttl = 1
    · have hs : u32SubOne oc h.ttl = .ok 0 := by rw [h1]; cases oc <;> rfl
      exact ⟨_, by rw [relay_expire hr hm hs]⟩
    · have ht : h.ttl - 1 ≠ 0 := fun h' => h1 ((UInt32.sub_one_eq_zero h0).mp h')
      have hn := UInt32.toNat_sub_one h0
      have ht' : (h.ttl - 1).toNat ≠ 0 := fun h' => ht (UInt32.toNat.inj h')
      -- the first `T - 1` hops are this one and the tail's first `T - 2`
      have htake : ((nh, d) :: hops).take (h.ttl.toNat - 1) =
          (nh, d) :: hops.take ((h.ttl - 1).toNat - 1) := by
        rw [show h.ttl.toNat - 1 = (h.ttl - 1).toNat - 1 + 1 by omega, List.take_succ_cons]
      rw [htake] at hroom
      obtain ⟨p, hp⟩ := Option.isSome_iff_exists.mp ((nh, d).1.remote_proxy hr)
      obtain ⟨hc, hl⟩ := hroom _ (List.mem_cons_self _ _) p hp
      obtain ⟨d', hq⟩ := Swbusd.tryQueue_of_room (m.setTtl (h.ttl - 1)) hc hl
      rw [relay_forward hr hp hm (u32SubOne_of_ne_zero oc h0) ht hq]
      exact relay_ends_answered hops (m.setTtl (h.ttl - 1)) { h with ttl := h.ttl - 1 } hall.tail
        (fun y hy => hroom y (List.mem_cons_of_mem _ hy)) (by simp [hm]) ht
        (by simp at hlen ⊢; omega)

/-- **TTL termination.**  Along at least `T ≥ 1` remote hops whose first `T - 1` have
room, a message is queued exactly `T - 1` times and then answered, in either build, by
exactly one `Unreachable "TTL expired"` reply: that of the `T`-th hop. -/
theorem relay_expires (hops : List (SwbusNextHop × Swbusd)) (m : SwbusMessage)
    (h : SwbusMessageHeader) (hall : AllRemote hops)
    (hroom : ∀ x ∈ hops.take (h.ttl.toNat - 1), HasRoom x) (hm : m.header = some h)
    (h0 : h.ttl ≠ 0) (hlen : h.ttl.toNat ≤ hops.length) :
    (relay mgmtTypes oc hops m).1.length = h.ttl.toNat - 1 ∧
      ∃ x, hops[(relay mgmtTypes oc hops m).1.length]? = some x ∧
        (relay mgmtTypes oc hops m).2 = .answered (ttlExpired x.2.mux h) := by
  obtain ⟨r, hr⟩ := relay_ends_answered hops m h hall hroom hm h0 hlen
  obtain ⟨hlen', x, hx, rfl⟩ := relay_answered hops m h r hall hm (.inr h0) hr
  exact ⟨by omega, x, hx, hr⟩

theorem relay_ttl_bound_test :
    let h : SwbusMessageHeader :=
      { version := 1, id := 0, flag := 0, ttl := 1,
        source := some ⟨"region-a", "cluster-a", "10.0.0.1-dpu0", "testsvc", "0", "ping", "0"⟩,
        destination := some ⟨"region-a", "cluster-a", "10.0.0.3-dpu0", "local-mgmt", "0", "", ""⟩ }
    let hops : List (SwbusNextHop × Swbusd) :=
      [(newRemote ⟨0⟩ 5, { mux := ⟨⟨"region-a", "cluster-a", "10.0.0.2-dpu0", "", "", "", ""⟩, [], ⟨0⟩⟩,
                           queues := fun _ => ⟨[], 16, false⟩ })]
    AllRemote hops ∧ (⟨some h, some .pingRequest⟩ : SwbusMessage).header = some h ∧
      (false = true ∨ h.ttl ≠ 0) ∧
      (relay [] false hops ⟨some h, some .pingRequest⟩).1.length ≤ h.ttl.toNat - 1 := by
  intro h hops
  have hall : AllRemote hops := fun x hx => by rw [List.mem_singleton.mp hx]; rfl
  exact ⟨hall, rfl, .inr (by decide), (relay_ttl_bound _ _ h hall rfl (.inr (by decide))).2.1⟩

theorem relay_expires_test :
    let h : SwbusMessageHeader :=
      { version := 1, id := 0, flag := 0, ttl := 2,
        source := some ⟨"region-a", "cluster-a", "10.0.0.1-dpu0", "testsvc", "0", "ping", "0"⟩,
        destination := some ⟨"region-a", "cluster-a", "10.0.0.3-dpu0", "local-mgmt", "0", "", ""⟩ }
    let d : Swbusd :=
      { mux := ⟨⟨"region-a", "cluster-a", "10.0.0.2-dpu0", "", "", "", ""⟩, [], ⟨0⟩⟩,
        queues := fun _ => ⟨[], 16, false⟩ }
    let hops : List (SwbusNextHop × Swbusd) := [(newRemote ⟨0⟩ 5, d), (newRemote ⟨1⟩ 5, d)]
    AllRemote hops ∧ (∀ x ∈ hops.take (h.ttl.toNat - 1), HasRoom x) ∧ h.ttl ≠ 0 ∧
      h.ttl.toNat ≤ hops.length ∧
      (relay [] true hops ⟨some h, some .pingRequest⟩).1.length = h.ttl.toNat - 1 ∧
      ∃ x, hops[(relay [] true hops ⟨some h, some .pingRequest⟩).1.length]? = some x ∧
        (relay [] true hops ⟨some h, some .pingRequest⟩).2 = .answered (ttlExpired x.2.mux h) := by
  intro h d hops
  have hall : AllRemote hops := fun x hx => by
    rcases List.mem_pair.mp hx with rfl | rfl <;> rfl
  have hroom : ∀ x ∈ hops.take (h.ttl.toNat - 1), HasRoom x := fun x hx p _ => by
    rw [List.mem_singleton.mp hx]
    exact ⟨rfl, Nat.succ_pos _⟩
  exact ⟨hall, hroom, by decide, by decide, relay_expires hops _ h hall hroom rfl (by decide) (by decide)⟩

end Run

/-! ## TTL `0`

A peer that leaves `ttl` out sends `0`.  `header.ttl -= 1` then either panics (with
overflow checks) or wraps to `u32::MAX`, and the copy goes out with a TTL above the
one it came with; from there it may be forwarded `2^32 - 2` more times. -/

section Zero
variable {mgmtTypes} {nh : SwbusNextHop} {d : Swbusd} {hops : List (SwbusNextHop × Swbusd)}
  {m : SwbusMessage} {h : SwbusMessageHeader}

theorem relay_ttlZero (hr : nh.nhType = .remote) {p : SwbusConnProxy}
    (hp : nh.connProxy = some p) (hm : m.header = some h) (h0 : h.ttl = 0)
    (hc : (d.queues p.queue).closed = false)
    (hl : (d.queues p.queue).items.length < (d.queues p.queue).capacity) :
    relay mgmtTypes false ((nh, d) :: hops) m =
      (m.setTtl 4294967295 :: (relay mgmtTypes false hops (m.setTtl 4294967295)).1,
        (relay mgmtTypes false hops (m.setTtl 4294967295)).2) ∧
    relay mgmtTypes true ((nh, d) :: hops) m = ([], .panicked .subtractOverflow) := by
  obtain ⟨d', hq⟩ := Swbusd.tryQueue_of_room (m.setTtl 4294967295) hc hl
  have hs : u32SubOne false h.ttl = .ok 4294967295 := by rw [h0]; rfl
  have hs' : u32SubOne true h.ttl = .error .subtractOverflow := by rw [h0]; rfl
  exact ⟨relay_forward hr hp hm hs (by decide) hq,
    by simp [relay, queueMessage_remote_overflow d hr hm hs']⟩

/-- The ping of `test_queue_message_remote_ttl_expired` with `ttl` left out, at the
test's remote hop: a release build queues it with TTL `u32::MAX`, a debug build
panics. -/
theorem relay_ttlZero_release :
    let m : SwbusMessage :=
      { header := some
          { version := 1, id := 0, flag := 0, ttl := 0,
            source := some ⟨"region-a", "cluster-a", "10.0.0.1-dpu0", "testsvc", "0", "ping", "0"⟩,
            destination := some ⟨"region-a", "cluster-a", "10.0.0.3-dpu0", "local-mgmt", "0", "", ""⟩ },
        body := some .pingRequest }
    let d : Swbusd :=
      { mux := ⟨⟨"region-a", "cluster-a", "10.0.0.2-dpu0", "", "", "", ""⟩, [], ⟨0⟩⟩,
        queues := fun _ => ⟨[], 16, false⟩ }
    relay [] false [(newRemote ⟨0⟩ 5, d)] m = ([m.setTtl 4294967295], .inFlight) ∧
    relay [] true [(newRemote ⟨0⟩ 5, d)] m = ([], .panicked .subtractOverflow) :=
  relay_ttlZero rfl rfl rfl rfl rfl (by decide)

end Zero

end SwbusNextHop

end Swbus
