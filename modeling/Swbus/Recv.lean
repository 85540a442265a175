import Swbus.Ids
/-
# `Swbus.Recv` — one call of `recv`, and hamgrd's sink task

`recv` takes the messages out of the handler mailbox in order, hands each to
`handle_received_message`, sends each auto-reply with
`self.rt.send(msg).await.unwrap()`, skips what is ignored, and returns at the first
message for the actor — or `None` once the channel is closed and empty.  hamgrd runs
one client in sink mode under `loop { sink.recv().await; }` to drain every message no
actor takes (`main.rs`).

## What is proved

* `recv_eq_run` — a `recv` that returns is a run of `handle_received_message` calls
  (`Swbus.Ids`) over the messages it consumed: it sends exactly what that run
  creates and leaves the client that run leaves.  So its replies carry consecutive
  ids from the client's generator (`recv_reply_ids`).
* `recv_delivers_first_passable` — on well-formed messages, with every send
  accepted, `recv` returns.  It consumes the mailbox up to and including the first
  passable message and hands that over translated; with none, it consumes
  everything and returns `None` exactly on a closed channel.  Each message consumed
  on the way causes one auto-reply if the client answers it and none otherwise.
* `drainLoop_drains` — so a loop of `recv`s, hamgrd's sink task among them, empties
  its mailbox in at most one round per message, and is handed exactly the passable
  messages, in mailbox order: none lost, repeated or reordered.
* `drainLoop_replies` — and it sends, in mailbox order, exactly each message's
  auto-replies: one `NoRoute` per stray of a sink, one `Ok` per ping or trace-route
  it takes, nothing for any other message (§8, scenario 5, over a whole mailbox).
* `drainLoop_refused_reply_panics` — a single reply the runtime refuses panics in
  the `unwrap` and ends the sink task, with the rest of the mailbox never drained.

## The two hypotheses, and why neither is avoidable

Every message in the mailbox has a header, a source, a destination and a body, and
every `send` of an auto-reply is accepted.  Each guards an `unwrap` of the source:
without the first `handle_received_message` panics (`Swbus.Panics`), without the
second `recv` does (`drainLoop_refused_reply_panics`), and either panic ends the
loop with messages left behind.

## What it is NOT

Waiting is not modelled: on an open, empty mailbox `recv` returns `waiting`, where
the task parks.  Which sends the runtime refuses is the parameter `sendResult`.
-/

namespace Swbus

namespace SimpleSwbusEdgeClient

variable (mgmtTypes : List (BitVec 32 × String))
  (sendResult : List SwbusMessage → SwbusMessage → Except SwbusError Unit)

/-! ## Passable messages and auto-replies

These say, from the message alone, what the actor is handed and what the client
answers on its own; the lemmas below tie them to `handle_received_message`. -/

section Spec
variable (c : SimpleSwbusEdgeClient)

/-- `m` is passable with translation `i`: it is not a sink's stray, and its body is
one the actor is handed (see `incoming_eq_none_iff`). -/
def Passable (m : SwbusMessage) (i : IncomingMessage) : Prop :=
  ∃ h s dst b, m.Unwraps h s dst b ∧ (c.sink = false ∨ dst = c.source) ∧
    incoming mgmtTypes h.id s dst b = some i

/-- `r` is the client's own answer to `m`, under some fresh id: a sink's `NoRoute`
to a stray, or the `Ok` to a ping or trace-route that is not a stray. -/
def AutoReply (m r : SwbusMessage) : Prop :=
  ∃ h s dst b id, m.Unwraps h s dst b ∧
    ((c.sink = true ∧ dst ≠ c.source ∧
        r = .new (.new c.source s id) (.response (.infraError h.id .noRoute "Route not found"))) ∨
     ((c.sink = false ∨ dst = c.source) ∧ (b = .pingRequest ∨ b = .traceRouteRequest) ∧
        r = .new (.new dst s id) (.response (.ok h.id))))

/-- The messages sent for one consumed message: one auto-reply if the client
answers it, none otherwise. -/
def Replies (m : SwbusMessage) (rs : List SwbusMessage) : Prop :=
  (∃ r, AutoReply c m r ∧ rs = [r]) ∨ ((∀ r, ¬AutoReply c m r) ∧ rs = [])

/-- What `recv` hands over for `m`: its translation if it is passable, else
nothing. -/
def handOver (m : SwbusMessage) : Option IncomingMessage :=
  match m.header, m.body with
  | some h, some b =>
    match h.source, h.destination with
    | some s, some dst =>
      if c.sink = true ∧ dst ≠ c.source then none else incoming mgmtTypes h.id s dst b
    | _, _ => none
  | _, _ => none

end Spec

theorem incoming_eq_none_iff {id : UInt64} {s dst : ServicePath} {b : Body} :
    incoming mgmtTypes id s dst b = none ↔
      b = .pingRequest ∨ b = .traceRouteRequest ∨ b = .other ∨
        ∃ r, b = .managementRequest r ∧ ManagementRequestType.tryFrom mgmtTypes r.request = none := by
  cases b <;> simp [incoming]

/-! ## One message -/

section Step
variable {mgmtTypes} (c : SimpleSwbusEdgeClient) {m : SwbusMessage} {h : SwbusMessageHeader}
  {s dst : ServicePath} {b : Body} (hu : m.Unwraps h s dst b)
include hu

theorem passable_iff (i : IncomingMessage) :
    Passable mgmtTypes c m i ↔ (c.handleUnwrapped mgmtTypes h.id s dst b).1 = .passToActor i := by
  constructor
  · rintro ⟨h', s', dst', b', hu', hd, hi⟩
    obtain ⟨rfl, rfl, rfl, rfl⟩ := hu.unique hu'
    exact (handleUnwrapped_fst_pass c hd i).mpr hi
  · intro hp
    by_cases hst : c.sink = true ∧ dst ≠ c.source
    · simp [handleUnwrapped_stray c b hst.1 hst.2] at hp
    · exact ⟨h, s, dst, b, hu, not_stray hst, (handleUnwrapped_fst_pass c (not_stray hst) i).mp hp⟩

theorem autoReply_of_respond {r : SwbusMessage}
    (hr : (c.handleUnwrapped mgmtTypes h.id s dst b).1 = .respond r) : AutoReply c m r :=
  ⟨h, s, dst, b, _, hu, (handleUnwrapped_respond c (Prod.ext hr rfl)).2⟩

theorem not_autoReply (hr : ∀ r, (c.handleUnwrapped mgmtTypes h.id s dst b).1 ≠ .respond r)
    (r : SwbusMessage) : ¬AutoReply c m r := by
  rintro ⟨h', s', dst', b', id, hu', hr'⟩
  obtain ⟨rfl, rfl, rfl, rfl⟩ := hu'.unique hu
  rcases hr' with ⟨hs, hd, -⟩ | ⟨hd, hb, -⟩
  · exact hr _ (by rw [handleUnwrapped_stray c b hs hd]; rfl)
  · rw [handleUnwrapped_body c b hd] at hr
    rcases hb with rfl | rfl <;> exact hr _ rfl

end Step

theorem passable_iff_handOver (c : SimpleSwbusEdgeClient) (m : SwbusMessage)
    (i : IncomingMessage) : Passable mgmtTypes c m i ↔ handOver mgmtTypes c m = some i := by
  constructor
  · rintro ⟨h, s, dst, b, ⟨hh, hs, hd, hb⟩, hst, hi⟩
    have hn : ¬(c.sink = true ∧ dst ≠ c.source) := by rcases hst with hst | hst <;> simp [hst]
    simp only [handOver, hh, hb, hs, hd, if_neg hn, hi]
  · intro hm
    unfold handOver at hm
    split at hm
    · split at hm
      · split_ifs at hm with hst
        exact ⟨_, _, _, _, ⟨‹_›, ‹_›, ‹_›, ‹_›⟩, not_stray hst, hm⟩
      · cases hm
    · cases hm

theorem handOver_congr {c c' : SimpleSwbusEdgeClient} (hs : c'.source = c.source)
    (hk : c'.sink = c.sink) : handOver mgmtTypes c' = handOver mgmtTypes c := by
  funext m
  simp only [handOver, hs, hk]

/-! ## The loop -/

theorem recvLoop_eq_run (closed : Bool) {out : RecvOutcome} :
    ∀ (c : SimpleSwbusEdgeClient) (rt : SwbusEdgeRuntime) (ms : List SwbusMessage),
    recvLoop mgmtTypes sendResult closed c rt ms = .ok out →
    ∃ k, out.mailbox.buffered = ms.drop k ∧
      out.rt.sent = rt.sent ++ (run mgmtTypes c ((ms.take k).map .handle)).1 ∧
      out.client = (run mgmtTypes c ((ms.take k).map .handle)).2
  | c, rt, [], h => by
    cases h
    exact ⟨0, rfl, by simp [run, runCalls], rfl⟩
  | c, rt, m :: ms, h => by
    simp only [recvLoop] at h
    cases hm : c.handleReceivedMessage mgmtTypes m with
    | error p => simp [hm] at h
    | ok res =>
      obtain ⟨res, c'⟩ := res
      have hexec : (Call.handle m).exec mgmtTypes c = .ok (res.response?, c') := by
        simp [Call.exec, hm, Except.map]
      rw [hm] at h
      cases res with
      | passToActor i =>
        cases h
        exact ⟨1, rfl, by simp [run, runCalls, hexec, HandleReceivedMessage.response?]⟩
      | respond r =>
        cases hs : sendResult rt.sent r with
        | error e => simp [SwbusEdgeRuntime.send, hs, Except.map] at h
        | ok u =>
          simp only [SwbusEdgeRuntime.send, hs, Except.map] at h
          obtain ⟨k, h1, h2, h3⟩ := recvLoop_eq_run closed c' _ ms h
          exact ⟨k + 1, h1, by simpa [run, runCalls, hexec, HandleReceivedMessage.response?] using h2,
            by simpa [run, runCalls, hexec] using h3⟩
      | ignore =>
        obtain ⟨k, h1, h2, h3⟩ := recvLoop_eq_run closed c' rt ms h
        exact ⟨k + 1, h1, by simpa [run, runCalls, hexec, HandleReceivedMessage.response?] using h2,
          by simpa [run, runCalls, hexec] using h3⟩

/-- On well-formed messages, with every send accepted, `recv`'s loop returns: at
the first passable message, or with the mailbox empty. -/
theorem recvLoop_spec (closed : Bool) (hsend : ∀ sent m, sendResult sent m = .ok ()) :
    ∀ (c : SimpleSwbusEdgeClient) (rt : SwbusEdgeRuntime) (ms : List SwbusMessage),
    (∀ m ∈ ms, m.wellFormed = true) →
    ∃ out pre chunks, recvLoop mgmtTypes sendResult closed c rt ms = .ok out ∧
      (∀ m ∈ pre, ∀ i, ¬Passable mgmtTypes c m i) ∧ List.Forall₂ (Replies c) pre chunks ∧
      out.rt.sent = rt.sent ++ chunks.flatten ∧
      ((∃ p i post, ms = pre ++ p :: post ∧ Passable mgmtTypes c p i ∧
          out.result = .received (some i) ∧ out.mailbox = ⟨post, closed⟩) ∨
       (ms = pre ∧ out.result = (if closed then .received none else .waiting) ∧
          out.mailbox = ⟨[], closed⟩))
  | c, rt, [], _ => ⟨_, [], [], rfl, by simp, .nil, by simp, .inr ⟨rfl, rfl, rfl⟩⟩
  | c, rt, m :: ms, hwf => by
    obtain ⟨h, s, dst, b, hu⟩ := (m.wellFormed_iff).mp (hwf m (List.mem_cons_self _ _))
    have hwf' : ∀ m ∈ ms, m.wellFormed = true := fun m hm => hwf m (List.mem_cons_of_mem _ hm)
    simp only [recvLoop, handleReceivedMessage_eq c hu.1 hu.2.1 hu.2.2.1 hu.2.2.2]
    cases hres : c.handleUnwrapped mgmtTypes h.id s dst b with
    | mk res c' =>
    cases res with
    | passToActor i =>
      exact ⟨_, [], [], rfl, by simp, .nil, by simp,
        .inl ⟨m, i, ms, rfl, (passable_iff c hu i).mpr (by rw [hres]), rfl, rfl⟩⟩
    | respond r =>
      have hr : (c.handleUnwrapped mgmtTypes h.id s dst b).1 = .respond r := by rw [hres]
      obtain ⟨rfl, -⟩ := handleUnwrapped_respond c hres
      obtain ⟨out, pre, chunks, hrun, hpre, hrep, hsent, hend⟩ :=
        recvLoop_spec closed hsend { c with idGenerator := ⟨c.idGenerator.next + 1⟩ }
          ⟨rt.sent ++ [r]⟩ ms hwf'
      refine ⟨out, m :: pre, [r] :: chunks,
        by simpa [SwbusEdgeRuntime.send, hsend, Except.map] using hrun, ?_,
        .cons (.inl ⟨r, autoReply_of_respond c hu hr, rfl⟩) hrep, by simp [hsent], ?_⟩
      · exact List.forall_mem_cons.mpr
          ⟨fun i hp => (by rw [(passable_iff c hu i).mp hp] at hr; cases hr), hpre⟩
      · exact hend.imp (fun ⟨p, i, post, he, hp⟩ => ⟨p, i, post, congrArg (List.cons m) he, hp⟩)
          fun ⟨he, hr⟩ => ⟨congrArg (List.cons m) he, hr⟩
    | ignore =>
      have hi : (c.handleUnwrapped mgmtTypes h.id s dst b).1 = .ignore := by rw [hres]
      have hnr : ∀ r, (c.handleUnwrapped mgmtTypes h.id s dst b).1 ≠ .respond r := by
        intro r h'
        rw [hi] at h'
        cases h'
      have hc : c' = c := by rw [← handleUnwrapped_snd_of_not_respond c hnr, hres]
      rw [hc]
      obtain ⟨out, pre, chunks, hrun, hpre, hrep, hsent, hend⟩ :=
        recvLoop_spec closed hsend c rt ms hwf'
      refine ⟨out, m :: pre, [] :: chunks, hrun, ?_,
        .cons (.inr ⟨not_autoReply c hu hnr, rfl⟩) hrep, by simpa using hsent, ?_⟩
      · exact List.forall_mem_cons.mpr
          ⟨fun i hp => (by rw [(passable_iff c hu i).mp hp] at hi; cases hi), hpre⟩
      · exact hend.imp (fun ⟨p, i, post, he, hp⟩ => ⟨p, i, post, congrArg (List.cons m) he, hp⟩)
          fun ⟨he, hr⟩ => ⟨congrArg (List.cons m) he, hr⟩

/-! ## `recv` -/

/-- A `recv` that returns is the run of `handle_received_message` over the messages
it consumed: it sends what that run creates, in order, and leaves its client. -/
theorem recv_eq_run (c : SimpleSwbusEdgeClient) (rt : SwbusEdgeRuntime) (mb : Mailbox)
    {out : RecvOutcome} (h : c.recv mgmtTypes sendResult rt mb = .ok out) :
    ∃ k, out.mailbox.buffered = mb.buffered.drop k ∧
      out.rt.sent = rt.sent ++ (run mgmtTypes c ((mb.buffered.take k).map .handle)).1 ∧
      out.client = (run mgmtTypes c ((mb.buffered.take k).map .handle)).2 :=
  recvLoop_eq_run mgmtTypes sendResult mb.closed c rt mb.buffered h

theorem recv_eq_run_ping_data :
    let c : SimpleSwbusEdgeClient :=
      ⟨⟨"region-a", "cluster-a", "10.0.0.1-dpu0", "", "", "hamgrd", "0"⟩, ⟨5⟩, false⟩
    let peer : ServicePath := ⟨"region-a", "cluster-a", "10.0.0.2-dpu0", "", "", "hamgrd", "0"⟩
    let mb : Mailbox :=
      ⟨[.new (.new peer c.source 1) .pingRequest, .new (.new peer c.source 2) (.dataRequest [7])],
        false⟩
    let accept : List SwbusMessage → SwbusMessage → Except SwbusError Unit := fun _ _ => .ok ()
    ∃ out, c.recv [] accept ⟨[]⟩ mb = .ok out ∧
      ∃ k, out.mailbox.buffered = mb.buffered.drop k ∧
        out.rt.sent = (run [] c ((mb.buffered.take k).map .handle)).1 ∧
        out.client = (run [] c ((mb.buffered.take k).map .handle)).2 := by
  intro c peer mb accept
  exact ⟨_, rfl, recv_eq_run [] accept c ⟨[]⟩ mb rfl⟩

/-- The replies a returning `recv` sends carry consecutive ids from the client's
generator. -/
theorem recv_reply_ids (c : SimpleSwbusEdgeClient) (rt : SwbusEdgeRuntime) (mb : Mailbox)
    {out : RecvOutcome} (h : c.recv mgmtTypes sendResult rt mb = .ok out) :
    ∃ replies, out.rt.sent = rt.sent ++ replies ∧
      replies.map (fun m => m.headerId.map UInt64.toNat) =
        (List.range replies.length).map
          fun i => some ((c.idGenerator.next.toNat + i) % UInt64.size) := by
  obtain ⟨k, -, hsent, -⟩ := recvLoop_eq_run mgmtTypes sendResult mb.closed c rt mb.buffered h
  exact ⟨_, hsent, runCalls_ids Call.drawsIds c _⟩

/-- `recv` on a mailbox of well-formed messages, with every send accepted: it
returns; it consumes the mailbox up to and including the first passable message
and hands over its translation, or, with none, consumes everything and returns
`None` only on a closed channel; and every message it consumed on the way caused
exactly its auto-replies, in order. -/
theorem recv_delivers_first_passable (c : SimpleSwbusEdgeClient) (rt : SwbusEdgeRuntime)
    (mb : Mailbox) (hwf : ∀ m ∈ mb.buffered, m.wellFormed = true)
    (hsend : ∀ sent m, sendResult sent m = .ok ()) :
    ∃ out pre chunks, c.recv mgmtTypes sendResult rt mb = .ok out ∧
      (∀ m ∈ pre, ∀ i, ¬Passable mgmtTypes c m i) ∧ List.Forall₂ (Replies c) pre chunks ∧
      out.rt.sent = rt.sent ++ chunks.flatten ∧
      ((∃ p i post, mb.buffered = pre ++ p :: post ∧ Passable mgmtTypes c p i ∧
          out.result = .received (some i) ∧ out.mailbox = ⟨post, mb.closed⟩) ∨
       (mb.buffered = pre ∧ out.result = (if mb.closed then .received none else .waiting) ∧
          out.mailbox = ⟨[], mb.closed⟩)) :=
  recvLoop_spec mgmtTypes sendResult mb.closed hsend c rt mb.buffered hwf

theorem recv_delivers_first_passable_ping_data :
    let c : SimpleSwbusEdgeClient :=
      ⟨⟨"region-a", "cluster-a", "10.0.0.1-dpu0", "", "", "hamgrd", "0"⟩, ⟨5⟩, false⟩
    let peer : ServicePath := ⟨"region-a", "cluster-a", "10.0.0.2-dpu0", "", "", "hamgrd", "0"⟩
    let mb : Mailbox :=
      ⟨[.new (.new peer c.source 1) .pingRequest, .new (.new peer c.source 2) (.dataRequest [7])],
        false⟩
    let accept : List SwbusMessage → SwbusMessage → Except SwbusError Unit := fun _ _ => .ok ()
    (∀ m ∈ mb.buffered, m.wellFormed = true) ∧ (∀ sent m, accept sent m = .ok ()) ∧
      ∃ out pre chunks, c.recv [] accept ⟨[]⟩ mb = .ok out ∧
        (∀ m ∈ pre, ∀ i, ¬Passable [] c m i) ∧ List.Forall₂ (Replies c) pre chunks ∧
        out.rt.sent = chunks.flatten ∧
        ((∃ p i post, mb.buffered = pre ++ p :: post ∧ Passable [] c p i ∧
            out.result = .received (some i) ∧ out.mailbox = ⟨post, mb.closed⟩) ∨
         (mb.buffered = pre ∧ out.result = (if mb.closed then .received none else .waiting) ∧
            out.mailbox = ⟨[], mb.closed⟩)) := by
  intro c peer mb accept
  have hwf : ∀ m ∈ mb.buffered, m.wellFormed = true := by decide
  have hsend : ∀ sent m, accept sent m = .ok () := fun _ _ => rfl
  exact ⟨hwf, hsend, recv_delivers_first_passable [] accept c ⟨[]⟩ mb hwf hsend⟩

/-! ## The receive loop and hamgrd's sink task -/

/-- `loop { client.recv().await; }` for `n` rounds, with what the rounds' `recv`s
returned, in order; a panic ends the loop.  hamgrd's sink task is this loop, and
drops what it is handed. -/
def drainLoop : Nat → SimpleSwbusEdgeClient → SwbusEdgeRuntime → Mailbox →
    Except Panic (List IncomingMessage × SimpleSwbusEdgeClient × SwbusEdgeRuntime × Mailbox)
  | 0, c, rt, mb => .ok ([], c, rt, mb)
  | n + 1, c, rt, mb =>
    match c.recv mgmtTypes sendResult rt mb with
    | .error p => .error p
    | .ok out =>
      (drainLoop n out.client out.rt out.mailbox).map fun (is, s) => (out.result.toList ++ is, s)

theorem replies_congr {c c' : SimpleSwbusEdgeClient} (hs : c'.source = c.source)
    (hk : c'.sink = c.sink) : Replies c' = Replies c := by
  funext m rs
  simp only [Replies, AutoReply, hs, hk]

theorem replies_of_passable {c : SimpleSwbusEdgeClient} {m : SwbusMessage} {i : IncomingMessage}
    (hp : Passable mgmtTypes c m i) : Replies c m [] := by
  have ⟨h, s, dst, b, hu, _⟩ := hp
  have hnr : ∀ r, (c.handleUnwrapped mgmtTypes h.id s dst b).1 ≠ .respond r := fun r hr => by
    rw [(passable_iff c hu i).mp hp] at hr
    cases hr
  exact .inr ⟨not_autoReply c hu hnr, rfl⟩

theorem drainLoop_of_length_le (hsend : ∀ sent m, sendResult sent m = .ok ()) (closed : Bool) :
    ∀ (n : Nat) (c : SimpleSwbusEdgeClient) (rt : SwbusEdgeRuntime) (ms : List SwbusMessage),
    ms.length ≤ n → (∀ m ∈ ms, m.wellFormed = true) →
    ∃ c' rt' chunks, drainLoop mgmtTypes sendResult n c rt ⟨ms, closed⟩ =
      .ok (ms.filterMap (handOver mgmtTypes c), c', rt', ⟨[], closed⟩) ∧
      List.Forall₂ (Replies c) ms chunks ∧ rt'.sent = rt.sent ++ chunks.flatten
  | 0, c, rt, ms, hn, _ => by
    rw [List.eq_nil_of_length_eq_zero (Nat.le_zero.mp hn)]
    exact ⟨c, rt, [], rfl, .nil, by simp⟩
  | n + 1, c, rt, ms, hn, hwf => by
    obtain ⟨out, pre, chunks, hrun, hpre, hrep, hsent, hend⟩ :=
      recvLoop_spec mgmtTypes sendResult closed hsend c rt ms hwf
    -- the loop's client keeps `c`'s address and sink flag, so it hands over and
    -- answers as `c` does
    obtain ⟨hs, hk⟩ : out.client.source = c.source ∧ out.client.sink = c.sink := by
      obtain ⟨k, -, -, hcl⟩ := recvLoop_eq_run mgmtTypes sendResult closed c rt ms hrun
      rw [hcl]
      exact run_keeps_address c ((ms.take k).map .handle)
    have hho := handOver_congr mgmtTypes hs hk
    have hnone : pre.filterMap (handOver mgmtTypes c) = [] :=
      List.filterMap_eq_nil_iff.mpr fun m hm => Option.eq_none_iff_forall_not_mem.mpr
        fun i hi => hpre m hm i ((passable_iff_handOver mgmtTypes c m i).mpr hi)
    rcases hend with ⟨p, i, post, rfl, hp, hres, hmb⟩ | ⟨rfl, hres, hmb⟩
    · obtain ⟨c', rt', chunks', hpost, hrep', hsent'⟩ :=
        drainLoop_of_length_le hsend closed n out.client out.rt post
          (by simp at hn; omega) (fun m hm => hwf m (by simp [hm]))
      refine ⟨c', rt', chunks ++ [] :: chunks', ?_,
        List.rel_append hrep (.cons (replies_of_passable mgmtTypes hp)
          (replies_congr hs hk ▸ hrep')), by simp [hsent', hsent]⟩
      rw [hho] at hpost
      simp [drainLoop, recv, hrun, hmb, hpost, hres, Recv.toList, Except.map, hnone,
        (passable_iff_handOver mgmtTypes c p i).mp hp]
    · obtain ⟨c', rt', chunks', hnil, hrep', hsent'⟩ :=
        drainLoop_of_length_le hsend closed n out.client out.rt [] (Nat.zero_le _) (by simp)
      obtain rfl := List.forall₂_nil_left_iff.mp hrep'
      refine ⟨c', rt', chunks, ?_, hrep, by simp [hsent', hsent]⟩
      have hempty : out.result.toList = [] := by rw [hres]; split <;> rfl
      simp [drainLoop, recv, hrun, hmb, hnil, hempty, Except.map, hnone]

/-- With well-formed messages and every reply accepted, the loop empties its mailbox
in at most one round per message, and its `recv`s return exactly the passable
messages, translated, in mailbox order: none is lost, repeated or reordered. -/
theorem drainLoop_drains (c : SimpleSwbusEdgeClient) (rt : SwbusEdgeRuntime) (mb : Mailbox)
    (hwf : ∀ m ∈ mb.buffered, m.wellFormed = true)
    (hsend : ∀ sent m, sendResult sent m = .ok ()) :
    ∃ c' rt', drainLoop mgmtTypes sendResult mb.buffered.length c rt mb =
      .ok (mb.buffered.filterMap (handOver mgmtTypes c), c', rt', ⟨[], mb.closed⟩) :=
  let ⟨c', rt', _, h, _⟩ :=
    drainLoop_of_length_le mgmtTypes sendResult hsend mb.closed _ c rt mb.buffered le_rfl hwf
  ⟨c', rt', h⟩

theorem drainLoop_drains_stray_ping :
    let sink : SimpleSwbusEdgeClient :=
      ⟨⟨"region-a", "cluster-a", "10.0.0.2-dpu0", "", "", "hamgrd", "0"⟩, ⟨0⟩, true⟩
    let peer : ServicePath := ⟨"region-a", "cluster-a", "10.0.0.1-dpu0", "", "", "hamgrd", "0"⟩
    let mb : Mailbox :=
      ⟨[.new (.new peer ⟨"region-a", "cluster-a", "10.0.0.2-dpu0", "", "", "swss", "0"⟩ 1)
          (.dataRequest [7]),
        .new (.new peer sink.source 2) .pingRequest], true⟩
    let accept : List SwbusMessage → SwbusMessage → Except SwbusError Unit := fun _ _ => .ok ()
    (∀ m ∈ mb.buffered, m.wellFormed = true) ∧ (∀ sent m, accept sent m = .ok ()) ∧
      ∃ c' rt', drainLoop [] accept mb.buffered.length sink ⟨[]⟩ mb =
        .ok (mb.buffered.filterMap (handOver [] sink), c', rt', ⟨[], true⟩) := by
  intro sink peer mb accept
  have hwf : ∀ m ∈ mb.buffered, m.wellFormed = true := by decide
  have hsend : ∀ sent m, accept sent m = .ok () := fun _ _ => rfl
  exact ⟨hwf, hsend, drainLoop_drains [] accept sink ⟨[]⟩ mb hwf hsend⟩

/-- With well-formed messages and every reply accepted, the loop answers each message
of its mailbox with exactly its auto-replies, in mailbox order: a sink's strays one
`NoRoute` each, a ping or trace-route it takes one `Ok` each, every other message
nothing. -/
theorem drainLoop_replies (c : SimpleSwbusEdgeClient) (rt : SwbusEdgeRuntime) (mb : Mailbox)
    (hwf : ∀ m ∈ mb.buffered, m.wellFormed = true)
    (hsend : ∀ sent m, sendResult sent m = .ok ()) :
    ∃ is c' rt' chunks, drainLoop mgmtTypes sendResult mb.buffered.length c rt mb =
      .ok (is, c', rt', ⟨[], mb.closed⟩) ∧
      List.Forall₂ (Replies c) mb.buffered chunks ∧ rt'.sent = rt.sent ++ chunks.flatten :=
  let ⟨c', rt', chunks, h, hrep, hsent⟩ :=
    drainLoop_of_length_le mgmtTypes sendResult hsend mb.closed _ c rt mb.buffered le_rfl hwf
  ⟨_, c', rt', chunks, h, hrep, hsent⟩

theorem drainLoop_replies_stray_ping :
    let sink : SimpleSwbusEdgeClient :=
      ⟨⟨"region-a", "cluster-a", "10.0.0.2-dpu0", "", "", "hamgrd", "0"⟩, ⟨0⟩, true⟩
    let peer : ServicePath := ⟨"region-a", "cluster-a", "10.0.0.1-dpu0", "", "", "hamgrd", "0"⟩
    let mb : Mailbox :=
      ⟨[.new (.new peer ⟨"region-a", "cluster-a", "10.0.0.2-dpu0", "", "", "swss", "0"⟩ 1)
          (.dataRequest [7]),
        .new (.new peer sink.source 2) .pingRequest], true⟩
    let accept : List SwbusMessage → SwbusMessage → Except SwbusError Unit := fun _ _ => .ok ()
    (∀ m ∈ mb.buffered, m.wellFormed = true) ∧ (∀ sent m, accept sent m = .ok ()) ∧
      ∃ is c' rt' chunks, drainLoop [] accept mb.buffered.length sink ⟨[]⟩ mb =
        .ok (is, c', rt', ⟨[], true⟩) ∧
        List.Forall₂ (Replies sink) mb.buffered chunks ∧ rt'.sent = [] ++ chunks.flatten := by
  intro sink peer mb accept
  have hwf : ∀ m ∈ mb.buffered, m.wellFormed = true := by decide
  have hsend : ∀ sent m, accept sent m = .ok () := fun _ _ => rfl
  exact ⟨hwf, hsend, drainLoop_replies [] accept sink ⟨[]⟩ mb hwf hsend⟩

/-- hamgrd's sink (the daemon's address with service type `hamgrd`, id `0`) holds a
stray data request, for another service of its DPU, ahead
of anything else, and the runtime refuses the `NoRoute` reply, as a full queue
does.  `recv` panics in `send(..).await.unwrap()`, so the spawned task ends in its
first round, and nothing behind the stray is ever drained. -/
theorem drainLoop_refused_reply_panics (g : MessageIdGenerator) (rt : SwbusEdgeRuntime)
    (rest : List SwbusMessage) (closed : Bool) (n : Nat) :
    let sink : SimpleSwbusEdgeClient :=
      ⟨⟨"region-a", "cluster-a", "10.0.0.2-dpu0", "", "", "hamgrd", "0"⟩, g, true⟩
    let stray : SwbusMessage :=
      .new (.new ⟨"region-a", "cluster-a", "10.0.0.1-dpu0", "", "", "hamgrd", "0"⟩
          ⟨"region-a", "cluster-a", "10.0.0.2-dpu0", "", "", "swss", "0"⟩ 7) (.dataRequest [1])
    let refuse : List SwbusMessage → SwbusMessage → Except SwbusError Unit :=
      fun _ _ => .error .queueFull
    sink.recv mgmtTypes refuse rt ⟨stray :: rest, closed⟩ = .error (.unwrapErr .queueFull) ∧
      drainLoop mgmtTypes refuse (n + 1) sink rt ⟨stray :: rest, closed⟩ =
        .error (.unwrapErr .queueFull) :=
  ⟨rfl, rfl⟩

end SimpleSwbusEdgeClient

end Swbus
