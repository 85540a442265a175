import Swbus.Daemon
import Swbus.Relay
import Swbus.Replies
/-
# `Swbus.Accounting` — what a daemon run did with each message it routed

`Swbus.Daemon` proves what a run preserves.  This module says what a run *did*.  The
multiplexer routes message after message to next hops, and each call of
`queue_message` that returns has exactly one outcome: it answered the message, it
put one copy on one send queue, or it did neither.  A run is read as the list of
these outcomes, one per call up to the first panic, and both the responses the run
hands back and what every send queue holds afterwards are projections of that list.

## What is proved

    each call's outcome is one the code allows it:
      an answer to that message's id, sent back to its source, from its
      destination, or from the daemon's own path for a remote hop's TTL-expired
      reply, which comes only at TTL 1;
      or one copy of that message, its TTL lowered by one and not 0, on the
      remote hop's own send queue;
      or nothing;
    the run's responses are the answers, in call order, and every send queue
    ends as it started followed by the copies put on it, in call order    (`runDaemon_accounts`)

So no message is answered twice, none is both answered and queued, none is queued
twice or on another hop's queue, and each queue receives its copies in the order the
multiplexer routed them: the FIFO order of §5, at one hop.

## What it is NOT

The outbound tasks that take messages off the queues are not in the excerpt, so a
queue here only grows.  Which hop gets which message is the multiplexer's routing
(`mux.rs`): the theorem holds for every sequence of hops and messages.
-/

namespace Swbus

namespace SwbusNextHop

/-- What one call of `queue_message` did with the message routed to it. -/
inductive Outcome
  /-- It returned `Ok(Some(r))`. -/
  | answered (r : SwbusMessage)
  /-- It put `copy` on send queue `n` and returned `Ok(None)`. -/
  | queued (n : Nat) (copy : SwbusMessage)
  /-- It dropped the message, or failed, and touched no queue. -/
  | nothing
deriving DecidableEq, Repr

namespace Outcome

/-- The response an outcome hands back for routing. -/
def answer : Outcome → Option SwbusMessage
  | answered r => some r
  | _ => none

/-- The copy an outcome put on send queue `n`. -/
def queuedOn (n : Nat) : Outcome → Option SwbusMessage
  | queued n' c => if n' = n then some c else none
  | _ => none

/-- The outcomes the code allows the call `x` on a daemon whose own path is `sp`. -/
def Allowed (sp : ServicePath) (x : Delivery) : Outcome → Prop
  | answered r => ∃ h, x.message.header = some h ∧ (x.nh.nhType = .local ∨ h.ttl = 1) ∧
      Answers h (if x.nh.nhType = .local then h.destination else some sp) r
  | queued n c => x.nh.nhType = .remote ∧ x.nh.connProxy = some ⟨n⟩ ∧
      ∃ h, x.message.header = some h ∧ h.ttl - 1 ≠ 0 ∧ c = x.message.setTtl (h.ttl - 1)
  | nothing => True

end Outcome

theorem filterMap_cons_toList {α β : Type} (f : α → Option β) (a : α) (l : List α) :
    (a :: l).filterMap f = (f a).toList ++ l.filterMap f := by
  cases h : f a <;> simp [h]

/-! ## One call -/

section Step
variable {mgmtTypes : List (BitVec 32 × String)} {oc : Bool} {d d' : Swbusd}

theorem queueMessage_header {nh : SwbusNextHop} {m : SwbusMessage}
    {res : Except SwbusError (Option SwbusMessage) × Swbusd}
    (hq : queueMessage mgmtTypes oc nh d m = .ok res) : ∃ h, m.header = some h := by
  cases hm : m.header with
  | some h => exact ⟨h, rfl⟩
  | none =>
    cases hn : nh.nhType
    · simp [queueMessage_local d hn, processLocalMessage_noHeader d.mux hm, Except.map] at hq
    · simp [queueMessage_remote_noHeader d hn hm] at hq

theorem deliver_outcome {x : Delivery} {r : Option SwbusMessage}
    (hx : deliver mgmtTypes oc d x = .ok (r, d')) :
    ∃ o : Outcome, o.Allowed d.mux.mySp x ∧ r = o.answer ∧
      ∀ n, (d'.queues n).items = (d.queues n).items ++ (o.queuedOn n).toList := by
  obtain ⟨r₀, hq, rfl⟩ := deliver_ok hx
  rcases queueMessage_ok_cases hq with
    ⟨y, rfl, -, rfl⟩ | ⟨hr, rfl⟩ | ⟨rfl, hrem, h, p, hm, hp, hne, ht⟩
  · obtain ⟨h, hm⟩ := queueMessage_header hq
    refine ⟨.answered y, ⟨h, hm, ?_⟩, rfl, fun n => by simp [Outcome.queuedOn]⟩
    rcases (queueMessage_some hm hq).2.2 with ⟨hl, code, msg, b, rfl⟩ | ⟨hrm, hs, rfl⟩
    · exact ⟨.inl hl, by simpa [hl] using answers_newResponse h none code msg _ b⟩
    · exact ⟨.inr (u32SubOne_eq_ok_zero.mp hs),
        by simpa [hrm] using answers_newResponse { h with ttl := 0 } (some d.mux.mySp) _ _ _ none⟩
  · refine ⟨.nothing, trivial, ?_, fun n => by simp [Outcome.queuedOn]⟩
    rcases hr with rfl | ⟨e, rfl⟩ <;> rfl
  · obtain ⟨-, -, rfl⟩ := Swbusd.tryQueue_ok_eq ht
    refine ⟨.queued p.queue (x.message.setTtl (h.ttl - 1)), ⟨hrem, hp, h, hm, hne, rfl⟩, rfl,
      fun n => ?_⟩
    rcases eq_or_ne n p.queue with rfl | hn
    · simp [Outcome.queuedOn, SwbusMessage.setTtl_of_header hm]
    · simp [Outcome.queuedOn, Function.update_noteq hn, hn.symm]

end Step

/-! ## A run -/

variable (mgmtTypes : List (BitVec 32 × String)) (oc : Bool)

/-- A run of a daemon is its list of outcomes, one per call up to the first panic,
each allowed to its call: the run's responses are the answers, and each send queue
ends as it started followed by the copies put on it, both in call order. -/
theorem runDaemon_accounts (d : Swbusd) (xs : List Delivery) :
    ∃ os : List Outcome,
      List.Forall₂ (fun x o => o.Allowed d.mux.mySp x) (xs.take os.length) os ∧
      (runDaemon mgmtTypes oc d xs).1 = os.filterMap Outcome.answer ∧
      ∀ n, ((runDaemon mgmtTypes oc d xs).2.queues n).items =
        (d.queues n).items ++ os.filterMap (Outcome.queuedOn n) := by
  induction xs generalizing d with
  | nil => exact ⟨[], .nil, rfl, fun n => (List.append_nil _).symm⟩
  | cons x xs ih =>
    cases hx : deliver mgmtTypes oc d x with
    | error p => exact ⟨[], .nil, by simp [runDaemon, runCalls, hx], by simp [runDaemon, runCalls, hx]⟩
    | ok res =>
      obtain ⟨r, d'⟩ := res
      obtain ⟨o, ho, rfl, hq⟩ := deliver_outcome hx
      obtain ⟨r₀, hq₀, -⟩ := deliver_ok hx
      obtain ⟨os, hos, hans, hqs⟩ := ih d'
      rw [(queueMessage_evolved hq₀).mySp] at hos
      refine ⟨o :: os, .cons ho hos, ?_, fun n => ?_⟩
      · simp only [runDaemon, runCalls, hx] at hans ⊢
        rw [hans, filterMap_cons_toList]
      · simp only [runDaemon, runCalls, hx] at hqs ⊢
        rw [hqs, hq, filterMap_cons_toList, List.append_assoc]

end SwbusNextHop

end Swbus
