import Swbus.Proto
import Mathlib.Data.List.Nodup
/-
# `Swbus.Runs` — runs of calls that draw message ids from a counter

A daemon and every client stamp each message they create with an id from a
`MessageIdGenerator` of their own, "a strictly increasing counter with no gaps per
process" (§4.E).  Both are machines whose calls each create at most one message: a
client's `outgoing_message_to_swbus_message` and `handle_received_message`
(`Swbus.Ids`), a daemon's `queue_message` (`Swbus.Daemon`).  This module says once
what a run of such a machine is and what follows when each call draws at most one
id.

## What is proved

* `runCalls_ids` — if every call either creates nothing and leaves the counter, or
  creates one message under the counter's value and moves it on by one
  (`DrawsIds`), the messages of a run carry consecutive values of the `u64`
  counter, from its value at the start.
* `runCalls_ids_nodup` — as long as the counter does not wrap during the run, those
  ids are pairwise distinct.
* `runCalls_rel` — a reflexive, transitive relation that every call establishes
  between the state before and the state after holds between a run's start and end.

## What it is NOT

A run is a sequence of calls on one machine.  The counters of two machines are
unrelated, and nothing here says their ids differ.
-/

namespace Swbus

/-- The header id of a message, if it has a header. -/
def SwbusMessage.headerId (m : SwbusMessage) : Option UInt64 := m.header.map SwbusMessageHeader.id

@[simp] theorem SwbusMessage.new_headerId (h : SwbusMessageHeader) (b : Body) :
    (SwbusMessage.new h b).headerId = some h.id := rfl

@[simp] theorem SwbusMessage.newResponse_headerId (request : SwbusMessageHeader)
    (sp : Option ServicePath) (e : SwbusErrorCode) (msg : String) (id : UInt64)
    (b : Option ResponseBody) : (newResponse request sp e msg id b).headerId = some id := rfl

section Runs
variable {σ α : Type} (exec : σ → α → Except Panic (Option SwbusMessage × σ))

/-- A run of calls: the messages created, in order, and the state after the last
call.  A panic ends the run. -/
def runCalls (s : σ) : List α → List SwbusMessage × σ
  | [] => ([], s)
  | a :: as =>
    match exec s a with
    | .error _ => ([], s)
    | .ok (r, s') => (r.toList ++ (runCalls s' as).1, (runCalls s' as).2)

/-- Every call that returns either creates nothing and leaves the counter `gen` as
it was, or creates one message under `gen`'s value and moves it on by one. -/
def DrawsIds (gen : σ → UInt64) : Prop :=
  ∀ s a r s', exec s a = .ok (r, s') →
    (r = none ∧ gen s' = gen s) ∨
    (∃ m, r = some m ∧ m.headerId = some (gen s) ∧ gen s' = gen s + 1)

variable {exec} {gen : σ → UInt64}

/-- The ids of a run's messages are consecutive values of the `u64` counter, from
its value at the start: no id is skipped and none is drawn twice in a row. -/
theorem runCalls_ids (h : DrawsIds exec gen) (s : σ) (as : List α) :
    (runCalls exec s as).1.map (fun m => m.headerId.map UInt64.toNat) =
      (List.range (runCalls exec s as).1.length).map
        fun i => some (((gen s).toNat + i) % UInt64.size) := by
  induction as generalizing s with
  | nil => rfl
  | cons a as ih =>
    simp only [runCalls]
    cases he : exec s a with
    | error p => rfl
    | ok rs =>
      obtain ⟨r, s'⟩ := rs
      dsimp only
      rcases h s a r s' he with ⟨rfl, hg⟩ | ⟨m, rfl, hm, hg⟩
      · rw [Option.toList_none, List.nil_append, ← hg]
        exact ih s'
      · have hnext : (gen s').toNat = ((gen s).toNat + 1) % UInt64.size := by
          rw [hg]
          exact BitVec.toNat_add _ _
        simp only [Option.toList_some, List.singleton_append, List.map_cons, List.length_cons,
          List.range_succ_eq_map, List.map_map, hm, Option.map_some', ih, hnext]
        refine congrArg₂ _ (by rw [Nat.add_zero, Nat.mod_eq_of_lt (gen s).toNat_lt_size])
          (List.map_congr_left fun i _ => ?_)
        rw [Function.comp_apply, Nat.mod_add_mod, Nat.add_right_comm, Nat.add_assoc]

/-- While the counter does not wrap, the messages of a run carry pairwise distinct
ids. -/
theorem runCalls_ids_nodup (h : DrawsIds exec gen) (s : σ) (as : List α)
    (hinc : (gen s).toNat + (runCalls exec s as).1.length ≤ UInt64.size) :
    ((runCalls exec s as).1.map SwbusMessage.headerId).Nodup := by
  refine List.Nodup.of_map (Option.map UInt64.toNat) ?_
  rw [List.map_map, Function.comp_def, runCalls_ids h]
  refine (List.nodup_range _).map_on fun i hi j hj hij => ?_
  simp only [List.mem_range, Option.some.injEq] at hi hj hij
  rw [Nat.mod_eq_of_lt (by omega), Nat.mod_eq_of_lt (by omega)] at hij
  omega

/-- What every call establishes between its state before and after, a run
establishes between its start and its end. -/
theorem runCalls_rel (R : σ → σ → Prop) (hrefl : ∀ s, R s s)
    (htrans : ∀ s₁ s₂ s₃, R s₁ s₂ → R s₂ s₃ → R s₁ s₃)
    (hstep : ∀ s a r s', exec s a = .ok (r, s') → R s s') (s : σ) (as : List α) :
    R s (runCalls exec s as).2 := by
  induction as generalizing s with
  | nil => exact hrefl s
  | cons a as ih =>
    simp only [runCalls]
    cases he : exec s a with
    | error p => exact hrefl s
    | ok rs => exact htrans _ _ _ (hstep s a rs.1 rs.2 he) (ih rs.2)

end Runs

end Swbus
