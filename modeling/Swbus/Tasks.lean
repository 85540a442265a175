import Swbus.Ids
/-
# `Swbus.Tasks` — the clients of one process, in any interleaving

hamgrd runs one `SimpleSwbusEdgeClient` per actor and one for its sink, each driven
by a tokio task of its own, each with its own `MessageIdGenerator`.  The scheduler
interleaves the tasks' calls in any order, and a panic ends the task that raised it
and no other.  A schedule is the list of `(task, call)` pairs in the order they ran.

## What is proved

    under any schedule, the messages created by one task's client are exactly the
    messages of that client's own run over its own calls                (`runTasks_filter`)

    so, when the tasks' clients have distinct addresses, a client that is not a
    sink is handed only messages addressed to it, and no client's counter wraps,
    no two messages the process creates share their (source, id) pair   (`runTasks_keys_nodup`)

## The three hypotheses

Distinct addresses and the dispatch of a message to the handler of its destination
are the edge runtime's contract (§4.F: a second handler for a registered path is
refused, and a delivered message goes to the handler whose path is its destination);
a sink takes what no handler takes.  The counter is the one hypothesis of
`run_ids_nodup`, client by client.

## What it is NOT

The id alone is not unique in the process: every client draws from a generator of
its own, and two clients whose generators stand at the same value stamp the same id.
The runtime's routing and the daemon's ids are not modelled here.
-/

namespace Swbus

/-- The address a message says it comes from. -/
def SwbusMessage.source? (m : SwbusMessage) : Option ServicePath := m.header.bind (·.source)

namespace SimpleSwbusEdgeClient

variable (mgmtTypes : List (BitVec 32 × String))

/-- The scheduler runs one call of task `i`'s client.  A task is the client its calls
left, or `none` once it has panicked (or for an index no task has). -/
def stepTask (ts : Nat → Option SimpleSwbusEdgeClient) (x : Nat × Call) :
    Except Panic (Option SwbusMessage × (Nat → Option SimpleSwbusEdgeClient)) :=
  match ts x.1 with
  | none => .ok (none, ts)
  | some c =>
    match x.2.exec mgmtTypes c with
    | .error _ => .ok (none, Function.update ts x.1 none)
    | .ok (r, c') => .ok (r, Function.update ts x.1 (some c'))

/-- A schedule of the tasks' calls: the messages created, in order, and the tasks after
the last call. -/
def runTasks (ts : Nat → Option SimpleSwbusEdgeClient) (xs : List (Nat × Call)) :
    List SwbusMessage × (Nat → Option SimpleSwbusEdgeClient) :=
  runCalls (stepTask mgmtTypes) ts xs

/-- The calls of task `i`, in schedule order. -/
def callsOf (i : Nat) (xs : List (Nat × Call)) : List Call :=
  xs.filterMap fun x => if x.1 = i then some x.2 else none

/-- The runtime's dispatch, for one call: a client that is not a sink is handed only
messages addressed to it. -/
def Addressed (c : SimpleSwbusEdgeClient) : Call → Prop
  | .outgoing _ => True
  | .handle m => ∀ h dst, m.header = some h → h.destination = some dst →
      c.sink = true ∨ dst = c.source

/-- The tasks of `ts'` are tasks of `ts` that kept their client's address and sink flag. -/
def Kept (ts ts' : Nat → Option SimpleSwbusEdgeClient) : Prop :=
  ∀ i c', ts' i = some c' → ∃ c, ts i = some c ∧ c'.source = c.source ∧ c'.sink = c.sink

/-- No two tasks' clients share an address. -/
def DistinctAddresses (ts : Nat → Option SimpleSwbusEdgeClient) : Prop :=
  ∀ i j ci cj, ts i = some ci → ts j = some cj → ci.source = cj.source → i = j

/-- Every call the schedule gives a task is one the runtime's dispatch allows. -/
def Dispatched (ts : Nat → Option SimpleSwbusEdgeClient) (xs : List (Nat × Call)) : Prop :=
  ∀ i c call, ts i = some c → (i, call) ∈ xs → Addressed c call

theorem stepTask_isOk (ts : Nat → Option SimpleSwbusEdgeClient) (x : Nat × Call) :
    ∃ r ts', stepTask mgmtTypes ts x = .ok (r, ts') := by
  simp only [stepTask]
  split
  · exact ⟨_, _, rfl⟩
  · split <;> exact ⟨_, _, rfl⟩

theorem runTasks_cons (ts : Nat → Option SimpleSwbusEdgeClient) (x : Nat × Call)
    (xs : List (Nat × Call)) {r : Option SwbusMessage} {ts' : Nat → Option SimpleSwbusEdgeClient}
    (h : stepTask mgmtTypes ts x = .ok (r, ts')) :
    (runTasks mgmtTypes ts (x :: xs)).1 = r.toList ++ (runTasks mgmtTypes ts' xs).1 := by
  simp [runTasks, runCalls, h]

variable {mgmtTypes}

/-! ## One call -/

theorem Call.exec_source {c c' : SimpleSwbusEdgeClient} {call : Call} {m : SwbusMessage}
    (h : call.exec mgmtTypes c = .ok (some m, c')) (ha : Addressed c call) :
    m.source? = some c.source := by
  cases call with
  | outgoing o =>
    obtain ⟨dst, body⟩ := o
    cases body <;> simp only [Call.exec, outgoingMessageToSwbusMessage, Except.map,
      Except.ok.injEq, Prod.mk.injEq, Option.some.injEq, reduceCtorEq] at h <;>
      obtain ⟨rfl, rfl⟩ := h <;> rfl
  | handle msg =>
    cases hm : c.handleReceivedMessage mgmtTypes msg with
    | error p => simp [Call.exec, hm, Except.map] at h
    | ok res =>
      obtain ⟨res, c₀⟩ := res
      simp only [Call.exec, hm, Except.map, Except.ok.injEq, Prod.mk.injEq] at h
      obtain ⟨hr, rfl⟩ := h
      cases res with
      | respond r =>
        obtain rfl : r = m := Option.some.inj hr
        obtain ⟨hd, s, dst, b, hh, -, hdst, -, hres⟩ := c.handleReceivedMessage_ok hm
        obtain ⟨-, ⟨-, -, rfl⟩ | ⟨hns, -, rfl⟩⟩ := handleUnwrapped_respond c hres.symm
        · rfl
        · -- not a stray, and not a sink's unless addressed to it: the destination is c's
          have hdc : dst = c.source :=
            (ha hd dst hh hdst).elim (fun hk => hns.resolve_left (by simp [hk])) id
          simp [SwbusMessage.source?, hdc]
      | passToActor i => cases hr
      | ignore => cases hr

theorem addressed_congr {c c' : SimpleSwbusEdgeClient} (hs : c'.source = c.source)
    (hk : c'.sink = c.sink) {call : Call} (ha : Addressed c call) : Addressed c' call := by
  cases call with
  | outgoing o => trivial
  | handle m => intro h dst hh hd; rw [hs, hk]; exact ha h dst hh hd

section Step
variable {ts ts' : Nat → Option SimpleSwbusEdgeClient} {i : Nat} {call : Call}
  {r : Option SwbusMessage}

theorem stepTask_ok (h : stepTask mgmtTypes ts (i, call) = .ok (r, ts'))
    (ha : ∀ c, ts i = some c → Addressed c call) :
    (∀ m, r = some m → ∃ c, ts i = some c ∧ m.source? = some c.source) ∧ Kept ts ts' ∧
      ∀ j, j ≠ i → ts' j = ts j := by
  simp only [stepTask] at h
  split at h
  · obtain ⟨rfl, rfl⟩ := Prod.mk.inj (Except.ok.inj h)
    exact ⟨(fun _ h => nomatch h), fun j c' hj => ⟨c', hj, rfl, rfl⟩, fun _ _ => rfl⟩
  · rename_i c hc
    split at h
    · obtain ⟨rfl, rfl⟩ := Prod.mk.inj (Except.ok.inj h)
      refine ⟨(fun _ h => nomatch h), fun j c' hj => ?_, fun j hj => Function.update_noteq hj _ _⟩
      have hji : j ≠ i := by rintro rfl; simp at hj
      exact ⟨c', by rwa [Function.update_noteq hji] at hj, rfl, rfl⟩
    · rename_i r₀ c₀ he
      obtain ⟨rfl, rfl⟩ := Prod.mk.inj (Except.ok.inj h)
      refine ⟨fun m hm => ⟨c, hc, Call.exec_source (hm ▸ he) (ha c hc)⟩, fun j c' hj => ?_,
        fun j hj => Function.update_noteq hj _ _⟩
      rcases eq_or_ne j i with rfl | hji
      · obtain rfl : c₀ = c' := by simpa using hj
        exact ⟨c, hc, Call.exec_keeps he⟩
      · exact ⟨c', by rwa [Function.update_noteq hji] at hj, rfl, rfl⟩

end Step

theorem Kept.distinct {ts ts' : Nat → Option SimpleSwbusEdgeClient} (hk : Kept ts ts')
    (hd : DistinctAddresses ts) : DistinctAddresses ts' := by
  intro i j ci cj hi hj hs
  obtain ⟨ci₀, hi₀, hsi, -⟩ := hk i ci hi
  obtain ⟨cj₀, hj₀, hsj, -⟩ := hk j cj hj
  exact hd i j ci₀ cj₀ hi₀ hj₀ (hsi ▸ hsj ▸ hs)

theorem Kept.dispatched {ts ts' : Nat → Option SimpleSwbusEdgeClient} (hk : Kept ts ts')
    {x : Nat × Call} {xs : List (Nat × Call)} (hd : Dispatched ts (x :: xs)) :
    Dispatched ts' xs := by
  intro i c' call hi hmem
  obtain ⟨c, hc, hs, hsk⟩ := hk i c' hi
  exact addressed_congr hs hsk (hd i c call hc (List.mem_cons_of_mem _ hmem))

/-! ## A schedule -/

theorem runTasks_source (ts : Nat → Option SimpleSwbusEdgeClient) (xs : List (Nat × Call))
    (hd : Dispatched ts xs) :
    ∀ m ∈ (runTasks mgmtTypes ts xs).1, ∃ i c, ts i = some c ∧ m.source? = some c.source := by
  induction xs generalizing ts with
  | nil => intro m hm; cases hm
  | cons x xs ih =>
    obtain ⟨i, call⟩ := x
    obtain ⟨r, ts', hs⟩ := stepTask_isOk mgmtTypes ts (i, call)
    obtain ⟨hr, hk, -⟩ := stepTask_ok hs fun c hc => hd i c call hc (List.mem_cons_self _ _)
    intro m hm
    rw [runTasks_cons mgmtTypes ts _ xs hs, List.mem_append, Option.mem_toList] at hm
    rcases hm with hm | hm
    · obtain ⟨c, hc, hsrc⟩ := hr m hm
      exact ⟨i, c, hc, hsrc⟩
    · obtain ⟨j, c', hj, hsrc⟩ := ih ts' (hk.dispatched hd) m hm
      obtain ⟨c, hc, hcs, -⟩ := hk j c' hj
      exact ⟨j, c, hc, hcs ▸ hsrc⟩

/-- Under any schedule, the messages from task `i`'s address are exactly those of
task `i`'s client's own run over its own calls. -/
theorem runTasks_filter (ts : Nat → Option SimpleSwbusEdgeClient) (xs : List (Nat × Call))
    (hdist : DistinctAddresses ts) (hd : Dispatched ts xs) (i : Nat) (c : SimpleSwbusEdgeClient)
    (hi : ts i = some c) :
    (runTasks mgmtTypes ts xs).1.filter (fun m => m.source? = some c.source) =
      (run mgmtTypes c (callsOf i xs)).1 := by
  induction xs generalizing ts c with
  | nil => rfl
  | cons x xs ih =>
    obtain ⟨j, call⟩ := x
    obtain ⟨r, ts', hs⟩ := stepTask_isOk mgmtTypes ts (j, call)
    obtain ⟨hr, hk, hother⟩ := stepTask_ok hs fun c hc => hd j c call hc (List.mem_cons_self _ _)
    have hd' := hk.dispatched hd
    rw [runTasks_cons mgmtTypes ts _ xs hs, List.filter_append]
    rcases eq_or_ne j i with rfl | hji
    · have hcalls : callsOf j ((j, call) :: xs) = call :: callsOf j xs := by simp [callsOf]
      rw [hcalls]
      cases he : call.exec mgmtTypes c with
      | error p =>
        -- the task panicked: its run stops, and no other task speaks from its address
        simp only [stepTask, hi, he, Except.ok.injEq, Prod.mk.injEq] at hs
        obtain ⟨rfl, rfl⟩ := hs
        have hrun : (run mgmtTypes c (call :: callsOf j xs)).1 = [] := by simp [run, runCalls, he]
        rw [hrun, Option.toList_none, List.filter_nil, List.nil_append]
        refine List.filter_eq_nil_iff.mpr fun m hm hsrc => ?_
        obtain ⟨k, ck, hck, hsk⟩ := runTasks_source _ xs hd' m hm
        have hkj : k ≠ j := by rintro rfl; simp at hck
        rw [Function.update_noteq hkj] at hck
        exact hkj (hdist k j ck c hck hi
          (Option.some.inj (hsk.symm.trans (of_decide_eq_true hsrc))))
      | ok rc =>
        obtain ⟨r', c'⟩ := rc
        simp only [stepTask, hi, he, Except.ok.injEq, Prod.mk.injEq] at hs
        obtain ⟨rfl, rfl⟩ := hs
        have hrun : (run mgmtTypes c (call :: callsOf j xs)).1 =
            r'.toList ++ (run mgmtTypes c' (callsOf j xs)).1 := by simp [run, runCalls, he]
        have hfirst : r'.toList.filter (fun m => m.source? = some c.source) = r'.toList := by
          refine List.filter_eq_self.mpr fun m hm => ?_
          obtain ⟨c₀, h₀, h₁⟩ := hr m (Option.mem_toList.mp hm)
          rw [hi, Option.some.injEq] at h₀
          simpa [h₀] using h₁
        rw [hrun, hfirst, ← (Call.exec_keeps he).1, ih _ (hk.distinct hdist) hd' c' (by simp)]
    · have hcalls : callsOf i ((j, call) :: xs) = callsOf i xs := by simp [callsOf, hji]
      have hfirst : r.toList.filter (fun m => m.source? = some c.source) = [] := by
        refine List.filter_eq_nil_iff.mpr fun m hm hsrc => ?_
        obtain ⟨cj, hcj, hsj⟩ := hr m (Option.mem_toList.mp hm)
        exact hji (hdist j i cj c hcj hi
          (Option.some.inj (hsj.symm.trans (of_decide_eq_true hsrc))))
      rw [hfirst, List.nil_append, hcalls]
      exact ih ts' (hk.distinct hdist) hd' c (by rw [hother i hji.symm]; exact hi)

theorem nodup_pairs_of_filter {α β γ : Type} [DecidableEq β] (f : α → β) (g : α → γ) :
    ∀ l : List α, (∀ b, ((l.filter fun a => f a = b).map g).Nodup) →
      (l.map fun a => (f a, g a)).Nodup
  | [], _ => List.nodup_nil
  | a :: l, h => by
    rw [List.map_cons, List.nodup_cons]
    refine ⟨fun hmem => ?_, nodup_pairs_of_filter f g l fun b =>
      (h b).sublist (((List.sublist_cons_self a l).filter _).map g)⟩
    obtain ⟨a', ha', heq⟩ := List.mem_map.mp hmem
    obtain ⟨hf, hg⟩ := Prod.mk.inj heq
    have hna := h (f a)
    rw [List.filter_cons_of_pos (by simp), List.map_cons, List.nodup_cons] at hna
    exact hna.1 (List.mem_map.mpr ⟨a', List.mem_filter.mpr ⟨ha', by simp [hf]⟩, hg⟩)

/-- Under any schedule, no two messages the process's clients create share their source
and id, as long as the clients have distinct addresses, each is handed only what the
runtime's dispatch allows it, and no client's counter wraps. -/
theorem runTasks_keys_nodup (ts : Nat → Option SimpleSwbusEdgeClient) (xs : List (Nat × Call))
    (hdist : DistinctAddresses ts) (hd : Dispatched ts xs)
    (hinc : ∀ i c, ts i = some c →
      c.idGenerator.next.toNat + (run mgmtTypes c (callsOf i xs)).1.length ≤ UInt64.size) :
    ((runTasks mgmtTypes ts xs).1.map fun m => (m.source?, m.headerId)).Nodup := by
  refine nodup_pairs_of_filter _ _ _ fun src => ?_
  by_cases hsrc : ∃ i c, ts i = some c ∧ src = some c.source
  · obtain ⟨i, c, hi, rfl⟩ := hsrc
    rw [runTasks_filter ts xs hdist hd i c hi]
    exact runCalls_ids_nodup Call.drawsIds c _ (hinc i c hi)
  · rw [List.filter_eq_nil_iff.mpr fun m hm hm' => hsrc ?_]
    · exact List.nodup_nil
    obtain ⟨i, c, hi, hs⟩ := runTasks_source ts xs hd m hm
    exact ⟨i, c, hi, (of_decide_eq_true hm').symm.trans hs⟩

theorem runTasks_keys_nodup_two_tasks :
    let a : SimpleSwbusEdgeClient :=
      ⟨⟨"region-a", "cluster-a", "10.0.0.1-dpu0", "", "", "hamgrd", "0"⟩, ⟨0⟩, false⟩
    let b : SimpleSwbusEdgeClient :=
      ⟨⟨"region-a", "cluster-a", "10.0.0.1-dpu0", "dpu", "0", "hamgrd", "1"⟩, ⟨0⟩, false⟩
    let peer : ServicePath := ⟨"region-a", "cluster-a", "10.0.0.2-dpu0", "", "", "hamgrd", "0"⟩
    let ts : Nat → Option SimpleSwbusEdgeClient := fun i => [a, b][i]?
    let xs : List (Nat × Call) :=
      [(0, .outgoing ⟨peer, .request [1]⟩), (1, .outgoing ⟨peer, .request [2]⟩),
        (0, .handle (.new (.new peer a.source 9) .pingRequest))]
    DistinctAddresses ts ∧ Dispatched ts xs ∧
      (∀ i c, ts i = some c →
        c.idGenerator.next.toNat + (run [] c (callsOf i xs)).1.length ≤ UInt64.size) ∧
      (runTasks [] ts xs).1.map SwbusMessage.headerId = [some 0, some 0, some 1] ∧
      ((runTasks [] ts xs).1.map fun m => (m.source?, m.headerId)).Nodup := by
  intro a b peer ts xs
  have hdist : DistinctAddresses ts := by
    intro i j ci cj hi hj hs
    have hab : a.source ≠ b.source := by decide
    rcases i with _ | _ | i <;> rcases j with _ | _ | j <;> simp [ts] at hi hj <;> subst hi hj
    all_goals first | rfl | exact absurd hs hab | exact absurd hs.symm hab
  have hd : Dispatched ts xs := by
    intro i c call hi hmem
    simp only [xs, List.mem_cons, Prod.mk.injEq, List.mem_nil_iff, or_false] at hmem
    rcases hmem with ⟨rfl, rfl⟩ | ⟨rfl, rfl⟩ | ⟨rfl, rfl⟩
    · trivial
    · trivial
    · obtain rfl : c = a := by simpa [ts] using hi.symm
      intro h dst hh hdst
      obtain rfl := Option.some.inj hh
      exact .inr (Option.some.inj hdst).symm
  have hinc : ∀ i c, ts i = some c →
      c.idGenerator.next.toNat + (run [] c (callsOf i xs)).1.length ≤ UInt64.size := by
    intro i c hi
    rcases i with _ | _ | i <;> simp only [ts] at hi <;> cases hi <;> decide
  exact ⟨hdist, hd, hinc, rfl, runTasks_keys_nodup ts xs hdist hd hinc⟩

end SimpleSwbusEdgeClient

end Swbus
