import Swbus.SimpleClient
import Mathlib.Data.List.Nodup
/-
# `Swbus.MgmtArgs` — the arguments an actor gets with a management request

`handle_received_message` hands a management request to its actor with the
arguments collected into a `HashMap<String, String>`:
`arguments.iter().map(|arg| (arg.name.clone(), arg.value.clone())).collect()`.
`HashMap::from_iter` inserts the pairs in order (`insertArg`), and inserting under a
name already present replaces its value.  `collectArgs` keeps the map as its
entries; a `HashMap` has no order, so what an actor can observe is which names it
holds and what each looks up to.

## What is proved

    collectArgs holds each name once                             (`collectArgs_nodup`)
    and looks a name up to the value of its last occurrence in the
    request, and to nothing for a name the request does not carry  (`lookup_collectArgs`)

    every management request a client hands its actor came in a
    ManagementRequest body whose code decodes to the type handed
    over, and carries the arguments as above             (`handleReceivedMessage_mgmtArgs`)
-/

namespace Swbus

/-! ## One insert -/

theorem insertArg_nodup {m : List (String × String)} (hm : (m.map Prod.fst).Nodup)
    (a : ManagementRequestArg) : ((insertArg m a).map Prod.fst).Nodup := by
  rw [insertArg, List.map_append, List.nodup_append]
  refine ⟨hm.sublist (List.filter_sublist m |>.map _), List.nodup_singleton _, ?_⟩
  intro k hk hk'
  obtain ⟨e, he, rfl⟩ := List.mem_map.mp hk
  rw [List.map_singleton, List.mem_singleton] at hk'
  simp_all

theorem lookup_cons_ite (k n v : String) (es : List (String × String)) :
    ((k, v) :: es).lookup n = if n = k then some v else es.lookup n := by
  rw [List.lookup_cons]
  split <;> simp_all

theorem lookup_insertArg (m : List (String × String)) (a : ManagementRequestArg) (n : String) :
    (insertArg m a).lookup n = if a.name = n then some a.value else m.lookup n := by
  induction m with
  | nil =>
    by_cases h : a.name = n
    · subst h
      simp [insertArg, lookup_cons_ite]
    · simp [insertArg, lookup_cons_ite, h, Ne.symm h]
  | cons e m ih =>
    obtain ⟨k, v⟩ := e
    by_cases hk : k = a.name
    · -- the old entry under the inserted name is filtered out
      have hdrop : insertArg ((k, v) :: m) a = insertArg m a := by
        simp [insertArg, List.filter_cons, hk]
      rw [hdrop, ih, lookup_cons_ite, hk]
      by_cases h : a.name = n
      · simp [h]
      · simp [h, Ne.symm h]
    · have hkeep : insertArg ((k, v) :: m) a = (k, v) :: insertArg m a := by
        simp [insertArg, List.filter_cons, hk]
      rw [hkeep, lookup_cons_ite, ih, lookup_cons_ite]
      by_cases h : n = k <;> by_cases h' : a.name = n <;> simp_all

/-! ## The whole map -/

theorem foldl_insertArg_nodup (args : List ManagementRequestArg) :
    ∀ m : List (String × String), (m.map Prod.fst).Nodup →
      ((args.foldl insertArg m).map Prod.fst).Nodup := by
  induction args with
  | nil => exact fun _ h => h
  | cons a args ih => exact fun m h => ih _ (insertArg_nodup h a)

theorem lookup_foldl_insertArg (args : List ManagementRequestArg) (n : String) :
    ∀ m : List (String × String), (args.foldl insertArg m).lookup n =
      ((args.reverse.find? (·.name == n)).map (·.value)).or (m.lookup n) := by
  induction args with
  | nil => intro m; rfl
  | cons a args ih =>
    intro m
    rw [List.foldl_cons, ih, lookup_insertArg, List.reverse_cons, List.find?_append,
      Option.map_or', Option.or_assoc]
    congr 1
    by_cases h : a.name = n <;> simp [h]

/-- `collectArgs` holds each name once. -/
theorem collectArgs_nodup (args : List ManagementRequestArg) :
    ((collectArgs args).map Prod.fst).Nodup :=
  foldl_insertArg_nodup args [] List.nodup_nil

/-- `collectArgs` looks a name up to the value of its last occurrence. -/
theorem lookup_collectArgs (args : List ManagementRequestArg) (n : String) :
    (collectArgs args).lookup n = (args.reverse.find? (·.name == n)).map (·.value) := by
  rw [collectArgs, lookup_foldl_insertArg, List.lookup_nil, Option.or_none]

/-! ## What the actor is handed -/

namespace SimpleSwbusEdgeClient

variable (mgmtTypes : List (BitVec 32 × String))

/-- A management request handed to the actor came as a `ManagementRequest` body whose
code decodes to the type handed over; its arguments hold each name once, with the
value of the name's last occurrence in the request. -/
theorem handleReceivedMessage_mgmtArgs (c c' : SimpleSwbusEdgeClient) (msg : SwbusMessage)
    (i : IncomingMessage) (t : ManagementRequestType) (args : List (String × String))
    (h : c.handleReceivedMessage mgmtTypes msg = .ok (.passToActor i, c'))
    (hi : i.body = .managementRequest t args) :
    ∃ r, msg.body = some (.managementRequest r) ∧
      ManagementRequestType.tryFrom mgmtTypes r.request = some t ∧
      (args.map Prod.fst).Nodup ∧
      ∀ n, args.lookup n = (r.arguments.reverse.find? (·.name == n)).map (·.value) := by
  obtain ⟨hd, s, dst, b, -, -, -, hb, hres⟩ := c.handleReceivedMessage_ok h
  by_cases hst : c.sink = true ∧ dst ≠ c.source
  · rw [handleUnwrapped_stray c b hst.1 hst.2] at hres
    simp [respond] at hres
  have hin := (handleUnwrapped_fst_pass c (not_stray hst) i).mp (congrArg Prod.fst hres).symm
  cases b with
  | managementRequest r =>
    simp only [incoming, Option.map_eq_some'] at hin
    obtain ⟨t', ht', rfl⟩ := hin
    simp only [MessageBody.managementRequest.injEq] at hi
    obtain ⟨rfl, rfl⟩ := hi
    exact ⟨r, hb, ht', collectArgs_nodup _, lookup_collectArgs _⟩
  | dataRequest | response => simp only [incoming, Option.some.injEq] at hin; subst hin; cases hi
  | _ => cases hin

theorem handleReceivedMessage_mgmtArgs_repeated :
    let c : SimpleSwbusEdgeClient :=
      ⟨⟨"region-a", "cluster-a", "10.0.0.1-dpu0", "", "", "hamgrd", "0"⟩, ⟨0⟩, false⟩
    let msg : SwbusMessage :=
      .new (.new ⟨"region-a", "cluster-a", "10.0.0.2-dpu0", "", "", "hamgrd", "0"⟩ c.source 5)
        (.managementRequest ⟨0, [⟨"scope", "a"⟩, ⟨"limit", "1"⟩, ⟨"scope", "b"⟩]⟩)
    let i : IncomingMessage :=
      ⟨5, ⟨"region-a", "cluster-a", "10.0.0.2-dpu0", "", "", "hamgrd", "0"⟩, c.source,
        .managementRequest .swbusdGetRoutes [("limit", "1"), ("scope", "b")]⟩
    c.handleReceivedMessage [] msg = .ok (.passToActor i, c) ∧
      i.body = .managementRequest .swbusdGetRoutes [("limit", "1"), ("scope", "b")] ∧
      ∃ r, msg.body = some (.managementRequest r) ∧
        ManagementRequestType.tryFrom [] r.request = some .swbusdGetRoutes ∧
        ([("limit", "1"), ("scope", "b")].map Prod.fst).Nodup ∧
        ∀ n, [("limit", "1"), ("scope", "b")].lookup n =
          (r.arguments.reverse.find? (·.name == n)).map (·.value) := by
  intro c msg i
  have h : c.handleReceivedMessage [] msg = .ok (.passToActor i, c) := rfl
  exact ⟨h, rfl, handleReceivedMessage_mgmtArgs [] c c msg i _ _ h rfl⟩

end SimpleSwbusEdgeClient

end Swbus
