import Swbus.Proto
import Mathlib.Data.List.Basic
/-
# `Swbus.Hamgrd` — hamgrd's databases and bus addresses, `main.rs`

`main` keeps the slot id of its DPU, `as u8`, in the `DPU_SLOT_ID` global, from which
`db_named` names the container of every DPU database.  `common_bridge_sp` gives every
swss-common bridge its address on the bus, one per table.

    dbNamed connect p name isDpu : Except String DbConnector
    commonBridgeSp baseSp table  : ServicePath

The process state is what these functions read.  The database connection itself,
`DbConnector::new_keyed_async`, is outside the excerpt: it is the oracle `connect`,
which answers for a database name and a container whether the connection opened,
failed with a message, or (`none`) outlasted the five-second `timeout`.

## What is proved

    a table whose names hold no `|` shares its bridge address with no
    other table                                                  (`commonBridgeSp_eq_iff`)

and, as a lemma of the model, that every error of `db_named` names the database.

## What it is NOT

The rest of `main` (argument parsing, logging, the swbusd configuration, the edge
runtime and its `RuntimeData`, the producer bridges, the actor creators and the sink
task, which `Swbus.Recv` models as `drainLoop`) is left out.
-/

namespace Swbus

namespace Hamgrd

/-- A `SonicDbTable`: the database it lives in, its name, and whether the database is
one of the DPU's. -/
structure SonicDbTable where
  dbName : String
  tableName : String
  isDpu : Bool
deriving DecidableEq, Repr

/-- What hamgrd's database functions read from the process: the `DPU_SLOT_ID` global. -/
structure Process where
  dpuSlotId : UInt8
deriving DecidableEq, Repr

/-- `get_dpu_slot_id`. -/
def getDpuSlotId (p : Process) : UInt8 := p.dpuSlotId

/-! ## Databases -/

/-- A connection `DbConnector::new_keyed_async(name, false, 11000, container_name, "")`
opened: the database's name and the container it lives in. -/
structure DbConnector where
  dbName : String
  containerName : String
deriving DecidableEq, Repr

/-- `db_named`'s `container_name`: `dpu{slot}` for a DPU database, `""` for any other. -/
def dbContainerName (p : Process) (isDpu : Bool) : String :=
  match isDpu with
  | true => "dpu" ++ toString (getDpuSlotId p)
  | false => ""

/-- `db_named`. -/
def dbNamed (connect : String → String → Option (Except String Unit)) (p : Process)
    (name : String) (isDpu : Bool) : Except String DbConnector :=
  match connect name (dbContainerName p isDpu) with
  | none => .error ("Connecting to db `" ++ name ++ "` timed out")
  | some (.error e) => .error ("Connecting to db `" ++ name ++ "`: " ++ e)
  | some (.ok ()) => .ok ⟨name, dbContainerName p isDpu⟩

/-- `db_for_table::<T>()`. -/
def dbForTable (connect : String → String → Option (Except String Unit)) (p : Process)
    (t : SonicDbTable) : Except String DbConnector :=
  dbNamed connect p t.dbName t.isDpu

/-! ## Bus addresses -/

/-- `common_bridge_sp::<T>(runtime)`: the runtime's base path, with resource type
`swss-common-bridge` and resource id `{db_name}|{table_name}`. -/
def commonBridgeSp (baseSp : ServicePath) (t : SonicDbTable) : ServicePath :=
  { baseSp with resourceType := "swss-common-bridge", resourceId := t.dbName ++ "|" ++ t.tableName }

/-! ## Lemmas -/

section Db
variable {connect : String → String → Option (Except String Unit)} {p : Process}
  {name : String} {isDpu : Bool}

/-- Every error of `db_named` names the database it was connecting to. -/
theorem dbNamed_error_names_db {e : String} (h : dbNamed connect p name isDpu = .error e) :
    ∃ rest, e = "Connecting to db `" ++ name ++ "`" ++ rest := by
  unfold dbNamed at h
  split at h
  · obtain rfl := Except.error.inj h
    exact ⟨" timed out", by simp [String.append_assoc]⟩
  · rename_i e' _
    obtain rfl := Except.error.inj h
    exact ⟨": " ++ e', by simp only [String.append_assoc]; rfl⟩
  · cases h

end Db

/-- A table whose database and table names hold no `|` shares its bridge address with
no other table. -/
theorem commonBridgeSp_eq_iff (baseSp : ServicePath) (t t' : SonicDbTable)
    (hdb : '|' ∉ t.dbName.data) (htable : '|' ∉ t.tableName.data) :
    commonBridgeSp baseSp t = commonBridgeSp baseSp t' ↔
      t.dbName = t'.dbName ∧ t.tableName = t'.tableName := by
  have hid : t.dbName ++ "|" ++ t.tableName = t'.dbName ++ "|" ++ t'.tableName ↔
      t.dbName = t'.dbName ∧ t.tableName = t'.tableName := by
    simp only [String.ext_iff, String.data_append, List.append_assoc]
    exact (List.append_cons_inj_of_not_mem hdb htable).trans (by simp)
  simp only [commonBridgeSp, ServicePath.mk.injEq, true_and, and_true, hid]

theorem commonBridgeSp_eq_iff_bridges :
    let base : ServicePath := ⟨"region-a", "cluster-a", "10.0.0.1-dpu0", "", "", "hamgrd", "0"⟩
    let t : SonicDbTable := ⟨"DPU_APPL_DB", "BFD_SESSION_TABLE", true⟩
    let t' : SonicDbTable := ⟨"DPU_APPL_DB", "DASH_HA_SET_TABLE", true⟩
    '|' ∉ t.dbName.data ∧ '|' ∉ t.tableName.data ∧
      (commonBridgeSp base t = commonBridgeSp base t' ↔
        t.dbName = t'.dbName ∧ t.tableName = t'.tableName) := by
  intro base t t'
  have hdb : '|' ∉ t.dbName.data := by decide
  have htable : '|' ∉ t.tableName.data := by decide
  exact ⟨hdb, htable, commonBridgeSp_eq_iff base t t' hdb htable⟩

end Hamgrd

end Swbus
