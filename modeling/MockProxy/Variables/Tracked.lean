import MockProxy.Session.Basic

/-!
# The tracked session variables

`mysql_tracked_variables`: the variables whose values the proxy records for each connection, indexed
by `mysql_variable_name`. Index `SQL_NAME_LAST_LOW_WM` is a placeholder between the variables of the
character set and the others. `update_variable` and the error path of a `SET` look a variable up
again, by status and by name; both lookups find the variable they started from.
-/

namespace MockProxy.Variables

open Session

/-- `mysql_variable_name`, below `SQL_NAME_LAST_HIGH_WM` -/
abbrev Var := Fin 59

namespace Var

def characterSet : Var := 0
def characterAction : Var := 1
def setNames : Var := 2
def characterSetResults : Var := 3
def characterSetConnection : Var := 4
def characterSetClient : Var := 5
def collationConnection : Var := 7
/-- `SQL_NAME_LAST_LOW_WM` -/
def lowWm : Var := 8
def isolationLevel : Var := 9
def auroraReadReplicaReadCommitted : Var := 11
def sqlLogBin : Var := 45
def sqlMode : Var := 46
def nextIsolationLevel : Var := 54
def nextTransactionRead : Var := 55

theorem characterSetClient_low : characterSetClient < lowWm := by decide

theorem characterSetResults_low : characterSetResults < lowWm := by decide

theorem characterSetConnection_low : characterSetConnection < lowWm := by decide

theorem collationConnection_low : collationConnection < lowWm := by decide

end Var

/-- A `mysql_variable_st`, as far as sending a `SET` reads it. -/
structure Entry where
  status : Status
  setVariableName : String
  deriving DecidableEq

/-- `mysql_tracked_variables` -/
def trackedVariables : Vector Entry 59 := #v[
  ⟨.settingCharset, "charset"⟩,
  ⟨.none, "action"⟩,
  ⟨.settingSetNames, "names"⟩,
  ⟨.settingVariable, "character_set_results"⟩,
  ⟨.settingVariable, "character_set_connection"⟩,
  ⟨.settingVariable, "character_set_client"⟩,
  ⟨.settingVariable, "character_set_database"⟩,
  ⟨.settingVariable, "collation_connection"⟩,
  ⟨.settingVariable, "placeholder"⟩,
  ⟨.settingIsolationLevel, "SESSION TRANSACTION ISOLATION LEVEL"⟩,
  ⟨.settingTransactionRead, "SESSION TRANSACTION READ"⟩,
  ⟨.settingVariable, "aurora_read_replica_read_committed"⟩,
  ⟨.settingVariable, "auto_increment_increment"⟩,
  ⟨.settingVariable, "auto_increment_offset"⟩,
  ⟨.settingVariable, "big_tables"⟩,
  ⟨.settingVariable, "default_storage_engine"⟩,
  ⟨.settingVariable, "default_tmp_storage_engine"⟩,
  ⟨.settingVariable, "foreign_key_checks"⟩,
  ⟨.settingVariable, "group_concat_max_len"⟩,
  ⟨.settingVariable, "group_replication_consistency"⟩,
  ⟨.settingVariable, "gtid_next"⟩,
  ⟨.settingVariable, "innodb_lock_wait_timeout"⟩,
  ⟨.settingVariable, "innodb_strict_mode"⟩,
  ⟨.settingVariable, "innodb_table_locks"⟩,
  ⟨.settingVariable, "join_buffer_size"⟩,
  ⟨.settingVariable, "lc_messages"⟩,
  ⟨.settingVariable, "lc_time_names"⟩,
  ⟨.settingVariable, "lock_wait_timeout"⟩,
  ⟨.settingVariable, "log_slow_filter"⟩,
  ⟨.settingVariable, "long_query_time"⟩,
  ⟨.settingVariable, "max_execution_time"⟩,
  ⟨.settingVariable, "max_heap_table_size"⟩,
  ⟨.settingVariable, "max_join_size"⟩,
  ⟨.settingVariable, "max_sort_length"⟩,
  ⟨.settingVariable, "max_statement_time"⟩,
  ⟨.settingVariable, "optimizer_prune_level"⟩,
  ⟨.settingVariable, "optimizer_search_depth"⟩,
  ⟨.settingVariable, "optimizer_switch"⟩,
  ⟨.settingVariable, "optimizer_use_condition_selectivity"⟩,
  ⟨.settingVariable, "profiling"⟩,
  ⟨.settingVariable, "query_cache_type"⟩,
  ⟨.settingVariable, "sort_buffer_size"⟩,
  ⟨.settingVariable, "sql_auto_is_null"⟩,
  ⟨.settingVariable, "sql_big_selects"⟩,
  ⟨.settingVariable, "sql_generate_invisible_primary_key"⟩,
  ⟨.settingVariable, "sql_log_bin"⟩,
  ⟨.settingVariable, "sql_mode"⟩,
  ⟨.settingVariable, "sql_quote_show_create"⟩,
  ⟨.settingVariable, "sql_require_primary_key"⟩,
  ⟨.settingVariable, "sql_safe_updates"⟩,
  ⟨.settingVariable, "sql_select_limit"⟩,
  ⟨.settingVariable, "time_zone"⟩,
  ⟨.settingVariable, "timestamp"⟩,
  ⟨.settingVariable, "tmp_table_size"⟩,
  ⟨.settingNextIsolationLevel, "transaction isolation level"⟩,
  ⟨.settingNextTransactionRead, "transaction read"⟩,
  ⟨.settingVariable, "unique_checks"⟩,
  ⟨.settingVariable, "wsrep_osu_method"⟩,
  ⟨.settingVariable, "wsrep_sync_wait"⟩]

namespace Var

def status (i : Var) : Status := (trackedVariables.get i).status

def setVariableName (i : Var) : String := (trackedVariables.get i).setVariableName

/-- The variables that a `SET` is sent for one by one: those with a verifier in
`MySQL_Variables`. -/
def verified (i : Var) : Bool := i ≠ characterSet ∧ i ≠ characterAction ∧ i ≠ setNames

/-- `update_variable`: the variable that a session status is about. -/
def ofStatus (status : Status) (changingVariableIdx : Var) : Option Var :=
  if status = .settingVariable then some changingVariableIdx
  else (List.finRange 59).find? fun i => i.status = status

/-- The lookup of the variable that a failed `SET` was about. -/
def ofName (name : String) : Option Var :=
  (List.finRange 59).find? fun i => sameText i.setVariableName name

theorem ofStatus_status {i : Var} (h : i.verified) : ofStatus i.status i = some i := by
  revert i
  decide +kernel

-- evaluated once for all lookups by name, since the kernel decodes each name it compares
theorem names_nodup :
    (trackedVariables.toList.map fun e => e.setVariableName.toList.map Char.toLower).Nodup := by
  decide +kernel

theorem sameText_setVariableName {i j : Var} :
    sameText i.setVariableName j.setVariableName ↔ i = j := by
  constructor
  · intro same
    have lowered : i.setVariableName.toList.map Char.toLower =
        j.setVariableName.toList.map Char.toLower := of_decide_eq_true same
    have sized : ∀ i : Var, i.val < (trackedVariables.toList.map fun e =>
        e.setVariableName.toList.map Char.toLower).length := by simp
    refine Fin.ext ((@List.Nodup.getElem_inj_iff _ _ names_nodup _ (sized i) _ (sized j)).mp ?_)
    simp only [List.getElem_map]
    exact lowered
  · rintro rfl
    exact decide_eq_true rfl

theorem ofName_setVariableName (i : Var) : ofName i.setVariableName = some i := by
  unfold ofName
  cases found : (List.finRange 59).find? fun j : Var =>
      sameText j.setVariableName i.setVariableName with
  | none =>
    have differ := List.find?_eq_none.mp found i (List.mem_finRange i)
    exact absurd (sameText_setVariableName.mpr rfl) differ
  | some j =>
    have same := List.find?_some found
    rw [sameText_setVariableName.mp same]

theorem ofName_of_sameText {i : Var} {name : String}
    (same : sameText i.setVariableName name) : ofName name = some i := by
  have lowered : i.setVariableName.toList.map Char.toLower = name.toList.map Char.toLower :=
    of_decide_eq_true same
  rw [← ofName_setVariableName i]
  simp [ofName, sameText, lowered]

/-- `is_perm_track_err`, with its one entry -/
def isPermTrackErr (err : Nat) (name : String) : Bool :=
  err = 1210 ∧ sameText name "sql_generate_invisible_primary_key"

end Var

end MockProxy.Variables
