import OracleRs.Types.Value

set_option relaxedAutoImplicit false
set_option autoImplicit false

/-!
# Statements

A SQL statement as the driver keeps it (`statement.rs`): its text, what the scan of the text has
found, and the cursor that the server has assigned to it.

## Main definitions

* `OracleRs.StatementType`, `OracleRs.BindInfo`, `OracleRs.Statement` — the data.
* `OracleRs.Statement.cloneForReuse` — the copy that the statement cache hands out.
-/

namespace OracleRs

/-- The kind of a statement (`StatementType`). -/
inductive StatementType where
  | unknown | query | dml | ddl | plSql
deriving DecidableEq, Repr, Inhabited

/-- A bind placeholder (`BindInfo`): its name and whether it stands behind RETURNING INTO. -/
structure BindInfo where
  /-- the name without the colon -/
  name : String
  /-- is it a RETURNING INTO bind? -/
  isReturnBind : Bool
deriving DecidableEq, Repr, Inhabited

/-- A statement (`Statement`). -/
structure Statement where
  /-- the SQL text -/
  sql : String
  /-- the kind of statement -/
  statementType : StatementType := .unknown
  /-- the cursor id, zero if none is assigned -/
  cursorId : UInt16 := 0
  /-- the bind placeholders in order of appearance -/
  bindInfo : List BindInfo := []
  /-- the columns of a query -/
  columns : List ColumnInfo := []
  /-- has it been executed? -/
  executed : Bool := false
  /-- has the bind metadata changed? -/
  bindsChanged : Bool := false
  /-- are column defines required? -/
  requiresDefine : Bool := false
  /-- is prefetching disabled? -/
  noPrefetch : Bool := false
  /-- is it a DML RETURNING statement? -/
  isReturning : Bool := false
deriving DecidableEq, Repr, Inhabited

namespace Statement

/-- `is_query`. -/
def isQuery (s : Statement) : Bool := s.statementType = .query

/-- `is_dml`. -/
def isDml (s : Statement) : Bool := s.statementType = .dml

/-- `is_ddl`. -/
def isDdl (s : Statement) : Bool := s.statementType = .ddl

/-- `is_plsql`. -/
def isPlsql (s : Statement) : Bool := s.statementType = .plSql

/-- `sql_bytes`. -/
def sqlBytes (s : Statement) : Bytes := asBytes s.sql

/-- `clone_for_reuse`: the cursor and the metadata are kept. -/
def cloneForReuse (s : Statement) : Statement :=
  { s with bindsChanged := false, requiresDefine := false }

@[simp] lemma cursorId_cloneForReuse (s : Statement) : s.cloneForReuse.cursorId = s.cursorId := rfl

end Statement

end OracleRs
