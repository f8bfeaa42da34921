/-!
What relational callers may do with a connection and its statements.

Every operation is carried out, accepted without effect and with a fixed answer, or refused; the
answer depends on the operation alone.
-/

namespace VirtualTables

inductive Operation where
  | createStatement
  | prepareStatement
  | executeQuery
  | getMetaData
  | isValid
  | close
  | isClosed
  | getAutoCommit
  | setAutoCommit
  | isReadOnly
  | setReadOnly
  | getTransactionIsolation
  | getCatalog
  | setCatalog
  | getSchema
  | setSchema
  | getClientInfo
  | setClientInfo
  | getWarnings
  | clearWarnings
  | commit
  | rollback
  | setSavepoint
  | releaseSavepoint
  | rollbackToSavepoint
  | setTransactionIsolation
  | getHoldability
  | setHoldability
  | getNetworkTimeout
  | setNetworkTimeout
  | getTypeMap
  | setTypeMap
  | nativeSql
  | prepareCall
  | createArrayOf
  | createBlob
  | createClob
  | createNClob
  | createSqlXml
  | createStruct
  | executeUpdate
  | executeBatch
deriving DecidableEq

/-- The answer of an operation without effect. -/
inductive FixedAnswer where
  | unit
  | bool (value : Bool)
  | noIsolation
  | absent
  | emptyProperties
deriving DecidableEq

inductive Capability where
  | supported
  | noOp (answer : FixedAnswer)
  | unsupported
deriving DecidableEq

namespace Operation

def all : List Operation := [
  .createStatement, .prepareStatement, .executeQuery, .getMetaData, .isValid, .close, .isClosed,
  .getAutoCommit, .setAutoCommit, .isReadOnly, .setReadOnly, .getTransactionIsolation,
  .getCatalog, .setCatalog, .getSchema, .setSchema, .getClientInfo, .setClientInfo, .getWarnings,
  .clearWarnings, .commit, .rollback, .setSavepoint, .releaseSavepoint, .rollbackToSavepoint,
  .setTransactionIsolation, .getHoldability, .setHoldability, .getNetworkTimeout,
  .setNetworkTimeout, .getTypeMap, .setTypeMap, .nativeSql, .prepareCall, .createArrayOf,
  .createBlob, .createClob, .createNClob, .createSqlXml, .createStruct, .executeUpdate,
  .executeBatch]

def name : Operation → String
  | .createStatement => "CreateStatement"
  | .prepareStatement => "PrepareStatement"
  | .executeQuery => "ExecuteQuery"
  | .getMetaData => "GetMetaData"
  | .isValid => "IsValid"
  | .close => "Close"
  | .isClosed => "IsClosed"
  | .getAutoCommit => "GetAutoCommit"
  | .setAutoCommit => "SetAutoCommit"
  | .isReadOnly => "IsReadOnly"
  | .setReadOnly => "SetReadOnly"
  | .getTransactionIsolation => "GetTransactionIsolation"
  | .getCatalog => "GetCatalog"
  | .setCatalog => "SetCatalog"
  | .getSchema => "GetSchema"
  | .setSchema => "SetSchema"
  | .getClientInfo => "GetClientInfo"
  | .setClientInfo => "SetClientInfo"
  | .getWarnings => "GetWarnings"
  | .clearWarnings => "ClearWarnings"
  | .commit => "Commit"
  | .rollback => "Rollback"
  | .setSavepoint => "SetSavepoint"
  | .releaseSavepoint => "ReleaseSavepoint"
  | .rollbackToSavepoint => "RollbackToSavepoint"
  | .setTransactionIsolation => "SetTransactionIsolation"
  | .getHoldability => "GetHoldability"
  | .setHoldability => "SetHoldability"
  | .getNetworkTimeout => "GetNetworkTimeout"
  | .setNetworkTimeout => "SetNetworkTimeout"
  | .getTypeMap => "GetTypeMap"
  | .setTypeMap => "SetTypeMap"
  | .nativeSql => "NativeSql"
  | .prepareCall => "PrepareCall"
  | .createArrayOf => "CreateArrayOf"
  | .createBlob => "CreateBlob"
  | .createClob => "CreateClob"
  | .createNClob => "CreateNClob"
  | .createSqlXml => "CreateSqlXml"
  | .createStruct => "CreateStruct"
  | .executeUpdate => "ExecuteUpdate"
  | .executeBatch => "ExecuteBatch"

def named? (name : String) : Option Operation :=
  all.find? (·.name == name)

def capability : Operation → Capability
  | .createStatement => .supported
  | .prepareStatement => .supported
  | .executeQuery => .supported
  | .getMetaData => .supported
  | .isValid => .supported
  | .close => .noOp .unit
  | .isClosed => .noOp (.bool false)
  | .getAutoCommit => .noOp (.bool true)
  | .setAutoCommit => .noOp .unit
  | .isReadOnly => .noOp (.bool true)
  | .setReadOnly => .noOp .unit
  | .getTransactionIsolation => .noOp .noIsolation
  | .getCatalog => .noOp .absent
  | .setCatalog => .noOp .unit
  | .getSchema => .noOp .absent
  | .setSchema => .noOp .unit
  | .getClientInfo => .noOp .emptyProperties
  | .setClientInfo => .noOp .unit
  | .getWarnings => .noOp .absent
  | .clearWarnings => .noOp .unit
  | _ => .unsupported

end Operation

def FixedAnswer.diagnostic : FixedAnswer → String
  | .unit => "Unit"
  | .bool value => if value then "Bool(true)" else "Bool(false)"
  | .noIsolation => "Isolation(None)"
  | .absent => "Absent"
  | .emptyProperties => "EmptyProperties"

def Capability.diagnostic : Capability → String
  | .supported => "Supported"
  | .noOp answer => "NoOp(" ++ answer.diagnostic ++ ")"
  | .unsupported => "Unsupported"

end VirtualTables
