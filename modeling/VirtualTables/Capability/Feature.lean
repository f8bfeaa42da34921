/-!
Optional features of SQL that relational callers ask about.
-/

namespace VirtualTables

inductive Feature where
  | allTablesAreSelectable
  | readOnly
  | nullPlusNonNullIsNull
  | nullsAreSortedAtStart
  | nullsAreSortedLow
  | columnAliasing
  | groupBy
  | minimumSqlGrammar
  | mixedCaseIdentifiers
  | mixedCaseQuotedIdentifiers
  | multipleOpenResults
  | nonNullableColumns
  | orderByUnrelated
  | allProceduresAreCallable
  | transactions
  | batchUpdates
  | storedProcedures
  | savepoints
  | outerJoins
  | fullOuterJoins
  | unions
  | unionAll
  | subqueriesInExists
  | subqueriesInIns
  | correlatedSubqueries
  | likeEscapeClause
  | expressionsInOrderBy
  | selectForUpdate
  | getGeneratedKeys
  | namedParameters
  | dataDefinitionInTransactions
  | coreSqlGrammar
  | extendedSqlGrammar
deriving DecidableEq

namespace Feature

def supported : List Feature := [
  .allTablesAreSelectable, .readOnly, .nullPlusNonNullIsNull, .nullsAreSortedAtStart,
  .nullsAreSortedLow, .columnAliasing, .groupBy, .minimumSqlGrammar, .mixedCaseIdentifiers,
  .mixedCaseQuotedIdentifiers, .multipleOpenResults, .nonNullableColumns, .orderByUnrelated]

def missing : List Feature := [
  .allProceduresAreCallable, .transactions, .batchUpdates, .storedProcedures, .savepoints,
  .outerJoins, .fullOuterJoins, .unions, .unionAll, .subqueriesInExists, .subqueriesInIns,
  .correlatedSubqueries, .likeEscapeClause, .expressionsInOrderBy, .selectForUpdate,
  .getGeneratedKeys, .namedParameters, .dataDefinitionInTransactions, .coreSqlGrammar,
  .extendedSqlGrammar]

def name : Feature → String
  | .allTablesAreSelectable => "AllTablesAreSelectable"
  | .readOnly => "ReadOnly"
  | .nullPlusNonNullIsNull => "NullPlusNonNullIsNull"
  | .nullsAreSortedAtStart => "NullsAreSortedAtStart"
  | .nullsAreSortedLow => "NullsAreSortedLow"
  | .columnAliasing => "ColumnAliasing"
  | .groupBy => "GroupBy"
  | .minimumSqlGrammar => "MinimumSqlGrammar"
  | .mixedCaseIdentifiers => "MixedCaseIdentifiers"
  | .mixedCaseQuotedIdentifiers => "MixedCaseQuotedIdentifiers"
  | .multipleOpenResults => "MultipleOpenResults"
  | .nonNullableColumns => "NonNullableColumns"
  | .orderByUnrelated => "OrderByUnrelated"
  | .allProceduresAreCallable => "AllProceduresAreCallable"
  | .transactions => "Transactions"
  | .batchUpdates => "BatchUpdates"
  | .storedProcedures => "StoredProcedures"
  | .savepoints => "Savepoints"
  | .outerJoins => "OuterJoins"
  | .fullOuterJoins => "FullOuterJoins"
  | .unions => "Unions"
  | .unionAll => "UnionAll"
  | .subqueriesInExists => "SubqueriesInExists"
  | .subqueriesInIns => "SubqueriesInIns"
  | .correlatedSubqueries => "CorrelatedSubqueries"
  | .likeEscapeClause => "LikeEscapeClause"
  | .expressionsInOrderBy => "ExpressionsInOrderBy"
  | .selectForUpdate => "SelectForUpdate"
  | .getGeneratedKeys => "GetGeneratedKeys"
  | .namedParameters => "NamedParameters"
  | .dataDefinitionInTransactions => "DataDefinitionInTransactions"
  | .coreSqlGrammar => "CoreSqlGrammar"
  | .extendedSqlGrammar => "ExtendedSqlGrammar"

def named? (name : String) : Option Feature :=
  (supported ++ missing).find? (·.name == name)

def isSupported (feature : Feature) : Bool :=
  supported.contains feature

end Feature

end VirtualTables
