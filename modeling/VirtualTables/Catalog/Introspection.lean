import VirtualTables.Row

/-!
The kinds of catalog questions that relational tools ask, and the layout of the answer to each.

Only schemas, tables and columns can have rows; the answers of the kinds in `Introspection.empty`
never have any.
-/

namespace VirtualTables

/-- A kind of catalog question. -/
inductive Introspection where
  | schemas
  | tables
  | columns
  | attributes
  | bestRowIdentifier
  | catalogs
  | clientInfoProperties
  | columnPrivileges
  | crossReference
  | exportedKeys
  | functionColumns
  | functions
  | importedKeys
  | indexInfo
  | primaryKeys
  | procedureColumns
  | procedures
  | superTables
  | superTypes
  | tablePrivileges
  | tableTypes
  | typeInfo
  | userTypes
  | versionColumns
deriving DecidableEq

namespace Introspection

/-- The kinds whose answers have no rows. -/
def empty : List Introspection :=
  [.attributes, .bestRowIdentifier, .catalogs, .clientInfoProperties, .columnPrivileges,
    .crossReference, .exportedKeys, .functionColumns, .functions, .importedKeys, .indexInfo,
    .primaryKeys, .procedureColumns, .procedures, .superTables, .superTypes, .tablePrivileges,
    .tableTypes, .typeInfo, .userTypes, .versionColumns]

def all : List Introspection :=
  [.schemas, .tables, .columns] ++ empty

def name : Introspection → String
  | .schemas => "Schemas"
  | .tables => "Tables"
  | .columns => "Columns"
  | .attributes => "Attributes"
  | .bestRowIdentifier => "BestRowIdentifier"
  | .catalogs => "Catalogs"
  | .clientInfoProperties => "ClientInfoProperties"
  | .columnPrivileges => "ColumnPrivileges"
  | .crossReference => "CrossReference"
  | .exportedKeys => "ExportedKeys"
  | .functionColumns => "FunctionColumns"
  | .functions => "Functions"
  | .importedKeys => "ImportedKeys"
  | .indexInfo => "IndexInfo"
  | .primaryKeys => "PrimaryKeys"
  | .procedureColumns => "ProcedureColumns"
  | .procedures => "Procedures"
  | .superTables => "SuperTables"
  | .superTypes => "SuperTypes"
  | .tablePrivileges => "TablePrivileges"
  | .tableTypes => "TableTypes"
  | .typeInfo => "TypeInfo"
  | .userTypes => "Udts"
  | .versionColumns => "VersionColumns"

def named? (name : String) : Option Introspection :=
  all.find? (·.name == name)

private def texts (names : List String) : List Column :=
  names.map (⟨·, .string⟩)

private def integers (names : List String) : List Column :=
  names.map (⟨·, .integer⟩)

private def keyColumns : List Column :=
  texts ["PKTABLE_CAT", "PKTABLE_SCHEM", "PKTABLE_NAME", "PKCOLUMN_NAME", "FKTABLE_CAT",
    "FKTABLE_SCHEM", "FKTABLE_NAME", "FKCOLUMN_NAME"] ++
  integers ["KEY_SEQ", "UPDATE_RULE", "DELETE_RULE"] ++
  texts ["FK_NAME", "PK_NAME"] ++ integers ["DEFERRABILITY"]

private def identifierColumns : List Column :=
  integers ["SCOPE"] ++ texts ["COLUMN_NAME"] ++ integers ["DATA_TYPE"] ++ texts ["TYPE_NAME"] ++
  integers ["COLUMN_SIZE", "BUFFER_LENGTH", "DECIMAL_DIGITS", "PSEUDO_COLUMN"]

def columnsOf : Introspection → List Column
  | .schemas => texts ["TABLE_SCHEM", "TABLE_CATALOG"]
  | .tables => texts ["TABLE_CAT", "TABLE_SCHEM", "TABLE_NAME", "TABLE_TYPE", "REMARKS"]
  | .columns =>
      texts ["TABLE_CAT", "TABLE_SCHEM", "TABLE_NAME", "COLUMN_NAME"] ++
      integers ["DATA_TYPE"] ++ texts ["TYPE_NAME"] ++
      integers ["COLUMN_SIZE", "DECIMAL_DIGITS", "NULLABLE", "ORDINAL_POSITION"] ++
      texts ["IS_NULLABLE"]
  | .attributes =>
      texts ["TYPE_CAT", "TYPE_SCHEM", "TYPE_NAME", "ATTR_NAME"] ++ integers ["DATA_TYPE"] ++
      texts ["ATTR_TYPE_NAME"]
  | .bestRowIdentifier => identifierColumns
  | .catalogs => texts ["TABLE_CAT"]
  | .clientInfoProperties =>
      texts ["NAME"] ++ integers ["MAX_LEN"] ++ texts ["DEFAULT_VALUE", "DESCRIPTION"]
  | .columnPrivileges =>
      texts ["TABLE_CAT", "TABLE_SCHEM", "TABLE_NAME", "COLUMN_NAME", "GRANTOR", "GRANTEE",
        "PRIVILEGE", "IS_GRANTABLE"]
  | .crossReference => keyColumns
  | .exportedKeys => keyColumns
  | .functionColumns =>
      texts ["FUNCTION_CAT", "FUNCTION_SCHEM", "FUNCTION_NAME", "COLUMN_NAME"] ++
      integers ["COLUMN_TYPE", "DATA_TYPE"] ++ texts ["TYPE_NAME"]
  | .functions =>
      texts ["FUNCTION_CAT", "FUNCTION_SCHEM", "FUNCTION_NAME", "REMARKS"] ++
      integers ["FUNCTION_TYPE"] ++ texts ["SPECIFIC_NAME"]
  | .importedKeys => keyColumns
  | .indexInfo =>
      texts ["TABLE_CAT", "TABLE_SCHEM", "TABLE_NAME"] ++ [⟨"NON_UNIQUE", .boolean⟩] ++
      texts ["INDEX_QUALIFIER", "INDEX_NAME"] ++ integers ["TYPE", "ORDINAL_POSITION"] ++
      texts ["COLUMN_NAME", "ASC_OR_DESC"] ++ integers ["CARDINALITY", "PAGES"] ++
      texts ["FILTER_CONDITION"]
  | .primaryKeys =>
      texts ["TABLE_CAT", "TABLE_SCHEM", "TABLE_NAME", "COLUMN_NAME"] ++ integers ["KEY_SEQ"] ++
      texts ["PK_NAME"]
  | .procedureColumns =>
      texts ["PROCEDURE_CAT", "PROCEDURE_SCHEM", "PROCEDURE_NAME", "COLUMN_NAME"] ++
      integers ["COLUMN_TYPE", "DATA_TYPE"] ++ texts ["TYPE_NAME"]
  | .procedures =>
      texts ["PROCEDURE_CAT", "PROCEDURE_SCHEM", "PROCEDURE_NAME", "REMARKS"] ++
      integers ["PROCEDURE_TYPE"] ++ texts ["SPECIFIC_NAME"]
  | .superTables => texts ["TABLE_CAT", "TABLE_SCHEM", "TABLE_NAME", "SUPERTABLE_NAME"]
  | .superTypes =>
      texts ["TYPE_CAT", "TYPE_SCHEM", "TYPE_NAME", "SUPERTYPE_CAT", "SUPERTYPE_SCHEM",
        "SUPERTYPE_NAME"]
  | .tablePrivileges =>
      texts ["TABLE_CAT", "TABLE_SCHEM", "TABLE_NAME", "GRANTOR", "GRANTEE", "PRIVILEGE",
        "IS_GRANTABLE"]
  | .tableTypes => texts ["TABLE_TYPE"]
  | .typeInfo =>
      texts ["TYPE_NAME"] ++ integers ["DATA_TYPE", "PRECISION"] ++
      texts ["LITERAL_PREFIX", "LITERAL_SUFFIX", "CREATE_PARAMS"] ++ integers ["NULLABLE"] ++
      [⟨"CASE_SENSITIVE", .boolean⟩] ++ integers ["SEARCHABLE"]
  | .userTypes =>
      texts ["TYPE_CAT", "TYPE_SCHEM", "TYPE_NAME", "CLASS_NAME"] ++ integers ["DATA_TYPE"] ++
      texts ["REMARKS"] ++ integers ["BASE_TYPE"]
  | .versionColumns => identifierColumns

def layout (kind : Introspection) : Layout :=
  ⟨kind.columnsOf⟩

end Introspection

end VirtualTables
