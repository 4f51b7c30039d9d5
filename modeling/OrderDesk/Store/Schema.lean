import OrderDesk.Json.Value
import OrderDesk.Store.Basic

/-! The columns, keys and indexes of the tables. -/

namespace OrderDesk

inductive ColumnType
  | integer
  | bigInteger
  | varchar (length : Nat)
  | text
  | json
  | boolean
  | datetime
  deriving DecidableEq, Repr

namespace ColumnType

def name : ColumnType → String
  | integer => "INTEGER"
  | bigInteger => "BIGINT"
  | varchar length => "VARCHAR(" ++ toString length ++ ")"
  | text => "TEXT"
  | json => "JSON"
  | boolean => "BOOLEAN"
  | datetime => "DATETIME"

end ColumnType

structure Column where
  name : String
  type : ColumnType
  nullable : Bool
  deriving DecidableEq, Repr

structure ForeignKey where
  column : String
  target : Table
  targetColumn : String
  deriving DecidableEq, Repr

structure TableIndex where
  name : String
  columns : List String
  isUnique : Bool
  deriving DecidableEq, Repr

structure TableSchema where
  columns : List Column
  primaryKey : List String
  foreignKeys : List ForeignKey
  indexes : List TableIndex
  uniqueKeys : List (List String)
  deriving DecidableEq, Repr

/-- Where tables come from: the declared models, the migration, or the migration taken back. -/
inductive SchemaSource
  | models
  | migration
  | downgrade
  deriving DecidableEq, Repr

namespace SchemaSource

def ofName? : String → Option SchemaSource
  | "models" => some models
  | "migration" => some migration
  | "downgrade" => some downgrade
  | _ => none

end SchemaSource

namespace Table

def required (name : String) (type : ColumnType) : Column := ⟨name, type, false⟩
def optional (name : String) (type : ColumnType) : Column := ⟨name, type, true⟩

def columns : Table → List Column
  | users => [
    required "id" .integer, required "email" (.varchar 255),
    optional "display_name" (.varchar 255), required "roles" .json,
    required "status" (.varchar 32), optional "created_at" .datetime,
    optional "updated_at" .datetime]
  | plans => [
    required "id" .integer, required "name" (.varchar 255), required "slug" (.varchar 128),
    optional "description" .text, required "tags" .json, required "features" .json,
    required "price_cents" .bigInteger, optional "currency" (.varchar 16),
    required "duration_days" .integer, required "traffic_limit_bytes" .bigInteger,
    required "devices_limit" .integer, required "sort_order" .integer,
    required "status" (.varchar 32), required "is_visible" .boolean,
    optional "created_at" .datetime, optional "updated_at" .datetime]
  | orders => [
    required "id" .integer, required "number" (.varchar 40), required "user_id" .integer,
    optional "plan_id" .integer, required "status" (.varchar 32),
    required "payment_method" (.varchar 32), required "payment_status" (.varchar 32),
    required "total_cents" .bigInteger, required "refunded_cents" .bigInteger,
    required "currency" (.varchar 16), optional "payment_intent_id" (.varchar 128),
    optional "payment_reference" (.varchar 128), optional "payment_failure_code" (.varchar 64),
    optional "payment_failure_message" (.varchar 255), optional "metadata" .json,
    optional "plan_snapshot" .json, optional "paid_at" .datetime,
    optional "cancelled_at" .datetime, optional "refunded_at" .datetime,
    required "created_at" .datetime, required "updated_at" .datetime]
  | orderItems => [
    required "id" .integer, required "order_id" .integer, required "item_type" (.varchar 32),
    required "item_id" .integer, required "name" (.varchar 255), required "quantity" .integer,
    required "unit_price_cents" .bigInteger, required "currency" (.varchar 16),
    required "subtotal_cents" .bigInteger, optional "metadata" .json,
    required "created_at" .datetime]
  | orderRefunds => [
    required "id" .integer, required "order_id" .integer, required "amount_cents" .bigInteger,
    optional "reason" (.varchar 255), optional "reference" (.varchar 64),
    optional "metadata" .json, required "created_at" .datetime]
  | orderPayments => [
    required "id" .integer, required "order_id" .integer, optional "provider" (.varchar 64),
    required "method" (.varchar 32), optional "intent_id" (.varchar 128),
    optional "reference" (.varchar 128), required "status" (.varchar 32),
    required "amount_cents" .bigInteger, required "currency" (.varchar 16),
    optional "failure_code" (.varchar 64), optional "failure_message" .text,
    optional "metadata" .json, optional "processed_at" .datetime,
    required "created_at" .datetime, required "updated_at" .datetime]
  | balances => [
    required "user_id" .integer, required "balance_cents" .bigInteger,
    required "currency" (.varchar 16), optional "last_transaction_id" .integer,
    optional "created_at" .datetime, optional "updated_at" .datetime]
  | ledger => [
    required "id" .integer, required "user_id" .integer, required "type" (.varchar 32),
    required "amount_cents" .bigInteger, required "currency" (.varchar 16),
    required "balance_after_cents" .bigInteger, optional "reference" (.varchar 64),
    optional "description" (.varchar 255), optional "metadata" .json,
    required "created_at" .datetime]
  | keyBindings => [
    required "id" .integer, required "user_id" .integer, required "endpoint" (.varchar 64),
    required "key" (.varchar 128), required "order_id" .integer,
    required "created_at" .datetime]
  | securitySettings => [
    required "id" .integer, required "third_party_api_enabled" .boolean,
    required "api_key" (.varchar 128), required "api_secret" (.varchar 256),
    required "encryption_algorithm" (.varchar 32), required "nonce_ttl_seconds" .integer,
    optional "created_at" .datetime, optional "updated_at" .datetime]

def primaryKey : Table → List String
  | balances => ["user_id"]
  | _ => ["id"]

def foreignKeys : Table → List ForeignKey
  | orders => [⟨"plan_id", plans, "id"⟩, ⟨"user_id", users, "id"⟩]
  | orderItems | orderRefunds | orderPayments => [⟨"order_id", orders, "id"⟩]
  | balances | ledger => [⟨"user_id", users, "id"⟩]
  | keyBindings => [⟨"order_id", orders, "id"⟩, ⟨"user_id", users, "id"⟩]
  | users | plans | securitySettings => []

def indexName (table : Table) (rest : String) : String :=
  "ix_" ++ table.name ++ "_" ++ rest

def indexOn (table : Table) (column : String) (isUnique : Bool := false) : TableIndex :=
  ⟨table.indexName column, [column], isUnique⟩

def indexes (table : Table) : List TableIndex :=
  match table with
  | users => [table.indexOn "email" true]
  | plans => [table.indexOn "slug" true]
  | orders => [table.indexOn "created_at", table.indexOn "number" true, table.indexOn "status",
    table.indexOn "user_id"]
  | orderItems => [table.indexOn "item_id", table.indexOn "order_id"]
  | orderRefunds => [table.indexOn "order_id"]
  | orderPayments => [table.indexOn "intent_id", table.indexOn "order_id"]
  | ledger => [⟨table.indexName "user_created", ["user_id", "created_at", "id"], false⟩,
    table.indexOn "user_id"]
  | keyBindings => [table.indexOn "user_id"]
  | balances | securitySettings => []

/-- The migration makes emails unique twice, by a key and by an index. -/
def uniqueKeys (source : SchemaSource) : Table → List (List String)
  | users => if source = .models then [] else [["email"]]
  | keyBindings => [["user_id", "endpoint", "key"]]
  | _ => []

end Table

namespace SchemaSource

def tables : SchemaSource → List Table
  | models | migration => Table.all
  | downgrade => []

def schema? (source : SchemaSource) (table : Table) : Option TableSchema :=
  if table ∈ source.tables then some {
    columns := table.columns
    primaryKey := table.primaryKey
    foreignKeys := table.foreignKeys
    indexes := table.indexes
    uniqueKeys := table.uniqueKeys source }
  else none

def tableNames (source : SchemaSource) : List String :=
  (source.tables.map (·.name)).mergeSort fun first second => decide (first ≤ second)

end SchemaSource

namespace TableSchema

def names (columns : List String) : Json :=
  .list (columns.map .text)

def json (schema : TableSchema) : Json := .object [
  ("columns", .list (schema.columns.map fun column =>
    .list [.text column.name, .text column.type.name, .bool column.nullable])),
  ("primary_key", names schema.primaryKey),
  ("foreign_keys", .list (schema.foreignKeys.map fun key =>
    .list [names [key.column], .text key.target.name, names [key.targetColumn]])),
  ("indexes", .list (schema.indexes.map fun index =>
    .list [.text index.name, names index.columns, .bool index.isUnique])),
  ("unique", .list (schema.uniqueKeys.map names))]

end TableSchema

end OrderDesk
