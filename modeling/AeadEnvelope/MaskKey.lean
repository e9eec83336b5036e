import AeadEnvelope.Fault

/-!
# Keys of a mask

The legacy dialect names well-known keys by the bits of a mask. The table of keys is closed: a
mask with any other bit, or with the bit of the undefined key, names nothing and is refused.
-/
namespace AeadEnvelope

/-- A key that a bit of a mask can name. -/
inductive MaskKey where
  /-- The key of the lowest bit, which no mask may name. -/
  | undefined
  /-- Name of a table. -/
  | tableName
  /-- Name of a database. -/
  | databaseName
  /-- Name of a column. -/
  | columnName
  /-- Name of a shard. -/
  | shardName
  /-- Primary identity of a record. -/
  | primaryId
  /-- Topic of an event. -/
  | eventTopic
  /-- Name of a service. -/
  | serviceName
  /-- Token of a customer. -/
  | customerToken
deriving DecidableEq

namespace MaskKey

/-- All keys in the order of the table, the one of the lowest bit first. -/
def all : List MaskKey :=
  [undefined, tableName, databaseName, columnName, shardName, primaryId, eventTopic, serviceName,
    customerToken]

/-- Place of the key's bit in a mask, counted from the lowest bit. -/
def index : MaskKey → Nat
  | undefined => 0
  | tableName => 1
  | databaseName => 2
  | columnName => 3
  | shardName => 4
  | primaryId => 5
  | eventTopic => 6
  | serviceName => 7
  | customerToken => 8

/-- The mask that names the key alone. -/
def bit (key : MaskKey) : Nat := 1 <<< key.index

/-- The key as it stands in a context. -/
def name : MaskKey → String
  | undefined => "undefined"
  | tableName => "table_name"
  | databaseName => "database_name"
  | columnName => "column_name"
  | shardName => "shard_name"
  | primaryId => "primary_id"
  | eventTopic => "event_topic"
  | serviceName => "service_name"
  | customerToken => "customer_token"

/-- The key of a name. -/
def ofName? (name : String) : Option MaskKey := all.find? fun key => key.name == name

/-- The mask that names each of the keys. -/
def maskOf (keys : List MaskKey) : Nat := keys.foldl (fun mask key => mask ||| key.bit) 0

/-- Every bit that names a key. -/
def knownBits : Nat := maskOf (all.filter (· ≠ undefined))

/-- The keys that a mask names, in the order of the table. -/
def ofMask (mask : Nat) : Except Fault (List MaskKey) :=
  if mask &&& knownBits = mask then .ok (all.filter fun key => mask.testBit key.index)
  else .error (.malformed .unknownKeyBit)

end MaskKey

end AeadEnvelope
