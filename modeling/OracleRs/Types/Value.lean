import OracleRs.Types.Number
import OracleRs.Types.Date
import OracleRs.Types.Interval
import OracleRs.Types.Binary

set_option relaxedAutoImplicit false
set_option autoImplicit false

/-!
# Columns and values

The column metadata of `statement.rs`, the object types of `dbobject.rs` and the value type of
`row.rs` with the types of its fields. Floating-point values are their IEEE 754 bit patterns.

The codecs for JSON documents, vectors and the elements of collections are a parameter of every
function that reaches them.

## Main definitions

* `OracleRs.ColumnInfo` — what the parsers know about a column.
* `OracleRs.Value`, `OracleRs.Row` — values and rows.
* `OracleRs.Codecs` — the codecs for JSON documents, vectors and collections.
-/

namespace OracleRs

/-! ## Columns -/

/-- The kinds of collections (`CollectionType`). -/
inductive CollectionType where
  | plsqlIndexTable
  | nestedTable
  | varray
deriving DecidableEq, Repr, Inhabited

/-- The collection type of a wire code (`constants::collection_type`). -/
def CollectionType.ofCode (code : UInt8) : Option CollectionType :=
  match code with
  | 1 => some .plsqlIndexTable
  | 2 => some .nestedTable
  | 3 => some .varray
  | _ => none

/-- Column metadata (`ColumnInfo`). -/
structure ColumnInfo where
  /-- column name -/
  name : String
  /-- Oracle data type -/
  oracleType : OracleType
  /-- data type size -/
  dataSize : UInt32 := 0
  /-- buffer size for fetching -/
  bufferSize : UInt32 := 0
  /-- precision (for NUMBER) -/
  precision : Int16 := 0
  /-- scale (for NUMBER) -/
  scale : Int16 := 0
  /-- whether NULL values are allowed -/
  nullable : Bool := true
  /-- character set form -/
  csfrm : UInt8 := 0
  /-- schema name (for object types) -/
  typeSchema : Option String := none
  /-- type name (for object types) -/
  typeName : Option String := none
  /-- is it a JSON column? -/
  isJson : Bool := false
  /-- element type for collections -/
  elementType : Option OracleType := none
  /-- collection type for object and collection columns and binds -/
  collectionType : Option CollectionType := none
deriving DecidableEq, Repr, Inhabited

namespace ColumnInfo

/-- `ColumnInfo::new`. -/
def new (name : String) (oracleType : OracleType) : ColumnInfo :=
  { name := name, oracleType := oracleType }

/-- Is the column of a LOB type (`is_lob`)? -/
def isLob (col : ColumnInfo) : Bool := col.oracleType.isLob

end ColumnInfo

/-! ## Composite values -/

/-- An Oracle ROWID (`RowId`). -/
structure RowId where
  /-- relative block address -/
  rba : UInt32
  /-- partition id -/
  partitionId : UInt16
  /-- block number -/
  blockNum : UInt32
  /-- slot number -/
  slotNum : UInt16
deriving DecidableEq, Repr, Inhabited

namespace RowId

/-- `BASE64_ALPHABET`. -/
def base64Alphabet : List Char :=
  "ABCDEFGHIJKLMNOPQRSTUVWXYZabcdefghijklmnopqrstuvwxyz0123456789+/".toList

/-- `convert_base64`: the last `numChars` digits of a number in base 64. -/
def convertBase64 (value : ℕ) : ℕ → List Char
  | 0 => []
  | numChars + 1 => convertBase64 (value / 64) numChars ++ [base64Alphabet.getD (value % 64) 'A']

/-- `is_valid`: is some part different from zero? -/
def isValid (r : RowId) : Bool :=
  r.rba ≠ 0 || r.partitionId ≠ 0 || r.blockNum ≠ 0 || r.slotNum ≠ 0

/-- `RowId::to_string`: the 18 characters of a valid ROWID. -/
def toText (r : RowId) : Option String :=
  if r.isValid then
    some (String.ofList (convertBase64 r.rba.toNat 6 ++ convertBase64 r.partitionId.toNat 3 ++
      convertBase64 r.blockNum.toNat 6 ++ convertBase64 r.slotNum.toNat 3))
  else
    none

end RowId

/-- A REF CURSOR (`RefCursor`). -/
structure RefCursor where
  /-- the cursor id on the server -/
  cursorId : UInt16
  /-- the columns of the result set -/
  columns : List ColumnInfo
  /-- whether the cursor has been fetched -/
  fetched : Bool := false
deriving DecidableEq, Repr, Inhabited

/-- A reference to a LOB in the database (`LobLocator`). -/
structure LobLocator where
  /-- the raw locator -/
  locator : Bytes
  /-- size in bytes or characters -/
  size : UInt64
  /-- chunk size for reading and writing -/
  chunkSize : UInt32
  /-- the LOB type -/
  oracleType : OracleType
  /-- character set form -/
  csfrm : UInt8
deriving DecidableEq, Repr, Inhabited

/-- `uses_var_length_charset`. -/
def LobLocator.usesVarLengthCharset (locator : LobLocator) : Bool :=
  if locator.locator.length > 6 then locator.locator.getD 6 0 &&& 0x80 ≠ 0 else false

/-- A LOB value (`LobValue`). -/
inductive LobValue where
  | inline (data : Bytes)
  | locator (locator : LobLocator)
  | empty
  | null
deriving DecidableEq, Repr, Inhabited

/-- A JSON document. -/
inductive Json where
  | null
  | bool (b : Bool)
  | number (text : String)
  | string (s : String)
  | array (items : List Json)
  | object (fields : List (String × Json))
deriving Repr, Inhabited

/-- The numbers of a vector (`VectorData`). -/
inductive VectorData where
  | float32 (values : List UInt32)
  | float64 (values : List UInt64)
  | int8 (values : List Int8)
  | binary (values : Bytes)
deriving DecidableEq, Repr, Inhabited

/-- A vector, dense or sparse (`OracleVector`). -/
inductive OracleVector where
  | dense (data : VectorData)
  | sparse (numDimensions : UInt32) (indices : List UInt32) (values : VectorData)
deriving DecidableEq, Repr, Inhabited

/-! ## Values -/

mutual

/-- A column or bind value (`Value`). -/
inductive Value where
  | null
  | typedNull (oracleType : OracleType)
  | string (s : String)
  | bytes (b : Bytes)
  | integer (n : Int64)
  | float (bits : UInt64)
  | number (n : OracleNumber)
  | date (d : OracleDate)
  | timestamp (ts : OracleTimestamp)
  | rowId (r : RowId)
  | boolean (b : Bool)
  | intervalYM (interval : OracleIntervalYM)
  | intervalDS (interval : OracleIntervalDS)
  | lob (lob : LobValue)
  | json (json : Json)
  | vector (vector : OracleVector)
  | cursor (cursor : RefCursor)
  | collection (collection : DbObject)

/-- An instance of an object or collection type (`DbObject`): the type name, the attributes by
upper-case name, the elements, and whether it is a collection. -/
inductive DbObject where
  | mk (typeName : String) (values : List (String × Value)) (elements : List Value)
    (isCollection : Bool)

end

instance : Inhabited Value := ⟨.null⟩

/-- A decoded number as a value: an integer if it is one and in range. -/
def numberValue (num : OracleNumber) : Value :=
  match num.isInteger, num.toI64 with
  | true, .ok i => .integer i
  | _, _ => .number num

/-- `Value::is_null`. -/
def Value.isNull : Value → Bool
  | .null | .typedNull _ => true
  | _ => false

/-- `Value::as_str`. -/
def Value.asStr : Value → Option String
  | .string s => some s
  | _ => none

/-- `f64 as i64` on a bit pattern: the number without its fraction, the nearest bound if it is out of
range, and zero for NaN. -/
def truncateToI64 (bits : UInt64) : Int64 :=
  let n := bits.toNat
  let exponent := n / 2 ^ 52 % 2 ^ 11
  let fraction := n % 2 ^ 52
  let magnitude : ℕ :=
    if exponent = 0x7FF ∧ fraction ≠ 0 then 0
    else if exponent < 1023 then 0
    else if exponent < 1075 then (2 ^ 52 + fraction) / 2 ^ (1075 - exponent)
    else if exponent < 1087 then (2 ^ 52 + fraction) * 2 ^ (exponent - 1075)
    else 2 ^ 63
  if n < 2 ^ 63 then Int64.ofInt (min magnitude (2 ^ 63 - 1)) else Int64.ofInt (-min magnitude (2 ^ 63))

/-- `Value::as_i64`. -/
def Value.asI64 : Value → Option Int64
  | .string s => (parseInt (-2 ^ 63) (2 ^ 63 - 1) (asBytes s)).map Int64.ofInt
  | .integer i => some i
  | .float bits => some (truncateToI64 bits)
  | .number n => n.toI64.toOption
  | _ => none

/-- `Value::as_bytes`. -/
def Value.asBytes : Value → Option Bytes
  | .bytes b => some b
  | .string s => some (OracleRs.asBytes s)
  | _ => none

/-- The value that is read back of a value that has been written: texts without bytes are NULL. -/
def Value.readBack : Value → Value
  | typedNull _ => null
  | string s => if OracleRs.asBytes s = [] then null else string s
  | bytes b => if b = [] then null else bytes b
  | v => v

namespace DbObject

/-- The attributes. -/
def values : DbObject → List (String × Value)
  | mk _ values _ _ => values

/-- The elements of a collection. -/
def elements : DbObject → List Value
  | mk _ _ elements _ => elements

/-- `DbObject::new`. -/
def new (typeName : String) : DbObject := mk typeName [] [] false

/-- `DbObject::collection` with the given elements. -/
def collection (typeName : String) (elements : List Value) : DbObject := mk typeName [] elements true

/-- `DbObject::set`; the driver's own names are ASCII. -/
def set (o : DbObject) (name : String) (value : Value) : DbObject :=
  match o with
  | mk typeName values elements isCollection =>
    mk typeName ((name.toUpper, value) :: values.filter (·.1 ≠ name.toUpper)) elements isCollection

/-- `DbObject::get`. -/
def get (o : DbObject) (name : String) : Option Value := o.values.lookup name.toUpper

end DbObject

/-- The part of `DbObjectType` that the decoder of a collection is given
(`DbObjectType::collection`). -/
structure DbObjectType where
  /-- schema name -/
  schema : String
  /-- type name -/
  name : String
  /-- the kind of collection -/
  collectionType : CollectionType
  /-- the type of the elements -/
  elementType : OracleType
deriving DecidableEq, Repr, Inhabited

/-- The codecs for JSON documents (`OsonDecoder`), vectors (`types/vector.rs`) and collections
(`types/pickle.rs`). -/
structure Codecs where
  /-- `OsonDecoder::decode` -/
  decodeOson : Bytes → Except Error Json
  /-- `decode_vector` -/
  decodeVector : Bytes → Except Error OracleVector
  /-- `decode_collection` -/
  decodeCollection : DbObjectType → Bytes → Except Error DbObject

/-- Codecs that decode nothing. -/
def Codecs.rejecting : Codecs where
  decodeOson _ := .error (.dataConversionError "no document")
  decodeVector _ := .error (.dataConversionError "no vector")
  decodeCollection _ _ := .error (.dataConversionError "no collection")

/-- A row of values (`Row`). -/
abbrev Row := List Value

end OracleRs
