import QueryBridge.Json.Writer

/-!
# Records

A record is a flat mapping from field names to scalars.  It is made from a JSON
object: an array or object inside becomes the text of its compact document.  A
record can be limited to a list of requested fields, which then stand in the
requested order, with null for those that the object lacks.
-/

namespace QueryBridge

open QueryBridge.Decimal (Binary64)

/-- A value without parts. -/
inductive Scalar where
  | null
  | bool (value : Bool)
  | int (value : Int)
  | float (value : Binary64)
  | text (value : String)
  | brokenText (value : BrokenText)
deriving Repr, DecidableEq

namespace Scalar

def ofString : CodeString → Scalar
  | .text value => .text value
  | .broken value => .brokenText value

/-- The scalar that stands for a JSON value in a record. -/
def ofValue : Json.Value → Scalar
  | .null => .null
  | .bool value => .bool value
  | .int value => .int value
  | .float value => .float value
  | .text value => .text value
  | .brokenText value => .brokenText value
  | .array items => ofString (Json.Value.array items).compact
  | .object fields => ofString (Json.Value.object fields).compact

def toValue : Scalar → Json.Value
  | .null => .null
  | .bool value => .bool value
  | .int value => .int value
  | .float value => .float value
  | .text value => .text value
  | .brokenText value => .brokenText value

end Scalar

structure Record where
  values : FieldsOf CodeString Scalar
deriving Repr, DecidableEq

namespace Record

/-- The values that a record is made of: those of the requested fields, if there are any. -/
def selected (payload : Json.Members) (fields : List CodeString) : Json.Members :=
  if fields.isEmpty then payload
  else fields.map fun name => (name, (Fields.get? payload name).getD .null)

/-- The record of an object, limited to the requested fields if there are any. -/
def ofPayload (payload : Json.Members) (fields : List CodeString) : Record :=
  ⟨Fields.ofList (Fields.mapValues Scalar.ofValue (selected payload fields))⟩

/-- The record of an object, if no array or object in it nests more than `levels` of them. -/
def ofPayloadWithin? (levels : Nat) (payload : Json.Members) (fields : List CodeString) :
    Option Record :=
  if (selected payload fields).all fun field => field.2.depth ≤ levels then
    some (ofPayload payload fields)
  else none

def get? (record : Record) (name : CodeString) : Option Scalar :=
  Fields.get? record.values name

def contains (record : Record) (name : CodeString) : Bool :=
  Fields.contains record.values name

/-- The record as a JSON object. -/
def toPayload (record : Record) : Json.Members :=
  Fields.mapValues Scalar.toValue record.values

end Record

/-! ## Pages of records -/

/-- The records that a search found, with the requested fields and the counts that
describe the page. -/
structure RecordList where
  fields : List CodeString
  records : List Record
  metadata : Fields String
deriving Repr, DecidableEq

namespace RecordList

/-- A page that holds all records: its count and its size are the number of them. -/
def ofRecords (records : List Record) (fields : List CodeString) : RecordList :=
  let size := toString records.length
  ⟨fields, records, [("count", size), ("size", size)]⟩

def ofPayloads (payloads : List Json.Members) (fields : List CodeString) : RecordList :=
  ofRecords (payloads.map fun payload => Record.ofPayload payload fields) fields

def ofPayloadsWithin? (levels : Nat) (payloads : List Json.Members) (fields : List CodeString) :
    Option RecordList :=
  (payloads.mapM fun payload => Record.ofPayloadWithin? levels payload fields).map fun records =>
    ofRecords records fields

def size (page : RecordList) : Nat :=
  page.records.length

/-- The page as a JSON value. -/
def toValue (page : RecordList) : Json.Value :=
  .object [("fields", .array (page.fields.map .ofString)),
    ("records", .array (page.records.map fun record => .object record.toPayload)),
    ("metadata", .object (page.metadata.map fun field => (↑field.1, .text field.2)))]

end RecordList

end QueryBridge
