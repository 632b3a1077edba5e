import LuckDB.Js.StrMap

/-!
# The record/table-row transforms of `recordService.ts`

`transformRecordToTableData` maps an API record's field values to table columns, and
`transformTableDataToRecord` maps a table row's columns back to field values.

A JavaScript object is `Obj V`, a `Js.StrMap` of its own properties.  A property whose value is
`undefined` is present with value `none`; `o[k]` of an absent key is also `undefined`, so `Obj.get`
is `none` for both, while `get?` tells them apart.  A `Map<string, string>` is `JsMap`.  `Obj` is
exact for keys outside `Js.objectPrototypeNames`: `o[k]` of such a name that `o` does not hold
reads the member `Object.prototype` gives every object, and `o["__proto__"] = v` makes no property.
-/

namespace LuckDB.RecordService

/-- A JavaScript object: its own properties in insertion order, `none` standing for a property
that holds `undefined`. -/
abbrev Obj (V : Type) := Js.StrMap (Option V)

/-- A `Map<string, string>`. -/
abbrev JsMap := Js.StrMap String

variable {V : Type}

/-- `o[k]`: `undefined` (`none`) for an absent key and for a key holding `undefined`, when `k` names
no member of `Object.prototype`. -/
def Obj.get (o : Obj V) (k : String) : Option V := (o.get? k).join

/-- An API record: `id`, and the optional `data` and `fields` objects. -/
structure RecordResponse (V : Type) where
  id : V
  data : Option (Obj V)
  fields : Option (Obj V)

/-- `record.data || record.fields || {}`: an object is truthy, so `data` wins when present. -/
def RecordResponse.fieldValues (record : RecordResponse V) : Obj V :=
  record.data.getD (record.fields.getD .empty)

/-- One `fieldMapping.forEach((columnId, fieldId) => …)` step of `transformRecordToTableData`. -/
def recordToTableStep (fields : Obj V) (data : Obj V) (entry : String × String) : Obj V :=
  match fields.get entry.1 with
  | some v => data.set entry.2 (some v)
  | none => data

/-- `transformRecordToTableData(record, fieldMapping)`, `fieldMapping : fieldId → columnId`. -/
def transformRecordToTableData (record : RecordResponse V) (fieldMapping : JsMap) : Obj V :=
  fieldMapping.entries.foldl (recordToTableStep record.fieldValues)
    ((Js.StrMap.empty : Obj V).set "id" (some record.id))

/-- The default `excludeFields` of `transformTableDataToRecord`. -/
def defaultExcludeFields : List String := ["id"]

/-- One `Object.keys(tableData).forEach((columnId) => …)` step of `transformTableDataToRecord`;
`if (fieldId)` skips both a missing mapping and the empty string. -/
def tableToRecordStep (tableData : Obj V) (fieldMapping : JsMap) (excludeFields : List String)
    (fields : Obj V) (columnId : String) : Obj V :=
  if columnId ∈ excludeFields then fields
  else
    match fieldMapping.get? columnId with
    | some fieldId => if fieldId = "" then fields else fields.set fieldId (tableData.get columnId)
    | none => fields

/-- `transformTableDataToRecord(tableData, fieldMapping, excludeFields)`,
`fieldMapping : columnId → fieldId`. -/
def transformTableDataToRecord (tableData : Obj V) (fieldMapping : JsMap)
    (excludeFields : List String) : Obj V :=
  tableData.keys.foldl (tableToRecordStep tableData fieldMapping excludeFields) .empty

end LuckDB.RecordService
