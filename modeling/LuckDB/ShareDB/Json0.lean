import LuckDB.ShareDB.Service

/-!
# json0 on a record's fields

`submitFieldUpdate` hands `doc.submitOp` a json0 operation: a list of components `{ p, oi?, od? }`
whose path is `["data", fieldId]`.  The sync primitive applies it with ShareDB's json0 type, which
walks the path from the snapshot: the first step reaches the snapshot's `data` member, the object
that holds the record's field values, and the last names the member of that object to change.
This module gives json0's meaning for such components, which is all `submitFieldUpdate` builds.

* `applyComponent` follows json0's `apply`: a component with `oi` sets the member
  (`elem[key] = c.oi`), one with only `od` deletes it (`delete elem[key]`), and one with neither
  throws.  A path of any other shape is outside the model and fails.
* `invert` follows json0's `invert`: the components in reverse order, each with `oi` and `od`
  swapped (`invertComponent`).

json0 tests a member with `!== void 0`, so an `oi` or `od` that is `undefined` counts as absent.
The `data` object is a JSON object (`DataObject`): no member of it is `undefined`.  Its members are
a `StrMap`, which is exact for the keys that are `PlainKey`s: `data["__proto__"] = v` and a read of
a member of `Object.prototype` that `data` does not hold go to the prototype, and `Object.keys`
lists array indices first.  The theorems about field values take field ids outside
`objectPrototypeNames`, and those about the order of members take `PlainKey`s.
-/

namespace LuckDB.ShareDB

open Js

variable {J : Type}

/-- The `data` object of a record's document: its own members in the order they were made, none
of them `undefined`. -/
structure DataObject (J : Type) where
  members : StrMap (JsValue J)
  defined : ∀ k, members.get? k ≠ some .undefined

namespace DataObject

/-- `data[key]`: `undefined` for a key with no own member, when `key` names no member of
`Object.prototype`. -/
def value (o : DataObject J) (key : String) : JsValue J := (o.members.get? key).getD .undefined

/-- `{}`. -/
def empty : DataObject J := ⟨.empty, fun _ => Option.noConfusion⟩

/-- `data[key] = v`, for a `v` that is not `undefined` and a `key` other than `__proto__`. -/
def set (o : DataObject J) (key : String) (v : JsValue J) (hv : v ≠ .undefined) :
    DataObject J :=
  ⟨o.members.set key v, fun k => by
    rw [StrMap.get?_set]
    split
    · exact fun h => hv (Option.some.inj h)
    · exact o.defined k⟩

/-- `delete data[key]`. -/
def delete (o : DataObject J) (key : String) : DataObject J :=
  ⟨o.members.delete key, fun k => by
    rw [StrMap.get?_delete]
    split
    · exact Option.noConfusion
    · exact o.defined k⟩

end DataObject

/-- `x !== void 0`: a member that is `undefined` is absent. -/
def defined? : Option (JsValue J) → Option (JsValue J)
  | some .undefined => none
  | x => x

/-- One component of a json0 `apply`, on the `data` object of a record's document. -/
def applyComponent (o : DataObject J) (c : OpComponent J) : Option (DataObject J) :=
  match c.p, c.oi, c.od with
  | ["data", key], some .null, _ => some (o.set key .null JsValue.noConfusion)
  | ["data", key], some (.val v), _ => some (o.set key (.val v) JsValue.noConfusion)
  | ["data", key], _, some .null | ["data", key], _, some (.val _) => some (o.delete key)
  | _, _, _ => none

/-- json0's `apply`: the components in order; the first that throws ends it. -/
def apply (o : DataObject J) (op : List (OpComponent J)) : Option (DataObject J) :=
  op.foldlM applyComponent o

/-- json0's `invertComponent`: the path, with `oi` and `od` swapped. -/
def invertComponent (c : OpComponent J) : OpComponent J := ⟨c.p, defined? c.od, defined? c.oi⟩

/-- json0's `invert`. -/
def invert (op : List (OpComponent J)) : List (OpComponent J) := op.reverse.map invertComponent

end LuckDB.ShareDB
