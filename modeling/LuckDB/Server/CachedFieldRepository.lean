import LuckDB.Server.CacheProvider
import LuckDB.Server.Transaction
import LuckDB.Js.StrMap

/-!
# `CachedFieldRepository`

The field half of `server/internal/infrastructure/repository/cached_repository.go`: a wrapper
around a `FieldRepository` that serves `FindByID` and `FindByTableID` from a `CacheProvider` and
invalidates on writes.  The wrapped repository is an external collaborator; it is modelled as a
table of fields keyed by field id (`FieldTable`), under transactions (`Store`).

The cache provider's failures are inputs of each call: whether its `Get` and its `Set` succeed
(`CacheIO`), and, for a write, whether the wrapped repository rejects it and with which error.
-/

namespace LuckDB

open Js

/-- A field as the repository and the cache see it: its id, its table, and the rest of its
definition, of which `order` is what `UpdateOrder` changes. -/
structure Field where
  id : String
  tableId : String
  name : String
  order : Int
deriving DecidableEq, Repr

/-! ### The wrapped repository -/

/-- The fields table behind the repository: each field stored under its own id, as `FindByID(id)`
returns a field whose `ID()` is `id`. -/
structure FieldTable where
  fields : StrMap Field
  keyed : ∀ id f, fields.get? id = some f → f.id = id

/-- A table with no field. -/
def FieldTable.empty : FieldTable := ⟨.empty, fun _ _ h => by simp at h⟩

namespace FieldRepository

/-- `FindByID`: the field with that id, if any. -/
def findByID (t : FieldTable) (id : String) : Option Field := t.fields.get? id

/-- `FindByTableID`: the fields of a table, in the table's order. -/
def findByTableID (t : FieldTable) (tableId : String) : List Field :=
  (t.fields.entries.map Prod.snd).filter (·.tableId = tableId)

/-- `Save`: insert the field, or replace the one with its id. -/
def save (t : FieldTable) (field : Field) : FieldTable :=
  ⟨t.fields.set field.id field, fun id f h => by
    rw [StrMap.get?_set] at h
    split at h
    next hk => cases h; exact hk.symm
    next => exact t.keyed id f h⟩

/-- `Delete`. -/
def delete (t : FieldTable) (id : String) : FieldTable :=
  ⟨t.fields.delete id, fun id' f h => by
    rw [StrMap.get?_delete] at h
    split at h
    · cases h
    · exact t.keyed id' f h⟩

/-- `BatchSave`. -/
def batchSave (t : FieldTable) (fields : List Field) : FieldTable := fields.foldl save t

/-- `BatchDelete`. -/
def batchDelete (t : FieldTable) (ids : List String) : FieldTable := ids.foldl delete t

/-- `UpdateOrder`: the field's order, nothing else. -/
def updateOrder (t : FieldTable) (id : String) (order : Int) : FieldTable :=
  match h : t.fields.get? id with
  | some field => ⟨t.fields.set id { field with order := order }, fun id' f h' => by
      rw [StrMap.get?_set] at h'
      split at h'
      · cases h'; subst_vars; exact t.keyed _ field h
      · exact t.keyed id' f h'⟩
  | none => t

end FieldRepository

/-! ### The wrapper -/

namespace CachedFieldRepository

/-- What the wrapper stores in the cache: a field, or the fields of a table. -/
inductive CacheValue where
  | field (f : Field)
  | fields (fs : List Field)
deriving DecidableEq, Repr

/-- A cached value read into a `*Field`: anything else fails to decode, an error like a miss. -/
def CacheValue.field? : CacheValue → Option Field
  | .field f => some f
  | .fields _ => none

/-- A cached value read into a `[]*Field`. -/
def CacheValue.fields? : CacheValue → Option (List Field)
  | .fields fs => some fs
  | .field _ => none

/-- The cache and the wrapped repository's fields table under transactions. -/
structure State where
  cache : Cache CacheValue
  store : Store FieldTable

/-- The wrapper over table `t`, as `NewCachedFieldRepository` returns it: nothing cached, no
transaction open. -/
def State.init (t : FieldTable) : State := ⟨.empty, .init t⟩

/-- A write of the wrapped repository in context `ctx`. -/
def State.write (s : State) (ctx : Context) (g : FieldTable → FieldTable) : State :=
  { s with store := s.store.write ctx g }

/-- `buildCacheKey(prefix, id)`: `field:<prefix>:<id>`. -/
def buildCacheKey (pre id : String) : String := "field:" ++ pre ++ ":" ++ id

/-- `FindByID`: a cached field, or the repository's, cached when there is one. -/
def findByID (s : State) (ctx : Context) (id : String) (io : CacheIO) : Option Field × State :=
  let cacheKey := buildCacheKey "id" id
  match (s.cache.get cacheKey io.getOk).bind CacheValue.field? with
  | some field => (some field, s)
  | none =>
    match FieldRepository.findByID (s.store.view ctx) id with
    | some field => (some field, { s with cache := s.cache.set cacheKey (.field field) io.setOk })
    | none => (none, s)

/-- `FindByTableID`: in a transaction the repository's answer, the cache untouched; otherwise a
cached list, or the repository's, cached. -/
def findByTableID (s : State) (ctx : Context) (tableId : String) (io : CacheIO) :
    List Field × State :=
  if ctx.inTransaction then (FieldRepository.findByTableID (s.store.view ctx) tableId, s)
  else
    let cacheKey := buildCacheKey "table" tableId
    match (s.cache.get cacheKey io.getOk).bind CacheValue.fields? with
    | some fields => (fields, s)
    | none =>
      let fields := FieldRepository.findByTableID (s.store.view ctx) tableId
      (fields, { s with cache := s.cache.set cacheKey (.fields fields) io.setOk })

/-- `invalidateCache(field)`: the field's key and its table's key, then the table's pattern. -/
def invalidateCache (c : Cache CacheValue) (field : Field) : Cache CacheValue :=
  (c.delete [buildCacheKey "id" field.id, buildCacheKey "table" field.tableId]).invalidatePattern
    ("field:table:" ++ field.tableId)

/-- `Save`: the repository's write, then `invalidateCache`.  A write returns Go's `error`: `none`
for `nil`, or the repository's error. -/
def save (s : State) (ctx : Context) (field : Field) (rejection : Option String) :
    Option String × State :=
  match rejection with
  | some e => (some e, s)
  | none =>
    let s := s.write ctx (FieldRepository.save · field)
    (none, { s with cache := invalidateCache s.cache field })

/-- `Delete`: the field is looked up first, so that its keys can be invalidated after the
repository's delete. -/
def delete (s : State) (ctx : Context) (id : String) (rejection : Option String) :
    Option String × State :=
  let field := FieldRepository.findByID (s.store.view ctx) id
  match rejection with
  | some e => (some e, s)
  | none =>
    let s := s.write ctx (FieldRepository.delete · id)
    (none, match field with
      | some field => { s with cache := invalidateCache s.cache field }
      | none => s)

/-- `BatchSave`: the repository's write, then the key of each table of the fields. -/
def batchSave (s : State) (ctx : Context) (fields : List Field) (rejection : Option String) :
    Option String × State :=
  match rejection with
  | some e => (some e, s)
  | none =>
    let s := s.write ctx (FieldRepository.batchSave · fields)
    (none, { s with cache := s.cache.delete (fields.map fun f => buildCacheKey "table" f.tableId) })

/-- `BatchDelete`: the repository's write alone. -/
def batchDelete (s : State) (ctx : Context) (ids : List String) (rejection : Option String) :
    Option String × State :=
  match rejection with
  | some e => (some e, s)
  | none => (none, s.write ctx (FieldRepository.batchDelete · ids))

/-- `UpdateOrder`: the repository's write alone. -/
def updateOrder (s : State) (ctx : Context) (id : String) (order : Int)
    (rejection : Option String) :
    Option String × State :=
  match rejection with
  | some e => (some e, s)
  | none => (none, s.write ctx (FieldRepository.updateOrder · id order))

/-! ### Runs -/

/-- A call of the wrapper, with the cache provider's and the repository's outcomes. -/
inductive Call where
  | findByID (ctx : Context) (id : String) (io : CacheIO)
  | findByTableID (ctx : Context) (tableId : String) (io : CacheIO)
  | save (ctx : Context) (field : Field) (rejection : Option String)
  | delete (ctx : Context) (id : String) (rejection : Option String)
  | batchSave (ctx : Context) (fields : List Field) (rejection : Option String)
  | batchDelete (ctx : Context) (ids : List String) (rejection : Option String)
  | updateOrder (ctx : Context) (id : String) (order : Int) (rejection : Option String)
deriving DecidableEq, Repr

/-- What a call returns. -/
inductive Result where
  | field (f : Option Field)
  | fields (fs : List Field)
  | done (err : Option String)
deriving DecidableEq, Repr

/-- The context of a call. -/
def Call.ctx : Call → Context
  | .findByID ctx .. | .findByTableID ctx .. | .save ctx .. | .delete ctx .. | .batchSave ctx ..
  | .batchDelete ctx .. | .updateOrder ctx .. => ctx

/-- A call of the wrapper. -/
def Call.run (s : State) : Call → Result × State
  | .findByID ctx id io => let r := CachedFieldRepository.findByID s ctx id io; (.field r.1, r.2)
  | .findByTableID ctx t io =>
    let r := CachedFieldRepository.findByTableID s ctx t io; (.fields r.1, r.2)
  | .save ctx f e => let r := CachedFieldRepository.save s ctx f e; (.done r.1, r.2)
  | .delete ctx id e => let r := CachedFieldRepository.delete s ctx id e; (.done r.1, r.2)
  | .batchSave ctx fs e => let r := CachedFieldRepository.batchSave s ctx fs e; (.done r.1, r.2)
  | .batchDelete ctx ids e =>
    let r := CachedFieldRepository.batchDelete s ctx ids e; (.done r.1, r.2)
  | .updateOrder ctx id o e =>
    let r := CachedFieldRepository.updateOrder s ctx id o e; (.done r.1, r.2)

/-- What the wrapped repository returns for the same call on table `t`. -/
def Call.direct (t : FieldTable) : Call → Result
  | .findByID _ id _ => .field (FieldRepository.findByID t id)
  | .findByTableID _ tableId _ => .fields (FieldRepository.findByTableID t tableId)
  | .save _ _ e | .delete _ _ e | .batchSave _ _ e | .batchDelete _ _ e | .updateOrder _ _ _ e =>
    .done e

/-- A call, an expiry, or a transaction boundary of the store. -/
inductive Step where
  | call (c : Call)
  | expire (key : String)
  | begin
  | commit
  | rollback
deriving DecidableEq, Repr

/-- One step. -/
def step (s : State) : Step → State
  | .call c => (c.run s).2
  | .expire key => { s with cache := s.cache.expire key }
  | .begin => { s with store := s.store.begin }
  | .commit => { s with store := s.store.commit }
  | .rollback => { s with store := s.store.rollback }

/-- A run of steps. -/
def run (s : State) (steps : List Step) : State := steps.foldl step s

end CachedFieldRepository

end LuckDB
