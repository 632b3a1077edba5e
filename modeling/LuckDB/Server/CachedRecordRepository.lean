import LuckDB.Server.CacheProvider
import LuckDB.Server.Transaction
import LuckDB.Js.StrMap

/-!
# `CachedRecordRepository`

The record half of `server/internal/infrastructure/repository/cached_repository.go`: a wrapper
around a `RecordRepository` that serves `FindByTableAndID` and `List` from a `CacheProvider`.
`Save`, `DeleteByTableAndID` and `BatchSave` delete the record's key and invalidate its table's
list keys, `BatchDelete` invalidates a pattern per id, and `Delete` is handed to the wrapped
repository alone.  The record methods hand the request context to the wrapped repository and never
read it themselves: in a transaction they read and write its working copy (`Store`) and use the
cache as they do outside one.

The wrapped repository keeps records keyed by id (`RecordTable`), each with its table.  Its
`List` is a parameter of the model (`repoList`): the source has neither its code nor the
filter's fields beyond `TableID`, `Limit` and `Offset`, so the filter's other conditions are a
type parameter `C`.  `List` dereferences `filter.TableID` while it builds its key, so a call with
a `nil` table id panics; the model returns `none` for it.
-/

namespace LuckDB

open Js

/-- A record as the repository and the cache see it: its id, its table, and its field values. -/
structure Record where
  id : String
  tableId : String
  data : List (String × String)
deriving DecidableEq, Repr

/-- The records behind the repository: each record stored under its own id. -/
structure RecordTable where
  records : StrMap Record
  keyed : ∀ id r, records.get? id = some r → r.id = id

/-- A table with no record. -/
def RecordTable.empty : RecordTable := ⟨.empty, fun _ _ h => by simp at h⟩

/-- A `RecordFilter`: the table (`none` for a `nil` pointer), the page window, and the conditions
`List` reads besides them. -/
structure RecordFilter (C : Type) where
  tableId : Option String
  limit : Int
  offset : Int
  conditions : C
deriving DecidableEq, Repr

/-! ### The wrapped repository -/

namespace RecordRepository

/-- `FindByTableAndID`: the record with that id, if it belongs to that table. -/
def findByTableAndID (t : RecordTable) (tableId id : String) : Option Record :=
  (t.records.get? id).filter (·.tableId = tableId)

/-- The records of a table, in the table's order: what `List` pages through. -/
def tableRecords (t : RecordTable) (tableId : String) : List Record :=
  (t.records.entries.map Prod.snd).filter (·.tableId = tableId)

/-- `Save`: insert the record, or replace the one with its id. -/
def save (t : RecordTable) (record : Record) : RecordTable :=
  ⟨t.records.set record.id record, fun id r h => by
    rw [StrMap.get?_set] at h
    split at h
    next hk => cases h; exact hk.symm
    next => exact t.keyed id r h⟩

/-- `Delete`. -/
def delete (t : RecordTable) (id : String) : RecordTable :=
  ⟨t.records.delete id, fun id' r h => by
    rw [StrMap.get?_delete] at h
    split at h
    · cases h
    · exact t.keyed id' r h⟩

/-- `DeleteByTableAndID`: the record, if it belongs to that table. -/
def deleteByTableAndID (t : RecordTable) (tableId id : String) : RecordTable :=
  if (findByTableAndID t tableId id).isSome then delete t id else t

/-- `BatchSave`. -/
def batchSave (t : RecordTable) (records : List Record) : RecordTable := records.foldl save t

/-- `BatchDelete`. -/
def batchDelete (t : RecordTable) (ids : List String) : RecordTable := ids.foldl delete t

end RecordRepository

/-! ### The wrapper -/

namespace CachedRecordRepository

variable {C : Type}

/-- What the wrapper stores in the cache: a record, or a page of records with the total. -/
inductive CacheValue where
  | record (r : Record)
  | list (records : List Record) (total : Nat)
deriving DecidableEq, Repr

/-- A cached value read into a `*Record`: anything else fails to decode, an error like a miss. -/
def CacheValue.record? : CacheValue → Option Record
  | .record r => some r
  | .list .. => none

/-- A cached value read into `struct { Records; Total }`. -/
def CacheValue.list? : CacheValue → Option (List Record × Nat)
  | .list rs total => some (rs, total)
  | .record _ => none

/-- The cache and the wrapped repository's records under transactions. -/
structure State where
  cache : Cache CacheValue
  store : Store RecordTable

/-- The wrapper over table `t`, as `NewCachedRecordRepository` returns it. -/
def State.init (t : RecordTable) : State := ⟨.empty, .init t⟩

/-- `buildCacheKey(prefix, tableID, recordID)`: `record:<prefix>:<tableID>:<recordID>`. -/
def buildCacheKey (pre tableId recordId : String) : String :=
  "record:" ++ pre ++ ":" ++ tableId ++ ":" ++ recordId

/-- `List`'s key, `record:list:%s:%d:%d` of the table id, the limit and the offset. -/
def listCacheKey (tableId : String) (limit offset : Int) : String :=
  "record:list:" ++ tableId ++ ":" ++ toString limit ++ ":" ++ toString offset

/-- The pattern `Save`, `DeleteByTableAndID` and `BatchSave` invalidate: `record:list:%s:*`. -/
def listPattern (tableId : String) : String := "record:list:" ++ tableId ++ ":*"

/-- `FindByTableAndID`: a cached record, or the repository's, cached when there is one. -/
def findByTableAndID (s : State) (ctx : Context) (tableId id : String) (io : CacheIO) :
    Option Record × State :=
  let cacheKey := buildCacheKey "id" tableId id
  match (s.cache.get cacheKey io.getOk).bind CacheValue.record? with
  | some record => (some record, s)
  | none =>
    match RecordRepository.findByTableAndID (s.store.view ctx) tableId id with
    | some record =>
      (some record, { s with cache := s.cache.set cacheKey (.record record) io.setOk })
    | none => (none, s)

/-- `List`: a cached page, or the repository's, cached; `none` when `filter.TableID` is `nil` and
building the key panics. -/
def list (repoList : RecordTable → RecordFilter C → List Record × Nat) (s : State) (ctx : Context)
    (filter : RecordFilter C) (io : CacheIO) : Option (List Record × Nat) × State :=
  match filter.tableId with
  | none => (none, s)
  | some tableId =>
    let cacheKey := listCacheKey tableId filter.limit filter.offset
    match (s.cache.get cacheKey io.getOk).bind CacheValue.list? with
    | some result => (some result, s)
    | none =>
      let result := repoList (s.store.view ctx) filter
      (some result, { s with cache := s.cache.set cacheKey (.list result.1 result.2) io.setOk })

/-- `Save`: the repository's write, then the record's key and its table's list keys.  A write
returns Go's `error`: `none` for `nil`, or the repository's error. -/
def save (s : State) (ctx : Context) (record : Record) (rejection : Option String) :
    Option String × State :=
  match rejection with
  | some e => (some e, s)
  | none =>
    let cache := s.cache.delete [buildCacheKey "id" record.tableId record.id]
    (none, ⟨cache.invalidatePattern (listPattern record.tableId),
      s.store.write ctx (RecordRepository.save · record)⟩)

/-- `DeleteByTableAndID`: the repository's delete, then the record's key and its table's list
keys. -/
def deleteByTableAndID (s : State) (ctx : Context) (tableId id : String)
    (rejection : Option String) : Option String × State :=
  match rejection with
  | some e => (some e, s)
  | none =>
    let cache := s.cache.delete [buildCacheKey "id" tableId id]
    (none, ⟨cache.invalidatePattern (listPattern tableId),
      s.store.write ctx (RecordRepository.deleteByTableAndID · tableId id)⟩)

/-- `Delete`: handed to the repository, the cache untouched. -/
def delete (s : State) (ctx : Context) (id : String) (rejection : Option String) :
    Option String × State :=
  match rejection with
  | some e => (some e, s)
  | none => (none, { s with store := s.store.write ctx (RecordRepository.delete · id) })

/-- `BatchSave`: the repository's write, then each record's key, then the list keys of each of
their tables. -/
def batchSave (s : State) (ctx : Context) (records : List Record) (rejection : Option String) :
    Option String × State :=
  match rejection with
  | some e => (some e, s)
  | none =>
    let cache := s.cache.delete (records.map fun r => buildCacheKey "id" r.tableId r.id)
    (none, ⟨(records.map (·.tableId)).foldl (fun c t => c.invalidatePattern (listPattern t)) cache,
      s.store.write ctx (RecordRepository.batchSave · records)⟩)

/-- `BatchDelete`: the repository's write, then the pattern `record:*:*:<id>` of each id. -/
def batchDelete (s : State) (ctx : Context) (ids : List String) (rejection : Option String) :
    Option String × State :=
  match rejection with
  | some e => (some e, s)
  | none =>
    (none, ⟨ids.foldl (fun c id => c.invalidatePattern ("record:*:*:" ++ id)) s.cache,
      s.store.write ctx (RecordRepository.batchDelete · ids)⟩)

/-! ### Runs -/

/-- A call of the wrapper, with the cache provider's and the repository's outcomes. -/
inductive Call (C : Type) where
  | findByTableAndID (ctx : Context) (tableId id : String) (io : CacheIO)
  | list (ctx : Context) (filter : RecordFilter C) (io : CacheIO)
  | save (ctx : Context) (record : Record) (rejection : Option String)
  | deleteByTableAndID (ctx : Context) (tableId id : String) (rejection : Option String)
  | delete (ctx : Context) (id : String) (rejection : Option String)
  | batchSave (ctx : Context) (records : List Record) (rejection : Option String)
  | batchDelete (ctx : Context) (ids : List String) (rejection : Option String)
deriving DecidableEq, Repr

/-- What a call returns; a page is `none` when the call panics. -/
inductive Result where
  | record (r : Option Record)
  | page (p : Option (List Record × Nat))
  | done (err : Option String)
deriving DecidableEq, Repr

/-- The context of a call. -/
def Call.ctx : Call C → Context
  | .findByTableAndID ctx .. | .list ctx .. | .save ctx .. | .deleteByTableAndID ctx ..
  | .delete ctx .. | .batchSave ctx .. | .batchDelete ctx .. => ctx

section Calls

variable (repoList : RecordTable → RecordFilter C → List Record × Nat)

/-- A call of the wrapper. -/
def Call.run (s : State) : Call C → Result × State
  | .findByTableAndID ctx t id io =>
    let r := CachedRecordRepository.findByTableAndID s ctx t id io; (.record r.1, r.2)
  | .list ctx filter io =>
    let r := CachedRecordRepository.list repoList s ctx filter io; (.page r.1, r.2)
  | .save ctx record e => let r := CachedRecordRepository.save s ctx record e; (.done r.1, r.2)
  | .deleteByTableAndID ctx t id e =>
    let r := CachedRecordRepository.deleteByTableAndID s ctx t id e; (.done r.1, r.2)
  | .delete ctx id e => let r := CachedRecordRepository.delete s ctx id e; (.done r.1, r.2)
  | .batchSave ctx records e =>
    let r := CachedRecordRepository.batchSave s ctx records e; (.done r.1, r.2)
  | .batchDelete ctx ids e =>
    let r := CachedRecordRepository.batchDelete s ctx ids e; (.done r.1, r.2)

/-- What the wrapped repository returns for the same call on table `t`. -/
def Call.direct (t : RecordTable) : Call C → Result
  | .findByTableAndID _ tableId id _ => .record (RecordRepository.findByTableAndID t tableId id)
  | .list _ filter _ => .page (some (repoList t filter))
  | .save _ _ e | .deleteByTableAndID _ _ _ e | .delete _ _ e | .batchSave _ _ e
  | .batchDelete _ _ e => .done e

/-- A call, the expiry of an entry, or a transaction boundary of the store. -/
inductive Step (C : Type) where
  | call (c : Call C)
  | expire (key : String)
  | begin
  | commit
  | rollback
deriving DecidableEq, Repr

/-- One step. -/
def step (s : State) : Step C → State
  | .call c => (c.run repoList s).2
  | .expire key => { s with cache := s.cache.expire key }
  | .begin => { s with store := s.store.begin }
  | .commit => { s with store := s.store.commit }
  | .rollback => { s with store := s.store.rollback }

/-- A run of steps. -/
def run (s : State) (steps : List (Step C)) : State := steps.foldl (step repoList) s

end Calls

end CachedRecordRepository

end LuckDB
