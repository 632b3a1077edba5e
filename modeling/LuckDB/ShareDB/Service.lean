import LuckDB.Js.StrMap

/-!
# `ShareDBService`

The subscription registry of `dice/src/services/sharedbService.ts`, together with the part of the
sync primitive (`luckdbClient.sharedb`) that it drives.  The primitive's code is not under `src/`;
it is modelled from the spec's Document Sync Primitive: a handle per `(collection, id)` until that
handle is destroyed, handles that emit `load`, `op` and `error` events to the handlers attached
with `doc.on`, and `doc.subscribe()` that resolves or rejects.

`subscribeRecord` is an `async` function that suspends at `await doc.subscribe()`.  Its
synchronous part (`subscribeRecord`) runs up to the `await` and records the call in `suspended`;
`settle i` resumes the `i`-th suspended call.  Whether `doc.subscribe()` resolves is fixed when the
call starts (`resolves`), so a run is a list of `Step`s and nothing else is left open.  Listeners
are opaque callbacks, named by numbers; each call of `subscribeRecords` makes a fresh closure per
record, so it is a list of `subscribeRecord` steps with their own listeners.
-/

namespace LuckDB.ShareDB

open Js

/-- A JavaScript value as `submitFieldUpdate` tests it. -/
inductive JsValue (J : Type) where
  | undefined
  | null
  | val (v : J)
deriving DecidableEq, Repr

/-- A JSON0 operation component `{ p, oi?, od? }`. -/
structure OpComponent (J : Type) where
  p : List String
  oi : Option (JsValue J)
  od : Option (JsValue J)
deriving DecidableEq, Repr

/-- `ShareDBDocEvent`, what a listener receives: `{ op, source, data }`. -/
structure DocEvent (J : Type) where
  op : List (OpComponent J)
  source : Bool
  data : J
deriving DecidableEq, Repr

/-- The document events a handler is attached to with `doc.on`. -/
inductive HandlerKind where
  | load
  | op
  | error
deriving DecidableEq, Repr

/-- Modelled from the spec: a document handle of the sync primitive, with the handlers attached to
it, each forwarding to a listener. -/
structure Doc (J : Type) where
  collection : String
  recordId : String
  data : Option J
  handlers : List (HandlerKind × Nat)
  destroyed : Bool

/-- A `subscribeRecord(recordId, listener)` call suspended at `await doc.subscribe()`. -/
structure Suspended where
  recordId : String
  listener : Nat
  doc : Nat
  resolves : Bool
deriving DecidableEq, Repr

/-- The service's fields, the primitive's handles (numbered in the order `getDocument` made
them), the suspended calls, the operations handed to `doc.submitOp`, and every call of a
listener. -/
structure State (J : Type) where
  connected : Bool
  tableId : Option String
  subscribedDocs : StrMap Nat
  eventHandlers : StrMap (List Nat)
  docs : List (Doc J)
  suspended : List Suspended
  submitted : List (Nat × List (OpComponent J))
  delivered : List (Nat × DocEvent J)

variable {J : Type}

/-- A service that has not been used: no table id, nothing subscribed. -/
def State.init (connected : Bool) : State J :=
  ⟨connected, none, .empty, .empty, [], [], [], []⟩

def notConnectedError : String := "ShareDB is not connected. Call connect() first."

def tableIdNotSetError : String := "Table ID is not set. Call setTableId() first."

def notSubscribedError (recordId : String) : String :=
  "Document for record " ++ recordId ++ " is not subscribed."

/-- `getCollectionName()`: `!this.tableId` rejects both `null` and the empty string. -/
def getCollectionName : Option String → Except String String
  | some t => if t = "" then .error tableIdNotSetError else .ok ("rec_" ++ t)
  | none => .error tableIdNotSetError

/-- Replace handle `h` by `f h`. -/
def State.modifyDoc (s : State J) (h : Nat) (f : Doc J → Doc J) : State J :=
  { s with docs := s.docs.modify f h }

/-- Modelled from the spec: `luckdbClient.sharedb.getDocument(collection, id)`, the live handle of
`(collection, id)`, or a new one. -/
def getDocument (s : State J) (collection id : String) : Nat × State J :=
  match s.docs.findIdx? fun d => d.collection = collection ∧ d.recordId = id ∧ d.destroyed = false with
  | some h => (h, s)
  | none =>
    (s.docs.length, { s with docs := s.docs ++ [⟨collection, id, none, [], false⟩] })

/-- `if (!eventHandlers.has(r)) eventHandlers.set(r, new Set()); eventHandlers.get(r)!.add(l)`. -/
def addListener (m : StrMap (List Nat)) (r : String) (l : Nat) : StrMap (List Nat) :=
  let m := if m.has r then m else m.set r []
  let listeners := (m.get? r).getD []
  m.set r (if l ∈ listeners then listeners else listeners ++ [l])

/-- The handlers `subscribeRecord` attaches for listener `l`: `handleLoad`, `handleOp`,
`handleError`. -/
def subscriptionHandlers (l : Nat) : List (HandlerKind × Nat) := [(.load, l), (.op, l), (.error, l)]

/-- `subscribeRecord(recordId, onUpdate)` up to `await doc.subscribe()`: the checks, `getDocument`,
the listener registered in `eventHandlers`, the three handlers attached, and the call suspended. -/
def subscribeRecord (s : State J) (recordId : String) (onUpdate : Nat) (resolves : Bool) :
    Except String (State J) :=
  if s.connected = false then .error notConnectedError
  else
    match getCollectionName s.tableId with
    | .error e => .error e
    | .ok collection =>
      let doc := getDocument s collection recordId
      let s := { doc.2 with eventHandlers := addListener doc.2.eventHandlers recordId onUpdate }
      let s := s.modifyDoc doc.1 fun d => { d with handlers := d.handlers ++ subscriptionHandlers onUpdate }
      .ok { s with suspended := s.suspended ++ [⟨recordId, onUpdate, doc.1, resolves⟩] }

/-- The rest of a suspended `subscribeRecord`, once `doc.subscribe()` resolves: the handle is
stored, and a document with data is delivered to the listener at once. -/
def resume (s : State J) (c : Suspended) : State J :=
  let s := { s with subscribedDocs := s.subscribedDocs.set c.recordId c.doc }
  match s.docs[c.doc]?.bind (·.data) with
  | some d => { s with delivered := s.delivered ++ [(c.listener, ⟨[], false, d⟩)] }
  | none => s

/-- The `i`-th suspended call resumes; a rejection of `doc.subscribe()` ends it with no further
effect. -/
def settle (s : State J) (i : Nat) : State J :=
  match s.suspended[i]? with
  | none => s
  | some c =>
    let s := { s with suspended := s.suspended.eraseIdx i }
    if c.resolves then resume s c else s

/-- `unsubscribeRecord(recordId)`. -/
def unsubscribeRecord (s : State J) (recordId : String) : State J :=
  let s := match s.subscribedDocs.get? recordId with
    | some h => { s.modifyDoc h (fun d => { d with destroyed := true }) with
        subscribedDocs := s.subscribedDocs.delete recordId }
    | none => s
  { s with eventHandlers := s.eventHandlers.delete recordId }

/-- `unsubscribeRecords(recordIds)`. -/
def unsubscribeRecords (s : State J) (recordIds : List String) : State J :=
  recordIds.foldl unsubscribeRecord s

/-- `unsubscribeAll()`. -/
def unsubscribeAll (s : State J) : State J :=
  unsubscribeRecords s s.subscribedDocs.keys

/-- `cleanup()`: tear down every subscription, disconnect, forget the table id. -/
def cleanup (s : State J) : State J :=
  { unsubscribeAll s with connected := false, tableId := none }

/-- `getSubscribedCount()`. -/
def getSubscribedCount (s : State J) : Nat := s.subscribedDocs.size

/-- The operation `submitFieldUpdate` builds: `undefined` and `null` as the new value delete the
field, and an old value other than `undefined` (`null` included) is carried as `od`. -/
def buildFieldUpdate (fieldId : String) (newValue oldValue : JsValue J) : List (OpComponent J) :=
  match newValue, oldValue with
  | .undefined, .undefined | .null, .undefined => []
  | .undefined, old | .null, old => [⟨["data", fieldId], none, some old⟩]
  | new, .undefined => [⟨["data", fieldId], some new, none⟩]
  | new, old => [⟨["data", fieldId], some new, some old⟩]

/-- `submitFieldUpdate(recordId, fieldId, newValue, oldValue)`: a non-empty operation is handed to
`doc.submitOp`. -/
def submitFieldUpdate (s : State J) (recordId fieldId : String) (newValue oldValue : JsValue J) :
    Except String (State J) :=
  match s.subscribedDocs.get? recordId with
  | none => .error (notSubscribedError recordId)
  | some h =>
    let op := buildFieldUpdate fieldId newValue oldValue
    .ok (if op.isEmpty then s else { s with submitted := s.submitted ++ [(h, op)] })

/-! ### The sync primitive's events -/

/-- Modelled from the spec: handle `h` emits an event of `kind`, and each handler of that kind on a
live handle calls its listener with `e`, in the order they were attached. -/
def emit (s : State J) (h : Nat) (kind : HandlerKind) (e : DocEvent J) : State J :=
  match s.docs[h]? with
  | some d =>
    if d.destroyed then s
    else { s with delivered := s.delivered ++ (d.handlers.filter (·.1 = kind)).map fun x => (x.2, e) }
  | none => s

/-- Modelled from the spec: the document loads `data`, and `handleLoad` passes
`{ op: [], source: false, data }` on. -/
def load (s : State J) (h : Nat) (data : J) : State J :=
  emit (s.modifyDoc h fun d => { d with data := some data }) h .load ⟨[], false, data⟩

/-- Modelled from the spec: the document applies an operation, and `handleOp` passes the event
on. -/
def applyOp (s : State J) (h : Nat) (e : DocEvent J) : State J :=
  emit (s.modifyDoc h fun d => { d with data := some e.data }) h .op e

/-- Modelled from the spec: the document reports an error, and `handleError` passes
`{ op: [], source: false, data: doc.data || {} }` on. -/
def reportError [EmptyCollection J] (s : State J) (h : Nat) : State J :=
  match s.docs[h]? with
  | some d => emit s h .error ⟨[], false, d.data.getD ∅⟩
  | none => s

/-! ### Runs -/

/-- A call of the service, a resumption of a suspended `subscribeRecord`, or an event of the sync
primitive. -/
inductive Step (J : Type) where
  | connect
  | disconnect
  | setTableId (tableId : String)
  | subscribeRecord (recordId : String) (onUpdate : Nat) (resolves : Bool)
  | settle (i : Nat)
  | unsubscribeRecord (recordId : String)
  | unsubscribeRecords (recordIds : List String)
  | unsubscribeAll
  | cleanup
  | submitFieldUpdate (recordId fieldId : String) (newValue oldValue : JsValue J)
  | load (doc : Nat) (data : J)
  | applyOp (doc : Nat) (event : DocEvent J)
  | reportError (doc : Nat)

/-- `subscribeRecords(recordIds, onUpdate)`: every `subscribeRecord` starts before any resumes; the
listeners are the closures `(event) => onUpdate(recordId, event)`, one per record. -/
def subscribeRecords (calls : List (String × Nat × Bool)) : List (Step J) :=
  calls.map fun c => .subscribeRecord c.1 c.2.1 c.2.2

/-- One step; a call that throws changes nothing. -/
def step [EmptyCollection J] (s : State J) : Step J → State J
  | .connect => { s with connected := true }
  | .disconnect => { s with connected := false }
  | .setTableId t => { s with tableId := some t }
  | .subscribeRecord r l ok => match subscribeRecord s r l ok with
    | .ok s' => s'
    | .error _ => s
  | .settle i => settle s i
  | .unsubscribeRecord r => unsubscribeRecord s r
  | .unsubscribeRecords rs => unsubscribeRecords s rs
  | .unsubscribeAll => unsubscribeAll s
  | .cleanup => cleanup s
  | .submitFieldUpdate r f new old => match submitFieldUpdate s r f new old with
    | .ok s' => s'
    | .error _ => s
  | .load h d => load s h d
  | .applyOp h e => applyOp s h e
  | .reportError h => reportError s h

/-- A run of steps. -/
def run [EmptyCollection J] (s : State J) (steps : List (Step J)) : State J :=
  steps.foldl step s

end LuckDB.ShareDB
