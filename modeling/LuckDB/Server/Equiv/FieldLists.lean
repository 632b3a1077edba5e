import LuckDB.Server.Equiv.CachedFieldRepository

/-!
# The table lists of `CachedFieldRepository`

`run_call_eq_direct` keeps every entry of the cache exact, and so it has to exclude `BatchSave`
and `FindByID` inside a transaction, which leave stale `field:id:<id>` entries
(`writes_leave_stale_fields`, `findByID_caches_rolled_back_field`).  Those faults stay with the
`field:id:` entries:

* `run_findByTableID_eq_direct`: in every run from an empty cache in which no `BatchDelete` or
  `UpdateOrder` runs, every `Save` and `BatchSave` keeps each of its fields in its table, and
  `FindByTableID`, `Save`, `Delete` and `BatchSave` run in a context that agrees with whether a
  transaction is open, `FindByTableID` returns what the wrapped repository returns on the table
  it sees.  `FindByID` may run in any context, and `BatchSave` is allowed.

The invariant is `ListsFresh c t`, the part of `Fresh` about `field:table:T` entries, with its
lemmas.  `FindByID` writes only a `field:id:` key (`ListsFresh.set_id`); `BatchSave` changes the
lists of its fields' tables only (`findByTableID_batchSave_of_not_mem`), and it deletes their keys
(`ListsFresh.batchSave`).
-/

namespace LuckDB.CachedFieldRepository

open Js

/-! ### `BatchSave` in the repository -/

/-- A `BatchSave` whose fields keep their tables, and agree on the table of a field saved twice,
changes the fields of no table but theirs. -/
theorem findByTableID_batchSave_of_not_mem {tableId : String} :
    ∀ {t : FieldTable} {fields : List Field},
      (∀ f ∈ fields, ∀ g ∈ t.fields.get? f.id, g.tableId = f.tableId) →
      (∀ f ∈ fields, ∀ f' ∈ fields, f'.id = f.id → f'.tableId = f.tableId) →
      tableId ∉ fields.map Field.tableId →
      FieldRepository.findByTableID (FieldRepository.batchSave t fields) tableId =
        FieldRepository.findByTableID t tableId
  | _, [], _, _, _ => rfl
  | t, f :: fields, hmove, hsame, hT => by
    simp only [List.map_cons, List.mem_cons, not_or] at hT
    -- after `f` is saved, the rest of the batch still keeps its fields in their tables
    have hmove' : ∀ f' ∈ fields, ∀ g ∈ (FieldRepository.save t f).fields.get? f'.id,
        g.tableId = f'.tableId := by
      intro f' hf' g hg
      simp only [FieldRepository.save, StrMap.get?_set] at hg
      split at hg
      next heq => cases hg; exact hsame f' (.tail _ hf') f (.head _) heq.symm
      next => exact hmove f' (.tail _ hf') g hg
    show FieldRepository.findByTableID (FieldRepository.batchSave (FieldRepository.save t f) fields)
      tableId = _
    rw [findByTableID_batchSave_of_not_mem hmove'
      (fun a ha b hb => hsame a (.tail _ ha) b (.tail _ hb)) hT.2]
    by_contra hne
    exact hT.1 (findByTableID_save_of_ne (hmove f (.head _)) hne)

/-! ### Fresh lists -/

/-- `BatchSave` then the deletion of its tables' keys keeps the lists fresh. -/
theorem ListsFresh.batchSave {c : Cache CacheValue} {t : FieldTable} (h : ListsFresh c t)
    {fields : List Field}
    (hmove : ∀ f ∈ fields, ∀ g ∈ t.fields.get? f.id, g.tableId = f.tableId)
    (hsame : ∀ f ∈ fields, ∀ f' ∈ fields, f'.id = f.id → f'.tableId = f.tableId) :
    ListsFresh (c.delete (fields.map fun f => buildCacheKey "table" f.tableId))
      (FieldRepository.batchSave t fields) :=
  h.of_sub (Cache.sub_delete _ _) fun T hne => by
    have hT : T ∈ fields.map Field.tableId :=
      by_contra fun hT => hne (findByTableID_batchSave_of_not_mem hmove hsame hT)
    obtain ⟨f, hf, rfl⟩ := List.mem_map.mp hT
    rw [Cache.entry_delete, if_pos (List.mem_map_of_mem _ hf)]

/-! ### Runs -/

/-- The lists are fresh for the committed table, and for the working copy while a transaction is
open. -/
def ListsConsistent (s : State) : Prop := s.store.All (ListsFresh s.cache)

theorem listsConsistent_findByID {s : State} (hc : ListsConsistent s) (ctx : Context)
    (id : String) (io : CacheIO) : ListsConsistent (findByID s ctx id io).2 := by
  unfold findByID
  dsimp only
  split
  · exact hc
  · split
    · exact hc.mono fun _ h => h.set_id _ _ _
    · exact hc

theorem listsConsistent_findByTableID {s : State} (hc : ListsConsistent s) {ctx : Context}
    (hctx : ctx.inTransaction = s.store.inTransaction) (tableId : String) (io : CacheIO) :
    ListsConsistent (findByTableID s ctx tableId io).2 := by
  unfold findByTableID
  dsimp only
  split
  · exact hc
  · next hin =>
    split
    · exact hc
    · rw [Store.view_of_not (Bool.not_eq_true _ ▸ hin)]
      exact Store.all_of_not (hctx ▸ Bool.not_eq_true _ ▸ hin) (hc.committed.set_fields _ _)

theorem listsConsistent_save {s : State} (hc : ListsConsistent s) {ctx : Context}
    (hctx : ctx.inTransaction = s.store.inTransaction) {f : Field}
    (hmove : ∀ g ∈ (s.store.view ctx).fields.get? f.id, g.tableId = f.tableId) (e : Option String) :
    ListsConsistent (save s ctx f e).2 := by
  unfold save
  split
  · exact hc
  · exact hc.write hctx (FieldRepository.save · f) (fun _ h => h.sub (sub_invalidateCache _ _))
      fun h => h.save hmove

theorem listsConsistent_delete {s : State} (hc : ListsConsistent s) {ctx : Context}
    (hctx : ctx.inTransaction = s.store.inTransaction) (id : String) (e : Option String) :
    ListsConsistent (delete s ctx id e).2 := by
  unfold delete
  dsimp only
  split
  · exact hc
  · split
    next g hg =>
      exact hc.write hctx (FieldRepository.delete · id) (fun _ h => h.sub (sub_invalidateCache _ _))
        fun h => h.delete hg
    next hn =>
      exact hc.write hctx (FieldRepository.delete · id) (fun _ h => h) fun h => h.delete_of_none hn

theorem listsConsistent_batchSave {s : State} (hc : ListsConsistent s) {ctx : Context}
    (hctx : ctx.inTransaction = s.store.inTransaction) {fields : List Field}
    (hmove : ∀ f ∈ fields, ∀ g ∈ (s.store.view ctx).fields.get? f.id, g.tableId = f.tableId)
    (hsame : ∀ f ∈ fields, ∀ f' ∈ fields, f'.id = f.id → f'.tableId = f.tableId)
    (e : Option String) : ListsConsistent (batchSave s ctx fields e).2 := by
  unfold batchSave
  split
  · exact hc
  · exact hc.write hctx (FieldRepository.batchSave · fields)
      (fun _ h => h.sub (Cache.sub_delete _ _)) fun h => h.batchSave hmove hsame

/-- The steps under which the lists stay exact: no `BatchDelete` or `UpdateOrder`, every `Save`
and `BatchSave` keeps each field in its table, and every call but `FindByID` runs in a context
that agrees with whether a transaction is open. -/
def Step.KeepsLists (s : State) : Step → Prop
  | .call (.findByID ..) | .expire _ | .begin | .rollback => True
  | .call (.findByTableID ctx ..) | .call (.delete ctx ..) =>
    ctx.inTransaction = s.store.inTransaction
  | .call (.save ctx f _) => ctx.inTransaction = s.store.inTransaction ∧
      ∀ g ∈ (s.store.view ctx).fields.get? f.id, g.tableId = f.tableId
  | .call (.batchSave ctx fs _) => ctx.inTransaction = s.store.inTransaction ∧
      (∀ f ∈ fs, ∀ g ∈ (s.store.view ctx).fields.get? f.id, g.tableId = f.tableId) ∧
      ∀ f ∈ fs, ∀ f' ∈ fs, f'.id = f.id → f'.tableId = f.tableId
  | .call (.batchDelete ..) | .call (.updateOrder ..) => False
  | .commit => s.store.inTransaction = true

instance Step.decidableKeepsLists (s : State) : (st : Step) → Decidable (st.KeepsLists s)
  | .call (.findByID ..) | .expire _ | .begin | .rollback => isTrue trivial
  | .call (.findByTableID ctx ..) | .call (.delete ctx ..) =>
    inferInstanceAs (Decidable (ctx.inTransaction = s.store.inTransaction))
  | .call (.save ctx f _) => inferInstanceAs (Decidable (ctx.inTransaction = s.store.inTransaction ∧
      ∀ g ∈ (s.store.view ctx).fields.get? f.id, g.tableId = f.tableId))
  | .call (.batchSave ctx fs _) =>
    inferInstanceAs (Decidable (ctx.inTransaction = s.store.inTransaction ∧
      (∀ f ∈ fs, ∀ g ∈ (s.store.view ctx).fields.get? f.id, g.tableId = f.tableId) ∧
      ∀ f ∈ fs, ∀ f' ∈ fs, f'.id = f.id → f'.tableId = f.tableId))
  | .call (.batchDelete ..) | .call (.updateOrder ..) => isFalse id
  | .commit => inferInstanceAs (Decidable (s.store.inTransaction = true))

/-- Every step the guard allows keeps `ListsConsistent`. -/
theorem listsConsistent_step {s : State} (hc : ListsConsistent s) {st : Step}
    (hk : st.KeepsLists s) : ListsConsistent (step s st) := by
  cases st with
  | call c =>
    cases c with
    | findByID ctx id io => exact listsConsistent_findByID hc ctx id io
    | findByTableID ctx tableId io => exact listsConsistent_findByTableID hc hk tableId io
    | save ctx f e => exact listsConsistent_save hc hk.1 hk.2 e
    | delete ctx id e => exact listsConsistent_delete hc hk id e
    | batchSave ctx fs e => exact listsConsistent_batchSave hc hk.1 hk.2.1 hk.2.2 e
    | batchDelete | updateOrder => exact hk.elim
  | expire key => exact hc.mono fun _ h => h.sub (Cache.sub_delete _ _)
  | begin => exact Store.All.begin hc
  | commit => exact Store.All.commit hc hk
  | rollback => exact Store.All.rollback hc

theorem listsConsistent_run (t : FieldTable) {steps : List Step}
    (hg : Guarded step Step.KeepsLists (State.init t) steps) :
    ListsConsistent (run (State.init t) steps) :=
  Guarded.invariant ListsConsistent (fun _ _ hc hk => listsConsistent_step hc hk) hg
    (Store.all_init (fresh_empty t).fields)

/-- **`FindByTableID` stays exact under `BatchSave` and `FindByID`.**  In every run from an empty
cache that keeps to `Step.KeepsLists`, with every `Get` and `Set` free to fail and every entry to
expire, `FindByTableID` in a context that agrees with whether a transaction is open returns what
the wrapped repository returns on the table it sees. -/
theorem run_findByTableID_eq_direct (t : FieldTable) (steps : List Step)
    (hg : Guarded step Step.KeepsLists (State.init t) steps) (ctx : Context)
    (hctx : ctx.inTransaction = (run (State.init t) steps).store.inTransaction)
    (tableId : String) (io : CacheIO) :
    (findByTableID (run (State.init t) steps) ctx tableId io).1 =
      FieldRepository.findByTableID ((run (State.init t) steps).store.view ctx) tableId :=
  findByTableID_fst (Store.All.view (listsConsistent_run t hg) hctx) tableId io

/-- Two fields saved by `BatchSave`, read by `FindByID` inside a transaction that saves one of them
again and rolls back, then a second `BatchSave`: the list of their table is read back exact. -/
theorem run_findByTableID_eq_direct_batch :
    let f : Field := ⟨"fld1", "tbl1", "Name", 1⟩
    let g : Field := ⟨"fld2", "tbl1", "Size", 2⟩
    let steps : List Step := [.call (.batchSave ⟨false⟩ [f, g] none),
      .call (.findByTableID ⟨false⟩ "tbl1" ⟨true, true⟩), .begin,
      .call (.save ⟨true⟩ { f with name := "Renamed" } none),
      .call (.findByID ⟨true⟩ "fld1" ⟨true, true⟩), .rollback,
      .call (.batchSave ⟨false⟩ [{ g with order := 3 }] none)]
    Guarded step Step.KeepsLists (State.init .empty) steps ∧
      (⟨false⟩ : Context).inTransaction = (run (State.init .empty) steps).store.inTransaction ∧
      (findByTableID (run (State.init .empty) steps) ⟨false⟩ "tbl1" ⟨true, true⟩).1 =
        FieldRepository.findByTableID ((run (State.init .empty) steps).store.view ⟨false⟩) "tbl1" :=
  ⟨by decide, rfl, run_findByTableID_eq_direct .empty _ (by decide) ⟨false⟩ (by decide) "tbl1"
    ⟨true, true⟩⟩

end LuckDB.CachedFieldRepository
