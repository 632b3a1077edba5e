import LuckDB.Server.Equiv.CachedRecordRepository

/-!
# The record lookups of `CachedRecordRepository`

`run_call_eq_wrapped` keeps every entry of the cache exact.  So it needs the wrapped `List` to be
keyed by its table and window (`ListKeyed`), runs `List` outside transactions only, and excludes
`BatchDelete`, which leaves the list keys of its records' tables in place
(`deletes_leave_stale_records`).  None of this concerns the `record:id:` entries:

* `run_findByTableAndID_eq_direct`: in every run from an empty cache, whatever the wrapped `List`
  answers, in which no `Delete` runs, every `Save` and `BatchSave` keeps each of its records in its
  table, every write runs in a context that agrees with whether a transaction is open, and
  `FindByTableAndID` runs outside transactions, `FindByTableAndID` of a table id without `:`
  returns the repository's record.  `List` may run in any context, and `BatchDelete` is allowed.

`BatchDelete` knows its ids and not their tables; its pattern `record:*:*:<id>` matches the key of
record `<id>` in every table (`globMatch_batchDeletePattern`), so it removes every cached copy of
the records it deletes, for ids without `[` or `\` (`GlobSelfMatch`).  The invariant is
`RecordsFresh c t`, the part of `Fresh` about `record:id:` entries, with its lemmas; `List` writes
only a list key (`RecordsFresh.set_list`).
-/

namespace LuckDB.CachedRecordRepository

open Js

variable {C : Type}

/-! ### `BatchDelete` -/

/-- `record:*:*:<R>` matches the key of record `R` of every table. -/
theorem globMatch_batchDeletePattern (T R : String) :
    globMatch ("record:*:*:" ++ R).data (buildCacheKey "id" T R).data = true := by
  have h : globMatch ('*' :: ':' :: '*' :: ':' :: R.data)
      ("id".data ++ ':' :: (T.data ++ ':' :: R.data)) = true :=
    globMatch_star_append (by
      simpa [globMatch] using globMatch_star_append (globMatch_self (':' :: R.data)) T.data) _
  rw [← globMatch_append_literal (show '*' ∉ "record:".data by decide)] at h
  simpa [buildCacheKey, String.data_append, List.append_assoc] using h

/-- `BatchDelete` changes the record of no id it does not name. -/
theorem findByTableAndID_batchDelete_of_not_mem {T R : String} :
    ∀ {t : RecordTable} {ids : List String}, R ∉ ids →
      RecordRepository.findByTableAndID (RecordRepository.batchDelete t ids) T R =
        RecordRepository.findByTableAndID t T R
  | _, [], _ => rfl
  | t, id :: ids, hR => by
    have hne : R ≠ id := fun h => hR (h ▸ List.mem_cons_self _ _)
    show RecordRepository.findByTableAndID
      (RecordRepository.batchDelete (RecordRepository.delete t id) ids) T R = _
    rw [findByTableAndID_batchDelete_of_not_mem fun h => hR (List.mem_cons_of_mem _ h)]
    simp only [RecordRepository.findByTableAndID, RecordRepository.delete,
      StrMap.get?_delete_ne _ hne]

/-! ### Fresh records -/

/-- `BatchDelete` then the pattern of each of its ids keeps the records fresh. -/
theorem RecordsFresh.batchDelete {c : Cache CacheValue} {t : RecordTable} (h : RecordsFresh c t)
    (ids : List String) :
    RecordsFresh (ids.foldl (fun c id => c.invalidatePattern ("record:*:*:" ++ id)) c)
      (RecordRepository.batchDelete t ids) :=
  h.of_sub (Cache.sub_foldl_invalidatePattern _ _ _) fun T R _ hne => by
    have hR : R ∈ ids := by_contra fun hR => hne (findByTableAndID_batchDelete_of_not_mem hR)
    rw [Cache.entry_foldl_invalidatePattern,
      if_pos (List.any_eq_true.mpr ⟨R, hR, globMatch_batchDeletePattern T R⟩)]

/-! ### Runs -/

/-- The records are fresh for the committed table, and for the working copy while a transaction
is open. -/
def RecordsConsistent (s : State) : Prop := s.store.All (RecordsFresh s.cache)

section Runs

variable (repoList : RecordTable → RecordFilter C → List Record × Nat)

theorem recordsConsistent_findByTableAndID {s : State} (hc : RecordsConsistent s) {ctx : Context}
    (hctx : ctx.inTransaction = false) (hs : s.store.inTransaction = false) {T : String}
    (hT : ':' ∉ T.data) (R : String) (io : CacheIO) :
    RecordsConsistent (findByTableAndID s ctx T R io).2 := by
  unfold findByTableAndID
  dsimp only
  split
  · exact hc
  · split
    next r hr =>
      rw [Store.view_of_not hctx] at hr
      exact Store.all_of_not hs (hc.committed.set_record hT hr _)
    next => exact hc

theorem recordsConsistent_list {s : State} (hc : RecordsConsistent s) (ctx : Context)
    (f : RecordFilter C) (io : CacheIO) : RecordsConsistent (list repoList s ctx f io).2 := by
  unfold list
  split
  · exact hc
  · dsimp only
    split
    · exact hc
    · exact hc.mono fun _ h => h.set_list _ _ _ _ _

theorem recordsConsistent_save {s : State} (hc : RecordsConsistent s) {ctx : Context}
    (hctx : ctx.inTransaction = s.store.inTransaction) {r : Record}
    (hmove : ∀ g ∈ (s.store.view ctx).records.get? r.id, g.tableId = r.tableId)
    (e : Option String) : RecordsConsistent (save s ctx r e).2 := by
  unfold save
  split
  · exact hc
  · exact hc.write hctx (RecordRepository.save · r) (fun _ h => h.sub (sub_invalidate _ _ _))
      fun h => h.save (sub_invalidate _ _ _) (clears_invalidate _ _ _) hmove

theorem recordsConsistent_deleteByTableAndID {s : State} (hc : RecordsConsistent s)
    {ctx : Context} (hctx : ctx.inTransaction = s.store.inTransaction) (T id : String)
    (e : Option String) : RecordsConsistent (deleteByTableAndID s ctx T id e).2 := by
  unfold deleteByTableAndID
  split
  · exact hc
  · exact hc.write hctx (RecordRepository.deleteByTableAndID · T id)
      (fun _ h => h.sub (sub_invalidate _ _ _)) fun h => h.deleteByTableAndID T id

theorem recordsConsistent_batchSave {s : State} (hc : RecordsConsistent s) {ctx : Context}
    (hctx : ctx.inTransaction = s.store.inTransaction) {rs : List Record}
    (hmove : ∀ r ∈ rs, ∀ g ∈ (s.store.view ctx).records.get? r.id, g.tableId = r.tableId)
    (hsame : ∀ r ∈ rs, ∀ r' ∈ rs, r.id = r'.id → r.tableId = r'.tableId) (e : Option String) :
    RecordsConsistent (batchSave s ctx rs e).2 := by
  unfold batchSave
  split
  · exact hc
  · exact hc.write hctx (RecordRepository.batchSave · rs) (fun _ h => h.sub (sub_invalidateAll _ _))
      fun h => batchSave_of_save RecordsFresh (fun h hs => h.sub hs)
        (fun h hs hc hm => h.save hs hc hm) h (sub_invalidateAll _ _)
        (fun _ hr => clears_invalidateAll _ hr) hmove hsame

theorem recordsConsistent_batchDelete {s : State} (hc : RecordsConsistent s) {ctx : Context}
    (hctx : ctx.inTransaction = s.store.inTransaction) (ids : List String) (e : Option String) :
    RecordsConsistent (batchDelete s ctx ids e).2 := by
  unfold batchDelete
  split
  · exact hc
  · exact hc.write hctx (RecordRepository.batchDelete · ids)
      (fun _ h => h.sub (Cache.sub_foldl_invalidatePattern _ _ _)) fun h => h.batchDelete ids

/-- The steps under which the records stay exact: no `Delete`; `FindByTableAndID` while no
transaction is open, with a table id without `:`; writes in a context that agrees with whether a
transaction is open, `Save` and `BatchSave` keeping each record in its table, and `BatchDelete`
of ids without `[` or `\` (`GlobSelfMatch`), so that `record:*:*:<id>` matches the keys of
`<id>` under every glob dialect.  `List` runs in any context. -/
def Step.KeepsRecords (s : State) : Step C → Prop
  | .call (.findByTableAndID ctx T ..) =>
    ctx.inTransaction = false ∧ s.store.inTransaction = false ∧ ':' ∉ T.data
  | .call (.list ..) | .expire _ | .begin | .rollback => True
  | .call (.save ctx r _) => ctx.inTransaction = s.store.inTransaction ∧
      ∀ g ∈ (s.store.view ctx).records.get? r.id, g.tableId = r.tableId
  | .call (.batchSave ctx rs _) => ctx.inTransaction = s.store.inTransaction ∧
      (∀ r ∈ rs, ∀ g ∈ (s.store.view ctx).records.get? r.id, g.tableId = r.tableId) ∧
      ∀ r ∈ rs, ∀ r' ∈ rs, r.id = r'.id → r.tableId = r'.tableId
  | .call (.deleteByTableAndID ctx ..) => ctx.inTransaction = s.store.inTransaction
  | .call (.batchDelete ctx ids _) =>
    ctx.inTransaction = s.store.inTransaction ∧ ∀ id ∈ ids, GlobSelfMatch id
  | .call (.delete ..) => False
  | .commit => s.store.inTransaction = true

instance Step.decidableKeepsRecords (s : State) : (st : Step C) → Decidable (st.KeepsRecords s)
  | .call (.findByTableAndID ctx T ..) => inferInstanceAs (Decidable
      (ctx.inTransaction = false ∧ s.store.inTransaction = false ∧ ':' ∉ T.data))
  | .call (.list ..) | .expire _ | .begin | .rollback => isTrue trivial
  | .call (.save ctx r _) => inferInstanceAs (Decidable (ctx.inTransaction = s.store.inTransaction ∧
      ∀ g ∈ (s.store.view ctx).records.get? r.id, g.tableId = r.tableId))
  | .call (.batchSave ctx rs _) => inferInstanceAs (Decidable
      (ctx.inTransaction = s.store.inTransaction ∧
        (∀ r ∈ rs, ∀ g ∈ (s.store.view ctx).records.get? r.id, g.tableId = r.tableId) ∧
        ∀ r ∈ rs, ∀ r' ∈ rs, r.id = r'.id → r.tableId = r'.tableId))
  | .call (.deleteByTableAndID ctx ..) =>
    inferInstanceAs (Decidable (ctx.inTransaction = s.store.inTransaction))
  | .call (.batchDelete ctx ids _) => inferInstanceAs (Decidable
      (ctx.inTransaction = s.store.inTransaction ∧ ∀ id ∈ ids, GlobSelfMatch id))
  | .call (.delete ..) => isFalse id
  | .commit => inferInstanceAs (Decidable (s.store.inTransaction = true))

/-- Every step the guard allows keeps `RecordsConsistent`, whatever the wrapped `List` does. -/
theorem recordsConsistent_step {s : State} (hc : RecordsConsistent s) {st : Step C}
    (hk : st.KeepsRecords s) : RecordsConsistent (step repoList s st) := by
  cases st with
  | call c =>
    cases c with
    | findByTableAndID ctx T R io =>
      exact recordsConsistent_findByTableAndID hc hk.1 hk.2.1 hk.2.2 R io
    | list ctx f io => exact recordsConsistent_list repoList hc ctx f io
    | save ctx r e => exact recordsConsistent_save hc hk.1 hk.2 e
    | deleteByTableAndID ctx T id e => exact recordsConsistent_deleteByTableAndID hc hk T id e
    | batchSave ctx rs e => exact recordsConsistent_batchSave hc hk.1 hk.2.1 hk.2.2 e
    | batchDelete ctx ids e => exact recordsConsistent_batchDelete hc hk.1 ids e
    | delete => exact hk.elim
  | expire key => exact hc.mono fun _ h => h.sub (Cache.sub_delete _ _)
  | begin => exact Store.All.begin hc
  | commit => exact Store.All.commit hc hk
  | rollback => exact Store.All.rollback hc

theorem recordsConsistent_run (t : RecordTable) {steps : List (Step C)}
    (hg : Guarded (step repoList) Step.KeepsRecords (State.init t) steps) :
    RecordsConsistent (run repoList (State.init t) steps) :=
  Guarded.invariant RecordsConsistent (fun _ _ hc hk => recordsConsistent_step repoList hc hk) hg
    (Store.all_init (@fresh_empty C repoList t).record)

/-- **`FindByTableAndID` stays exact under `BatchDelete` and `List`, whatever `List` answers.**  In
every run from an empty cache that keeps to `Step.KeepsRecords`, with every `Get` and `Set` free
to fail and every entry to expire, `FindByTableAndID` outside transactions, of a table id without
`:`, returns the repository's record. -/
theorem run_findByTableAndID_eq_direct (t : RecordTable) (steps : List (Step C))
    (hg : Guarded (step repoList) Step.KeepsRecords (State.init t) steps) (ctx : Context)
    (hctx : ctx.inTransaction = false)
    (hs : (run repoList (State.init t) steps).store.inTransaction = false) {T : String}
    (hT : ':' ∉ T.data) (R : String) (io : CacheIO) :
    (findByTableAndID (run repoList (State.init t) steps) ctx T R io).1 =
      RecordRepository.findByTableAndID ((run repoList (State.init t) steps).store.view ctx) T R :=
  findByTableAndID_fst (Store.All.view (recordsConsistent_run repoList t hg) (hctx.trans hs.symm))
    hT R io

end Runs

/-- A record saved and read; a transaction lists its table and commits; `BatchDelete` removes the
record, and `FindByTableAndID` no longer finds it. -/
theorem run_findByTableAndID_eq_direct_batchDelete :
    let r : Record := ⟨"rec1", "tbl1", [("fld1", "a")]⟩
    let steps : List (Step Unit) := [.call (.save ⟨false⟩ r none),
      .call (.findByTableAndID ⟨false⟩ "tbl1" "rec1" ⟨true, true⟩), .begin,
      .call (.list ⟨true⟩ ⟨some "tbl1", 10, 0, ()⟩ ⟨true, true⟩), .commit,
      .call (.batchDelete ⟨false⟩ ["rec1"] none)]
    Guarded (step pageList) Step.KeepsRecords (State.init .empty) steps ∧
      (⟨false⟩ : Context).inTransaction = false ∧
      (run pageList (State.init .empty) steps).store.inTransaction = false ∧ ':' ∉ "tbl1".data ∧
      (findByTableAndID (run pageList (State.init .empty) steps) ⟨false⟩ "tbl1" "rec1"
          ⟨true, true⟩).1 =
        RecordRepository.findByTableAndID
          ((run pageList (State.init .empty) steps).store.view ⟨false⟩) "tbl1" "rec1" :=
  ⟨by decide, rfl, by decide, by decide,
    run_findByTableAndID_eq_direct pageList .empty _ (by decide) ⟨false⟩ rfl (by decide) (by decide)
      "rec1" ⟨true, true⟩⟩

end LuckDB.CachedRecordRepository
