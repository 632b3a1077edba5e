import LuckDB.Server.CachedFieldRepository
import LuckDB.Run

/-!
## What `CachedFieldRepository` serves

* `run_call_eq_direct`: in every run from an empty cache, every call returns what the wrapped
  repository returns for it on the table the call sees.  Every `Get` and `Set` of the cache may
  fail and every entry may expire; transactions are begun, committed and rolled back.  The run
  keeps to `Step.Keeps`: a call's context agrees with whether a transaction is open, `FindByID`
  runs outside transactions, a `Save` keeps its field in its table, and no `BatchSave`,
  `BatchDelete` or `UpdateOrder` runs.  The cache's `Delete` and `InvalidatePattern` are taken to
  succeed.
* `writes_leave_stale_fields`: `BatchSave`, `UpdateOrder` and `BatchDelete` leave a cached
  `field:id:<id>` in place, so the next `FindByID` returns the field as it was; a `Save` that
  moves a field to another table leaves the old table's list in place.
* `findByID_caches_rolled_back_field`: `FindByID` in a transaction caches the working copy's field,
  and after a rollback the wrapper serves a value that was never committed.
* `invalidateCache_eq_delete`: for a table id without `*`, `?`, `[` or `\`, the
  `InvalidatePattern` step of `invalidateCache` removes nothing its `Delete` has not removed
  already.

The invariant is `Fresh c t`, made of two parts: `IdsFresh`, each `field:id:X` entry of the cache
holds field `X` of table `t`, and `ListsFresh`, each `field:table:T` entry holds the fields of `T`.
Each part is kept by a read (`set_field`, `set_fields`, and a key of the other kind), and by a
write that removes every entry of its kind whose answer the write changes (`of_sub`);
`invalidateCache` removes the field's and its table's (`fresh_save`, `fresh_delete`).
`Consistent` is `Fresh` for the committed table, and for the working copy while a transaction is
open; `consistent_step` and `consistent_run` carry it along a run.
-/

namespace LuckDB.CachedFieldRepository

open Js

/-! ### Cache keys -/

theorem buildCacheKey_inj {pre a b : String} (h : buildCacheKey pre a = buildCacheKey pre b) :
    a = b := by
  have h := congrArg String.data h
  simp only [buildCacheKey, String.data_append, List.append_cancel_left_eq] at h
  exact String.ext h

theorem buildCacheKey_id_ne_table (a b : String) :
    buildCacheKey "id" a ≠ buildCacheKey "table" b := by
  intro h
  have h := congrArg String.data h
  simp [buildCacheKey, String.data_append] at h

@[simp] theorem entry_invalidateCache_id (c : Cache CacheValue) (f : Field) :
    (invalidateCache c f).entry (buildCacheKey "id" f.id) = none := by
  simp [invalidateCache]

@[simp] theorem entry_invalidateCache_table (c : Cache CacheValue) (f : Field) :
    (invalidateCache c f).entry (buildCacheKey "table" f.tableId) = none := by
  simp [invalidateCache]

theorem sub_invalidateCache (c : Cache CacheValue) (f : Field) : (invalidateCache c f).Sub c :=
  (Cache.sub_invalidatePattern _ _).trans (Cache.sub_delete _ _)

/-- **The pattern of `invalidateCache` removes nothing more.**  For a table id with none of the
characters a glob reads specially (`GlobLiteral`), the pattern `field:table:<tableId>` stands for
its own text: it matches only the key `field:table:<tableId>`, which the `Delete` before it has
already removed. -/
theorem invalidateCache_eq_delete (c : Cache CacheValue) (f : Field) (hT : GlobLiteral f.tableId) :
    invalidateCache c f = c.delete [buildCacheKey "id" f.id, buildCacheKey "table" f.tableId] := by
  have hp : '*' ∉ ("field:table:" ++ f.tableId).toList := by
    simpa [String.toList, String.data_append] using fun h => hT '*' h (List.mem_cons_self _ _)
  unfold invalidateCache Cache.invalidatePattern
  congr 1
  funext k
  rw [globMatch_eq_of_star_not_mem hp]
  by_cases hk : k = buildCacheKey "table" f.tableId
  · simp [hk, buildCacheKey]
  · have : (("field:table:" ++ f.tableId).toList == k.toList) = false := by
      simpa [buildCacheKey, String.toList] using fun h => hk (String.ext h.symm)
    rw [this]
    rfl

/-- A field of table `tbl1`, invalidated from the empty cache. -/
theorem invalidateCache_eq_delete_tbl1 :
    GlobLiteral "tbl1" ∧ invalidateCache .empty ⟨"fld1", "tbl1", "Name", 1⟩ =
      Cache.empty.delete [buildCacheKey "id" "fld1", buildCacheKey "table" "tbl1"] :=
  ⟨by decide, invalidateCache_eq_delete .empty ⟨"fld1", "tbl1", "Name", 1⟩ (by decide)⟩

/-! ### What the repository's answers do under a write -/

theorem findByID_save_of_ne {t : FieldTable} {f : Field} {id : String}
    (h : FieldRepository.findByID (FieldRepository.save t f) id ≠ FieldRepository.findByID t id) :
    id = f.id := by
  by_contra hne
  exact h (StrMap.get?_set_ne _ hne _)

/-- A `Save` that keeps the field in its table changes the fields of no other table. -/
theorem findByTableID_save_of_ne {t : FieldTable} {f : Field}
    (hmove : ∀ g ∈ t.fields.get? f.id, g.tableId = f.tableId) {tableId : String}
    (h : FieldRepository.findByTableID (FieldRepository.save t f) tableId ≠
      FieldRepository.findByTableID t tableId) :
    tableId = f.tableId := by
  by_contra hne
  refine h (StrMap.filter_values_set _ _ _ _ (by simpa using Ne.symm hne) fun g hg => ?_)
  simpa [hmove g hg] using Ne.symm hne

theorem findByID_delete_of_ne {t : FieldTable} {id id' : String}
    (h : FieldRepository.findByID (FieldRepository.delete t id) id' ≠
      FieldRepository.findByID t id') :
    id' = id := by
  by_contra hne
  exact h (StrMap.get?_delete_ne _ hne)

theorem findByTableID_delete_of_ne {t : FieldTable} {id tableId : String}
    (h : FieldRepository.findByTableID (FieldRepository.delete t id) tableId ≠
      FieldRepository.findByTableID t tableId) :
    ∃ g, t.fields.get? id = some g ∧ g.tableId = tableId := by
  by_contra hne
  refine h (StrMap.filter_values_delete _ _ _ fun g hg => ?_)
  simpa using fun heq => hne ⟨g, hg, heq⟩

/-! ### Fresh caches -/

/-- Every `field:id:X` entry that decodes to a field holds field `X` of `t`. -/
def IdsFresh (c : Cache CacheValue) (t : FieldTable) : Prop :=
  ∀ id f, (c.entry (buildCacheKey "id" id)).bind CacheValue.field? = some f →
    FieldRepository.findByID t id = some f

/-- Every `field:table:T` entry that decodes to a list holds the fields of table `T` of `t`. -/
def ListsFresh (c : Cache CacheValue) (t : FieldTable) : Prop :=
  ∀ tableId fs, (c.entry (buildCacheKey "table" tableId)).bind CacheValue.fields? = some fs →
    FieldRepository.findByTableID t tableId = fs

/-- The cache is fresh for `t`: its `field:id:` entries and its `field:table:` entries. -/
structure Fresh (c : Cache CacheValue) (t : FieldTable) : Prop where
  field : IdsFresh c t
  fields : ListsFresh c t

variable {c c' : Cache CacheValue} {t : FieldTable}

namespace IdsFresh

theorem sub (h : IdsFresh c t) (hs : c'.Sub c) : IdsFresh c' t :=
  fun id f hf => h id f (hs.bind_eq_some hf)

/-- Caching the repository's field under its key keeps the `field:id:` entries fresh. -/
theorem set_field (h : IdsFresh c t) {id : String} {f : Field}
    (hf : FieldRepository.findByID t id = some f) (ok : Bool) :
    IdsFresh (c.set (buildCacheKey "id" id) (.field f) ok) t := fun id' f' h' => by
  rw [Cache.entry_set] at h'
  split at h'
  next hk =>
    obtain rfl := buildCacheKey_inj hk.2
    simp only [Option.some_bind, CacheValue.field?, Option.some.injEq] at h'
    exact h' ▸ hf
  next => exact h id' f' h'

/-- A `field:table:` key is no `field:id:` key. -/
theorem set_table (h : IdsFresh c t) (tableId : String) (v : CacheValue) (ok : Bool) :
    IdsFresh (c.set (buildCacheKey "table" tableId) v ok) t := fun id f h' => by
  rw [Cache.entry_set, if_neg fun hk => buildCacheKey_id_ne_table _ _ hk.2] at h'
  exact h id f h'

/-- A write keeps the `field:id:` entries fresh once every one whose answer it changes is gone. -/
theorem of_sub {t' : FieldTable} (h : IdsFresh c t) (hs : c'.Sub c)
    (hid : ∀ id, FieldRepository.findByID t' id ≠ FieldRepository.findByID t id →
      c'.entry (buildCacheKey "id" id) = none) : IdsFresh c' t' := fun id f hf => by
  by_cases heq : FieldRepository.findByID t' id = FieldRepository.findByID t id
  · exact heq ▸ h id f (hs.bind_eq_some hf)
  · simp [hid id heq] at hf

theorem save (h : IdsFresh c t) (f : Field) :
    IdsFresh (invalidateCache c f) (FieldRepository.save t f) :=
  h.of_sub (sub_invalidateCache c f)
    fun _ hne => findByID_save_of_ne hne ▸ entry_invalidateCache_id c f

theorem delete (h : IdsFresh c t) {id : String} {g : Field} (hg : t.fields.get? id = some g) :
    IdsFresh (invalidateCache c g) (FieldRepository.delete t id) :=
  h.of_sub (sub_invalidateCache c g) fun _ hne => by
    rw [findByID_delete_of_ne hne, ← t.keyed id g hg]
    exact entry_invalidateCache_id c g

theorem delete_of_none (h : IdsFresh c t) {id : String} (hn : t.fields.get? id = none) :
    IdsFresh c (FieldRepository.delete t id) :=
  h.of_sub (Cache.Sub.refl c) fun id' hne => by
    obtain rfl := findByID_delete_of_ne hne
    exact absurd (by simp [FieldRepository.findByID, FieldRepository.delete, hn]) hne

end IdsFresh

namespace ListsFresh

theorem sub (h : ListsFresh c t) (hs : c'.Sub c) : ListsFresh c' t :=
  fun T fs hf => h T fs (hs.bind_eq_some hf)

/-- A `field:id:` key is no `field:table:` key. -/
theorem set_id (h : ListsFresh c t) (id : String) (v : CacheValue) (ok : Bool) :
    ListsFresh (c.set (buildCacheKey "id" id) v ok) t := fun T fs h' => by
  rw [Cache.entry_set, if_neg fun hk => buildCacheKey_id_ne_table _ _ hk.2.symm] at h'
  exact h T fs h'

/-- Caching the repository's list of a table under its key keeps the lists fresh. -/
theorem set_fields (h : ListsFresh c t) (tableId : String) (ok : Bool) :
    ListsFresh (c.set (buildCacheKey "table" tableId)
      (.fields (FieldRepository.findByTableID t tableId)) ok) t := fun T fs h' => by
  rw [Cache.entry_set] at h'
  split at h'
  next hk =>
    obtain rfl := buildCacheKey_inj hk.2
    simpa [CacheValue.fields?] using h'
  next => exact h T fs h'

/-- A write keeps the lists fresh once the key of every list it changes is gone. -/
theorem of_sub {t' : FieldTable} (h : ListsFresh c t) (hs : c'.Sub c)
    (htable : ∀ T, FieldRepository.findByTableID t' T ≠ FieldRepository.findByTableID t T →
      c'.entry (buildCacheKey "table" T) = none) : ListsFresh c' t' := fun T fs hf => by
  by_cases heq : FieldRepository.findByTableID t' T = FieldRepository.findByTableID t T
  · exact heq ▸ h T fs (hs.bind_eq_some hf)
  · simp [htable T heq] at hf

/-- `Save` then `invalidateCache` keeps the lists fresh, for a field that stays in its table. -/
theorem save (h : ListsFresh c t) {f : Field}
    (hmove : ∀ g ∈ t.fields.get? f.id, g.tableId = f.tableId) :
    ListsFresh (invalidateCache c f) (FieldRepository.save t f) :=
  h.of_sub (sub_invalidateCache c f)
    fun _ hne => findByTableID_save_of_ne hmove hne ▸ entry_invalidateCache_table c f

theorem delete (h : ListsFresh c t) {id : String} {g : Field} (hg : t.fields.get? id = some g) :
    ListsFresh (invalidateCache c g) (FieldRepository.delete t id) :=
  h.of_sub (sub_invalidateCache c g) fun _ hne => by
    obtain ⟨g', hg', rfl⟩ := findByTableID_delete_of_ne hne
    cases hg.symm.trans hg'
    exact entry_invalidateCache_table c g

theorem delete_of_none (h : ListsFresh c t) {id : String} (hn : t.fields.get? id = none) :
    ListsFresh c (FieldRepository.delete t id) :=
  h.of_sub (Cache.Sub.refl c) fun _ hne => by
    obtain ⟨g, hg, -⟩ := findByTableID_delete_of_ne hne
    simp [hn] at hg

end ListsFresh

theorem fresh_empty (t : FieldTable) : Fresh .empty t :=
  ⟨fun _ _ h => by simp at h, fun _ _ h => by simp at h⟩

theorem Fresh.sub (h : Fresh c t) (hs : c'.Sub c) : Fresh c' t := ⟨h.field.sub hs, h.fields.sub hs⟩

/-- Caching the repository's field under its key keeps the cache fresh. -/
theorem Fresh.set_field (h : Fresh c t) {id : String} {f : Field}
    (hf : FieldRepository.findByID t id = some f) (ok : Bool) :
    Fresh (c.set (buildCacheKey "id" id) (.field f) ok) t :=
  ⟨h.field.set_field hf ok, h.fields.set_id id _ ok⟩

/-- Caching the repository's list of a table under its key keeps the cache fresh. -/
theorem Fresh.set_fields (h : Fresh c t) (tableId : String) (ok : Bool) :
    Fresh (c.set (buildCacheKey "table" tableId)
      (.fields (FieldRepository.findByTableID t tableId)) ok) t :=
  ⟨h.field.set_table tableId _ ok, h.fields.set_fields tableId ok⟩

/-- `Save` then `invalidateCache` keeps the cache fresh, for a field that stays in its table. -/
theorem fresh_save (h : Fresh c t) {f : Field}
    (hmove : ∀ g ∈ t.fields.get? f.id, g.tableId = f.tableId) :
    Fresh (invalidateCache c f) (FieldRepository.save t f) :=
  ⟨h.field.save f, h.fields.save hmove⟩

/-- `Delete` of a stored field then `invalidateCache` of it keeps the cache fresh. -/
theorem fresh_delete (h : Fresh c t) {id : String} {g : Field} (hg : t.fields.get? id = some g) :
    Fresh (invalidateCache c g) (FieldRepository.delete t id) :=
  ⟨h.field.delete hg, h.fields.delete hg⟩

/-- `Delete` of an absent id changes no answer. -/
theorem fresh_delete_of_none (h : Fresh c t) {id : String} (hn : t.fields.get? id = none) :
    Fresh c (FieldRepository.delete t id) :=
  ⟨h.field.delete_of_none hn, h.fields.delete_of_none hn⟩

/-! ### Reads -/

/-- `FindByID` returns the repository's field when the `field:id:` entries are fresh for the
table it sees. -/
theorem findByID_fst {s : State} {ctx : Context} (h : IdsFresh s.cache (s.store.view ctx))
    (id : String) (io : CacheIO) :
    (findByID s ctx id io).1 = FieldRepository.findByID (s.store.view ctx) id := by
  unfold findByID
  dsimp only
  split
  next f hf => exact (h id f (Cache.bind_get_eq_some hf)).symm
  next => split <;> simp_all

/-- `FindByTableID` returns the repository's list when the lists are fresh for the table it
sees. -/
theorem findByTableID_fst {s : State} {ctx : Context} (h : ListsFresh s.cache (s.store.view ctx))
    (tableId : String) (io : CacheIO) :
    (findByTableID s ctx tableId io).1 =
      FieldRepository.findByTableID (s.store.view ctx) tableId := by
  unfold findByTableID
  dsimp only
  split
  · rfl
  · split
    next fs hfs => exact (h tableId fs (Cache.bind_get_eq_some hfs)).symm
    next => rfl

/-! ### Runs -/

/-- The cache is fresh for the committed table, and for the working copy while a transaction is
open. -/
def Consistent (s : State) : Prop := s.store.All (Fresh s.cache)

theorem consistent_init (t : FieldTable) : Consistent (State.init t) :=
  Store.all_init (fresh_empty t)

theorem consistent_findByID {s : State} (hc : Consistent s) {ctx : Context}
    (hctx : ctx.inTransaction = false) (hs : s.store.inTransaction = false) (id : String)
    (io : CacheIO) : Consistent (findByID s ctx id io).2 := by
  unfold findByID
  dsimp only
  split
  · exact hc
  · split
    next f hf =>
      rw [Store.view_of_not hctx] at hf
      exact Store.all_of_not hs (hc.committed.set_field hf _)
    next => exact hc

theorem consistent_findByTableID {s : State} (hc : Consistent s) {ctx : Context}
    (hctx : ctx.inTransaction = s.store.inTransaction) (tableId : String) (io : CacheIO) :
    Consistent (findByTableID s ctx tableId io).2 := by
  unfold findByTableID
  dsimp only
  split
  · exact hc
  · next hin =>
    split
    · exact hc
    · rw [Store.view_of_not (Bool.not_eq_true _ ▸ hin)]
      exact Store.all_of_not (hctx ▸ Bool.not_eq_true _ ▸ hin) (hc.committed.set_fields _ _)

theorem consistent_save {s : State} (hc : Consistent s) {ctx : Context}
    (hctx : ctx.inTransaction = s.store.inTransaction) {f : Field}
    (hmove : ∀ g ∈ (s.store.view ctx).fields.get? f.id, g.tableId = f.tableId) (e : Option String) :
    Consistent (save s ctx f e).2 := by
  unfold save
  split
  · exact hc
  · exact hc.write hctx (FieldRepository.save · f) (fun _ h => h.sub (sub_invalidateCache _ _))
      fun h => fresh_save h hmove

theorem consistent_delete {s : State} (hc : Consistent s) {ctx : Context}
    (hctx : ctx.inTransaction = s.store.inTransaction) (id : String) (e : Option String) :
    Consistent (delete s ctx id e).2 := by
  unfold delete
  dsimp only
  split
  · exact hc
  · split
    next g hg =>
      exact hc.write hctx (FieldRepository.delete · id) (fun _ h => h.sub (sub_invalidateCache _ _))
        fun h => fresh_delete h hg
    next hn =>
      exact hc.write hctx (FieldRepository.delete · id) (fun _ h => h)
        fun h => fresh_delete_of_none h hn

/-- The steps under which the cache stays exact: a call's context agrees with whether a
transaction is open, `FindByID` runs only while none is, a `Save` keeps its field in its table, no
batch write or `UpdateOrder` runs, and transactions open and close in turn. -/
def Step.Keeps (s : State) : Step → Prop
  | .call (.findByID ctx ..) => ctx.inTransaction = false ∧ s.store.inTransaction = false
  | .call (.findByTableID ctx ..) | .call (.delete ctx ..) =>
    ctx.inTransaction = s.store.inTransaction
  | .call (.save ctx f _) => ctx.inTransaction = s.store.inTransaction ∧
      ∀ g ∈ (s.store.view ctx).fields.get? f.id, g.tableId = f.tableId
  | .call (.batchSave ..) | .call (.batchDelete ..) | .call (.updateOrder ..) => False
  | .expire _ => True
  | .begin => s.store.inTransaction = false
  | .commit | .rollback => s.store.inTransaction = true

instance Step.decidableKeeps (s : State) : (st : Step) → Decidable (st.Keeps s)
  | .call (.findByID ctx ..) =>
    inferInstanceAs (Decidable (ctx.inTransaction = false ∧ s.store.inTransaction = false))
  | .call (.findByTableID ctx ..) | .call (.delete ctx ..) =>
    inferInstanceAs (Decidable (ctx.inTransaction = s.store.inTransaction))
  | .call (.save ctx f _) => inferInstanceAs (Decidable (ctx.inTransaction = s.store.inTransaction ∧
      ∀ g ∈ (s.store.view ctx).fields.get? f.id, g.tableId = f.tableId))
  | .call (.batchSave ..) | .call (.batchDelete ..) | .call (.updateOrder ..) => isFalse id
  | .expire _ => isTrue trivial
  | .begin => inferInstanceAs (Decidable (s.store.inTransaction = false))
  | .commit | .rollback => inferInstanceAs (Decidable (s.store.inTransaction = true))

/-- **Every step the guard allows keeps `Consistent`.** -/
theorem consistent_step {s : State} (hc : Consistent s) {st : Step} (hk : st.Keeps s) :
    Consistent (step s st) := by
  cases st with
  | call c =>
    cases c with
    | findByID ctx id io => exact consistent_findByID hc hk.1 hk.2 id io
    | findByTableID ctx tableId io => exact consistent_findByTableID hc hk tableId io
    | save ctx f e => exact consistent_save hc hk.1 hk.2 e
    | delete ctx id e => exact consistent_delete hc hk id e
    | batchSave | batchDelete | updateOrder => exact hk.elim
  | expire key => exact hc.mono fun _ h => h.sub (Cache.sub_delete _ _)
  | begin => exact Store.All.begin hc
  | commit => exact Store.All.commit hc hk
  | rollback => exact Store.All.rollback hc

theorem consistent_run (t : FieldTable) {steps : List Step}
    (hg : Guarded step Step.Keeps (State.init t) steps) : Consistent (run (State.init t) steps) :=
  Guarded.invariant Consistent (fun _ _ hc hk => consistent_step hc hk) hg (consistent_init t)

/-- A call the guard allows returns the repository's answer from a consistent state. -/
theorem Consistent.call_eq_direct {s : State} (hc : Consistent s) {c : Call}
    (hk : (Step.call c).Keeps s) : (c.run s).1 = c.direct (s.store.view c.ctx) := by
  cases c with
  | findByID ctx id io =>
    simp only [Call.run, Call.direct, Call.ctx]
    rw [findByID_fst (Store.All.view hc (hk.1.trans hk.2.symm)).field]
  | findByTableID ctx tableId io =>
    simp only [Call.run, Call.direct, Call.ctx]
    rw [findByTableID_fst (Store.All.view hc hk).fields]
  | save ctx f e | delete ctx id e | batchSave ctx fs e | batchDelete ctx ids e
  | updateOrder ctx id o e =>
    simp only [Call.run, Call.direct, save, delete, batchSave, batchDelete, updateOrder]
    split <;> simp_all

/-- **Every call of an allowed run returns what the wrapped repository returns.** -/
theorem run_call_eq_direct (t : FieldTable) (steps : List Step)
    (hg : Guarded step Step.Keeps (State.init t) steps) (c : Call)
    (hc : (Step.call c).Keeps (run (State.init t) steps)) :
    (c.run (run (State.init t) steps)).1 = c.direct ((run (State.init t) steps).store.view c.ctx) :=
  (consistent_run t hg).call_eq_direct hc

/-- A field saved, read, saved again in a transaction that commits, then read once more. -/
theorem run_call_eq_direct_commit :
    let f : Field := ⟨"fld1", "tbl1", "Name", 1⟩
    let steps : List Step := [.call (.save ⟨false⟩ f none),
      .call (.findByID ⟨false⟩ "fld1" ⟨true, true⟩), .begin,
      .call (.save ⟨true⟩ { f with order := 2 } none), .commit]
    let c : Call := .findByID ⟨false⟩ "fld1" ⟨true, true⟩
    Guarded step Step.Keeps (State.init .empty) steps ∧
      (Step.call c).Keeps (run (State.init .empty) steps) ∧
      (c.run (run (State.init .empty) steps)).1 =
        c.direct ((run (State.init .empty) steps).store.view c.ctx) :=
  ⟨by decide, by decide, run_call_eq_direct .empty _ (by decide) _ (by decide)⟩

/-! ### Where the cache goes stale -/

/-- **`BatchSave`, `UpdateOrder` and `BatchDelete` leave `field:id:<id>` in place, and a `Save`
that moves a field leaves its old table's list.**  After `FindByID` has cached field `f`, each of
the three changes `f` in the repository, and the next `FindByID` still returns `f`.  After
`FindByTableID` has cached the list of `f`'s table, a `Save` of `f` into another table
invalidates the new table's keys only, and the list of the old one still holds `f`. -/
theorem writes_leave_stale_fields :
    let f : Field := ⟨"fld1", "tbl1", "Name", 1⟩
    let io : CacheIO := ⟨true, true⟩
    let read : Call := .findByID ⟨false⟩ "fld1" io
    let after (w : Call) :=
      run (State.init .empty) [.call (.save ⟨false⟩ f none), .call read, .call w]
    let listRead : Call := .findByTableID ⟨false⟩ "tbl1" io
    let moved := run (State.init .empty)
      [.call (.save ⟨false⟩ f none), .call listRead,
        .call (.save ⟨false⟩ { f with tableId := "tbl2" } none)]
    (read.run (after (.batchSave ⟨false⟩ [{ f with name := "Renamed" }] none))).1 =
        .field (some f) ∧
      read.direct
          ((after (.batchSave ⟨false⟩ [{ f with name := "Renamed" }] none)).store.view ⟨false⟩) =
        .field (some { f with name := "Renamed" }) ∧
      (read.run (after (.updateOrder ⟨false⟩ "fld1" 7 none))).1 = .field (some f) ∧
      read.direct ((after (.updateOrder ⟨false⟩ "fld1" 7 none)).store.view ⟨false⟩) =
        .field (some { f with order := 7 }) ∧
      (read.run (after (.batchDelete ⟨false⟩ ["fld1"] none))).1 = .field (some f) ∧
      read.direct ((after (.batchDelete ⟨false⟩ ["fld1"] none)).store.view ⟨false⟩) = .field none ∧
      (listRead.run moved).1 = .fields [f] ∧
      listRead.direct (moved.store.view ⟨false⟩) = .fields [] := by
  decide

/-- **`FindByID` in a transaction caches an uncommitted field.**  A transaction saves `f'` over the
committed `f` and reads it back with `FindByID`, which caches it; the transaction rolls back, and
`FindByID` outside it returns `f'` while the committed table holds `f`. -/
theorem findByID_caches_rolled_back_field :
    let f : Field := ⟨"fld1", "tbl1", "Name", 1⟩
    let f' : Field := { f with name := "Renamed" }
    let s := run (State.init .empty)
      [.call (.save ⟨false⟩ f none), .begin, .call (.save ⟨true⟩ f' none),
        .call (.findByID ⟨true⟩ "fld1" ⟨true, true⟩), .rollback]
    let read : Call := .findByID ⟨false⟩ "fld1" ⟨true, true⟩
    s.cache.entry (buildCacheKey "id" "fld1") = some (.field f') ∧
      (read.run s).1 = .field (some f') ∧ read.direct (s.store.view ⟨false⟩) = .field (some f) := by
  decide

end LuckDB.CachedFieldRepository
