import LuckDB.Server.CachedRecordRepository
import LuckDB.Go.Fmt
import LuckDB.Run

/-!
## What `CachedRecordRepository` serves

* `run_call_eq_wrapped`: in every run from an empty cache, every call returns what the wrapped
  repository returns for it on the table the call sees.  Every `Get` and `Set` of the cache may
  fail, every entry may expire, and transactions are begun, committed and rolled back.  Two
  conditions hold.  The wrapped `List` reads the records of the filter's table, and the filter
  through its table, limit and offset alone (`ListKeyed`): these are all the key
  `record:list:T:L:O` records.  The run keeps to `Step.Keeps`: reads run while no transaction is
  open, with table ids without `:` and a `List` that names its table; a write's context agrees
  with whether a transaction is open, and its table id has no `[` or `\` (`GlobSelfMatch`);
  `Save` and `BatchSave` keep each record in its table; and no `Delete` or `BatchDelete` runs.
  The cache's `Delete` and `InvalidatePattern` are taken to succeed.
* `deletes_leave_stale_records`: `Delete` leaves `record:id:T:<id>` in place, `BatchDelete`
  leaves the list keys of the table in place, and `List` with a `nil` table id panics.

The invariant is `Fresh`, made of two parts: `RecordsFresh`, each `record:id:T:R` entry holds
record `R` of table `T`, and `PagesFresh`, each `record:list:T:L:O` entry holds the wrapped
`List`'s answer for every filter of that table and window.  The keys are read back uniquely for a
table id without `:` (`buildCacheKey_inj`, `listCacheKey_inj`), and `record:list:T:*` matches every
list key of `T` (`globMatch_listPattern`).  Each part is kept by a read (`set_record`,
`set_list`) and by a write that removes every entry of its kind whose answer it changes
(`of_sub`); `batchSave_of_save` carries what every `Save` keeps to a `BatchSave`.  `Consistent`
is `Fresh` of the committed table, and of the working copy while a transaction is open;
`consistent_step` and `consistent_run` carry it along a run.
-/

namespace LuckDB.CachedRecordRepository

open Js

variable {C : Type}

/-! ### Cache keys -/

theorem colon_data : ":".data = [':'] := rfl

/-- A record key names its table and record, for table ids without `:`. -/
theorem buildCacheKey_inj {T T' R R' : String} (hT : ':' ∉ T.data) (hT' : ':' ∉ T'.data)
    (h : buildCacheKey "id" T R = buildCacheKey "id" T' R') : T = T' ∧ R = R' := by
  have h := congrArg String.data h
  simp only [buildCacheKey, String.data_append, List.append_assoc, List.append_cancel_left_eq,
    colon_data, List.singleton_append, List.cons_append, List.cons.injEq, true_and] at h
  obtain ⟨h₁, h₂⟩ := Fmt.append_colon_inj hT hT' h
  exact ⟨String.ext h₁, String.ext h₂⟩

/-- A list key names its table, limit and offset, for table ids without `:`. -/
theorem listCacheKey_inj {T T' : String} {L L' O O' : Int} (hT : ':' ∉ T.data)
    (hT' : ':' ∉ T'.data) (h : listCacheKey T L O = listCacheKey T' L' O') :
    T = T' ∧ L = L' ∧ O = O' := by
  have h := congrArg String.data h
  simp only [listCacheKey, String.data_append, List.append_assoc, List.append_cancel_left_eq,
    colon_data, List.singleton_append, List.cons_append, List.cons.injEq, true_and] at h
  obtain ⟨h₁, h₂⟩ := Fmt.append_colon_inj hT hT' h
  obtain ⟨h₃, h₄⟩ := Fmt.append_colon_inj (Fmt.colon_not_mem_toString L)
    (Fmt.colon_not_mem_toString L') h₂
  exact ⟨String.ext h₁, Fmt.toString_int_inj (String.ext h₃), Fmt.toString_int_inj (String.ext h₄)⟩

theorem listCacheKey_ne_buildCacheKey (T T' R : String) (L O : Int) :
    listCacheKey T L O ≠ buildCacheKey "id" T' R := by
  intro h
  have h := congrArg String.data h
  simp [listCacheKey, buildCacheKey, String.data_append] at h

/-- `record:list:T:*` matches every list key of table `T`. -/
theorem globMatch_listPattern (T : String) (L O : Int) :
    globMatch (listPattern T).data (listCacheKey T L O).data = true := by
  have h := globMatch_append_star ("record:list:".data ++ T.data ++ [':'])
    ((toString L).data ++ ':' :: (toString O).data)
  simpa [listPattern, listCacheKey, String.data_append, List.append_assoc] using h

/-! ### What the repository's answers do under a write -/

theorem findByTableAndID_save_of_ne {t : RecordTable} {r : Record}
    (hmove : ∀ g ∈ t.records.get? r.id, g.tableId = r.tableId) {T R : String}
    (h : RecordRepository.findByTableAndID (RecordRepository.save t r) T R ≠
      RecordRepository.findByTableAndID t T R) :
    T = r.tableId ∧ R = r.id := by
  unfold RecordRepository.findByTableAndID RecordRepository.save at h
  rw [StrMap.get?_set] at h
  split at h
  next hR =>
    refine ⟨?_, hR⟩
    by_contra hT
    subst hR
    cases hg : t.records.get? r.id with
    | none => simp [hg, Option.filter, Ne.symm hT] at h
    | some g => simp [hg, Option.filter, Ne.symm hT, hmove g hg] at h
  next => exact absurd rfl h

/-- A `Save` that keeps the record in its table changes the records of no other table. -/
theorem tableRecords_save_of_ne {t : RecordTable} {r : Record}
    (hmove : ∀ g ∈ t.records.get? r.id, g.tableId = r.tableId) {T : String}
    (h : RecordRepository.tableRecords (RecordRepository.save t r) T ≠
      RecordRepository.tableRecords t T) :
    T = r.tableId := by
  by_contra hne
  refine h (StrMap.filter_values_set _ _ _ _ (by simpa using Ne.symm hne) fun g hg => ?_)
  simpa [hmove g hg] using Ne.symm hne

theorem findByTableAndID_deleteByTableAndID_of_ne {t : RecordTable} {T id T' R : String}
    (h : RecordRepository.findByTableAndID (RecordRepository.deleteByTableAndID t T id) T' R ≠
      RecordRepository.findByTableAndID t T' R) :
    T' = T ∧ R = id := by
  unfold RecordRepository.deleteByTableAndID at h
  split at h
  next hfound =>
    obtain ⟨g, hg⟩ := Option.isSome_iff_exists.mp hfound
    obtain ⟨hgid, hgT⟩ := Option.filter_eq_some.mp hg
    simp only [decide_eq_true_eq] at hgT
    unfold RecordRepository.findByTableAndID RecordRepository.delete at h
    rw [StrMap.get?_delete] at h
    split at h
    next hR =>
      subst hR
      by_contra hne
      have hT' : g.tableId ≠ T' := fun heq => hne ⟨heq.symm.trans hgT, rfl⟩
      simp [Option.mem_def.mp hgid, Option.filter, hT'] at h
    next => exact absurd rfl h
  next => exact absurd rfl h

theorem tableRecords_deleteByTableAndID_of_ne {t : RecordTable} {T id T' : String}
    (h : RecordRepository.tableRecords (RecordRepository.deleteByTableAndID t T id) T' ≠
      RecordRepository.tableRecords t T') :
    T' = T := by
  unfold RecordRepository.deleteByTableAndID at h
  split at h
  next hfound =>
    obtain ⟨g, hg⟩ := Option.isSome_iff_exists.mp hfound
    obtain ⟨hgid, hgT⟩ := Option.filter_eq_some.mp hg
    simp only [decide_eq_true_eq] at hgT
    by_contra hne
    refine h (StrMap.filter_values_delete _ _ _ fun g' hg' => ?_)
    cases (Option.mem_def.mp hgid).symm.trans hg'
    simpa [hgT] using Ne.symm hne
  next => exact absurd rfl h

/-! ### Fresh caches -/

section Fresh

variable (repoList : RecordTable → RecordFilter C → List Record × Nat)

/-- What the key of `List` assumes of the wrapped `List`: it reads the records of the filter's
table alone, and the filter through its table, limit and offset alone. -/
structure ListKeyed : Prop where
  table : ∀ t t' (f : RecordFilter C) T, f.tableId = some T →
    RecordRepository.tableRecords t T = RecordRepository.tableRecords t' T →
      repoList t f = repoList t' f
  window : ∀ t (f f' : RecordFilter C), f.tableId = f'.tableId → f.limit = f'.limit →
    f.offset = f'.offset → repoList t f = repoList t f'

/-- For every table id without `:`, each `record:id:T:R` entry that decodes to a record holds
record `R` of table `T` of `t`. -/
def RecordsFresh (c : Cache CacheValue) (t : RecordTable) : Prop :=
  ∀ T R r, ':' ∉ T.data → (c.entry (buildCacheKey "id" T R)).bind CacheValue.record? = some r →
    RecordRepository.findByTableAndID t T R = some r

/-- For every table id without `:`, each `record:list:T:L:O` entry that decodes to a page holds
the wrapped `List`'s answer for every filter of table `T`, limit `L` and offset `O`. -/
def PagesFresh (c : Cache CacheValue) (t : RecordTable) : Prop :=
  ∀ (f : RecordFilter C) T p, f.tableId = some T → ':' ∉ T.data →
    (c.entry (listCacheKey T f.limit f.offset)).bind CacheValue.list? = some p → repoList t f = p

/-- The cache is fresh for `t`: its `record:id:` entries and its `record:list:` entries. -/
structure Fresh (c : Cache CacheValue) (t : RecordTable) : Prop where
  record : RecordsFresh c t
  list : PagesFresh repoList c t

variable {repoList} {c c' : Cache CacheValue} {t : RecordTable}

namespace RecordsFresh

theorem sub (h : RecordsFresh c t) (hs : c'.Sub c) : RecordsFresh c' t :=
  fun T R r hT hr => h T R r hT (hs.bind_eq_some hr)

/-- Caching the repository's record under its key keeps the records fresh. -/
theorem set_record (h : RecordsFresh c t) {T R : String} {r : Record} (hT : ':' ∉ T.data)
    (hr : RecordRepository.findByTableAndID t T R = some r) (ok : Bool) :
    RecordsFresh (c.set (buildCacheKey "id" T R) (.record r) ok) t := fun T' R' r' hT' h' => by
  rw [Cache.entry_set] at h'
  split at h'
  next hk =>
    obtain ⟨rfl, rfl⟩ := buildCacheKey_inj hT' hT hk.2
    simp only [Option.some_bind, CacheValue.record?, Option.some.injEq] at h'
    exact h' ▸ hr
  next => exact h T' R' r' hT' h'

/-- A list key is no record key. -/
theorem set_list (h : RecordsFresh c t) (T : String) (L O : Int) (v : CacheValue) (ok : Bool) :
    RecordsFresh (c.set (listCacheKey T L O) v ok) t := fun T' R r hT' h' => by
  rw [Cache.entry_set, if_neg fun hk => listCacheKey_ne_buildCacheKey _ _ _ _ _ hk.2.symm] at h'
  exact h T' R r hT' h'

/-- A write keeps the records fresh once the key of every record it changes is gone. -/
theorem of_sub {t' : RecordTable} (h : RecordsFresh c t) (hs : c'.Sub c)
    (hrecord : ∀ T R, ':' ∉ T.data → RecordRepository.findByTableAndID t' T R ≠
      RecordRepository.findByTableAndID t T R → c'.entry (buildCacheKey "id" T R) = none) :
    RecordsFresh c' t' := fun T R r hT hr => by
  by_cases heq : RecordRepository.findByTableAndID t' T R = RecordRepository.findByTableAndID t T R
  · exact heq ▸ h T R r hT (hs.bind_eq_some hr)
  · simp [hrecord T R hT heq] at hr

end RecordsFresh

namespace PagesFresh

theorem sub (h : PagesFresh repoList c t) (hs : c'.Sub c) : PagesFresh repoList c' t :=
  fun f T p hf hT hp => h f T p hf hT (hs.bind_eq_some hp)

/-- A record key is no list key. -/
theorem set_record (h : PagesFresh repoList c t) (T R : String) (v : CacheValue) (ok : Bool) :
    PagesFresh repoList (c.set (buildCacheKey "id" T R) v ok) t := fun f T' p hf hT' h' => by
  rw [Cache.entry_set, if_neg fun hk => listCacheKey_ne_buildCacheKey _ _ _ _ _ hk.2] at h'
  exact h f T' p hf hT' h'

/-- Caching the repository's page under the filter's key keeps the pages fresh. -/
theorem set_list (hkey : ListKeyed repoList) (h : PagesFresh repoList c t) {f : RecordFilter C}
    {T : String} (hf : f.tableId = some T) (hT : ':' ∉ T.data) (ok : Bool) :
    PagesFresh repoList
      (c.set (listCacheKey T f.limit f.offset) (.list (repoList t f).1 (repoList t f).2) ok) t :=
  fun f' T' p hf' hT' h' => by
  rw [Cache.entry_set] at h'
  split at h'
  next hk =>
    obtain ⟨rfl, hl, ho⟩ := listCacheKey_inj hT' hT hk.2
    simp only [Option.some_bind, CacheValue.list?, Prod.mk.eta, Option.some.injEq] at h'
    rw [← h', hkey.window t f' f (hf'.trans hf.symm) hl ho]
  next => exact h f' T' p hf' hT' h'

/-- A write keeps the pages fresh once every list key of every table whose records it changes is
gone. -/
theorem of_sub (hkey : ListKeyed repoList) {t' : RecordTable} (h : PagesFresh repoList c t)
    (hs : c'.Sub c)
    (hlist : ∀ T, ':' ∉ T.data → RecordRepository.tableRecords t' T ≠
      RecordRepository.tableRecords t T → ∀ L O, c'.entry (listCacheKey T L O) = none) :
    PagesFresh repoList c' t' := fun f T p hf hT hp => by
  by_cases heq : RecordRepository.tableRecords t' T = RecordRepository.tableRecords t T
  · rw [hkey.table t' t f T hf heq]
    exact h f T p hf hT (hs.bind_eq_some hp)
  · simp [hlist T hT heq] at hp

end PagesFresh

theorem fresh_empty (t : RecordTable) : Fresh repoList .empty t :=
  ⟨fun _ _ _ _ h => by simp at h, fun _ _ _ _ _ h => by simp at h⟩

theorem Fresh.sub (h : Fresh repoList c t) (hs : c'.Sub c) : Fresh repoList c' t :=
  ⟨h.record.sub hs, h.list.sub hs⟩

/-- Caching the repository's record under its key keeps the cache fresh. -/
theorem Fresh.set_record (h : Fresh repoList c t) {T R : String} {r : Record} (hT : ':' ∉ T.data)
    (hr : RecordRepository.findByTableAndID t T R = some r) (ok : Bool) :
    Fresh repoList (c.set (buildCacheKey "id" T R) (.record r) ok) t :=
  ⟨h.record.set_record hT hr ok, h.list.set_record T R _ ok⟩

/-- Caching the repository's page under the filter's key keeps the cache fresh. -/
theorem Fresh.set_list (hkey : ListKeyed repoList) (h : Fresh repoList c t) {f : RecordFilter C}
    {T : String} (hf : f.tableId = some T) (hT : ':' ∉ T.data) (ok : Bool) :
    Fresh repoList
      (c.set (listCacheKey T f.limit f.offset) (.list (repoList t f).1 (repoList t f).2) ok) t :=
  ⟨h.record.set_list T _ _ _ ok, h.list.set_list hkey hf hT ok⟩

/-- `c` holds neither the key of record `R` of table `T` nor a list key of `T`. -/
def Clears (c : Cache CacheValue) (T R : String) : Prop :=
  c.entry (buildCacheKey "id" T R) = none ∧ ∀ L O, c.entry (listCacheKey T L O) = none

/-- A `Save` that keeps the record in its table keeps the records fresh in a cache without the
record's key. -/
theorem RecordsFresh.save (h : RecordsFresh c t) (hs : c'.Sub c) {r : Record}
    (hc : Clears c' r.tableId r.id) (hmove : ∀ g ∈ t.records.get? r.id, g.tableId = r.tableId) :
    RecordsFresh c' (RecordRepository.save t r) :=
  h.of_sub hs fun _ _ _ hne => by
    obtain ⟨rfl, rfl⟩ := findByTableAndID_save_of_ne hmove hne
    exact hc.1

/-- A `Save` that keeps the record in its table keeps a cache fresh that clears the record. -/
theorem fresh_save (hkey : ListKeyed repoList) (h : Fresh repoList c t) (hs : c'.Sub c)
    {r : Record} (hc : Clears c' r.tableId r.id)
    (hmove : ∀ g ∈ t.records.get? r.id, g.tableId = r.tableId) :
    Fresh repoList c' (RecordRepository.save t r) :=
  ⟨h.record.save hs hc hmove,
    h.list.of_sub hkey hs fun _ _ hne => tableRecords_save_of_ne hmove hne ▸ hc.2⟩

/-- What every `Save` of a record that keeps its table carries over, into a cache that clears the
record, a `BatchSave` of records that keep their tables, and agree on the table of an id, carries
over into a cache that clears them all. -/
theorem batchSave_of_save (P : Cache CacheValue → RecordTable → Prop)
    (hsub : ∀ {c c' t}, P c t → c'.Sub c → P c' t)
    (hsave : ∀ {c c' t} {r : Record}, P c t → c'.Sub c → Clears c' r.tableId r.id →
      (∀ g ∈ t.records.get? r.id, g.tableId = r.tableId) → P c' (RecordRepository.save t r)) :
    ∀ {c c' : Cache CacheValue} {t : RecordTable} {rs : List Record}, P c t → c'.Sub c →
      (∀ r ∈ rs, Clears c' r.tableId r.id) →
      (∀ r ∈ rs, ∀ g ∈ t.records.get? r.id, g.tableId = r.tableId) →
      (∀ r ∈ rs, ∀ r' ∈ rs, r.id = r'.id → r.tableId = r'.tableId) →
      P c' (RecordRepository.batchSave t rs)
  | _, _, _, [], h, hs, _, _, _ => hsub h hs
  | _, _, t, r :: rs, h, hs, hc, hmove, hsame => by
    show P _ (RecordRepository.batchSave (RecordRepository.save t r) rs)
    refine batchSave_of_save P hsub hsave (hsave h hs (hc r (.head _)) (hmove r (.head _)))
      (Cache.Sub.refl _) (fun r' hr' => hc r' (.tail _ hr')) (fun r' hr' g hg => ?_)
      (fun r₁ h₁ r₂ h₂ => hsame r₁ (.tail _ h₁) r₂ (.tail _ h₂))
    simp only [RecordRepository.save, StrMap.get?_set] at hg
    split at hg
    next hid => cases hg; exact hsame r (.head _) r' (.tail _ hr') hid.symm
    next => exact hmove r' (.tail _ hr') g hg

/-! ### What the writes do to the cache -/

/-- The cache after `Save` or `DeleteByTableAndID` of record `R` of table `T`. -/
theorem sub_invalidate (c : Cache CacheValue) (T R : String) :
    ((c.delete [buildCacheKey "id" T R]).invalidatePattern (listPattern T)).Sub c :=
  (Cache.sub_invalidatePattern _ _).trans (Cache.sub_delete _ _)

theorem clears_invalidate (c : Cache CacheValue) (T R : String) :
    Clears ((c.delete [buildCacheKey "id" T R]).invalidatePattern (listPattern T)) T R :=
  ⟨by simp, fun L O => by simp [globMatch_listPattern]⟩

/-- The cache after `BatchSave` of `rs`. -/
theorem sub_invalidateAll (c : Cache CacheValue) (rs : List Record) :
    ((rs.map (·.tableId)).foldl (fun c t => c.invalidatePattern (listPattern t))
      (c.delete (rs.map fun r => buildCacheKey "id" r.tableId r.id))).Sub c :=
  (Cache.sub_foldl_invalidatePattern _ _ _).trans (Cache.sub_delete _ _)

theorem clears_invalidateAll (c : Cache CacheValue) {rs : List Record} {r : Record} (hr : r ∈ rs) :
    Clears ((rs.map (·.tableId)).foldl (fun c t => c.invalidatePattern (listPattern t))
      (c.delete (rs.map fun r => buildCacheKey "id" r.tableId r.id))) r.tableId r.id := by
  constructor
  · rw [Cache.entry_foldl_invalidatePattern]
    simp [List.mem_map_of_mem _ hr]
  · intro L O
    rw [Cache.entry_foldl_invalidatePattern, if_pos]
    exact List.any_eq_true.mpr ⟨r.tableId, List.mem_map_of_mem _ hr, globMatch_listPattern _ _ _⟩

/-- `DeleteByTableAndID` then the removal of the record's key keeps the records fresh. -/
theorem RecordsFresh.deleteByTableAndID (h : RecordsFresh c t) (T id : String) :
    RecordsFresh ((c.delete [buildCacheKey "id" T id]).invalidatePattern (listPattern T))
      (RecordRepository.deleteByTableAndID t T id) :=
  h.of_sub (sub_invalidate _ _ _) fun _ _ _ hne => by
    obtain ⟨rfl, rfl⟩ := findByTableAndID_deleteByTableAndID_of_ne hne
    exact (clears_invalidate _ _ _).1

/-- `DeleteByTableAndID` then the removal of the record's key and its table's list keys keeps the
cache fresh. -/
theorem fresh_deleteByTableAndID (hkey : ListKeyed repoList) (h : Fresh repoList c t)
    (T id : String) :
    Fresh repoList ((c.delete [buildCacheKey "id" T id]).invalidatePattern (listPattern T))
      (RecordRepository.deleteByTableAndID t T id) :=
  ⟨h.record.deleteByTableAndID T id, h.list.of_sub hkey (sub_invalidate _ _ _) fun _ _ hne =>
    tableRecords_deleteByTableAndID_of_ne hne ▸ (clears_invalidate _ _ _).2⟩

/-! ### Reads -/

/-- `FindByTableAndID` returns the repository's record when the cache is fresh for the table it
sees. -/
theorem findByTableAndID_fst {s : State} {ctx : Context}
    (h : RecordsFresh s.cache (s.store.view ctx)) {T : String} (hT : ':' ∉ T.data) (R : String)
    (io : CacheIO) :
    (findByTableAndID s ctx T R io).1 =
      RecordRepository.findByTableAndID (s.store.view ctx) T R := by
  unfold findByTableAndID
  dsimp only
  split
  next r hr => exact (h T R r hT (Cache.bind_get_eq_some hr)).symm
  next => split <;> simp_all

/-- `List` returns the wrapped `List`'s page when the cache is fresh for the table it sees. -/
theorem list_fst {s : State} {ctx : Context} (h : PagesFresh repoList s.cache (s.store.view ctx))
    {f : RecordFilter C} {T : String} (hf : f.tableId = some T) (hT : ':' ∉ T.data)
    (io : CacheIO) : (list repoList s ctx f io).1 = some (repoList (s.store.view ctx) f) := by
  unfold list
  simp only [hf]
  split
  next p hp => exact congrArg some (h f T p hf hT (Cache.bind_get_eq_some hp)).symm
  next => rfl

/-! ### Each call -/

variable (repoList) in
/-- The cache is fresh for the committed table, and for the working copy while a transaction is
open. -/
def Consistent (s : State) : Prop := s.store.All (Fresh repoList s.cache)

theorem consistent_findByTableAndID {s : State} (hc : Consistent repoList s) {ctx : Context}
    (hctx : ctx.inTransaction = false) (hs : s.store.inTransaction = false) {T : String}
    (hT : ':' ∉ T.data) (R : String) (io : CacheIO) :
    Consistent repoList (findByTableAndID s ctx T R io).2 := by
  unfold findByTableAndID
  dsimp only
  split
  · exact hc
  · split
    next r hr =>
      rw [Store.view_of_not hctx] at hr
      exact Store.all_of_not hs (hc.committed.set_record hT hr _)
    next => exact hc

theorem consistent_list (hkey : ListKeyed repoList) {s : State} (hc : Consistent repoList s)
    {ctx : Context} (hctx : ctx.inTransaction = false) (hs : s.store.inTransaction = false)
    {f : RecordFilter C} {T : String} (hf : f.tableId = some T) (hT : ':' ∉ T.data)
    (io : CacheIO) : Consistent repoList (list repoList s ctx f io).2 := by
  unfold list
  simp only [hf]
  split
  · exact hc
  · rw [Store.view_of_not hctx]
    exact Store.all_of_not hs (hc.committed.set_list hkey hf hT _)

theorem consistent_save (hkey : ListKeyed repoList) {s : State} (hc : Consistent repoList s)
    {ctx : Context} (hctx : ctx.inTransaction = s.store.inTransaction) {r : Record}
    (hmove : ∀ g ∈ (s.store.view ctx).records.get? r.id, g.tableId = r.tableId)
    (e : Option String) : Consistent repoList (save s ctx r e).2 := by
  unfold save
  split
  · exact hc
  · exact hc.write hctx (RecordRepository.save · r) (fun _ h => h.sub (sub_invalidate _ _ _))
      fun h => fresh_save hkey h (sub_invalidate _ _ _) (clears_invalidate _ _ _) hmove

theorem consistent_deleteByTableAndID (hkey : ListKeyed repoList) {s : State}
    (hc : Consistent repoList s) {ctx : Context} (hctx : ctx.inTransaction = s.store.inTransaction)
    (T id : String) (e : Option String) :
    Consistent repoList (deleteByTableAndID s ctx T id e).2 := by
  unfold deleteByTableAndID
  split
  · exact hc
  · exact hc.write hctx (RecordRepository.deleteByTableAndID · T id)
      (fun _ h => h.sub (sub_invalidate _ _ _)) fun h => fresh_deleteByTableAndID hkey h T id

theorem consistent_batchSave (hkey : ListKeyed repoList) {s : State} (hc : Consistent repoList s)
    {ctx : Context} (hctx : ctx.inTransaction = s.store.inTransaction) {rs : List Record}
    (hmove : ∀ r ∈ rs, ∀ g ∈ (s.store.view ctx).records.get? r.id, g.tableId = r.tableId)
    (hsame : ∀ r ∈ rs, ∀ r' ∈ rs, r.id = r'.id → r.tableId = r'.tableId) (e : Option String) :
    Consistent repoList (batchSave s ctx rs e).2 := by
  unfold batchSave
  split
  · exact hc
  · exact hc.write hctx (RecordRepository.batchSave · rs) (fun _ h => h.sub (sub_invalidateAll _ _))
      fun h => batchSave_of_save (Fresh repoList) (fun h hs => h.sub hs)
        (fun h hs hc hm => fresh_save hkey h hs hc hm) h
        (sub_invalidateAll _ _) (fun _ hr => clears_invalidateAll _ hr) hmove hsame

/-! ### Runs -/

/-- The steps under which the cache stays exact: reads only while no transaction is open, with
table ids without `:`, and a `List` that names its table; writes in a context that agrees with
whether a transaction is open, `Save` and `BatchSave` keeping each record in its table, no
`Delete` or `BatchDelete`; and transactions that open and close in turn.  A write's table id has
no `[` or `\` (`GlobSelfMatch`), so that its pattern `record:list:<T>:*` matches the list keys of
its own table under every glob dialect. -/
def Step.Keeps (s : State) : Step C → Prop
  | .call (.findByTableAndID ctx T ..) =>
    ctx.inTransaction = false ∧ s.store.inTransaction = false ∧ ':' ∉ T.data
  | .call (.list ctx f _) => ctx.inTransaction = false ∧ s.store.inTransaction = false ∧
      f.tableId.isSome ∧ ∀ T ∈ f.tableId, ':' ∉ T.data
  | .call (.save ctx r _) => ctx.inTransaction = s.store.inTransaction ∧
      (∀ g ∈ (s.store.view ctx).records.get? r.id, g.tableId = r.tableId) ∧ GlobSelfMatch r.tableId
  | .call (.batchSave ctx rs _) => ctx.inTransaction = s.store.inTransaction ∧
      (∀ r ∈ rs, ∀ g ∈ (s.store.view ctx).records.get? r.id, g.tableId = r.tableId) ∧
      (∀ r ∈ rs, ∀ r' ∈ rs, r.id = r'.id → r.tableId = r'.tableId) ∧
      ∀ r ∈ rs, GlobSelfMatch r.tableId
  | .call (.deleteByTableAndID ctx T ..) =>
    ctx.inTransaction = s.store.inTransaction ∧ GlobSelfMatch T
  | .call (.delete ..) | .call (.batchDelete ..) => False
  | .expire _ => True
  | .begin => s.store.inTransaction = false
  | .commit | .rollback => s.store.inTransaction = true

instance Step.decidableKeeps (s : State) : (st : Step C) → Decidable (st.Keeps s)
  | .call (.findByTableAndID ctx T ..) => inferInstanceAs (Decidable
      (ctx.inTransaction = false ∧ s.store.inTransaction = false ∧ ':' ∉ T.data))
  | .call (.list ctx f _) => inferInstanceAs (Decidable
      (ctx.inTransaction = false ∧ s.store.inTransaction = false ∧
        f.tableId.isSome ∧ ∀ T ∈ f.tableId, ':' ∉ T.data))
  | .call (.save ctx r _) => inferInstanceAs (Decidable (ctx.inTransaction = s.store.inTransaction ∧
      (∀ g ∈ (s.store.view ctx).records.get? r.id, g.tableId = r.tableId) ∧ GlobSelfMatch r.tableId))
  | .call (.batchSave ctx rs _) => inferInstanceAs (Decidable
      (ctx.inTransaction = s.store.inTransaction ∧
        (∀ r ∈ rs, ∀ g ∈ (s.store.view ctx).records.get? r.id, g.tableId = r.tableId) ∧
        (∀ r ∈ rs, ∀ r' ∈ rs, r.id = r'.id → r.tableId = r'.tableId) ∧
        ∀ r ∈ rs, GlobSelfMatch r.tableId))
  | .call (.deleteByTableAndID ctx T ..) =>
    inferInstanceAs (Decidable (ctx.inTransaction = s.store.inTransaction ∧ GlobSelfMatch T))
  | .call (.delete ..) | .call (.batchDelete ..) => isFalse id
  | .expire _ => isTrue trivial
  | .begin => inferInstanceAs (Decidable (s.store.inTransaction = false))
  | .commit | .rollback => inferInstanceAs (Decidable (s.store.inTransaction = true))

theorem Step.Keeps.list {s : State} {ctx : Context} {f : RecordFilter C} {io : CacheIO}
    (hk : (Step.call (.list ctx f io)).Keeps s) : ∃ T, f.tableId = some T ∧ ':' ∉ T.data := by
  obtain ⟨-, -, hsome, hT⟩ := hk
  obtain ⟨T, hf⟩ := Option.isSome_iff_exists.mp hsome
  exact ⟨T, hf, hT T hf⟩

/-- **Every step the guard allows keeps `Consistent`.** -/
theorem consistent_step (hkey : ListKeyed repoList) {s : State} (hc : Consistent repoList s)
    {st : Step C} (hk : st.Keeps s) : Consistent repoList (step repoList s st) := by
  cases st with
  | call c =>
    cases c with
    | findByTableAndID ctx T R io => exact consistent_findByTableAndID hc hk.1 hk.2.1 hk.2.2 R io
    | list ctx f io =>
      obtain ⟨T, hf, hT⟩ := hk.list
      exact consistent_list hkey hc hk.1 hk.2.1 hf hT io
    | save ctx r e => exact consistent_save hkey hc hk.1 hk.2.1 e
    | deleteByTableAndID ctx T id e => exact consistent_deleteByTableAndID hkey hc hk.1 T id e
    | batchSave ctx rs e => exact consistent_batchSave hkey hc hk.1 hk.2.1 hk.2.2.1 e
    | delete | batchDelete => exact hk.elim
  | expire key => exact hc.mono fun _ h => h.sub (Cache.sub_delete _ _)
  | begin => exact Store.All.begin hc
  | commit => exact Store.All.commit hc hk
  | rollback => exact Store.All.rollback hc

theorem consistent_run (hkey : ListKeyed repoList) (t : RecordTable) {steps : List (Step C)}
    (hg : Guarded (step repoList) Step.Keeps (State.init t) steps) :
    Consistent repoList (run repoList (State.init t) steps) :=
  Guarded.invariant (Consistent repoList) (fun _ _ hc hk => consistent_step hkey hc hk) hg
    (Store.all_init (fresh_empty t))

/-- A call the guard allows returns the wrapped repository's answer from a consistent state. -/
theorem Consistent.call_eq_direct {s : State} (hc : Consistent repoList s) {c : Call C}
    (hk : (Step.call c).Keeps s) :
    (c.run repoList s).1 = c.direct repoList (s.store.view c.ctx) := by
  cases c with
  | findByTableAndID ctx T R io =>
    simp only [Call.run, Call.direct, Call.ctx]
    rw [findByTableAndID_fst (Store.All.view hc (hk.1.trans hk.2.1.symm)).record hk.2.2 R io]
  | list ctx f io =>
    obtain ⟨T, hf, hT⟩ := hk.list
    simp only [Call.run, Call.direct, Call.ctx]
    rw [list_fst (Store.All.view hc (hk.1.trans hk.2.1.symm)).list hf hT io]
  | save _ _ e | deleteByTableAndID _ _ _ e | delete _ _ e | batchSave _ _ e | batchDelete _ _ e =>
    simp only [Call.run, Call.direct, save, deleteByTableAndID, delete, batchSave, batchDelete]
    split <;> simp_all

/-- **Every call of an allowed run returns what the wrapped repository returns.** -/
theorem run_call_eq_wrapped (hkey : ListKeyed repoList) (t : RecordTable) (steps : List (Step C))
    (hg : Guarded (step repoList) Step.Keeps (State.init t) steps) (c : Call C)
    (hc : (Step.call c).Keeps (run repoList (State.init t) steps)) :
    (c.run repoList (run repoList (State.init t) steps)).1 =
      c.direct repoList ((run repoList (State.init t) steps).store.view c.ctx) :=
  (consistent_run hkey t hg).call_eq_direct hc

end Fresh

/-! ### A wrapped `List` that pages -/

/-- A wrapped `List` that pages through the records of the filter's table: `Offset` records
skipped, at most `Limit` returned, and the table's count as the total. -/
def pageList (t : RecordTable) (f : RecordFilter C) : List Record × Nat :=
  match f.tableId with
  | some T => (((RecordRepository.tableRecords t T).drop f.offset.toNat).take f.limit.toNat,
      (RecordRepository.tableRecords t T).length)
  | none => ([], 0)

theorem listKeyed_pageList : ListKeyed (@pageList C) where
  table t t' f T hf h := by simp [pageList, hf, h]
  window t f f' hT hl ho := by simp [pageList, hT, hl, ho]

/-- A record saved, read and listed, saved again in a transaction that commits, then its page
listed. -/
theorem run_call_eq_wrapped_resaved :
    let r : Record := ⟨"rec1", "tbl1", [("fld1", "a")]⟩
    let page : RecordFilter Unit := ⟨some "tbl1", 10, 0, ()⟩
    let steps : List (Step Unit) := [.call (.save ⟨false⟩ r none),
      .call (.findByTableAndID ⟨false⟩ "tbl1" "rec1" ⟨true, true⟩),
      .call (.list ⟨false⟩ page ⟨true, true⟩), .begin,
      .call (.save ⟨true⟩ { r with data := [("fld1", "b")] } none), .commit]
    let c : Call Unit := .list ⟨false⟩ page ⟨true, true⟩
    Guarded (step pageList) Step.Keeps (State.init .empty) steps ∧
      (Step.call c).Keeps (run pageList (State.init .empty) steps) ∧
      (c.run pageList (run pageList (State.init .empty) steps)).1 =
        c.direct pageList ((run pageList (State.init .empty) steps).store.view c.ctx) :=
  ⟨by decide, by decide, run_call_eq_wrapped listKeyed_pageList _ _ (by decide) _ (by decide)⟩

/-! ### Where the cache goes stale -/

/-- **`Delete` and `BatchDelete` leave stale entries, and `List` panics on a `nil` table id.**
After `FindByTableAndID` has cached record `r`, `Delete` removes `r` from the repository and the
next `FindByTableAndID` still returns it.  After `List` has cached a page holding `r`,
`BatchDelete` removes `r` and the next `List` returns the same page, as `record:*:*:<id>` does not
match `record:list:tbl1:10:0`.  A `List` whose filter has no table id panics where the repository
answers. -/
theorem deletes_leave_stale_records :
    let r : Record := ⟨"rec1", "tbl1", [("fld1", "a")]⟩
    let page : RecordFilter Unit := ⟨some "tbl1", 10, 0, ()⟩
    let io : CacheIO := ⟨true, true⟩
    let read : Call Unit := .findByTableAndID ⟨false⟩ "tbl1" "rec1" io
    let s₁ := run pageList (State.init .empty)
      [.call (.save ⟨false⟩ r none), .call read, .call (.delete ⟨false⟩ "rec1" none)]
    let s₂ := run pageList (State.init .empty)
      [.call (.save ⟨false⟩ r none), .call (.list ⟨false⟩ page io),
        .call (.batchDelete ⟨false⟩ ["rec1"] none)]
    let unnamed : Call Unit := .list ⟨false⟩ ⟨none, 10, 0, ()⟩ io
    (read.run pageList s₁).1 = .record (some r) ∧
      read.direct pageList (s₁.store.view ⟨false⟩) = .record none ∧
      ((Call.list ⟨false⟩ page io).run pageList s₂).1 = .page (some ([r], 1)) ∧
      (Call.list ⟨false⟩ page io).direct pageList (s₂.store.view ⟨false⟩) = .page (some ([], 0)) ∧
      (unnamed.run pageList (State.init .empty)).1 = .page none ∧
      unnamed.direct pageList RecordTable.empty = .page (some ([], 0)) := by
  decide

end LuckDB.CachedRecordRepository
