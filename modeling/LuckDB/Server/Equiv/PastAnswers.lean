import LuckDB.Server.Equiv.CachedFieldRepository
import LuckDB.Server.Equiv.CachedRecordRepository

/-!
# The caches serve answers the repository once gave

`run_call_eq_direct` needs a guarded run.  Without any guard, stale entries are served
(`writes_leave_stale_fields`, `findByID_caches_rolled_back_field`), but nothing else is:

* `run_call_past`: in every run of `CachedFieldRepository` from an empty cache, with any calls in
  any contexts, any failures of the cache's `Get` and `Set` and any transactions, every call
  returns what the wrapped repository returns for the same call on a table one of the run's calls
  saw, or on the table the call sees itself.  A cached field or list is never another key's, and
  never made up.  The cache's `Delete` and `InvalidatePattern` are taken to succeed.

* `run_reads_past`: the same for `CachedRecordRepository`, with any wrapped `List`.  A
  `FindByTableAndID(T, R)` returns what the repository returned, on a table the run saw, for a
  table and an id that join with `:` into the same text as `T` and `R`: the key
  `record:id:T:R` names them only when neither holds a `:`.  A `List` with a named table returns
  the wrapped `List`'s page, on a table the run saw, for a filter with the same table, limit and
  offset, whatever its other conditions; the list key names those three for every table id
  (`listCacheKey_inj_right`).

The invariant is `Past c H`: each entry that decodes holds the repository's answer for its key on
one of the tables `H`.  A call only removes entries, or caches the answer to itself on the table it
sees (`Call.run_cache`), so it keeps `Past` once that table is added to `H` (`Past.call`).
-/

namespace LuckDB.CachedFieldRepository

/-! ### Entries from tables seen -/

/-- Every `field:id:X` entry that decodes to a field holds field `X` of one of the tables `H`, and
every `field:table:T` entry that decodes to a list holds the fields of `T` in one of them. -/
structure Past (c : Cache CacheValue) (H : List FieldTable) : Prop where
  field : ∀ id f, (c.entry (buildCacheKey "id" id)).bind CacheValue.field? = some f →
    ∃ t ∈ H, FieldRepository.findByID t id = some f
  fields : ∀ tableId fs,
    (c.entry (buildCacheKey "table" tableId)).bind CacheValue.fields? = some fs →
    ∃ t ∈ H, FieldRepository.findByTableID t tableId = fs

theorem past_empty (H : List FieldTable) : Past .empty H :=
  ⟨fun _ _ h => by simp at h, fun _ _ h => by simp at h⟩

theorem Past.mono {c : Cache CacheValue} {H H' : List FieldTable} (h : Past c H) (hH : H ⊆ H') :
    Past c H' where
  field id f hf := let ⟨t, ht, hf'⟩ := h.field id f hf; ⟨t, hH ht, hf'⟩
  fields T fs hf := let ⟨t, ht, hf'⟩ := h.fields T fs hf; ⟨t, hH ht, hf'⟩

theorem Past.sub {c c' : Cache CacheValue} {H : List FieldTable} (h : Past c H) (hs : c'.Sub c) :
    Past c' H :=
  ⟨fun id f hf => h.field id f (hs.bind_eq_some hf),
    fun T fs hf => h.fields T fs (hs.bind_eq_some hf)⟩

theorem Past.set_field {c : Cache CacheValue} {H : List FieldTable} (h : Past c H) {t : FieldTable}
    (ht : t ∈ H) {id : String} {f : Field} (hf : FieldRepository.findByID t id = some f)
    (ok : Bool) : Past (c.set (buildCacheKey "id" id) (.field f) ok) H where
  field id' f' h' := by
    rw [Cache.entry_set] at h'
    split at h'
    next hk =>
      obtain rfl := buildCacheKey_inj hk.2
      simp only [Option.some_bind, CacheValue.field?, Option.some.injEq] at h'
      exact ⟨t, ht, h' ▸ hf⟩
    next => exact h.field id' f' h'
  fields T fs h' := by
    rw [Cache.entry_set, if_neg fun hk => buildCacheKey_id_ne_table _ _ hk.2.symm] at h'
    exact h.fields T fs h'

theorem Past.set_fields {c : Cache CacheValue} {H : List FieldTable} (h : Past c H)
    {t : FieldTable} (ht : t ∈ H) (tableId : String) (ok : Bool) :
    Past (c.set (buildCacheKey "table" tableId)
      (.fields (FieldRepository.findByTableID t tableId)) ok) H where
  field id f h' := by
    rw [Cache.entry_set, if_neg fun hk => buildCacheKey_id_ne_table _ _ hk.2] at h'
    exact h.field id f h'
  fields T fs h' := by
    rw [Cache.entry_set] at h'
    split at h'
    next hk =>
      obtain rfl := buildCacheKey_inj hk.2
      exact ⟨t, ht, by simpa [CacheValue.fields?] using h'⟩
    next => exact h.fields T fs h'

/-! ### What one call does to the cache -/

/-- **What a call does to the cache.**  It removes entries, or caches the answer to itself on the
table it sees: a field under `field:id:<id>`, or a table's fields under `field:table:<tableId>`. -/
theorem Call.run_cache (s : State) (c : Call) :
    (c.run s).2.cache.Sub s.cache ∨
      (∃ id f ok, FieldRepository.findByID (s.store.view c.ctx) id = some f ∧
        (c.run s).2.cache = s.cache.set (buildCacheKey "id" id) (.field f) ok) ∨
      ∃ tableId ok, (c.run s).2.cache = s.cache.set (buildCacheKey "table" tableId)
        (.fields (FieldRepository.findByTableID (s.store.view c.ctx) tableId)) ok := by
  cases c with
  | findByID ctx id io =>
    simp only [Call.run, Call.ctx, CachedFieldRepository.findByID]
    split
    · exact .inl (Cache.Sub.refl _)
    · split
      next f hf => exact .inr (.inl ⟨id, f, io.setOk, hf, rfl⟩)
      next => exact .inl (Cache.Sub.refl _)
  | findByTableID ctx tableId io =>
    simp only [Call.run, Call.ctx, CachedFieldRepository.findByTableID]
    split
    · exact .inl (Cache.Sub.refl _)
    · split
      · exact .inl (Cache.Sub.refl _)
      · exact .inr (.inr ⟨tableId, io.setOk, rfl⟩)
  | save ctx f e =>
    simp only [Call.run, CachedFieldRepository.save]
    split
    · exact .inl (Cache.Sub.refl _)
    · exact .inl (sub_invalidateCache _ _)
  | delete ctx id e =>
    simp only [Call.run, CachedFieldRepository.delete]
    split
    · exact .inl (Cache.Sub.refl _)
    · split
      · exact .inl (sub_invalidateCache _ _)
      · exact .inl (Cache.Sub.refl _)
  | batchSave ctx fs e =>
    simp only [Call.run, CachedFieldRepository.batchSave]
    split
    · exact .inl (Cache.Sub.refl _)
    · exact .inl (Cache.sub_delete _ _)
  | batchDelete ctx ids e | updateOrder ctx id o e =>
    simp only [Call.run, CachedFieldRepository.batchDelete, CachedFieldRepository.updateOrder]
    split <;> exact .inl (Cache.Sub.refl _)

/-- A call keeps `Past` once the table it sees is among the tables. -/
theorem Past.call {s : State} {H : List FieldTable} (h : Past s.cache H) (c : Call) :
    Past (c.run s).2.cache (s.store.view c.ctx :: H) := by
  have h' := h.mono (List.subset_cons_self (s.store.view c.ctx) H)
  rcases Call.run_cache s c with hs | ⟨id, f, ok, hf, he⟩ | ⟨T, ok, he⟩
  · exact h'.sub hs
  · rw [he]
    exact h'.set_field (List.mem_cons_self _ _) hf ok
  · rw [he]
    exact h'.set_fields (List.mem_cons_self _ _) T ok

/-- A call answers as the repository did on one of the tables, or on the table it sees. -/
theorem Past.call_fst {s : State} {H : List FieldTable} (h : Past s.cache H) (c : Call) :
    ∃ t ∈ s.store.view c.ctx :: H, (c.run s).1 = c.direct t := by
  have hnow : ∀ r, r = c.direct (s.store.view c.ctx) →
      ∃ t ∈ s.store.view c.ctx :: H, r = c.direct t :=
    fun r hr => ⟨_, List.mem_cons_self _ _, hr⟩
  cases c with
  | findByID ctx id io =>
    simp only [Call.run, CachedFieldRepository.findByID]
    split
    next f hf =>
      obtain ⟨t, ht, hft⟩ := h.field id f (Cache.bind_get_eq_some hf)
      exact ⟨t, List.mem_cons_of_mem _ ht, by simp [Call.direct, hft]⟩
    next => exact hnow _ (by split <;> simp_all [Call.direct, Call.ctx])
  | findByTableID ctx tableId io =>
    simp only [Call.run, CachedFieldRepository.findByTableID]
    split
    · exact hnow _ rfl
    · split
      next fs hfs =>
        obtain ⟨t, ht, hft⟩ := h.fields tableId fs (Cache.bind_get_eq_some hfs)
        exact ⟨t, List.mem_cons_of_mem _ ht, by simp [Call.direct, hft]⟩
      next => exact hnow _ rfl
  | save ctx f e | delete ctx id e | batchSave ctx fs e | batchDelete ctx ids e
  | updateOrder ctx id o e =>
    refine hnow _ ?_
    simp only [Call.run, Call.direct, save, delete, batchSave, batchDelete, updateOrder]
    split <;> simp_all

/-! ### Runs -/

/-- The tables the calls of a run see, each in the state it runs in. -/
def seen : State → List Step → List FieldTable
  | _, [] => []
  | s, .call c :: steps => s.store.view c.ctx :: seen (step s (.call c)) steps
  | s, st :: steps => seen (step s st) steps

theorem past_step {s : State} {H : List FieldTable} (h : Past s.cache H) (st : Step) :
    Past (step s st).cache (seen s [st] ++ H) := by
  cases st with
  | call c => exact h.call c
  | expire key => exact h.sub (Cache.sub_delete _ _)
  | begin | commit | rollback => exact h

theorem past_run {s : State} {H : List FieldTable} (h : Past s.cache H) (steps : List Step) :
    Past (run s steps).cache (seen s steps ++ H) := by
  induction steps generalizing s H with
  | nil => exact h
  | cons st steps ih =>
    refine (ih (past_step h st)).mono fun t ht => ?_
    cases st <;> simpa [seen, or_assoc, or_left_comm] using ht

/-- **Every answer is one the repository gave.**  In every run from an empty cache, with any calls
in any contexts, any failures of the cache and any transactions, every call returns what the
wrapped repository returns for it on a table one of the run's calls saw, or on the table the call
sees. -/
theorem run_call_past (t : FieldTable) (steps : List Step) (c : Call) :
    ∃ t' ∈ (run (State.init t) steps).store.view c.ctx :: seen (State.init t) steps,
      (c.run (run (State.init t) steps)).1 = c.direct t' := by
  have h : Past (run (State.init t) steps).cache (seen (State.init t) steps ++ []) :=
    past_run (past_empty []) steps
  rw [List.append_nil] at h
  exact h.call_fst c

end LuckDB.CachedFieldRepository

namespace LuckDB.CachedRecordRepository

variable {C : Type}

/-! ### The list key, read from its end -/

/-- A list key names its table, limit and offset for every table id: the limit and the offset are
integers, with no `:`, so the key is read back from its end. -/
theorem listCacheKey_inj_right {T T' : String} {L L' O O' : Int}
    (h : listCacheKey T L O = listCacheKey T' L' O') : T = T' ∧ L = L' ∧ O = O' := by
  have h := congrArg (fun k => k.data.reverse) h
  simp only [listCacheKey, String.data_append, List.reverse_append, colon_data,
    List.reverse_cons, List.reverse_nil, List.nil_append, List.append_assoc,
    List.singleton_append, List.cons_append] at h
  have hc : ∀ i : Int, ':' ∉ (toString i).data.reverse := fun i hi =>
    Fmt.colon_not_mem_toString i (List.mem_reverse.mp hi)
  obtain ⟨hO, h⟩ := Fmt.append_colon_inj (hc O) (hc O') h
  obtain ⟨hL, h⟩ := Fmt.append_colon_inj (hc L) (hc L') h
  have hT := List.reverse_injective (List.append_cancel_right h)
  exact ⟨String.ext hT, Fmt.toString_int_inj (String.ext (List.reverse_injective hL)),
    Fmt.toString_int_inj (String.ext (List.reverse_injective hO))⟩

/-! ### Entries from tables seen -/

section Past

variable (repoList : RecordTable → RecordFilter C → List Record × Nat)

/-- Every entry that decodes to a record holds the repository's answer, on one of the tables `H`,
to a `FindByTableAndID` whose key it is; every entry that decodes to a page holds the wrapped
`List`'s answer, on one of them, to a filter whose key it is. -/
structure Past (c : Cache CacheValue) (H : List RecordTable) : Prop where
  record : ∀ key r, (c.entry key).bind CacheValue.record? = some r → ∃ t ∈ H, ∃ T R,
    buildCacheKey "id" T R = key ∧ RecordRepository.findByTableAndID t T R = some r
  list : ∀ key p, (c.entry key).bind CacheValue.list? = some p → ∃ t ∈ H,
    ∃ (f : RecordFilter C) (T : String), f.tableId = some T ∧
      listCacheKey T f.limit f.offset = key ∧ repoList t f = p

variable {repoList}

theorem past_empty (H : List RecordTable) : Past repoList .empty H :=
  ⟨fun _ _ h => by simp at h, fun _ _ h => by simp at h⟩

theorem Past.mono {c : Cache CacheValue} {H H' : List RecordTable} (h : Past repoList c H)
    (hH : H ⊆ H') : Past repoList c H' where
  record key r hr := let ⟨t, ht, rest⟩ := h.record key r hr; ⟨t, hH ht, rest⟩
  list key p hp := let ⟨t, ht, rest⟩ := h.list key p hp; ⟨t, hH ht, rest⟩

theorem Past.sub {c c' : Cache CacheValue} {H : List RecordTable} (h : Past repoList c H)
    (hs : c'.Sub c) : Past repoList c' H :=
  ⟨fun key r hr => h.record key r (hs.bind_eq_some hr),
    fun key p hp => h.list key p (hs.bind_eq_some hp)⟩

theorem Past.set_record {c : Cache CacheValue} {H : List RecordTable} (h : Past repoList c H)
    {t : RecordTable} (ht : t ∈ H) {T R : String} {r : Record}
    (hr : RecordRepository.findByTableAndID t T R = some r) (ok : Bool) :
    Past repoList (c.set (buildCacheKey "id" T R) (.record r) ok) H where
  record key r' h' := by
    rw [Cache.entry_set] at h'
    split at h'
    next hk =>
      simp only [Option.some_bind, CacheValue.record?, Option.some.injEq] at h'
      exact ⟨t, ht, T, R, hk.2.symm, h' ▸ hr⟩
    next => exact h.record key r' h'
  list key p h' := by
    rw [Cache.entry_set] at h'
    split at h'
    next => simp [CacheValue.list?] at h'
    next => exact h.list key p h'

theorem Past.set_list {c : Cache CacheValue} {H : List RecordTable} (h : Past repoList c H)
    {t : RecordTable} (ht : t ∈ H) {f : RecordFilter C} {T : String} (hf : f.tableId = some T)
    (ok : Bool) :
    Past repoList
      (c.set (listCacheKey T f.limit f.offset) (.list (repoList t f).1 (repoList t f).2) ok) H where
  record key r h' := by
    rw [Cache.entry_set] at h'
    split at h'
    next => simp [CacheValue.record?] at h'
    next => exact h.record key r h'
  list key p h' := by
    rw [Cache.entry_set] at h'
    split at h'
    next hk =>
      simp only [Option.some_bind, CacheValue.list?, Prod.mk.eta, Option.some.injEq] at h'
      exact ⟨t, ht, f, T, hf, hk.2.symm, h'⟩
    next => exact h.list key p h'

/-! ### What one call does to the cache -/

/-- **What a call does to the cache.**  It removes entries, or caches the answer to itself on the
table it sees: a record under its key, or a page under its filter's key. -/
theorem Call.run_cache (s : State) (c : Call C) :
    (c.run repoList s).2.cache.Sub s.cache ∨
      (∃ T R r ok, RecordRepository.findByTableAndID (s.store.view c.ctx) T R = some r ∧
        (c.run repoList s).2.cache = s.cache.set (buildCacheKey "id" T R) (.record r) ok) ∨
      ∃ (f : RecordFilter C) (T : String) (ok : Bool), f.tableId = some T ∧
        (c.run repoList s).2.cache =
        s.cache.set (listCacheKey T f.limit f.offset)
          (.list (repoList (s.store.view c.ctx) f).1 (repoList (s.store.view c.ctx) f).2) ok := by
  cases c with
  | findByTableAndID ctx T R io =>
    simp only [Call.run, Call.ctx, CachedRecordRepository.findByTableAndID]
    split
    · exact .inl (Cache.Sub.refl _)
    · split
      next r hr => exact .inr (.inl ⟨T, R, r, io.setOk, hr, rfl⟩)
      next => exact .inl (Cache.Sub.refl _)
  | list ctx f io =>
    simp only [Call.run, Call.ctx, CachedRecordRepository.list]
    split
    · exact .inl (Cache.Sub.refl _)
    · next T hT =>
      split
      · exact .inl (Cache.Sub.refl _)
      · exact .inr (.inr ⟨f, T, io.setOk, hT, rfl⟩)
  | save ctx r e | deleteByTableAndID ctx T R e =>
    simp only [Call.run, CachedRecordRepository.save, CachedRecordRepository.deleteByTableAndID]
    split
    · exact .inl (Cache.Sub.refl _)
    · exact .inl (sub_invalidate _ _ _)
  | delete ctx id e =>
    simp only [Call.run, CachedRecordRepository.delete]
    split <;> exact .inl (Cache.Sub.refl _)
  | batchSave ctx rs e =>
    simp only [Call.run, CachedRecordRepository.batchSave]
    split
    · exact .inl (Cache.Sub.refl _)
    · exact .inl (sub_invalidateAll _ _)
  | batchDelete ctx ids e =>
    simp only [Call.run, CachedRecordRepository.batchDelete]
    split
    · exact .inl (Cache.Sub.refl _)
    · exact .inl (Cache.sub_foldl_invalidatePattern _ _ _)

/-- A call keeps `Past` once the table it sees is among the tables. -/
theorem Past.call {s : State} {H : List RecordTable} (h : Past repoList s.cache H) (c : Call C) :
    Past repoList (c.run repoList s).2.cache (s.store.view c.ctx :: H) := by
  have h' := h.mono (List.subset_cons_self (s.store.view c.ctx) H)
  rcases Call.run_cache s c with hs | ⟨T, R, r, ok, hr, he⟩ | ⟨f, T, ok, hf, he⟩
  · exact h'.sub hs
  · rw [he]
    exact h'.set_record (List.mem_cons_self _ _) hr ok
  · rw [he]
    exact h'.set_list (List.mem_cons_self _ _) hf ok

/-! ### Reads -/

theorem buildCacheKey_eq_iff {T R T' R' : String} :
    buildCacheKey "id" T R = buildCacheKey "id" T' R' ↔ T ++ ":" ++ R = T' ++ ":" ++ R' := by
  simp only [buildCacheKey, String.ext_iff, String.data_append, List.append_assoc,
    List.append_cancel_left_eq]

/-- `FindByTableAndID(T, R)` answers as the repository did, on one of the tables or on the table it
sees, for a table and an id that join into `T:R`. -/
theorem Past.findByTableAndID_fst {s : State} {H : List RecordTable} (h : Past repoList s.cache H)
    (ctx : Context) (T R : String) (io : CacheIO) :
    ∃ t ∈ s.store.view ctx :: H, ∃ T' R', T' ++ ":" ++ R' = T ++ ":" ++ R ∧
      (findByTableAndID s ctx T R io).1 = RecordRepository.findByTableAndID t T' R' := by
  unfold findByTableAndID
  dsimp only
  split
  next r hr =>
    obtain ⟨t, ht, T', R', hk, hr'⟩ := h.record _ r (Cache.bind_get_eq_some hr)
    exact ⟨t, List.mem_cons_of_mem _ ht, T', R', buildCacheKey_eq_iff.mp hk, hr'.symm⟩
  next =>
    refine ⟨_, List.mem_cons_self _ _, T, R, rfl, ?_⟩
    split <;> simp_all

/-- `List` with a named table answers as the wrapped `List` did, on one of the tables or on the
table it sees, for a filter with the same table, limit and offset. -/
theorem Past.list_fst {s : State} {H : List RecordTable} (h : Past repoList s.cache H)
    (ctx : Context) {f : RecordFilter C} {T : String} (hf : f.tableId = some T) (io : CacheIO) :
    ∃ t ∈ s.store.view ctx :: H, ∃ f' : RecordFilter C, f'.tableId = some T ∧
      f'.limit = f.limit ∧ f'.offset = f.offset ∧
        (CachedRecordRepository.list repoList s ctx f io).1 = some (repoList t f') := by
  unfold CachedRecordRepository.list
  simp only [hf]
  split
  next p hp =>
    obtain ⟨t, ht, f', T', hf', hk, hp'⟩ := h.list _ p (Cache.bind_get_eq_some hp)
    obtain ⟨rfl, hl, ho⟩ := listCacheKey_inj_right hk
    exact ⟨t, List.mem_cons_of_mem _ ht, f', hf', hl, ho, congrArg some hp'.symm⟩
  next => exact ⟨_, List.mem_cons_self _ _, f, hf, rfl, rfl, rfl⟩

/-! ### Runs -/

variable (repoList) in
/-- The tables the calls of a run see, each in the state it runs in. -/
def seen : State → List (Step C) → List RecordTable
  | _, [] => []
  | s, .call c :: steps => s.store.view c.ctx :: seen (step repoList s (.call c)) steps
  | s, st :: steps => seen (step repoList s st) steps

theorem past_run {s : State} {H : List RecordTable} (h : Past repoList s.cache H)
    (steps : List (Step C)) : Past repoList (run repoList s steps).cache (seen repoList s steps ++ H) := by
  induction steps generalizing s H with
  | nil => exact h
  | cons st steps ih =>
    cases st with
    | call c => exact (ih (h.call c)).mono fun t ht => by simpa [seen, or_left_comm] using ht
    | expire key => exact ih (h.sub (Cache.sub_delete _ _))
    | begin | commit | rollback => exact ih h

/-- **Every read answers as the repository once did.**  In every run from an empty cache, with any
calls in any contexts, any failures of the cache, any transactions and any wrapped `List`: a
`FindByTableAndID(T, R)` returns the repository's answer, on a table one of the run's calls saw or
on the table it sees, for a table and an id that join with `:` into the same text as `T` and `R`;
a `List` with a named table returns the wrapped `List`'s page, on such a table, for a filter with
the same table, limit and offset. -/
theorem run_reads_past (t : RecordTable) (steps : List (Step C)) (ctx : Context) (io : CacheIO) :
    (∀ T R, ∃ t' ∈ (run repoList (State.init t) steps).store.view ctx ::
        seen repoList (State.init t) steps, ∃ T' R', T' ++ ":" ++ R' = T ++ ":" ++ R ∧
      (findByTableAndID (run repoList (State.init t) steps) ctx T R io).1 =
        RecordRepository.findByTableAndID t' T' R') ∧
    ∀ (f : RecordFilter C) T, f.tableId = some T →
      ∃ t' ∈ (run repoList (State.init t) steps).store.view ctx ::
          seen repoList (State.init t) steps, ∃ f' : RecordFilter C, f'.tableId = some T ∧
        f'.limit = f.limit ∧ f'.offset = f.offset ∧
        (list repoList (run repoList (State.init t) steps) ctx f io).1 = some (repoList t' f') := by
  have h : Past repoList (run repoList (State.init t) steps).cache
      (seen repoList (State.init t) steps ++ []) := past_run (past_empty []) steps
  rw [List.append_nil] at h
  exact ⟨fun T R => h.findByTableAndID_fst ctx T R io, fun f T hf => h.list_fst ctx hf io⟩

end Past

end LuckDB.CachedRecordRepository
