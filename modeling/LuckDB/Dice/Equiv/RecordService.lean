import LuckDB.Dice.RecordService

/-!
# Round trips between records and table rows

For a field-to-column map `m` and its inverse `minv` (`IsInverse m minv`):

* `get?_transformRecordToTableData`: column `c` of `transformRecordToTableData r m` is the value
  of the field `minv c` when that value is defined, and otherwise the initial `{ id }` object's;
* `get?_transformTableDataToRecord`: field `f` of `transformTableDataToRecord t minv ex` is
  column `m f` of `t`, unless that column is excluded, absent, or `f` is the empty string;
* `transform_roundTrip`: with no column `"id"`, no empty field id, and no field or column id that
  names a member of `Object.prototype`, a record survives the round trip (restricted to `m`'s
  fields with a defined value) and keeps its `id`; a row with an `id` whose other columns are
  `m`'s survives the converse round trip, less its `undefined` columns.

Both folds write each key at most once, so the order in which JavaScript enumerates keys does not
matter: `Js.StrMap.get?_foldl_of_unique` reads a fold's result off its one write.
-/

namespace LuckDB.RecordService

variable {V : Type}

open Js

/-! ### Maps and their inverses -/

/-- `minv` is the inverse of `m`: `m f = c ↔ minv c = f`. -/
def IsInverse (m minv : JsMap) : Prop := ∀ f c, m.get? f = some c ↔ minv.get? c = some f

/-! ### `transformRecordToTableData` -/

theorem get?_recordToTableStep (fields data : Obj V) (e : String × String) (k : String) :
    (recordToTableStep fields data e).get? k
      = if k = e.2 ∧ (fields.get e.1).isSome then some (fields.get e.1) else data.get? k := by
  unfold recordToTableStep
  rcases hv : fields.get e.1 with _ | v
  · simp
  · by_cases hk : k = e.2 <;> simp [StrMap.get?_set, hk]

/-- The value of the initial `{ id: record.id }` at `c`. -/
theorem get?_initial (record : RecordResponse V) (c : String) :
    ((StrMap.empty : Obj V).set "id" (some record.id)).get? c
      = if c = "id" then some (some record.id) else none := by
  simp [StrMap.get?_set]

/-- **Column `c` of `transformRecordToTableData`**: the value of the field mapped to `c`, when
defined, else what `{ id: record.id }` holds at `c`. -/
theorem get?_transformRecordToTableData {m minv : JsMap} (hinv : IsInverse m minv)
    (record : RecordResponse V) (c : String) :
    (transformRecordToTableData record m).get? c
      = match minv.get? c with
        | some f => if (record.fieldValues.get f).isSome then some (record.fieldValues.get f)
            else if c = "id" then some (some record.id) else none
        | none => if c = "id" then some (some record.id) else none := by
  unfold transformRecordToTableData
  have hother : ∀ e ∈ m.entries, (e.2 ≠ c ∨ record.fieldValues.get e.1 = none) →
      ∀ o, (recordToTableStep record.fieldValues o e).get? c = o.get? c := by
    intro e _ he o
    rw [get?_recordToTableStep]
    rcases he with he | he
    · simp [he, Ne.symm he]
    · simp [he]
  -- the entry at column `c` is `(minv c, c)`
  have howner : ∀ e ∈ m.entries, e.2 = c → minv.get? c = some e.1 := fun e he hc =>
    hc ▸ (hinv e.1 e.2).mp ((m.mem_entries_iff e.1 e.2).mp he)
  rcases hf : minv.get? c with _ | f
  · exact (StrMap.get?_foldl_of_forall _ _ _ _ fun e he =>
      hother e he (.inl fun hc => by simp [howner e he hc] at hf)).trans (get?_initial _ _)
  · have hmem : (f, c) ∈ m.entries := (m.mem_entries_iff f c).mpr ((hinv f c).mpr hf)
    have hsame : ∀ e ∈ m.entries, e.2 = c → e = (f, c) := fun e he hc =>
      Prod.ext (Option.some.inj ((howner e he hc).symm.trans hf)) hc
    by_cases hdef : (record.fieldValues.get f).isSome
    · simp only [hdef, if_true]
      exact StrMap.get?_foldl_of_unique _ c m.nodup_entries hmem
        (fun o => by simp [get?_recordToTableStep, hdef])
        (fun e he hne => hother e he (.inl fun hc => hne (hsame e he hc))) _
    · simp only [hdef, if_false]
      refine (StrMap.get?_foldl_of_forall _ _ _ _ fun e he => hother e he ?_).trans
        (get?_initial _ _)
      by_cases hc : e.2 = c
      · exact .inr (by rw [hsame e he hc]; simpa using hdef)
      · exact .inl hc

/-! ### `transformTableDataToRecord` -/

theorem get?_tableToRecordStep (tableData : Obj V) (minv : JsMap) (ex : List String)
    (fields : Obj V) (c k : String) :
    (tableToRecordStep tableData minv ex fields c).get? k
      = if c ∉ ex ∧ minv.get? c = some k ∧ k ≠ "" then some (tableData.get c)
        else fields.get? k := by
  unfold tableToRecordStep
  by_cases hc : c ∈ ex
  · simp [hc]
  · rcases hf : minv.get? c with _ | f
    · simp [hc]
    · by_cases hf' : f = ""
      · subst hf'
        by_cases hk : k = ""
        · simp [hc, hk]
        · simp [hc, hk, Ne.symm hk]
      · by_cases hk : k = f
        · subst hk; simp [hc, hf', StrMap.get?_set, Obj.get]
        · simp [hc, hf', StrMap.get?_set, hk, Ne.symm hk]

/-- **Field `f` of `transformTableDataToRecord`**: column `m f` of the row, unless it is
excluded or absent, or `f` is the empty string. -/
theorem get?_transformTableDataToRecord {m minv : JsMap} (hinv : IsInverse m minv)
    (tableData : Obj V) (ex : List String) (f : String) :
    (transformTableDataToRecord tableData minv ex).get? f
      = match m.get? f with
        | some c => if c ∉ ex ∧ f ≠ "" ∧ c ∈ tableData.keys then some (tableData.get c) else none
        | none => none := by
  unfold transformTableDataToRecord
  have hother : ∀ c ∈ tableData.keys, (m.get? f ≠ some c ∨ c ∈ ex ∨ f = "") →
      ∀ o, (tableToRecordStep tableData minv ex o c).get? f = o.get? f := by
    intro c _ hc o
    rw [get?_tableToRecordStep, if_neg]
    rintro ⟨h₁, h₂, h₃⟩
    rcases hc with hc | hc | hc
    exacts [hc ((hinv f c).mpr h₂), h₁ hc, h₃ hc]
  rcases hc : m.get? f with _ | c
  · exact (StrMap.get?_foldl_of_forall _ _ _ _ fun c' hc' =>
      hother c' hc' (.inl (by simp [hc]))).trans (StrMap.get?_empty f)
  · by_cases h : c ∉ ex ∧ f ≠ "" ∧ c ∈ tableData.keys
    · simp only [h, not_false_eq_true, ne_eq, and_self, if_true]
      have hinv' : minv.get? c = some f := (hinv f c).mp hc
      exact StrMap.get?_foldl_of_unique _ f tableData.nodup_keys h.2.2
        (fun o => by simp [get?_tableToRecordStep, hinv', h.1, h.2.1])
        (fun c' hc' hne => hother c' hc'
          (.inl fun h' => hne (Option.some.inj (hc.symm.trans h')).symm)) _
    · simp only [h, if_false]
      refine (StrMap.get?_foldl_of_forall _ _ _ _ fun c' hc' => hother c' hc' ?_).trans
        (StrMap.get?_empty f)
      by_cases h' : c = c'
      · subst h'
        by_contra hn
        simp only [not_or, not_not] at hn
        exact h ⟨hn.2.1, hn.2.2, hc'⟩
      · exact .inl fun h'' => h' (Option.some.inj (hc.symm.trans h''))

/-! ### Round trips -/

theorem Obj.get?_eq_some {o : Obj V} {k : String} (h : (o.get k).isSome) :
    o.get? k = some (o.get k) := by
  unfold get at *
  rcases hl : o.get? k with _ | x
  · simp [hl] at h
  · rfl

theorem Obj.get_eq_none_of_not_mem {o : Obj V} {k : String} (h : k ∉ o.keys) : o.get k = none := by
  rw [StrMap.mem_keys_iff, Option.not_isSome_iff_eq_none] at h
  simp [get, h]

/-- A record's fields survive `transformRecordToTableData` then `transformTableDataToRecord`,
restricted to `m`'s fields with a defined value. -/
theorem get?_transformTableDataToRecord_transformRecordToTableData {m minv : JsMap}
    (hinv : IsInverse m minv) (hid : ∀ f, m.get? f ≠ some "id")
    (hne : ∀ f c, m.get? f = some c → f ≠ "") (record : RecordResponse V) (f : String) :
    (transformTableDataToRecord (transformRecordToTableData record m) minv
        defaultExcludeFields).get? f
      = if (m.get? f).isSome then (record.fieldValues.get f).map some else none := by
  rw [get?_transformTableDataToRecord hinv]
  rcases hc : m.get? f with _ | c
  · rfl
  · have hcid : c ≠ "id" := fun h => hid f (h ▸ hc)
    have hcol := get?_transformRecordToTableData hinv record c
    simp only [(hinv f c).mp hc, hcid, if_false] at hcol
    rcases hv : record.fieldValues.get f with _ | x <;>
      simp only [hv, Option.isSome_none, Option.isSome_some, if_true, if_false] at hcol <;>
      simp [defaultExcludeFields, hcid, hne f c hc, StrMap.mem_keys_iff, Obj.get, hcol]

theorem get?_transformRecordToTableData_id {m minv : JsMap} (hinv : IsInverse m minv)
    (hid : ∀ f, m.get? f ≠ some "id") (record : RecordResponse V) :
    (transformRecordToTableData record m).get? "id" = some (some record.id) := by
  rw [get?_transformRecordToTableData hinv]
  rcases hf : minv.get? "id" with _ | f
  · rfl
  · exact absurd ((hinv f "id").mpr hf) (hid f)

/-- A row with an `id` whose other columns are `m`'s survives `transformTableDataToRecord` then
`transformRecordToTableData`, less its `undefined` columns. -/
theorem get?_transformRecordToTableData_transformTableDataToRecord {m minv : JsMap}
    (hinv : IsInverse m minv) (hne : ∀ f c, m.get? f = some c → f ≠ "") (row : Obj V) (v : V)
    (hrow : row.get? "id" = some (some v))
    (hcols : ∀ c ∈ row.keys, c ≠ "id" → ∃ f, m.get? f = some c) (c : String) :
    (transformRecordToTableData
        ⟨v, some (transformTableDataToRecord row minv defaultExcludeFields), none⟩ m).get? c
      = if (row.get c).isSome then row.get? c else none := by
  have hid : row.get "id" = some v := by simp [Obj.get, hrow]
  rw [get?_transformRecordToTableData hinv]
  rcases hf : minv.get? c with _ | f
  · by_cases hc : c = "id"
    · subst hc; simp [hid, hrow]
    · have hmem : c ∉ row.keys := fun hmem => by
        obtain ⟨f, hf'⟩ := hcols c hmem hc
        rw [(hinv f c).mp hf'] at hf; cases hf
      simp [hc, Obj.get_eq_none_of_not_mem hmem]
  · have hfc := (hinv f c).mpr hf
    -- the field mapped to `c` holds column `c`, except for the excluded `"id"`
    have hget : (transformTableDataToRecord row minv defaultExcludeFields).get f
        = if c = "id" then none else row.get c := by
      have hfield := get?_transformTableDataToRecord hinv row defaultExcludeFields f
      simp only [hfc] at hfield
      show (StrMap.get? _ f).join = _
      rw [hfield]
      simp only [defaultExcludeFields, List.mem_singleton]
      by_cases hc : c = "id"
      · simp [hc]
      · by_cases hmem : c ∈ row.keys
        · simp [hc, hne f c hfc, hmem]
        · simp [hc, hmem, Obj.get_eq_none_of_not_mem hmem]
    simp only [RecordResponse.fieldValues, Option.getD_some, hget]
    by_cases hc : c = "id"
    · subst hc; simp [hid, hrow]
    · rcases hv : row.get c with _ | x
      · simp [hc]
      · have hsome : (row.get c).isSome := by simp [hv]
        simp [hc, Obj.get?_eq_some hsome, hv]

/-- **Round trips between records and rows.**  For a field-to-column map `m` with inverse `minv`,
no column `"id"` and no empty field id: a record's fields survive the round trip, restricted to
`m`'s fields with a defined value, and its `id` is kept; a row with an `id` whose other columns
are `m`'s survives the converse round trip, less its `undefined` columns.  No field or column id
names a member of `Object.prototype`, for which `Obj` is not the JavaScript object. -/
theorem transform_roundTrip {m minv : JsMap} (hinv : IsInverse m minv)
    (hne : ∀ f c, m.get? f = some c → f ≠ "")
    (_hproto : ∀ f c, m.get? f = some c → f ∉ objectPrototypeNames ∧ c ∉ objectPrototypeNames) :
    (∀ record : RecordResponse V, (∀ f, m.get? f ≠ some "id") →
      (∀ f, (transformTableDataToRecord (transformRecordToTableData record m) minv
          defaultExcludeFields).get? f
          = if (m.get? f).isSome then (record.fieldValues.get f).map some else none) ∧
        (transformRecordToTableData record m).get? "id" = some (some record.id)) ∧
    (∀ (row : Obj V) (v : V), row.get? "id" = some (some v) →
      (∀ c ∈ row.keys, c ≠ "id" → ∃ f, m.get? f = some c) →
      ∀ c, (transformRecordToTableData
          ⟨v, some (transformTableDataToRecord row minv defaultExcludeFields), none⟩ m).get? c
        = if (row.get c).isSome then row.get? c else none) :=
  ⟨fun record hid => ⟨get?_transformTableDataToRecord_transformRecordToTableData hinv hid hne record,
      get?_transformRecordToTableData_id hinv hid record⟩,
    fun row v hrow hcols => get?_transformRecordToTableData_transformTableDataToRecord hinv hne row v
      hrow hcols⟩

/-- `new Map([[k, v]])`. -/
def JsMap.singleton (k v : String) : JsMap := ⟨[(k, v)], List.nodup_singleton _⟩

theorem JsMap.get?_singleton (k v k' : String) :
    (JsMap.singleton k v).get? k' = if k' = k then some v else none := by
  by_cases h : k' = k
  · subst h; simp [JsMap.singleton, StrMap.get?]
  · simp [JsMap.singleton, StrMap.get?, StrMap.lookup_cons_ne h, h]

theorem isInverse_singleton (f c : String) :
    IsInverse (JsMap.singleton f c) (JsMap.singleton c f) := by
  intro f' c'
  simp only [JsMap.get?_singleton]
  by_cases hf : f' = f <;> by_cases hc : c' = c
  · simp [hf, hc]
  · simpa [hf, hc] using fun h : c = c' => hc h.symm
  · simpa [hf, hc] using fun h : f = f' => hf h.symm
  · simp [hf, hc]

theorem transform_roundTrip_singleton :
    IsInverse (JsMap.singleton "fld" "col") (JsMap.singleton "col" "fld") ∧
      (∀ f c, (JsMap.singleton "fld" "col").get? f = some c → f ≠ "") ∧
      (∀ f c, (JsMap.singleton "fld" "col").get? f = some c →
        f ∉ objectPrototypeNames ∧ c ∉ objectPrototypeNames) ∧
      (∀ record : RecordResponse Nat, (∀ f, (JsMap.singleton "fld" "col").get? f ≠ some "id") →
        (∀ f, (transformTableDataToRecord (transformRecordToTableData record
            (JsMap.singleton "fld" "col")) (JsMap.singleton "col" "fld") defaultExcludeFields).get? f
          = if ((JsMap.singleton "fld" "col").get? f).isSome then (record.fieldValues.get f).map some
            else none) ∧
        (transformRecordToTableData record (JsMap.singleton "fld" "col")).get? "id"
          = some (some record.id)) ∧
      (∀ (row : Obj Nat) (v : Nat), row.get? "id" = some (some v) →
        (∀ c ∈ row.keys, c ≠ "id" → ∃ f, (JsMap.singleton "fld" "col").get? f = some c) →
        ∀ c, (transformRecordToTableData ⟨v, some (transformTableDataToRecord row
            (JsMap.singleton "col" "fld") defaultExcludeFields), none⟩
            (JsMap.singleton "fld" "col")).get? c
          = if (row.get c).isSome then row.get? c else none) :=
  have hne : ∀ f c, (JsMap.singleton "fld" "col").get? f = some c → f ≠ "" := fun f c h hf => by
    subst hf; simp [JsMap.get?_singleton] at h
  have hproto : ∀ f c, (JsMap.singleton "fld" "col").get? f = some c →
      f ∉ objectPrototypeNames ∧ c ∉ objectPrototypeNames := fun f c h => by
    obtain ⟨rfl, rfl⟩ : f = "fld" ∧ "col" = c := by simpa [JsMap.get?_singleton] using h
    decide
  ⟨isInverse_singleton _ _, hne, hproto,
    transform_roundTrip (isInverse_singleton "fld" "col") hne hproto⟩

/-- A field mapped to the column `"id"` overwrites the record's `id`, and the round trip loses
it. -/
theorem transformRecordToTableData_id_column :
    let record : RecordResponse Nat := ⟨1, some ⟨[("fld", some 2)], by decide⟩, none⟩
    (transformRecordToTableData record (JsMap.singleton "fld" "id")).get? "id" = some (some 2) ∧
      (transformTableDataToRecord (transformRecordToTableData record (JsMap.singleton "fld" "id"))
        (JsMap.singleton "id" "fld") defaultExcludeFields).get? "fld" = none := by
  decide

end LuckDB.RecordService
