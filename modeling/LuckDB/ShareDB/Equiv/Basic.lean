import LuckDB.ShareDB.Service
import LuckDB.Run

/-!
# What each step of `ShareDBService` changes

One lemma per operation says which fields it touches (`subscribeRecord_eq_ok`, `settle_eq`,
`unsubscribeRecord_of_some`, …), and `getDocument_eq` says what the primitive returns.  On top of them,
`WellFormed` is the coherence of the registry's references with the handles: one live handle per
`(collection, id)`, a stored handle belongs to its record, and a suspended call's handle is live,
of its record and of the current collection.  `wellFormed_step` shows every step keeps it, as long
as no call that tears a suspended call's record down, or changes or clears the table id, runs while
that call is suspended (`Step.Concurrent`), and `wellFormed_run` extends it to every such run.
-/

namespace LuckDB.ShareDB

open Js

variable {J : Type}

/-! ### Handles -/

theorem getElem?_modifyDoc (s : State J) (h : Nat) (f : Doc J → Doc J) (k : Nat) :
    (s.modifyDoc h f).docs[k]? = if h = k then s.docs[k]?.map f else s.docs[k]? := by
  simp only [State.modifyDoc, List.getElem?_modify]
  split <;> cases s.docs[k]? <;> simp_all

/-- The live handle of `(collection, id)` and the new handle `getDocument` makes when there is
none. -/
def Doc.IsLive (d : Doc J) (collection id : String) : Prop :=
  d.collection = collection ∧ d.recordId = id ∧ d.destroyed = false

/-- `getDocument` returns the first live handle of `(collection, id)`, or makes one at the end. -/
theorem getDocument_eq (s : State J) (col r : String) :
    (∃ h d, s.docs[h]? = some d ∧ d.IsLive col r ∧
        (∀ k d', k < h → s.docs[k]? = some d' → ¬ d'.IsLive col r) ∧ getDocument s col r = (h, s)) ∨
      ((∀ d ∈ s.docs, ¬ d.IsLive col r) ∧
        getDocument s col r = (s.docs.length, { s with docs := s.docs ++ [⟨col, r, none, [], false⟩] })) := by
  unfold getDocument
  split
  case h_1 h hfind =>
    obtain ⟨hlt, hp, hfirst⟩ := List.findIdx?_eq_some_iff_getElem.mp hfind
    refine .inl ⟨h, _, List.getElem?_eq_getElem hlt, by simpa [Doc.IsLive] using hp,
      fun k d' hk hd' hlive => hfirst k hk ?_, rfl⟩
    obtain ⟨hk', rfl⟩ := List.getElem?_eq_some_iff.mp hd'
    simpa [Doc.IsLive] using hlive
  case h_2 hfind =>
    refine .inr ⟨fun d hd hlive => ?_, rfl⟩
    have := List.findIdx?_eq_none_iff.mp hfind d hd
    simp [hlive.1, hlive.2.1, hlive.2.2] at this

/-- At most one live handle per `(collection, id)`: what `getDocument` keeps. -/
def UniqueLive (docs : List (Doc J)) : Prop :=
  ∀ (h₁ h₂ : Nat) (d₁ d₂ : Doc J), docs[h₁]? = some d₁ → docs[h₂]? = some d₂ → d₁.destroyed = false →
    d₂.destroyed = false → d₁.collection = d₂.collection → d₁.recordId = d₂.recordId → h₁ = h₂

theorem UniqueLive.getDocument {s : State J} (hu : UniqueLive s.docs) (col r : String) :
    UniqueLive (getDocument s col r).2.docs := by
  unfold UniqueLive at *
  rcases getDocument_eq s col r with ⟨h, d, -, -, -, heq⟩ | ⟨hnone, heq⟩
  · rwa [heq]
  · rw [heq]
    intro h₁ h₂ d₁ d₂ hd₁ hd₂ hl₁ hl₂ hc hr
    -- an old handle and the new one cannot both be live for `(col, r)`
    have old : ∀ k d', (s.docs ++ [⟨col, r, none, [], false⟩])[k]? = some d' →
        s.docs[k]? = some d' ∨ (k = s.docs.length ∧ d' = ⟨col, r, none, [], false⟩) := by
      intro k d' hk
      rcases Nat.lt_or_ge k s.docs.length with hlt | hge
      · exact .inl (by rwa [List.getElem?_append_left hlt] at hk)
      · rw [List.getElem?_append_right hge] at hk
        obtain ⟨hk', rfl⟩ := List.getElem?_eq_some_iff.mp hk
        simp only [List.length_singleton] at hk'
        exact .inr ⟨by omega, by simp⟩
    rcases old h₁ d₁ hd₁ with hd₁ | ⟨rfl, rfl⟩ <;> rcases old h₂ d₂ hd₂ with hd₂ | ⟨rfl, rfl⟩
    · exact hu h₁ h₂ d₁ d₂ hd₁ hd₂ hl₁ hl₂ hc hr
    · exact absurd ⟨hc, hr, hl₁⟩ (hnone d₁ (List.getElem?_mem hd₁))
    · exact absurd ⟨hc.symm, hr.symm, hl₂⟩ (hnone d₂ (List.getElem?_mem hd₂))
    · rfl

/-- A change to one handle that keeps its collection and record and does not revive it keeps
`UniqueLive`. -/
theorem UniqueLive.modifyDoc {s : State J} (hu : UniqueLive s.docs) (h : Nat) (f : Doc J → Doc J)
    (hf : ∀ d, (f d).collection = d.collection ∧ (f d).recordId = d.recordId ∧
      ((f d).destroyed = false → d.destroyed = false)) :
    UniqueLive (s.modifyDoc h f).docs := by
  unfold UniqueLive at *
  have back : ∀ (k : Nat) (d' : Doc J), (s.modifyDoc h f).docs[k]? = some d' → ∃ d : Doc J, s.docs[k]? = some d ∧
      d.collection = d'.collection ∧ d.recordId = d'.recordId ∧ (d'.destroyed = false → d.destroyed = false) := by
    intro k d' hk
    rw [getElem?_modifyDoc] at hk
    split at hk
    · obtain ⟨d, hd, rfl⟩ := Option.map_eq_some'.mp hk
      exact ⟨d, hd, (hf d).1.symm, (hf d).2.1.symm, (hf d).2.2⟩
    · exact ⟨d', hk, rfl, rfl, id⟩
  intro h₁ h₂ d₁ d₂ hd₁ hd₂ hl₁ hl₂ hc hr
  obtain ⟨e₁, he₁, hc₁, hr₁, hl₁'⟩ := back h₁ d₁ hd₁
  obtain ⟨e₂, he₂, hc₂, hr₂, hl₂'⟩ := back h₂ d₂ hd₂
  exact hu h₁ h₂ e₁ e₂ he₁ he₂ (hl₁' hl₁) (hl₂' hl₂) (by rw [hc₁, hc₂, hc]) (by rw [hr₁, hr₂, hr])

/-! ### The operations, field by field -/

/-- `getDocument` changes nothing but the handles. -/
theorem getDocument_snd (s : State J) (col r : String) :
    (getDocument s col r).2 = { s with docs := (getDocument s col r).2.docs } := by
  unfold getDocument; split <;> rfl

/-- The successful synchronous part of `subscribeRecord`. -/
theorem subscribeRecord_eq_ok {s s' : State J} {r : String} {l : Nat} {ok : Bool}
    (h : subscribeRecord s r l ok = .ok s') :
    s.connected = true ∧ ∃ col, getCollectionName s.tableId = .ok col ∧
      s' = { s with
        eventHandlers := addListener s.eventHandlers r l
        docs := (getDocument s col r).2.docs.modify
          (fun d => { d with handlers := d.handlers ++ subscriptionHandlers l }) (getDocument s col r).1
        suspended := s.suspended ++ [⟨r, l, (getDocument s col r).1, ok⟩] } := by
  unfold subscribeRecord at h
  split at h
  · cases h
  · rcases hc : getCollectionName s.tableId with e | col <;> rw [hc] at h
    · cases h
    · refine ⟨by simpa using ‹¬s.connected = false›, col, rfl, ?_⟩
      cases h
      rw [getDocument_snd]
      rfl

/-- The synchronous part of `subscribeRecord` throws exactly on the two checks. -/
theorem subscribeRecord_eq_error {s : State J} {r : String} {l : Nat} {ok : Bool} {e : String}
    (h : subscribeRecord s r l ok = .error e) :
    (s.connected = false ∧ e = notConnectedError) ∨
      (s.connected = true ∧ getCollectionName s.tableId = .error e) := by
  unfold subscribeRecord at h
  split at h
  · cases h; exact .inl ⟨‹_›, rfl⟩
  · rcases hc : getCollectionName s.tableId with e' | col <;> rw [hc] at h
    · cases h; exact .inr ⟨by simpa using ‹¬s.connected = false›, rfl⟩
    · cases h

@[simp] theorem resume_subscribedDocs (s : State J) (c : Suspended) :
    (resume s c).subscribedDocs = s.subscribedDocs.set c.recordId c.doc := by
  simp only [resume]; split <;> rfl

/-- `resume` stores the handle and may call the listener, nothing else. -/
theorem resume_eq (s : State J) (c : Suspended) :
    ∃ out, resume s c = { s with
      subscribedDocs := s.subscribedDocs.set c.recordId c.doc
      delivered := s.delivered ++ out } := by
  simp only [resume]
  split
  · exact ⟨_, rfl⟩
  · exact ⟨[], by simp⟩

/-- An element of a list is the one at index `i`, or is still there once it is erased. -/
theorem mem_eraseIdx_or {α : Type} {l : List α} {i : Nat} {a x : α} (hi : l[i]? = some a)
    (hx : x ∈ l) : x = a ∨ x ∈ l.eraseIdx i := by
  obtain ⟨j, hj⟩ := List.mem_iff_getElem?.mp hx
  by_cases hji : j = i
  · subst hji; rw [hi, Option.some.injEq] at hj; exact .inl hj.symm
  · exact .inr (List.mem_eraseIdx_iff_getElem?.mpr ⟨j, hji, hj⟩)

/-- `settle` of a suspended call removes it and, if it resolves, runs the rest of it. -/
theorem settle_of_some {s : State J} {i : Nat} {c : Suspended} (hi : s.suspended[i]? = some c) :
    ∃ out, settle s i = { s with
      suspended := s.suspended.eraseIdx i
      subscribedDocs := if c.resolves then s.subscribedDocs.set c.recordId c.doc else s.subscribedDocs
      delivered := s.delivered ++ out } := by
  simp only [settle, hi]
  split
  · obtain ⟨out, hr⟩ := resume_eq { s with suspended := s.suspended.eraseIdx i } c
    exact ⟨out, by rw [hr]⟩
  · exact ⟨[], by simp [*]⟩

theorem settle_eq (s : State J) (i : Nat) :
    settle s i = match s.suspended[i]? with
      | none => s
      | some c => if c.resolves then resume { s with suspended := s.suspended.eraseIdx i } c
          else { s with suspended := s.suspended.eraseIdx i } := rfl

/-- `unsubscribeRecord` of a record with no stored handle only forgets its listeners. -/
theorem unsubscribeRecord_of_none {s : State J} {r : String} (h : s.subscribedDocs.get? r = none) :
    unsubscribeRecord s r = { s with eventHandlers := s.eventHandlers.delete r } := by
  simp [unsubscribeRecord, h]

/-- `unsubscribeRecord` of a record stored with handle `h` destroys `h` and forgets the record. -/
theorem unsubscribeRecord_of_some {s : State J} {r : String} {h : Nat}
    (hr : s.subscribedDocs.get? r = some h) :
    unsubscribeRecord s r = { s.modifyDoc h (fun d => { d with destroyed := true }) with
      subscribedDocs := s.subscribedDocs.delete r, eventHandlers := s.eventHandlers.delete r } := by
  simp [unsubscribeRecord, hr, State.modifyDoc]

@[simp] theorem unsubscribeRecord_suspended (s : State J) (r : String) :
    (unsubscribeRecord s r).suspended = s.suspended := by
  unfold unsubscribeRecord; split <;> rfl

@[simp] theorem unsubscribeRecord_tableId (s : State J) (r : String) :
    (unsubscribeRecord s r).tableId = s.tableId := by
  unfold unsubscribeRecord; split <;> rfl

@[simp] theorem unsubscribeRecord_connected (s : State J) (r : String) :
    (unsubscribeRecord s r).connected = s.connected := by
  unfold unsubscribeRecord; split <;> rfl

theorem unsubscribeRecord_subscribedDocs_get? (s : State J) (r r' : String) :
    (unsubscribeRecord s r).subscribedDocs.get? r' = if r' = r then none else s.subscribedDocs.get? r' := by
  rcases hr : s.subscribedDocs.get? r with _ | h
  · rw [unsubscribeRecord_of_none hr]
    split <;> simp_all
  · rw [unsubscribeRecord_of_some hr]
    exact StrMap.get?_delete _ _ _

@[simp] theorem unsubscribeRecord_eventHandlers (s : State J) (r : String) :
    (unsubscribeRecord s r).eventHandlers = s.eventHandlers.delete r := by
  unfold unsubscribeRecord; split <;> rfl

@[simp] theorem unsubscribeRecords_nil (s : State J) : unsubscribeRecords s [] = s := rfl

@[simp] theorem unsubscribeRecords_cons (s : State J) (r : String) (rs : List String) :
    unsubscribeRecords s (r :: rs) = unsubscribeRecords (unsubscribeRecord s r) rs := rfl

@[simp] theorem unsubscribeRecords_suspended (s : State J) (rs : List String) :
    (unsubscribeRecords s rs).suspended = s.suspended := by
  induction rs generalizing s <;> simp [*]

@[simp] theorem unsubscribeRecords_tableId (s : State J) (rs : List String) :
    (unsubscribeRecords s rs).tableId = s.tableId := by
  induction rs generalizing s <;> simp [*]

@[simp] theorem unsubscribeRecords_connected (s : State J) (rs : List String) :
    (unsubscribeRecords s rs).connected = s.connected := by
  induction rs generalizing s <;> simp [*]

theorem unsubscribeRecords_eventHandlers_get? (s : State J) (rs : List String) (r' : String) :
    (unsubscribeRecords s rs).eventHandlers.get? r'
      = if r' ∈ rs then none else s.eventHandlers.get? r' := by
  induction rs generalizing s with
  | nil => simp
  | cons r rs ih =>
    rw [unsubscribeRecords_cons, ih, unsubscribeRecord_eventHandlers, StrMap.get?_delete]
    by_cases h₁ : r' ∈ rs <;> by_cases h₂ : r' = r <;> simp [h₁, h₂]

theorem unsubscribeRecords_subscribedDocs_get? (s : State J) (rs : List String) (r' : String) :
    (unsubscribeRecords s rs).subscribedDocs.get? r'
      = if r' ∈ rs then none else s.subscribedDocs.get? r' := by
  induction rs generalizing s with
  | nil => simp
  | cons r rs ih =>
    rw [unsubscribeRecords_cons, ih, unsubscribeRecord_subscribedDocs_get?]
    by_cases h₁ : r' ∈ rs <;> by_cases h₂ : r' = r <;> simp [h₁, h₂]

/-- `unsubscribeAll` empties `subscribedDocs`. -/
theorem unsubscribeAll_subscribedDocs_get? (s : State J) (r : String) :
    (unsubscribeAll s).subscribedDocs.get? r = none := by
  rw [unsubscribeAll, unsubscribeRecords_subscribedDocs_get?]
  split
  · rfl
  · rename_i h
    rw [StrMap.mem_keys_iff, Option.not_isSome_iff_eq_none] at h
    exact h

/-- A successful `submitFieldUpdate` only hands operations to `doc.submitOp`. -/
theorem submitFieldUpdate_eq_ok {s s' : State J} {r f : String} {new old : JsValue J}
    (h : submitFieldUpdate s r f new old = .ok s') : ∃ out, s' = { s with submitted := s.submitted ++ out } := by
  unfold submitFieldUpdate at h
  split at h
  · cases h
  · cases h
    split
    · exact ⟨[], by simp⟩
    · exact ⟨_, rfl⟩

theorem emit_eq (s : State J) (h : Nat) (kind : HandlerKind) (e : DocEvent J) :
    ∃ out, emit s h kind e = { s with delivered := s.delivered ++ out } := by
  unfold emit
  split
  · split
    · exact ⟨[], by simp⟩
    · exact ⟨_, rfl⟩
  · exact ⟨[], by simp⟩

/-! ### Well-formed registries -/

/-- What identifies a handle: its collection, its record, and whether it is destroyed. -/
def Doc.key (d : Doc J) : String × String × Bool := (d.collection, d.recordId, d.destroyed)

theorem Doc.IsLive.of_key {d d' : Doc J} (hk : d'.key = d.key) {col r : String} (hl : d.IsLive col r) :
    d'.IsLive col r := by
  simp only [Doc.key, Prod.mk.injEq] at hk
  simpa only [Doc.IsLive, hk] using hl

/-- Handle `h` of `ds` is the live handle of record `r` in `col`. -/
def LiveIn (ds : List (Doc J)) (h : Nat) (col r : String) : Prop :=
  ∃ d, ds[h]? = some d ∧ d.IsLive col r

/-- `ds'` keeps every handle of `ds` with its key: it may add handles and change their data and
handlers, nothing else. -/
def KeysKept (ds ds' : List (Doc J)) : Prop :=
  ∀ (h : Nat) (d : Doc J), ds[h]? = some d → ∃ d' : Doc J, ds'[h]? = some d' ∧ d'.key = d.key

theorem keysKept_refl (ds : List (Doc J)) : KeysKept ds ds := by
  intro h d hd
  exact ⟨d, hd, rfl⟩

theorem KeysKept.trans {ds₁ ds₂ ds₃ : List (Doc J)} (h₁ : KeysKept ds₁ ds₂) (h₂ : KeysKept ds₂ ds₃) :
    KeysKept ds₁ ds₃ := by
  intro h d hd
  obtain ⟨d₂, hd₂, hk₂⟩ := h₁ h d hd
  obtain ⟨d₃, hd₃, hk₃⟩ := h₂ h d₂ hd₂
  exact ⟨d₃, hd₃, hk₃.trans hk₂⟩

theorem LiveIn.kept {ds ds' : List (Doc J)} (hk : KeysKept ds ds') {h : Nat} {col r : String}
    (hl : LiveIn ds h col r) : LiveIn ds' h col r := by
  obtain ⟨d, hd, hlive⟩ := hl
  obtain ⟨d', hd', hkey⟩ := hk h d hd
  exact ⟨d', hd', hlive.of_key hkey⟩

/-- Two live handles of one record in one collection are one handle. -/
theorem UniqueLive.eq {ds : List (Doc J)} (hu : UniqueLive ds) {h₁ h₂ : Nat} {col r : String}
    (hl₁ : LiveIn ds h₁ col r) (hl₂ : LiveIn ds h₂ col r) : h₁ = h₂ := by
  obtain ⟨d₁, hd₁, hc₁, hr₁, hx₁⟩ := hl₁
  obtain ⟨d₂, hd₂, hc₂, hr₂, hx₂⟩ := hl₂
  exact hu h₁ h₂ d₁ d₂ hd₁ hd₂ hx₁ hx₂ (hc₁.trans hc₂.symm) (hr₁.trans hr₂.symm)

/-- Handles of different records are different handles. -/
theorem LiveIn.ne {ds : List (Doc J)} {h₁ h₂ : Nat} {col₁ col₂ r₁ r₂ : String}
    (hl₁ : LiveIn ds h₁ col₁ r₁) (hl₂ : LiveIn ds h₂ col₂ r₂) (hr : r₁ ≠ r₂) : h₁ ≠ h₂ := by
  rintro rfl
  obtain ⟨d₁, hd₁, -, hr₁, -⟩ := hl₁
  obtain ⟨d₂, hd₂, -, hr₂, -⟩ := hl₂
  rw [hd₁, Option.some.injEq] at hd₂
  exact hr (hr₁.symm.trans (hd₂ ▸ hr₂))

theorem keysKept_modifyDoc (s : State J) (h : Nat) (f : Doc J → Doc J) (hf : ∀ d, (f d).key = d.key) :
    KeysKept s.docs (s.modifyDoc h f).docs := by
  intro k d hd
  rw [getElem?_modifyDoc, hd]
  split
  · exact ⟨f d, rfl, hf d⟩
  · exact ⟨d, rfl, rfl⟩

theorem LiveIn.modifyDoc_ne {s : State J} {h₀ h : Nat} {col r : String} (hl : LiveIn s.docs h col r)
    (hne : h₀ ≠ h) (f : Doc J → Doc J) : LiveIn (s.modifyDoc h₀ f).docs h col r := by
  rwa [LiveIn, getElem?_modifyDoc, if_neg hne]

theorem keysKept_getDocument (s : State J) (col r : String) :
    KeysKept s.docs (getDocument s col r).2.docs := by
  intro h d hd
  refine ⟨d, ?_, rfl⟩
  rcases getDocument_eq s col r with ⟨_, _, _, _, _, heq⟩ | ⟨_, heq⟩ <;> rw [heq]
  · exact hd
  · rw [List.getElem?_append_left (List.getElem?_eq_some_iff.mp hd).1, hd]

/-- The handle `getDocument` returns is live, of the record and the collection asked for. -/
theorem getDocument_liveIn (s : State J) (col r : String) :
    LiveIn (getDocument s col r).2.docs (getDocument s col r).1 col r := by
  rcases getDocument_eq s col r with ⟨h, d, hd, hlive, -, heq⟩ | ⟨-, heq⟩ <;> rw [heq]
  · exact ⟨d, hd, hlive⟩
  · exact ⟨⟨col, r, none, [], false⟩, by simp, rfl, rfl, rfl⟩

/-- **The registry agrees with the handles.**  One live handle per `(collection, id)`; a stored
handle is live and belongs to its record; a suspended call's handle is live, belongs to its record,
and is in the collection of the current table id. -/
structure WellFormed (s : State J) : Prop where
  unique : UniqueLive s.docs
  stored : ∀ r h, s.subscribedDocs.get? r = some h → ∃ col, LiveIn s.docs h col r
  suspended : ∀ c ∈ s.suspended, ∃ col, getCollectionName s.tableId = .ok col ∧
    LiveIn s.docs c.doc col c.recordId

theorem WellFormed.init (connected : Bool) : WellFormed (State.init connected : State J) :=
  ⟨fun _ _ _ _ h => by simp [State.init] at h, fun _ _ h => by simp [State.init] at h,
    fun _ h => by simp [State.init] at h⟩

/-- Suspended calls of one record wait on one handle. -/
theorem WellFormed.suspended_doc_eq {s : State J} (hw : WellFormed s) {c₁ c₂ : Suspended}
    (h₁ : c₁ ∈ s.suspended) (h₂ : c₂ ∈ s.suspended) (hr : c₁.recordId = c₂.recordId) :
    c₁.doc = c₂.doc := by
  obtain ⟨col₁, hcol₁, hl₁⟩ := hw.suspended c₁ h₁
  obtain ⟨col₂, hcol₂, hl₂⟩ := hw.suspended c₂ h₂
  rw [hcol₁, Except.ok.injEq] at hcol₂
  exact hw.unique.eq hl₁ (hr ▸ hcol₂ ▸ hl₂)

/-- A step that keeps the handles' keys and touches neither the stored handles, the suspended
calls nor the table id keeps `WellFormed`. -/
theorem WellFormed.of_keysKept {s t : State J} (hw : WellFormed s) (hu : UniqueLive t.docs)
    (hk : KeysKept s.docs t.docs) (hd : t.subscribedDocs = s.subscribedDocs)
    (hs : t.suspended = s.suspended) (ht : t.tableId = s.tableId) : WellFormed t where
  unique := hu
  stored r h hr := by
    obtain ⟨col, hl⟩ := hw.stored r h (hd ▸ hr)
    exact ⟨col, hl.kept hk⟩
  suspended c hc := by
    obtain ⟨col, hcol, hl⟩ := hw.suspended c (hs ▸ hc)
    exact ⟨col, ht ▸ hcol, hl.kept hk⟩

/-! ### Each step keeps `WellFormed` -/

theorem keysKept_subscribeRecord {s s' : State J} {r : String} {l : Nat} {ok : Bool}
    (h : subscribeRecord s r l ok = .ok s') : KeysKept s.docs s'.docs := by
  obtain ⟨-, col, -, rfl⟩ := subscribeRecord_eq_ok h
  exact (keysKept_getDocument s col r).trans (keysKept_modifyDoc _ _ _ fun _ => rfl)

theorem wellFormed_subscribeRecord {s s' : State J} (hw : WellFormed s) {r : String} {l : Nat}
    {ok : Bool} (h : subscribeRecord s r l ok = .ok s') : WellFormed s' := by
  have hk := keysKept_subscribeRecord h
  obtain ⟨-, col, hcol, rfl⟩ := subscribeRecord_eq_ok h
  refine ⟨(hw.unique.getDocument col r).modifyDoc _ _ fun _ => ⟨rfl, rfl, id⟩, fun r' h hr => ?_,
    fun c hc => ?_⟩
  · obtain ⟨col', hl⟩ := hw.stored r' h hr
    exact ⟨col', hl.kept hk⟩
  rcases List.mem_append.mp hc with hc | hc
  · obtain ⟨col', hcol', hl⟩ := hw.suspended c hc
    exact ⟨col', hcol', hl.kept hk⟩
  · rw [List.mem_singleton.mp hc]
    exact ⟨col, hcol, (getDocument_liveIn s col r).kept (keysKept_modifyDoc _ _
      (fun d => { d with handlers := d.handlers ++ subscriptionHandlers l }) fun _ => rfl)⟩

theorem wellFormed_resume {s : State J} (hw : WellFormed s) {c : Suspended}
    (hc : ∃ col, LiveIn s.docs c.doc col c.recordId) : WellFormed (resume s c) := by
  obtain ⟨out, heq⟩ := resume_eq s c
  rw [heq]
  refine ⟨hw.unique, fun r h hr => ?_, hw.suspended⟩
  rw [StrMap.get?_set] at hr
  split at hr
  · cases hr; subst r; exact hc
  · exact hw.stored r h hr

theorem wellFormed_settle {s : State J} (hw : WellFormed s) (i : Nat) : WellFormed (settle s i) := by
  rw [settle_eq]
  split
  · exact hw
  · rename_i c hc
    have hmem : ∀ c' ∈ s.suspended.eraseIdx i, c' ∈ s.suspended := fun _ => List.mem_of_mem_eraseIdx
    have hw' : WellFormed { s with suspended := s.suspended.eraseIdx i } :=
      ⟨hw.unique, hw.stored, fun c' hc' => hw.suspended c' (hmem c' hc')⟩
    split
    · obtain ⟨col, -, hl⟩ := hw.suspended c (List.getElem?_mem hc)
      exact wellFormed_resume hw' ⟨col, hl⟩
    · exact hw'

theorem wellFormed_unsubscribeRecord {s : State J} (hw : WellFormed s) {r : String}
    (hr : ∀ c ∈ s.suspended, c.recordId ≠ r) : WellFormed (unsubscribeRecord s r) := by
  rcases hget : s.subscribedDocs.get? r with _ | h₀
  · rw [unsubscribeRecord_of_none hget]; exact ⟨hw.unique, hw.stored, hw.suspended⟩
  · rw [unsubscribeRecord_of_some hget]
    obtain ⟨col₀, hl₀⟩ := hw.stored r h₀ hget
    refine ⟨hw.unique.modifyDoc _ _ fun _ => ⟨rfl, rfl, fun h => by cases h⟩, fun r' h hr' => ?_,
      fun c hc => ?_⟩
    · rw [StrMap.get?_delete] at hr'
      split at hr'
      · cases hr'
      · obtain ⟨col, hl⟩ := hw.stored r' h hr'
        exact ⟨col, hl.modifyDoc_ne (hl₀.ne hl (Ne.symm ‹_›)) _⟩
    · obtain ⟨col, hcol, hl⟩ := hw.suspended c hc
      exact ⟨col, hcol, hl.modifyDoc_ne (hl₀.ne hl (hr c hc).symm) _⟩

theorem wellFormed_unsubscribeRecords {s : State J} (hw : WellFormed s) {rs : List String}
    (hr : ∀ c ∈ s.suspended, c.recordId ∉ rs) : WellFormed (unsubscribeRecords s rs) := by
  induction rs generalizing s with
  | nil => exact hw
  | cons r rs ih =>
    refine ih (wellFormed_unsubscribeRecord hw fun c hc h => hr c hc (h ▸ .head _)) fun c hc h => ?_
    rw [unsubscribeRecord_suspended] at hc
    exact hr c hc (.tail _ h)

theorem wellFormed_unsubscribeAll {s : State J} (hw : WellFormed s) (hs : s.suspended = []) :
    WellFormed (unsubscribeAll s) :=
  wellFormed_unsubscribeRecords hw (by simp [hs])

theorem wellFormed_emit {s : State J} (hw : WellFormed s) (h : Nat) (kind : HandlerKind)
    (e : DocEvent J) : WellFormed (emit s h kind e) := by
  obtain ⟨out, heq⟩ := emit_eq s h kind e
  rw [heq]; exact ⟨hw.unique, hw.stored, hw.suspended⟩

/-- A change of a handle's data keeps `WellFormed`. -/
theorem wellFormed_setData {s : State J} (hw : WellFormed s) (h : Nat) (x : J) :
    WellFormed (s.modifyDoc h fun d => { d with data := some x }) :=
  hw.of_keysKept (hw.unique.modifyDoc _ _ fun _ => ⟨rfl, rfl, id⟩) (keysKept_modifyDoc _ _ _ fun _ => rfl)
    rfl rfl rfl

/-! ### Runs -/

/-- The calls that may run while `subscribeRecord` calls are suspended: no `setTableId`,
`unsubscribeAll` or `cleanup` while any is, and no unsubscribe of a record while a call for it
is. -/
def Step.Concurrent (s : State J) : Step J → Prop
  | .setTableId _ | .unsubscribeAll | .cleanup => s.suspended = []
  | .unsubscribeRecord r => ∀ c ∈ s.suspended, c.recordId ≠ r
  | .unsubscribeRecords rs => ∀ c ∈ s.suspended, c.recordId ∉ rs
  | _ => True

instance Step.decidableConcurrent (s : State J) : (st : Step J) → Decidable (st.Concurrent s)
  | .setTableId _ | .unsubscribeAll | .cleanup => inferInstanceAs (Decidable (s.suspended = []))
  | .unsubscribeRecord r => inferInstanceAs (Decidable (∀ c ∈ s.suspended, c.recordId ≠ r))
  | .unsubscribeRecords rs => inferInstanceAs (Decidable (∀ c ∈ s.suspended, c.recordId ∉ rs))
  | .connect | .disconnect | .subscribeRecord .. | .settle _ | .submitFieldUpdate .. | .load ..
  | .applyOp .. | .reportError _ => isTrue trivial

section Runs

variable [EmptyCollection J]

@[simp] theorem run_nil (s : State J) : run s [] = s := rfl

@[simp] theorem run_cons (s : State J) (st : Step J) (steps : List (Step J)) :
    run s (st :: steps) = run (step s st) steps := rfl

theorem run_append (s : State J) (steps₁ steps₂ : List (Step J)) :
    run s (steps₁ ++ steps₂) = run (run s steps₁) steps₂ := List.foldl_append _ _ _ _

/-- **Every step allowed to run concurrently keeps `WellFormed`.** -/
theorem wellFormed_step {s : State J} (hw : WellFormed s) {st : Step J} (hc : st.Concurrent s) :
    WellFormed (step s st) := by
  cases st with
  | connect | disconnect => exact ⟨hw.unique, hw.stored, hw.suspended⟩
  | setTableId t => exact ⟨hw.unique, hw.stored, by simp [step, show s.suspended = [] from hc]⟩
  | subscribeRecord r l ok =>
    simp only [step]
    split
    · exact wellFormed_subscribeRecord hw ‹_›
    · exact hw
  | settle i => exact wellFormed_settle hw i
  | unsubscribeRecord r => exact wellFormed_unsubscribeRecord hw hc
  | unsubscribeRecords rs => exact wellFormed_unsubscribeRecords hw hc
  | unsubscribeAll => exact wellFormed_unsubscribeAll hw hc
  | cleanup =>
    have hw' := wellFormed_unsubscribeAll hw hc
    have hs : (unsubscribeAll s).suspended = [] := by simp [unsubscribeAll, show s.suspended = [] from hc]
    exact ⟨hw'.unique, hw'.stored, by simp [step, cleanup, hs]⟩
  | submitFieldUpdate r f new old =>
    simp only [step]
    split
    · obtain ⟨out, rfl⟩ := submitFieldUpdate_eq_ok ‹_›
      exact ⟨hw.unique, hw.stored, hw.suspended⟩
    · exact hw
  | load h x => exact wellFormed_emit (wellFormed_setData hw h x) _ _ _
  | applyOp h e => exact wellFormed_emit (wellFormed_setData hw h e.data) _ _ _
  | reportError h =>
    simp only [step, reportError]
    split
    · exact wellFormed_emit hw _ _ _
    · exact hw

/-- **`WellFormed` holds after every run whose steps may run concurrently.** -/
theorem wellFormed_run {s : State J} (hw : WellFormed s) {steps : List (Step J)}
    (hg : Guarded step Step.Concurrent s steps) : WellFormed (run s steps) :=
  Guarded.invariant WellFormed (fun _ _ hw hc => wellFormed_step hw hc) hg hw

end Runs

end LuckDB.ShareDB
