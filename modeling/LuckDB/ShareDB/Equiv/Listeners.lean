import LuckDB.ShareDB.Equiv.Basic

/-!
# Which listeners the registry's handles call

`subscribeRecord` attaches `load`, `op` and `error` handlers to a handle before
`await doc.subscribe()`, and only `unsubscribeRecord` (directly, or through `unsubscribeRecords`,
`unsubscribeAll` and `cleanup`) destroys a handle, and only the one stored in `subscribedDocs`.
A handle with handlers that is never stored keeps calling its listeners.

* `coherent_step`: every step of a run in which each `doc.subscribe()` resolves and the table id
  changes only while nothing is subscribed (`Step.Resolving`) keeps `Attached`: each live handle
  with a handler is stored under its record, or awaited by a suspended call.
* `detached_teardown`, `detached_step`, `detached_event`: a step that tears record `r` down leaves
  no live handle of `r` with a handler, later steps keep it so until `r` is subscribed again, and
  then a document event of `r` calls no listener.
* `subscribeRecord_rejected_attached`: a `subscribeRecord` made while not connected, or with no
  table id, throws before `getDocument` and changes nothing; when `doc.subscribe()` rejects, the
  listener stays in `eventHandlers` and its handlers stay on a live handle that is never stored.
-/

namespace LuckDB.ShareDB

open Js

variable {J : Type}

/-! ### Handles with handlers -/

/-- Every live handle with a handler is the handle stored under its record, or the handle a
suspended call waits on. -/
def Attached (s : State J) : Prop :=
  ∀ (h : Nat) (d : Doc J), s.docs[h]? = some d → d.destroyed = false → d.handlers ≠ [] →
    s.subscribedDocs.get? d.recordId = some h ∨ ∃ c ∈ s.suspended, c.doc = h

/-- No live handle of record `r` has a handler. -/
def Detached (s : State J) (r : String) : Prop :=
  ∀ (h : Nat) (d : Doc J), s.docs[h]? = some d → d.recordId = r → d.destroyed = false →
    d.handlers = []

/-- Every handle of `ds'` was in `ds` with the same record and handlers, and was live if it is:
`ds'` may destroy handles and change their data, nothing else. -/
def HandlersBack (ds ds' : List (Doc J)) : Prop :=
  ∀ (h : Nat) (d' : Doc J), ds'[h]? = some d' → ∃ d : Doc J, ds[h]? = some d ∧
    d.recordId = d'.recordId ∧ (d'.destroyed = false → d.destroyed = false) ∧ d.handlers = d'.handlers

theorem handlersBack_refl (ds : List (Doc J)) : HandlersBack ds ds := by
  intro h d hd
  exact ⟨d, hd, rfl, id, rfl⟩

theorem HandlersBack.trans {ds₁ ds₂ ds₃ : List (Doc J)} (h₁ : HandlersBack ds₁ ds₂)
    (h₂ : HandlersBack ds₂ ds₃) : HandlersBack ds₁ ds₃ := by
  intro h d₃ hd₃
  obtain ⟨d₂, hd₂, hr₂, hl₂, hh₂⟩ := h₂ h d₃ hd₃
  obtain ⟨d₁, hd₁, hr₁, hl₁, hh₁⟩ := h₁ h d₂ hd₂
  exact ⟨d₁, hd₁, hr₁.trans hr₂, hl₁ ∘ hl₂, hh₁.trans hh₂⟩

theorem handlersBack_modifyDoc (s : State J) (h : Nat) {f : Doc J → Doc J}
    (hf : ∀ d, (f d).recordId = d.recordId ∧ ((f d).destroyed = false → d.destroyed = false) ∧
      (f d).handlers = d.handlers) :
    HandlersBack s.docs (s.modifyDoc h f).docs := by
  intro k d' hd'
  rw [getElem?_modifyDoc] at hd'
  split at hd'
  · obtain ⟨d, hd, rfl⟩ := Option.map_eq_some'.mp hd'
    exact ⟨d, hd, (hf d).1.symm, (hf d).2.1, (hf d).2.2.symm⟩
  · exact ⟨d', hd', rfl, id, rfl⟩

theorem handlersBack_unsubscribeRecord (s : State J) (r : String) :
    HandlersBack s.docs (unsubscribeRecord s r).docs := by
  rcases hget : s.subscribedDocs.get? r with _ | h₀
  · rw [unsubscribeRecord_of_none hget]; exact handlersBack_refl _
  · rw [unsubscribeRecord_of_some hget]
    exact handlersBack_modifyDoc _ _ fun _ => ⟨rfl, (fun h => by cases h), rfl⟩

theorem handlersBack_unsubscribeRecords (s : State J) (rs : List String) :
    HandlersBack s.docs (unsubscribeRecords s rs).docs := by
  induction rs generalizing s with
  | nil => exact handlersBack_refl _
  | cons r rs ih => exact (handlersBack_unsubscribeRecord s r).trans (ih _)

/-- A handle of a `subscribeRecord` that passed its checks is the one it made or found for its
record, which the new suspended call waits on, or was there before with the same contents. -/
theorem subscribeRecord_getElem? {s s' : State J} {r : String} {l : Nat} {ok : Bool}
    (h : subscribeRecord s r l ok = .ok s') {k : Nat} {d' : Doc J} (hd : s'.docs[k]? = some d') :
    (d'.recordId = r ∧ ⟨r, l, k, ok⟩ ∈ s'.suspended) ∨ s.docs[k]? = some d' := by
  obtain ⟨-, col, -, rfl⟩ := subscribeRecord_eq_ok h
  change ((getDocument s col r).2.modifyDoc _ _).docs[k]? = some d' at hd
  rw [getElem?_modifyDoc] at hd
  split at hd
  · rename_i hk
    subst hk
    obtain ⟨d, hd₀, rfl⟩ := Option.map_eq_some'.mp hd
    obtain ⟨d₁, hd₁, -, hr, -⟩ := getDocument_liveIn s col r
    rw [hd₁, Option.some.injEq] at hd₀
    exact .inl ⟨hd₀ ▸ hr, List.mem_append_right _ (List.mem_singleton_self _)⟩
  · rcases getDocument_eq s col r with ⟨_, _, _, _, _, heq⟩ | ⟨_, heq⟩
    · rw [heq] at hd ⊢; exact .inr hd
    · right
      rw [heq] at hd ‹¬_›
      have hlt : k < s.docs.length := by
        by_contra hge
        rw [List.getElem?_append_right (Nat.le_of_not_lt hge)] at hd
        have := (List.getElem?_eq_some_iff.mp hd).1
        simp only [List.length_singleton] at this
        omega
      rwa [List.getElem?_append_left hlt] at hd

/-! ### Runs that keep handlers attached -/

/-- Every `doc.subscribe()` resolves, and the table id changes only while no record is
subscribed. -/
def Step.Resolving (s : State J) : Step J → Prop
  | .subscribeRecord _ _ ok => ok = true
  | .setTableId t => s.tableId = some t ∨ s.subscribedDocs.keys = []
  | _ => True

instance Step.decidableResolving [DecidableEq J] (s : State J) :
    (st : Step J) → Decidable (st.Resolving s)
  | .subscribeRecord _ _ ok => inferInstanceAs (Decidable (ok = true))
  | .setTableId t => inferInstanceAs (Decidable (s.tableId = some t ∨ s.subscribedDocs.keys = []))
  | .connect | .disconnect | .settle _ | .unsubscribeRecord _ | .unsubscribeRecords _
  | .unsubscribeAll | .cleanup | .submitFieldUpdate .. | .load .. | .applyOp .. | .reportError _ =>
    isTrue trivial

/-- `WellFormed`, with every handler on a stored or awaited handle, every stored handle in the
collection of the current table id, and every suspended call about to resolve. -/
structure Coherent (s : State J) extends WellFormed s : Prop where
  attached : Attached s
  current : ∀ r h, s.subscribedDocs.get? r = some h →
    ∃ col, getCollectionName s.tableId = .ok col ∧ LiveIn s.docs h col r
  resolves : ∀ c ∈ s.suspended, c.resolves = true

theorem Coherent.init (connected : Bool) : Coherent (State.init connected : State J) :=
  ⟨WellFormed.init connected, fun _ _ h => by simp [State.init] at h,
    fun _ _ h => by simp [State.init] at h, fun _ h => by simp [State.init] at h⟩

/-- The handle stored under a record is the one a suspended call of that record waits on. -/
theorem Coherent.doc_eq_stored {s : State J} (hc : Coherent s) {r : String} {h : Nat}
    (hs : s.subscribedDocs.get? r = some h) {c : Suspended} (hcs : c ∈ s.suspended)
    (hr : c.recordId = r) : c.doc = h := by
  obtain ⟨col, hcol, hl⟩ := hc.current r h hs
  obtain ⟨col', hcol', hl'⟩ := hc.suspended c hcs
  rw [hcol, Except.ok.injEq] at hcol'
  exact hc.unique.eq (hr ▸ hcol' ▸ hl') hl

/-- A step that changes no stored handle, no suspended call and no table id, and changes the
handles as `HandlersBack` and `KeysKept` allow, keeps `Coherent`. -/
theorem Coherent.of_frame {s t : State J} (hc : Coherent s) (hw : WellFormed t)
    (hk : KeysKept s.docs t.docs) (hb : HandlersBack s.docs t.docs)
    (hd : t.subscribedDocs = s.subscribedDocs) (hs : t.suspended = s.suspended)
    (ht : t.tableId = s.tableId) : Coherent t where
  toWellFormed := hw
  attached h d' hd' hl hh := by
    obtain ⟨d, hd₀, hr, hl₀, hh₀⟩ := hb h d' hd'
    rw [hd, hs, ← hr]
    exact hc.attached h d hd₀ (hl₀ hl) (hh₀ ▸ hh)
  current r h hr := by
    obtain ⟨col, hcol, hl⟩ := hc.current r h (hd ▸ hr)
    exact ⟨col, ht ▸ hcol, hl.kept hk⟩
  resolves c hcs := hc.resolves c (hs ▸ hcs)

theorem coherent_subscribeRecord {s s' : State J} (hc : Coherent s) {r : String} {l : Nat}
    (h : subscribeRecord s r l true = .ok s') : Coherent s' := by
  have hw := wellFormed_subscribeRecord hc.toWellFormed h
  have hk := keysKept_subscribeRecord h
  obtain ⟨hsd, ht, k₀, hsus⟩ : s'.subscribedDocs = s.subscribedDocs ∧ s'.tableId = s.tableId ∧
      ∃ k₀, s'.suspended = s.suspended ++ [⟨r, l, k₀, true⟩] := by
    obtain ⟨-, col, -, rfl⟩ := subscribeRecord_eq_ok h
    exact ⟨rfl, rfl, _, rfl⟩
  refine ⟨hw, fun k d hd hl hh => ?_, fun r' k hr => ?_, fun c hcs => ?_⟩
  · rcases subscribeRecord_getElem? h hd with ⟨-, hmem⟩ | hd
    · exact .inr ⟨_, hmem, rfl⟩
    · rw [hsd, hsus]
      rcases hc.attached k d hd hl hh with hs | ⟨c, hcs, hdoc⟩
      · exact .inl hs
      · exact .inr ⟨c, List.mem_append_left _ hcs, hdoc⟩
  · obtain ⟨col, hcol, hl⟩ := hc.current r' k (hsd ▸ hr)
    exact ⟨col, ht ▸ hcol, hl.kept hk⟩
  · rw [hsus] at hcs
    rcases List.mem_append.mp hcs with hcs | hcs
    · exact hc.resolves c hcs
    · rw [List.mem_singleton.mp hcs]

theorem coherent_settle {s : State J} (hc : Coherent s) (i : Nat) : Coherent (settle s i) := by
  have hw := wellFormed_settle hc.toWellFormed i
  rcases hi : s.suspended[i]? with _ | c
  · simpa [settle, hi] using hc
  have hres := hc.resolves c (List.getElem?_mem hi)
  have heq : settle s i = resume { s with suspended := s.suspended.eraseIdx i } c := by
    simp [settle, hi, hres]
  rw [heq] at hw ⊢
  obtain ⟨out, hr⟩ := resume_eq { s with suspended := s.suspended.eraseIdx i } c
  rw [hr] at hw ⊢
  obtain ⟨col, hcol, hl₀⟩ := hc.suspended c (List.getElem?_mem hi)
  have ⟨d₀, hd₀, _, hr₀, _⟩ := hl₀
  refine ⟨hw, fun h d hd hl hh => ?_, fun r h hr => ?_, fun c' hc' =>
    hc.resolves c' (List.mem_of_mem_eraseIdx hc')⟩
  · simp only [StrMap.get?_set]
    rcases hc.attached h d hd hl hh with hs | ⟨c', hc', rfl⟩
    · split
      · rename_i hrec
        exact .inl (congrArg some (hc.doc_eq_stored hs (List.getElem?_mem hi) hrec.symm))
      · exact .inl hs
    · rcases mem_eraseIdx_or hi hc' with rfl | hc'
      · rw [hd₀, Option.some.injEq] at hd
        subst hd
        exact .inl (if_pos hr₀)
      · exact .inr ⟨c', hc', rfl⟩
  · simp only [StrMap.get?_set] at hr
    split at hr
    · cases hr; subst r; exact ⟨col, hcol, hl₀⟩
    · exact hc.current r h hr

theorem coherent_unsubscribeRecord {s : State J} (hc : Coherent s) {r : String}
    (hr : ∀ c ∈ s.suspended, c.recordId ≠ r) : Coherent (unsubscribeRecord s r) := by
  have hw := wellFormed_unsubscribeRecord hc.toWellFormed hr
  rcases hget : s.subscribedDocs.get? r with _ | h₀
  · rw [unsubscribeRecord_of_none hget] at hw ⊢
    exact ⟨hw, hc.attached, hc.current, hc.resolves⟩
  · rw [unsubscribeRecord_of_some hget] at hw ⊢
    obtain ⟨col₀, -, hl₀⟩ := hc.current r h₀ hget
    refine ⟨hw, fun h d hd hl hh => ?_, fun r' h hr' => ?_, hc.resolves⟩
    · rw [getElem?_modifyDoc] at hd
      split at hd
      · obtain ⟨_, _, rfl⟩ := Option.map_eq_some'.mp hd
        cases hl
      · rename_i hne
        rcases hc.attached h d hd hl hh with hs | hp
        · refine .inl ?_
          rw [StrMap.get?_delete, if_neg]
          · exact hs
          · rintro hrec
            rw [hrec, hget, Option.some.injEq] at hs
            exact hne hs
        · exact .inr hp
    · rw [StrMap.get?_delete] at hr'
      split at hr'
      · cases hr'
      · obtain ⟨col, hcol, hl⟩ := hc.current r' h hr'
        exact ⟨col, hcol, hl.modifyDoc_ne (hl₀.ne hl (Ne.symm ‹_›)) _⟩

theorem coherent_unsubscribeRecords {s : State J} (hc : Coherent s) {rs : List String}
    (hr : ∀ c ∈ s.suspended, c.recordId ∉ rs) : Coherent (unsubscribeRecords s rs) := by
  induction rs generalizing s with
  | nil => exact hc
  | cons r rs ih =>
    refine ih (coherent_unsubscribeRecord hc fun c hcs h => hr c hcs (h ▸ .head _)) fun c hcs h => ?_
    rw [unsubscribeRecord_suspended] at hcs
    exact hr c hcs (.tail _ h)

theorem coherent_unsubscribeAll {s : State J} (hc : Coherent s) (hs : s.suspended = []) :
    Coherent (unsubscribeAll s) :=
  coherent_unsubscribeRecords hc (by simp [hs])

theorem coherent_emit {s : State J} (hc : Coherent s) (h : Nat) (kind : HandlerKind)
    (e : DocEvent J) : Coherent (emit s h kind e) := by
  obtain ⟨out, heq⟩ := emit_eq s h kind e
  rw [heq]
  exact hc.of_frame ⟨hc.unique, hc.stored, hc.suspended⟩ (keysKept_refl _) (handlersBack_refl _) rfl
    rfl rfl

theorem coherent_setData {s : State J} (hc : Coherent s) (h : Nat) (x : J) :
    Coherent (s.modifyDoc h fun d => { d with data := some x }) :=
  hc.of_frame (wellFormed_setData hc.toWellFormed h x) (keysKept_modifyDoc _ _ _ fun _ => rfl)
    (handlersBack_modifyDoc _ _ fun _ => ⟨rfl, id, rfl⟩) rfl rfl rfl

section Runs

variable [EmptyCollection J]

/-- **Every step of a resolving run keeps `Coherent`.** -/
theorem coherent_step {s : State J} (hc : Coherent s) {st : Step J} (hcon : st.Concurrent s)
    (hres : st.Resolving s) : Coherent (step s st) := by
  have hw := wellFormed_step hc.toWellFormed hcon
  cases st with
  | connect | disconnect => exact ⟨hw, hc.attached, hc.current, hc.resolves⟩
  | setTableId t =>
    refine ⟨hw, hc.attached, fun r h hr => ?_, hc.resolves⟩
    have hr' : s.subscribedDocs.get? r = some h := hr
    rcases (hres : s.tableId = some t ∨ s.subscribedDocs.keys = []) with ht | hk
    · show ∃ col, getCollectionName (some t) = .ok col ∧ LiveIn s.docs h col r
      rw [← ht]
      exact hc.current r h hr'
    · have : r ∈ s.subscribedDocs.keys := (StrMap.mem_keys_iff _ _).mpr (by rw [hr']; rfl)
      rw [hk] at this
      cases this
  | subscribeRecord r l ok =>
    cases (hres : ok = true)
    simp only [step]
    split
    · exact coherent_subscribeRecord hc ‹_›
    · exact hc
  | settle i => exact coherent_settle hc i
  | unsubscribeRecord r => exact coherent_unsubscribeRecord hc hcon
  | unsubscribeRecords rs => exact coherent_unsubscribeRecords hc hcon
  | unsubscribeAll => exact coherent_unsubscribeAll hc hcon
  | cleanup =>
    have hc' := coherent_unsubscribeAll hc hcon
    refine ⟨hw, hc'.attached, fun r h hr => ?_, hc'.resolves⟩
    rw [show (step s .cleanup).subscribedDocs = (unsubscribeAll s).subscribedDocs from rfl,
      unsubscribeAll_subscribedDocs_get?] at hr
    cases hr
  | submitFieldUpdate r f new old =>
    simp only [step]
    split
    · obtain ⟨out, rfl⟩ := submitFieldUpdate_eq_ok ‹_›
      exact ⟨⟨hc.unique, hc.stored, hc.suspended⟩, hc.attached, hc.current, hc.resolves⟩
    · exact hc
  | load h x => exact coherent_emit (coherent_setData hc h x) _ _ _
  | applyOp h e => exact coherent_emit (coherent_setData hc h e.data) _ _ _
  | reportError h =>
    simp only [step, reportError]
    split
    · exact coherent_emit hc _ _ _
    · exact hc

/-- `Coherent` holds after every resolving run from a fresh service. -/
theorem coherent_run (connected : Bool) {steps : List (Step J)}
    (hg : Guarded step (fun s st => st.Concurrent s ∧ st.Resolving s) (State.init connected) steps) :
    Coherent (run (State.init connected) steps) :=
  Guarded.invariant Coherent (fun _ _ hc h => coherent_step hc h.1 h.2) hg (Coherent.init connected)

end Runs

/-! ### Tearing a record down -/

/-- With nothing stored under `r` and no call of `r` suspended, `r` is detached. -/
theorem Coherent.detached {s : State J} (hc : Coherent s) {r : String}
    (hnone : s.subscribedDocs.get? r = none) (hr : ∀ c ∈ s.suspended, c.recordId ≠ r) :
    Detached s r := by
  intro h d hd hrec hl
  by_contra hh
  rcases hc.attached h d hd hl hh with hs | ⟨c, hcs, rfl⟩
  · rw [hrec, hnone] at hs
    cases hs
  · obtain ⟨col, -, d', hd', -, hr', -⟩ := hc.suspended c hcs
    rw [hd, Option.some.injEq] at hd'
    subst hd'
    exact hr c hcs (hr'.symm.trans hrec)

theorem Detached.back {s t : State J} {r : String} (hD : Detached s r) (hb : HandlersBack s.docs t.docs) :
    Detached t r := by
  intro h d' hd' hrec hl
  obtain ⟨d, hd, hr, hl', hh⟩ := hb h d' hd'
  exact hh ▸ hD h d hd (hr.trans hrec) (hl' hl)

theorem Detached.setData_emit {s : State J} {r : String} (hD : Detached s r) (h : Nat) (x : J)
    (kind : HandlerKind) (e : DocEvent J) :
    Detached (emit (s.modifyDoc h fun d => { d with data := some x }) h kind e) r := by
  obtain ⟨out, heq⟩ := emit_eq (s.modifyDoc h fun d => { d with data := some x }) h kind e
  rw [heq]
  exact hD.back (handlersBack_modifyDoc _ _ fun _ => ⟨rfl, id, rfl⟩)

/-- `st` ends the subscription of record `r`. -/
def Step.TearsDown (r : String) : Step J → Prop
  | .unsubscribeRecord r' => r' = r
  | .unsubscribeRecords rs => r ∈ rs
  | .unsubscribeAll | .cleanup => True
  | _ => False

/-- `st` is a `subscribeRecord` call for record `r`. -/
def Step.Subscribes (r : String) : Step J → Prop
  | .subscribeRecord r' _ _ => r' = r
  | _ => False

/-- `st` is an event of document handle `h`. -/
def Step.EventOf (h : Nat) : Step J → Prop
  | .load h' _ | .applyOp h' _ | .reportError h' => h' = h
  | _ => False

section Runs

variable [EmptyCollection J]

/-- A step that may run concurrently and tears `r` down leaves `r` detached. -/
theorem detached_teardown {s : State J} (hc : Coherent s) {st : Step J} {r : String}
    (ht : st.TearsDown r) (hcon : st.Concurrent s) : Detached (step s st) r := by
  have hres : st.Resolving s := by cases st <;> trivial
  have hc' := coherent_step hc hcon hres
  cases st with
  | unsubscribeRecord r' =>
    cases (ht : r' = r)
    refine hc'.detached ?_ (by simpa [step] using hcon)
    simp [step, unsubscribeRecord_subscribedDocs_get?]
  | unsubscribeRecords rs =>
    refine hc'.detached ?_ fun c hcs h => hcon c (by simpa [step] using hcs) (h ▸ ht)
    simp [step, unsubscribeRecords_subscribedDocs_get?, show r ∈ rs from ht]
  | unsubscribeAll =>
    refine hc'.detached (unsubscribeAll_subscribedDocs_get? s r) ?_
    simp [step, unsubscribeAll, show s.suspended = [] from hcon]
  | cleanup =>
    refine hc'.detached (unsubscribeAll_subscribedDocs_get? s r) ?_
    simp [step, cleanup, unsubscribeAll, show s.suspended = [] from hcon]
  | _ => cases ht

/-- **A detached record stays detached until it is subscribed again.** -/
theorem detached_step {s : State J} {r : String} (hD : Detached s r) {st : Step J}
    (hst : ¬ st.Subscribes r) : Detached (step s st) r := by
  cases st with
  | connect | disconnect | setTableId _ => exact hD
  | subscribeRecord r' l ok =>
    simp only [step]
    split
    · intro h d hd hrec hl
      rcases subscribeRecord_getElem? ‹_› hd with ⟨hr', -⟩ | hd
      · exact absurd (hr'.symm.trans hrec) hst
      · exact hD h d hd hrec hl
    · exact hD
  | settle i =>
    refine hD.back ?_
    simp only [step, settle_eq]
    split
    · exact handlersBack_refl _
    · split
      · obtain ⟨out, heq⟩ := resume_eq { s with suspended := s.suspended.eraseIdx i } ‹_›
        rw [heq]
        exact handlersBack_refl _
      · exact handlersBack_refl _
  | unsubscribeRecord r' => exact hD.back (handlersBack_unsubscribeRecord s r')
  | unsubscribeRecords rs => exact hD.back (handlersBack_unsubscribeRecords s rs)
  | unsubscribeAll => exact hD.back (handlersBack_unsubscribeRecords s _)
  | cleanup => exact hD.back (handlersBack_unsubscribeRecords s _)
  | submitFieldUpdate r' f new old =>
    simp only [step]
    split
    · obtain ⟨out, rfl⟩ := submitFieldUpdate_eq_ok ‹_›
      exact hD
    · exact hD
  | load h x => exact hD.setData_emit h x _ _
  | applyOp h e => exact hD.setData_emit h e.data _ _
  | reportError h =>
    simp only [step, reportError]
    split
    · obtain ⟨out, heq⟩ := emit_eq s h .error _
      rw [heq]
      exact hD
    · exact hD

theorem detached_run {s : State J} {r : String} (hD : Detached s r) {steps : List (Step J)}
    (hst : ∀ st ∈ steps, ¬ st.Subscribes r) : Detached (run s steps) r := by
  induction steps generalizing s with
  | nil => exact hD
  | cons st steps ih =>
    exact ih (detached_step hD (hst st (.head _))) fun x hx => hst x (.tail _ hx)

/-- An event of a handle of a detached record calls no listener. -/
theorem detached_event {s : State J} {r : String} (hD : Detached s r) {h : Nat} {d : Doc J}
    (hd : s.docs[h]? = some d) (hrec : d.recordId = r) {st : Step J} (hst : st.EventOf h) :
    (step s st).delivered = s.delivered := by
  -- the handle calls nothing: it is destroyed, or it has no handler
  have hemit : ∀ (t : State J) (d' : Doc J), t.docs[h]? = some d' →
      (d'.destroyed = true ∨ d'.handlers = []) → ∀ kind (e : DocEvent J),
        (emit t h kind e).delivered = t.delivered := by
    intro t d' hd' hnone kind e
    simp only [emit, hd']
    rcases hnone with hx | hx <;> simp [hx]
  have hquiet : d.destroyed = true ∨ d.handlers = [] := by
    cases hx : d.destroyed
    · exact .inr (hD h d hd hrec hx)
    · exact .inl rfl
  cases st with
  | load h' x =>
    cases (hst : h' = h)
    exact hemit _ { d with data := some x } (by simp [getElem?_modifyDoc, hd]) hquiet _ _
  | applyOp h' e =>
    cases (hst : h' = h)
    exact hemit _ { d with data := some e.data } (by simp [getElem?_modifyDoc, hd]) hquiet _ _
  | reportError h' =>
    cases (hst : h' = h)
    simp only [step, reportError, hd]
    exact hemit s d hd hquiet _ _
  | _ => cases hst

end Runs

/-! ### Runs that keep handlers attached, and where they do not -/

section Runs

variable [EmptyCollection J]

/-- **Handlers stay on stored handles, and a torn-down record's events call no listener.**  In
every run from a fresh service in which each `doc.subscribe()` resolves, the table id changes only
while nothing is subscribed, and no record is torn down while a call for it is suspended, every
live handle with a handler is stored under its record or awaited by a suspended call.  After a step
that tears `r` down and any later steps that do not subscribe `r`, an event of a handle of `r`
calls no listener. -/
theorem teardown_silences_listeners (connected : Bool) (steps : List (Step J))
    (hg : Guarded step (fun s st => st.Concurrent s ∧ st.Resolving s) (State.init connected) steps) :
    Attached (run (State.init connected) steps) ∧
      ∀ (st : Step J) (r : String), st.TearsDown r → st.Concurrent (run (State.init connected) steps) →
        ∀ later : List (Step J), (∀ x ∈ later, ¬ x.Subscribes r) →
          ∀ (ev : Step J) (h : Nat) (d : Doc J),
            (run (step (run (State.init connected) steps) st) later).docs[h]? = some d →
            d.recordId = r → ev.EventOf h →
            (step (run (step (run (State.init connected) steps) st) later) ev).delivered =
              (run (step (run (State.init connected) steps) st) later).delivered := by
  have hc := coherent_run connected hg
  exact ⟨hc.attached, fun st r ht hcon later hlater ev h d hd hrec hev =>
    detached_event (detached_run (detached_teardown hc ht hcon) hlater) hd hrec hev⟩

theorem teardown_silences_listeners_subscribed :
    Guarded step (fun s st => st.Concurrent s ∧ st.Resolving s) (State.init true : State (List Nat))
        [.setTableId "t", .subscribeRecord "r" 1 true, .settle 0] ∧
      Attached (run (State.init true : State (List Nat)) [.setTableId "t", .subscribeRecord "r" 1 true,
        .settle 0]) :=
  ⟨by decide, (teardown_silences_listeners true _ (by decide)).1⟩

/-- A subscription of `r` in a second table leaves the first table's handle of `r`, with its
handlers, live and no longer stored: after `unsubscribeRecord r` an operation on it still reaches
the first listener. -/
theorem unsubscribeRecord_after_table_switch :
    (run (State.init true : State (List Nat))
      [.setTableId "a", .subscribeRecord "r" 1 true, .settle 0, .setTableId "b",
        .subscribeRecord "r" 2 true, .settle 0, .unsubscribeRecord "r",
        .applyOp 0 ⟨[], true, [5]⟩]).delivered = [(1, ⟨[], true, [5]⟩)] := by
  decide

omit [EmptyCollection J] in
/-- Handle `h` emitting `kind` calls every listener with a handler of that kind on it. -/
theorem emit_delivers {s : State J} {h : Nat} {d : Doc J} (hd : s.docs[h]? = some d)
    (hl : d.destroyed = false) {kind : HandlerKind} {l : Nat} (hk : (kind, l) ∈ d.handlers)
    (e : DocEvent J) : (l, e) ∈ (emit s h kind e).delivered := by
  simp only [emit, hd, hl, Bool.false_eq_true, if_false]
  exact List.mem_append_right _ (List.mem_map.mpr ⟨(kind, l), List.mem_filter.mpr ⟨hk, by simp⟩, rfl⟩)

/-- A `subscribeRecord` that throws changes nothing. -/
theorem step_subscribeRecord_of_error {s : State J} {r : String} {l : Nat} {ok : Bool} {e : String}
    (h : subscribeRecord s r l ok = .error e) : step s (.subscribeRecord r l ok) = s := by
  simp only [step, h]

/-- Without a connection, `subscribeRecord` throws `notConnectedError` and changes nothing. -/
theorem subscribeRecord_not_connected {s : State J} (hconn : s.connected = false) (r : String)
    (l : Nat) (ok : Bool) :
    subscribeRecord s r l ok = .error notConnectedError ∧ step s (.subscribeRecord r l ok) = s := by
  have h : subscribeRecord s r l ok = .error notConnectedError := by simp [subscribeRecord, hconn]
  exact ⟨h, step_subscribeRecord_of_error h⟩

/-- Connected with no table id, or an empty one, `subscribeRecord` throws `tableIdNotSetError` and
changes nothing. -/
theorem subscribeRecord_no_tableId {s : State J} (hconn : s.connected = true)
    (ht : s.tableId = none ∨ s.tableId = some "") (r : String) (l : Nat) (ok : Bool) :
    subscribeRecord s r l ok = .error tableIdNotSetError ∧ step s (.subscribeRecord r l ok) = s := by
  have hcol : getCollectionName s.tableId = .error tableIdNotSetError := by
    rcases ht with ht | ht <;> simp [getCollectionName, ht]
  have h : subscribeRecord s r l ok = .error tableIdNotSetError := by
    simp [subscribeRecord, hconn, hcol]
  exact ⟨h, step_subscribeRecord_of_error h⟩

/-- After the synchronous part of `subscribeRecord(r, l)` and the rejection of `doc.subscribe()`,
`subscribedDocs` is as it was, but `l` is in `eventHandlers` under `r`, and a live handle of `r`
keeps the three handlers that call `l`: its next operation reaches `l`. -/
theorem subscribeRecord_rejected_after_getDocument (s : State J) (r : String) (l : Nat)
    (col : String) (hconn : s.connected = true) (hcol : getCollectionName s.tableId = .ok col) :
    (step (step s (.subscribeRecord r l false)) (.settle s.suspended.length)).subscribedDocs =
        s.subscribedDocs ∧
      (step (step s (.subscribeRecord r l false)) (.settle s.suspended.length)).eventHandlers =
        addListener s.eventHandlers r l ∧
      ∃ (k : Nat) (d : Doc J),
        (step (step s (.subscribeRecord r l false)) (.settle s.suspended.length)).docs[k]? = some d ∧
        d.IsLive col r ∧ (∀ x ∈ subscriptionHandlers l, x ∈ d.handlers) ∧
        ∀ e : DocEvent J, (l, e) ∈
          (step (step (step s (.subscribeRecord r l false)) (.settle s.suspended.length)) (.applyOp k e)).delivered := by
  obtain ⟨s', hs'⟩ : ∃ s', subscribeRecord s r l false = .ok s' := by
    simp only [subscribeRecord, hconn, Bool.true_eq_false, if_false, hcol]
    exact ⟨_, rfl⟩
  obtain ⟨-, col', hcol', rfl⟩ := subscribeRecord_eq_ok hs'
  rw [hcol, Except.ok.injEq] at hcol'
  subst hcol'
  have hsettle : ∀ t : State J, t.suspended = s.suspended ++ [⟨r, l, (getDocument s col r).1, false⟩] →
      settle t s.suspended.length = { t with suspended := s.suspended } := by
    intro t ht
    simp [settle, ht, List.eraseIdx_append_of_length_le (Nat.le_refl _)]
  simp only [step, hs']
  rw [hsettle _ rfl]
  obtain ⟨d₀, hd₀, hlive⟩ := getDocument_liveIn s col r
  refine ⟨rfl, rfl, (getDocument s col r).1, { d₀ with handlers := d₀.handlers ++ subscriptionHandlers l },
    ?_, hlive, fun x hx => List.mem_append_right _ hx, fun e => ?_⟩
  · show ((getDocument s col r).2.modifyDoc _ _).docs[_]? = _
    rw [getElem?_modifyDoc, if_pos rfl, hd₀]
    rfl
  · simp only [step, applyOp]
    have hk : (HandlerKind.op, l) ∈ d₀.handlers ++ subscriptionHandlers l :=
      List.mem_append_right _ (by simp [subscriptionHandlers])
    refine @emit_delivers J _ _
      { d₀ with
        handlers := d₀.handlers ++ subscriptionHandlers l
        data := some e.data } ?_ hlive.2.2 _ l hk e
    rw [getElem?_modifyDoc, if_pos rfl]
    dsimp only
    rw [List.getElem?_modify_eq, hd₀]
    rfl

/-- **A subscription that throws, or whose `doc.subscribe()` rejects.**  `subscribeRecord(r, l)`
made while not connected, or with no table id, throws before `getDocument` and changes nothing.
Once past both checks, after the synchronous part and the rejection of `doc.subscribe()`,
`subscribedDocs` is as it was, but `l` is in `eventHandlers` under `r`, and a live handle of `r`
keeps the three handlers that call `l`: its next operation reaches `l`. -/
theorem subscribeRecord_rejected_attached (s : State J) (r : String) (l : Nat) :
    (∀ ok, s.connected = false →
      subscribeRecord s r l ok = .error notConnectedError ∧ step s (.subscribeRecord r l ok) = s) ∧
    (∀ ok, s.connected = true → (s.tableId = none ∨ s.tableId = some "") →
      subscribeRecord s r l ok = .error tableIdNotSetError ∧ step s (.subscribeRecord r l ok) = s) ∧
    ∀ col, s.connected = true → getCollectionName s.tableId = .ok col →
      (step (step s (.subscribeRecord r l false)) (.settle s.suspended.length)).subscribedDocs =
          s.subscribedDocs ∧
        (step (step s (.subscribeRecord r l false)) (.settle s.suspended.length)).eventHandlers =
          addListener s.eventHandlers r l ∧
        ∃ (k : Nat) (d : Doc J),
          (step (step s (.subscribeRecord r l false)) (.settle s.suspended.length)).docs[k]? =
            some d ∧
          d.IsLive col r ∧ (∀ x ∈ subscriptionHandlers l, x ∈ d.handlers) ∧
          ∀ e : DocEvent J, (l, e) ∈ (step (step (step s (.subscribeRecord r l false))
            (.settle s.suspended.length)) (.applyOp k e)).delivered :=
  ⟨fun ok hconn => subscribeRecord_not_connected hconn r l ok,
    fun ok hconn ht => subscribeRecord_no_tableId hconn ht r l ok,
    fun col hconn hcol => subscribeRecord_rejected_after_getDocument s r l col hconn hcol⟩

/-- A call while disconnected, a call before `setTableId`, and a call whose `doc.subscribe()`
rejects. -/
theorem subscribeRecord_rejected_attached_fresh :
    (subscribeRecord (State.init false : State (List Nat)) "r" 7 true = .error notConnectedError ∧
      step (State.init false : State (List Nat)) (.subscribeRecord "r" 7 true) = State.init false) ∧
    (subscribeRecord (State.init true : State (List Nat)) "r" 7 true = .error tableIdNotSetError ∧
      step (State.init true : State (List Nat)) (.subscribeRecord "r" 7 true) = State.init true) ∧
    (step (step (step (State.init true : State (List Nat)) (.setTableId "t"))
        (.subscribeRecord "r" 7 false)) (.settle 0)).subscribedDocs =
      (step (State.init true : State (List Nat)) (.setTableId "t")).subscribedDocs :=
  ⟨(subscribeRecord_rejected_attached (State.init false) "r" 7).1 true rfl,
    (subscribeRecord_rejected_attached (State.init true) "r" 7).2.1 true rfl (.inl rfl),
    ((subscribeRecord_rejected_attached (step (State.init true) (.setTableId "t")) "r" 7).2.2
      "rec_t" rfl rfl).1⟩

/-- A subscription whose `doc.subscribe()` rejects leaves its listener in `eventHandlers`, and the
document's next operation calls it. -/
theorem subscribeRecord_rejected_listener_called :
    (run (State.init true : State (List Nat))
        [.setTableId "t", .subscribeRecord "r" 7 false, .settle 0]).eventHandlers.get? "r" = some [7] ∧
      (run (State.init true : State (List Nat))
        [.setTableId "t", .subscribeRecord "r" 7 false, .settle 0, .applyOp 0 ⟨[], true, [1]⟩]).delivered =
        [(7, ⟨[], true, [1]⟩)] := by
  decide

/-- A document that loads while `subscribeRecord` waits on `doc.subscribe()` sends its snapshot to
the listener twice: once through `handleLoad`, once from the check of `doc.data` after the
`await`. -/
theorem subscribeRecord_snapshot_twice :
    (run (State.init true : State (List Nat))
        [.setTableId "t", .subscribeRecord "r" 1 true, .load 0 [5], .settle 0]).delivered =
      [(1, ⟨[], false, [5]⟩), (1, ⟨[], false, [5]⟩)] := by
  decide

end Runs

end LuckDB.ShareDB
