import LuckDB.ShareDB.Equiv.Basic

/-!
# Interleaved calls and their serial execution

`subscribeRecord` suspends at `await doc.subscribe()`, so other calls can run between its start
and its end.  `finish` completes every suspended call, in the order the calls started, and
`serialize` turns a run into the serial execution of its calls: each `subscribeRecord` runs whole
where it starts, and the resumptions of the interleaved run have no counterpart.

* `agree_step`: one step of the interleaved run, completed with `finish`, agrees with the same
  call run whole after the serial run so far, provided the step may run concurrently
  (`Step.Concurrent`: no `setTableId`, `unsubscribeAll` or `cleanup` while a call is suspended, and
  no unsubscribe of a record while a call for it is).
* `finish_run_agree_serialize`: hence the completed interleaved run and the serial run agree on the
  connection, the table id, the entries of `subscribedDocs` and `eventHandlers`, and the handles.

The proof needs `WellFormed`: two suspended calls of one record wait on one handle, so the order
in which they resume does not change what `subscribedDocs` ends with (`storeAll_settle_get?`).
-/

namespace LuckDB.ShareDB

open Js

variable {J : Type}

/-! ### Completing the suspended calls -/

/-- What the suspended calls `cs` store in `subscribedDocs` once they resume, in order. -/
def storeAll (m : StrMap Nat) (cs : List Suspended) : StrMap Nat :=
  cs.foldl (fun m c => if c.resolves then m.set c.recordId c.doc else m) m

/-- The state once every suspended call has resumed, in the order the calls started. -/
def finish (s : State J) : State J :=
  s.suspended.foldl (fun s c => if c.resolves then resume s c else s) { s with suspended := [] }

@[simp] theorem storeAll_nil (m : StrMap Nat) : storeAll m [] = m := rfl

@[simp] theorem storeAll_cons (m : StrMap Nat) (c : Suspended) (cs : List Suspended) :
    storeAll m (c :: cs) = storeAll (if c.resolves then m.set c.recordId c.doc else m) cs := rfl

theorem storeAll_append_singleton (m : StrMap Nat) (cs : List Suspended) (c : Suspended) :
    storeAll m (cs ++ [c]) =
      if c.resolves then (storeAll m cs).set c.recordId c.doc else storeAll m cs := by
  simp [storeAll, List.foldl_append]

/-- What `storeAll` leaves at `k` depends on the map only through its entry at `k`. -/
theorem storeAll_get?_congr {m₁ m₂ : StrMap Nat} {k : String} (h : m₁.get? k = m₂.get? k)
    (cs : List Suspended) : (storeAll m₁ cs).get? k = (storeAll m₂ cs).get? k := by
  induction cs generalizing m₁ m₂ with
  | nil => exact h
  | cons c cs ih =>
    rw [storeAll_cons, storeAll_cons]
    refine ih ?_
    split
    · rw [StrMap.get?_set, StrMap.get?_set, h]
    · exact h

/-- Calls that store nothing at `k` leave it alone. -/
theorem storeAll_get?_of_forall (m : StrMap Nat) {k : String} {cs : List Suspended}
    (h : ∀ c ∈ cs, c.resolves = true → c.recordId ≠ k) : (storeAll m cs).get? k = m.get? k :=
  StrMap.get?_foldl_of_forall _ k cs m fun c hc o => by
    split
    · exact StrMap.get?_set_ne _ (h c hc ‹_›).symm _
    · rfl

/-- Calls that all store handle `h` at `k`, one of which resolves, leave `h` there. -/
theorem storeAll_get?_of_mem (m : StrMap Nat) {k : String} {h : Nat} {cs : List Suspended}
    (hall : ∀ c ∈ cs, c.resolves = true → c.recordId = k → c.doc = h)
    (hone : ∃ c ∈ cs, c.resolves = true ∧ c.recordId = k) : (storeAll m cs).get? k = some h := by
  induction cs generalizing m with
  | nil => obtain ⟨_, hc, -⟩ := hone; cases hc
  | cons c cs ih =>
    rw [storeAll_cons]
    by_cases hrest : ∃ c' ∈ cs, c'.resolves = true ∧ c'.recordId = k
    · exact ih _ (fun c' hc' => hall c' (.tail _ hc')) hrest
    · obtain ⟨c', hc', hres, hrec⟩ := hone
      rcases List.mem_cons.mp hc' with rfl | hc'
      · rw [storeAll_get?_of_forall _ fun c'' hc'' hres'' hrec'' => hrest ⟨c'', hc'', hres'', hrec''⟩,
          if_pos hres, ← hrec, StrMap.get?_set_self, hall c' (.head _) hres hrec]
      · exact absurd ⟨c', hc', hres, hrec⟩ hrest

theorem foldl_resume_eq (cs : List Suspended) (t : State J) :
    ∃ out, cs.foldl (fun s c => if c.resolves then resume s c else s) t =
      { t with subscribedDocs := storeAll t.subscribedDocs cs, delivered := t.delivered ++ out } := by
  induction cs generalizing t with
  | nil => exact ⟨[], by simp⟩
  | cons c cs ih =>
    rw [List.foldl_cons]
    by_cases hc : c.resolves
    · obtain ⟨o, hr⟩ := resume_eq t c
      obtain ⟨out, heq⟩ := ih (resume t c)
      refine ⟨o ++ out, ?_⟩
      rw [if_pos hc, heq, hr]
      simp [hc]
    · obtain ⟨out, heq⟩ := ih t
      refine ⟨out, ?_⟩
      rw [if_neg hc, heq]
      simp [hc]

theorem finish_eq (s : State J) :
    ∃ out, finish s = { s with
      suspended := []
      subscribedDocs := storeAll s.subscribedDocs s.suspended
      delivered := s.delivered ++ out } :=
  foldl_resume_eq _ _

@[simp] theorem finish_docs (s : State J) : (finish s).docs = s.docs := by
  obtain ⟨out, h⟩ := finish_eq s; rw [h]

@[simp] theorem finish_connected (s : State J) : (finish s).connected = s.connected := by
  obtain ⟨out, h⟩ := finish_eq s; rw [h]

@[simp] theorem finish_tableId (s : State J) : (finish s).tableId = s.tableId := by
  obtain ⟨out, h⟩ := finish_eq s; rw [h]

@[simp] theorem finish_eventHandlers (s : State J) : (finish s).eventHandlers = s.eventHandlers := by
  obtain ⟨out, h⟩ := finish_eq s; rw [h]

@[simp] theorem finish_subscribedDocs (s : State J) :
    (finish s).subscribedDocs = storeAll s.subscribedDocs s.suspended := by
  obtain ⟨out, h⟩ := finish_eq s; rw [h]

@[simp] theorem finish_suspended (s : State J) : (finish s).suspended = [] := by
  obtain ⟨out, h⟩ := finish_eq s; rw [h]

/-- **Resuming the `i`-th suspended call first changes nothing in the end**, when the suspended
calls of one record wait on one handle. -/
theorem storeAll_settle_get? (m : StrMap Nat) {cs : List Suspended} {i : Nat} {c : Suspended}
    (hi : cs[i]? = some c)
    (hcoh : ∀ c₁ ∈ cs, ∀ c₂ ∈ cs, c₁.recordId = c₂.recordId → c₁.doc = c₂.doc) (k : String) :
    (storeAll (if c.resolves then m.set c.recordId c.doc else m) (cs.eraseIdx i)).get? k =
      (storeAll m cs).get? k := by
  have hsub : ∀ x ∈ cs.eraseIdx i, x ∈ cs := fun _ => List.mem_of_mem_eraseIdx
  by_cases hw : ∃ c' ∈ cs, c'.resolves = true ∧ c'.recordId = k
  · obtain ⟨c', hc', hres', hrec'⟩ := hw
    have hall : ∀ x ∈ cs, x.resolves = true → x.recordId = k → x.doc = c'.doc :=
      fun x hx _ hr => hcoh x hx c' hc' (hr.trans hrec'.symm)
    rw [storeAll_get?_of_mem m hall ⟨c', hc', hres', hrec'⟩]
    by_cases hw' : ∃ x ∈ cs.eraseIdx i, x.resolves = true ∧ x.recordId = k
    · exact storeAll_get?_of_mem _ (fun x hx => hall x (hsub x hx)) hw'
    · rw [storeAll_get?_of_forall _ fun x hx hr hk => hw' ⟨x, hx, hr, hk⟩]
      -- the one call that stores at `k` is the `i`-th
      rcases mem_eraseIdx_or hi hc' with rfl | hc''
      · rw [if_pos hres', ← hrec', StrMap.get?_set_self]
      · exact absurd ⟨c', hc'', hres', hrec'⟩ hw'
  · have hno : ∀ x ∈ cs, x.resolves = true → x.recordId ≠ k := fun x hx hr hk => hw ⟨x, hx, hr, hk⟩
    rw [storeAll_get?_of_forall _ fun x hx => hno x (hsub x hx), storeAll_get?_of_forall _ hno]
    split
    · exact StrMap.get?_set_ne _ (hno c (List.getElem?_mem hi) ‹_›).symm _
    · rfl

/-! ### Registries that agree -/

/-- Two states agree on the registry and the handles: the same connection and table id, the same
entries in `subscribedDocs` and `eventHandlers` (in any order), and the same handles. -/
structure Agree (s t : State J) : Prop where
  connected : s.connected = t.connected
  tableId : s.tableId = t.tableId
  subscribedDocs : ∀ r, s.subscribedDocs.get? r = t.subscribedDocs.get? r
  eventHandlers : ∀ r, s.eventHandlers.get? r = t.eventHandlers.get? r
  docs : s.docs = t.docs

theorem Agree.trans {s t u : State J} (h₁ : Agree s t) (h₂ : Agree t u) : Agree s u :=
  ⟨h₁.1.trans h₂.1, h₁.2.trans h₂.2, fun r => (h₁.3 r).trans (h₂.3 r),
    fun r => (h₁.4 r).trans (h₂.4 r), h₁.5.trans h₂.5⟩

/-- A step that leaves `subscribedDocs`, `eventHandlers` and the suspended calls alone, and changes
the connection, the table id and the handles alike on both sides, keeps the agreement. -/
theorem Agree.frame {s t s' t' : State J} (ha : Agree (finish s) t) (hs : s'.suspended = s.suspended)
    (hsd : s'.subscribedDocs = s.subscribedDocs) (heh : s'.eventHandlers = s.eventHandlers)
    (htsd : t'.subscribedDocs = t.subscribedDocs) (hteh : t'.eventHandlers = t.eventHandlers)
    (hc : s'.connected = t'.connected) (ht : s'.tableId = t'.tableId) (hd : s'.docs = t'.docs) :
    Agree (finish s') t' :=
  ⟨by simp [hc], by simp [ht], fun r => by simpa [hs, hsd, htsd] using ha.subscribedDocs r,
    fun r => by simpa [heh, hteh] using ha.eventHandlers r, by simp [hd]⟩

/-- With no suspended call, `finish` changes nothing the agreement sees. -/
theorem agree_finish_of_nil {s : State J} (hs : s.suspended = []) : Agree (finish s) s :=
  ⟨by simp, by simp, fun r => by simp [hs], fun r => by simp, by simp⟩

theorem getDocument_congr {s t : State J} (hd : s.docs = t.docs) (col r : String) :
    (getDocument s col r).1 = (getDocument t col r).1 ∧
      (getDocument s col r).2.docs = (getDocument t col r).2.docs := by
  unfold getDocument
  rw [hd]
  split <;> simp [hd]

theorem addListener_get? (m : StrMap (List Nat)) (r r' : String) (l : Nat) :
    (addListener m r l).get? r' = if r' = r then
      some (if l ∈ (m.get? r).getD [] then (m.get? r).getD [] else (m.get? r).getD [] ++ [l])
      else m.get? r' := by
  have h₀ : ∀ k, k ≠ r → (if m.has r then m else m.set r []).get? k = m.get? k := by
    intro k hk
    split
    · rfl
    · exact StrMap.get?_set_ne _ hk _
  have h₁ : ((if m.has r then m else m.set r []).get? r).getD [] = (m.get? r).getD [] := by
    by_cases hh : m.has r
    · rw [if_pos hh]
    · rw [if_neg hh, StrMap.get?_set_self]
      rw [StrMap.has_eq, Option.not_isSome_iff_eq_none] at hh
      rw [hh]
      rfl
  unfold addListener
  simp only [StrMap.get?_set, h₁]
  split
  · rfl
  · exact h₀ r' ‹_›

/-- `addListener` reads the map only through its entries. -/
theorem addListener_get?_congr {m₁ m₂ : StrMap (List Nat)} (h : ∀ k, m₁.get? k = m₂.get? k)
    (r : String) (l : Nat) (k : String) : (addListener m₁ r l).get? k = (addListener m₂ r l).get? k := by
  rw [addListener_get?, addListener_get?, h, h]

/-- A `settle` of the only suspended call is `finish`. -/
theorem settle_zero_of_singleton {t : State J} {c : Suspended} (h : t.suspended = [c]) :
    settle t 0 = finish t := by
  simp [settle, finish, h]

theorem finish_settle_agree {s : State J} (hw : WellFormed s) (i : Nat) :
    Agree (finish (settle s i)) (finish s) := by
  rcases hi : s.suspended[i]? with _ | c
  · rw [show settle s i = s by simp [settle, hi]]
    exact ⟨rfl, rfl, fun _ => rfl, fun _ => rfl, rfl⟩
  · obtain ⟨out, heq⟩ := settle_of_some hi
    refine ⟨by simp [heq], by simp [heq], fun k => ?_, fun _ => by simp [heq], by simp [heq]⟩
    rw [finish_subscribedDocs, finish_subscribedDocs, heq]
    exact storeAll_settle_get? _ hi (fun _ h₁ _ h₂ hr => hw.suspended_doc_eq h₁ h₂ hr) k

theorem unsubscribeRecord_docs_congr {s t : State J} {r : String} (hd : s.docs = t.docs)
    (hr : s.subscribedDocs.get? r = t.subscribedDocs.get? r) :
    (unsubscribeRecord s r).docs = (unsubscribeRecord t r).docs := by
  rcases hs : s.subscribedDocs.get? r with _ | h
  · rw [unsubscribeRecord_of_none hs, unsubscribeRecord_of_none (hr ▸ hs)]
    exact hd
  · rw [unsubscribeRecord_of_some hs, unsubscribeRecord_of_some (hr ▸ hs)]
    simp [State.modifyDoc, hd]

theorem agree_unsubscribeRecord {s t : State J} (ha : Agree (finish s) t) {r : String}
    (hr : ∀ c ∈ s.suspended, c.recordId ≠ r) :
    Agree (finish (unsubscribeRecord s r)) (unsubscribeRecord t r) := by
  have hnone : ∀ c ∈ s.suspended, c.resolves = true → c.recordId ≠ r := fun c hc _ => hr c hc
  have hget : s.subscribedDocs.get? r = t.subscribedDocs.get? r := by
    rw [← ha.subscribedDocs r, finish_subscribedDocs, storeAll_get?_of_forall _ hnone]
  refine ⟨by simpa using ha.connected, by simpa using ha.tableId, fun k => ?_, fun k => ?_, ?_⟩
  · rw [finish_subscribedDocs, unsubscribeRecord_suspended, unsubscribeRecord_subscribedDocs_get?]
    by_cases hk : k = r
    · subst hk
      rw [storeAll_get?_of_forall _ hnone, unsubscribeRecord_subscribedDocs_get?, if_pos rfl, if_pos rfl]
    · rw [if_neg hk, ← ha.subscribedDocs k, finish_subscribedDocs]
      exact storeAll_get?_congr (by rw [unsubscribeRecord_subscribedDocs_get?, if_neg hk]) _
  · simp only [finish_eventHandlers, unsubscribeRecord_eventHandlers, StrMap.get?_delete]
    split
    · rfl
    · simpa using ha.eventHandlers k
  · rw [finish_docs]
    exact unsubscribeRecord_docs_congr (by simpa using ha.docs) hget

theorem agree_unsubscribeRecords {s t : State J} (ha : Agree (finish s) t) {rs : List String}
    (hr : ∀ c ∈ s.suspended, c.recordId ∉ rs) :
    Agree (finish (unsubscribeRecords s rs)) (unsubscribeRecords t rs) := by
  induction rs generalizing s t with
  | nil => exact ha
  | cons r rs ih =>
    refine ih (agree_unsubscribeRecord ha fun c hc h => hr c hc (h ▸ .head _)) fun c hc h => ?_
    rw [unsubscribeRecord_suspended] at hc
    exact hr c hc (.tail _ h)

/-- `unsubscribeRecords` destroys exactly the handles stored under the records it is given. -/
theorem unsubscribeRecords_docs_getElem? (s : State J) (rs : List String) (k : Nat) :
    (unsubscribeRecords s rs).docs[k]? = s.docs[k]?.map fun d =>
      if ∃ r ∈ rs, s.subscribedDocs.get? r = some k then { d with destroyed := true } else d := by
  induction rs generalizing s with
  | nil => simp
  | cons r rs ih =>
    rw [unsubscribeRecords_cons, ih]
    have hdocs : (unsubscribeRecord s r).docs[k]? = s.docs[k]?.map fun d =>
        if s.subscribedDocs.get? r = some k then { d with destroyed := true } else d := by
      rcases hs : s.subscribedDocs.get? r with _ | h
      · rw [unsubscribeRecord_of_none hs]; simp
      · rw [unsubscribeRecord_of_some hs, getElem?_modifyDoc]
        by_cases hk : h = k <;> simp [hk]
    rw [hdocs, Option.map_map]
    congr 1
    funext d
    have hiff : (∃ r' ∈ r :: rs, s.subscribedDocs.get? r' = some k) ↔ s.subscribedDocs.get? r = some k ∨
        ∃ r' ∈ rs, (unsubscribeRecord s r).subscribedDocs.get? r' = some k := by
      constructor
      · rintro ⟨r', hr', h'⟩
        rcases List.mem_cons.mp hr' with rfl | hr'
        · exact .inl h'
        · by_cases hrr : r' = r
          · subst hrr; exact .inl h'
          · exact .inr ⟨r', hr', by rw [unsubscribeRecord_subscribedDocs_get?, if_neg hrr]; exact h'⟩
      · rintro (h' | ⟨r', hr', h'⟩)
        · exact ⟨r, List.mem_cons_self _ _, h'⟩
        · rw [unsubscribeRecord_subscribedDocs_get?] at h'
          split at h'
          · cases h'
          · exact ⟨r', List.mem_cons_of_mem _ hr', h'⟩
    simp only [Function.comp_apply]
    by_cases hB : s.subscribedDocs.get? r = some k
    · rw [if_pos hB, if_pos (hiff.mpr (.inl hB))]
      split <;> rfl
    · rw [if_neg hB]
      by_cases hA : ∃ r' ∈ rs, (unsubscribeRecord s r).subscribedDocs.get? r' = some k
      · rw [if_pos hA, if_pos (hiff.mpr (.inr hA))]
      · rw [if_neg hA, if_neg fun h => (hiff.mp h).elim hB hA]

/-- With no suspended call, `unsubscribeAll` keeps the agreement: it tears down the same records,
whatever order `subscribedDocs` keeps them in. -/
theorem agree_unsubscribeAll {s t : State J} (ha : Agree (finish s) t) (hs : s.suspended = []) :
    Agree (finish (unsubscribeAll s)) (unsubscribeAll t) := by
  have hsd : ∀ r, s.subscribedDocs.get? r = t.subscribedDocs.get? r := fun r => by
    simpa [hs] using ha.subscribedDocs r
  have hkeys : ∀ r, r ∈ s.subscribedDocs.keys ↔ r ∈ t.subscribedDocs.keys := fun r => by
    rw [StrMap.mem_keys_iff, StrMap.mem_keys_iff, hsd]
  have hs' : (unsubscribeAll s).suspended = [] := by simp [unsubscribeAll, hs]
  refine ⟨by simpa [unsubscribeAll] using ha.connected, by simpa [unsubscribeAll] using ha.tableId,
    fun r => ?_, fun r => ?_, ?_⟩
  · rw [finish_subscribedDocs, hs', storeAll_nil, unsubscribeAll_subscribedDocs_get?,
      unsubscribeAll_subscribedDocs_get?]
  · rw [finish_eventHandlers, unsubscribeAll, unsubscribeAll, unsubscribeRecords_eventHandlers_get?,
      unsubscribeRecords_eventHandlers_get?, ← ha.eventHandlers r, finish_eventHandlers]
    simp only [hkeys]
  · rw [finish_docs]
    apply List.ext_getElem?
    intro k
    rw [unsubscribeAll, unsubscribeAll, unsubscribeRecords_docs_getElem?,
      unsubscribeRecords_docs_getElem?, show s.docs = t.docs by simpa using ha.docs]
    simp only [hkeys, hsd]

/-! ### Serial executions -/

/-- A call run whole: a `subscribeRecord` resumes at once, and a resumption of the interleaved run
has no counterpart. -/
def Step.serial : Step J → List (Step J)
  | .subscribeRecord r l ok => [.subscribeRecord r l ok, .settle 0]
  | .settle _ => []
  | st => [st]

/-- The serial execution of the calls of a run. -/
def serialize (steps : List (Step J)) : List (Step J) := steps.flatMap Step.serial

theorem serialize_cons (st : Step J) (steps : List (Step J)) :
    serialize (st :: steps) = st.serial ++ serialize steps := List.flatMap_cons _ _ _

/-- A document event or a call that touches neither `subscribedDocs`, `eventHandlers` nor the
suspended calls changes the handles as a function of the handles alone. -/
theorem step_event_eq (u : State J) (h : Nat) (x : J) (kind : HandlerKind) (e : DocEvent J) :
    ∃ out, emit (u.modifyDoc h fun d => { d with data := some x }) h kind e =
      { u.modifyDoc h (fun d => { d with data := some x }) with delivered := u.delivered ++ out } :=
  emit_eq _ _ _ _

section Runs

variable [EmptyCollection J]

theorem step_submitFieldUpdate_eq (u : State J) (r f : String) (new old : JsValue J) :
    ∃ out, step u (.submitFieldUpdate r f new old) = { u with submitted := u.submitted ++ out } := by
  simp only [step]
  split
  · exact submitFieldUpdate_eq_ok ‹_›
  · exact ⟨[], by simp⟩

theorem step_reportError_eq (u : State J) (h : Nat) :
    ∃ out, step u (.reportError h) = { u with delivered := u.delivered ++ out } := by
  simp only [step, reportError]
  split
  · exact emit_eq _ _ _ _
  · exact ⟨[], by simp⟩

/-- The `subscribeRecord` step of the simulation: the interleaved call suspends, the serial one
resumes at once, and both attach the same handlers to the same handle. -/
theorem agree_subscribeRecord {s t : State J} (ha : Agree (finish s) t) (ht : t.suspended = [])
    (r : String) (l : Nat) (ok : Bool) :
    Agree (finish (step s (.subscribeRecord r l ok))) (run t (Step.serial (.subscribeRecord r l ok))) ∧
      (run t (Step.serial (.subscribeRecord r l ok))).suspended = [] := by
  have hcon : s.connected = t.connected := by simpa using ha.connected
  have htab : s.tableId = t.tableId := by simpa using ha.tableId
  have hdoc : s.docs = t.docs := by simpa using ha.docs
  simp only [Step.serial, run_cons, run_nil, step]
  rcases hs : subscribeRecord s r l ok with e | s'
  · obtain ⟨e', ht'⟩ : ∃ e', subscribeRecord t r l ok = .error e' := by
      rcases subscribeRecord_eq_error hs with ⟨hc, -⟩ | ⟨hc, he⟩
      · exact ⟨notConnectedError, by simp [subscribeRecord, ← hcon, hc]⟩
      · exact ⟨e, by simp [subscribeRecord, ← hcon, hc, ← htab, he]⟩
    rw [ht', show settle t 0 = t by simp [settle, ht]]
    exact ⟨ha, ht⟩
  · obtain ⟨hconn, col, hcol, rfl⟩ := subscribeRecord_eq_ok hs
    obtain ⟨t', ht'⟩ : ∃ t', subscribeRecord t r l ok = .ok t' := by
      simp only [subscribeRecord, ← hcon, hconn, ← htab, hcol, Bool.true_eq_false, if_false]
      exact ⟨_, rfl⟩
    obtain ⟨-, col', hcol', rfl⟩ := subscribeRecord_eq_ok ht'
    rw [← htab, hcol, Except.ok.injEq] at hcol'
    subst hcol'
    obtain ⟨hg₁, hg₂⟩ := getDocument_congr hdoc col r
    simp only [ht', ht, List.nil_append]
    rw [settle_zero_of_singleton rfl]
    refine ⟨⟨by simpa using ha.connected, by simpa using ha.tableId, fun k => ?_,
      fun k => by simpa using addListener_get?_congr (fun k => by simpa using ha.eventHandlers k) r l k,
      by simp [hg₁, hg₂]⟩, by simp⟩
    simp only [finish_subscribedDocs, storeAll_append_singleton, storeAll_cons, storeAll_nil, hg₁]
    split
    · rw [StrMap.get?_set, StrMap.get?_set, ← ha.subscribedDocs k, finish_subscribedDocs]
    · rw [← ha.subscribedDocs k, finish_subscribedDocs]

/-- **One step of the interleaved run against the same call run whole.** -/
theorem agree_step {s t : State J} (hw : WellFormed s) {st : Step J} (hc : st.Concurrent s)
    (ha : Agree (finish s) t) (ht : t.suspended = []) :
    Agree (finish (step s st)) (run t st.serial) ∧ (run t st.serial).suspended = [] := by
  have hcon : s.connected = t.connected := by simpa using ha.connected
  have htab : s.tableId = t.tableId := by simpa using ha.tableId
  have hdoc : s.docs = t.docs := by simpa using ha.docs
  cases st with
  | connect => exact ⟨ha.frame rfl rfl rfl rfl rfl rfl htab hdoc, ht⟩
  | disconnect => exact ⟨ha.frame rfl rfl rfl rfl rfl rfl htab hdoc, ht⟩
  | setTableId _ => exact ⟨ha.frame rfl rfl rfl rfl rfl hcon rfl hdoc, ht⟩
  | subscribeRecord r l ok => exact agree_subscribeRecord ha ht r l ok
  | settle i => exact ⟨(finish_settle_agree hw i).trans ha, ht⟩
  | unsubscribeRecord r =>
    exact ⟨agree_unsubscribeRecord ha hc, by simpa [Step.serial, step] using ht⟩
  | unsubscribeRecords rs =>
    exact ⟨agree_unsubscribeRecords ha hc, by simpa [Step.serial, step] using ht⟩
  | unsubscribeAll =>
    exact ⟨agree_unsubscribeAll ha hc, by simpa [Step.serial, step, unsubscribeAll] using ht⟩
  | cleanup =>
    have hu := agree_unsubscribeAll ha hc
    refine ⟨hu.frame rfl rfl rfl rfl rfl rfl rfl ?_,
      by simpa [Step.serial, step, cleanup, unsubscribeAll] using ht⟩
    show (unsubscribeAll s).docs = (unsubscribeAll t).docs
    simpa using hu.docs
  | submitFieldUpdate r f new old =>
    obtain ⟨o₁, h₁⟩ := step_submitFieldUpdate_eq s r f new old
    obtain ⟨o₂, h₂⟩ := step_submitFieldUpdate_eq t r f new old
    simp only [Step.serial, run_cons, run_nil, h₁, h₂]
    exact ⟨ha.frame rfl rfl rfl rfl rfl hcon htab hdoc, ht⟩
  | load h x =>
    obtain ⟨o₁, h₁⟩ := step_event_eq s h x .load ⟨[], false, x⟩
    obtain ⟨o₂, h₂⟩ := step_event_eq t h x .load ⟨[], false, x⟩
    simp only [Step.serial, run_cons, run_nil, step, load, h₁, h₂]
    exact ⟨ha.frame rfl rfl rfl rfl rfl hcon htab (by simp [State.modifyDoc, hdoc]), ht⟩
  | applyOp h e =>
    obtain ⟨o₁, h₁⟩ := step_event_eq s h e.data .op e
    obtain ⟨o₂, h₂⟩ := step_event_eq t h e.data .op e
    simp only [Step.serial, run_cons, run_nil, step, applyOp, h₁, h₂]
    exact ⟨ha.frame rfl rfl rfl rfl rfl hcon htab (by simp [State.modifyDoc, hdoc]), ht⟩
  | reportError h =>
    obtain ⟨o₁, h₁⟩ := step_reportError_eq s h
    obtain ⟨o₂, h₂⟩ := step_reportError_eq t h
    simp only [Step.serial, run_cons, run_nil, h₁, h₂]
    exact ⟨ha.frame rfl rfl rfl rfl rfl hcon htab hdoc, ht⟩

theorem agree_run {s t : State J} (hw : WellFormed s) {steps : List (Step J)}
    (hg : Guarded step Step.Concurrent s steps) (ha : Agree (finish s) t) (ht : t.suspended = []) :
    Agree (finish (run s steps)) (run t (serialize steps)) := by
  induction steps generalizing s t with
  | nil => exact ha
  | cons st steps ih =>
    obtain ⟨hc, hg'⟩ := hg
    obtain ⟨ha', ht'⟩ := agree_step hw hc ha ht
    rw [serialize_cons, run_append]
    exact ih (wellFormed_step hw hc) hg' ha' ht'

/-- **Interleaved calls end as their serial execution.**  From a well-formed state with no call
suspended, a run in which no `setTableId`, `unsubscribeAll` or `cleanup` runs while a
`subscribeRecord` is suspended, and no unsubscribe of a record while a `subscribeRecord` of it is,
ends, once every suspended call has completed, with the connection, table id, entries of
`subscribedDocs` and `eventHandlers`, and handles of the serial execution in which each
`subscribeRecord` runs whole where it starts. -/
theorem finish_run_agree_serialize (s : State J) (hw : WellFormed s) (hs : s.suspended = [])
    (steps : List (Step J)) (hg : Guarded step Step.Concurrent s steps) :
    Agree (finish (run s steps)) (run s (serialize steps)) :=
  agree_run hw hg (agree_finish_of_nil hs) hs

theorem finish_run_agree_serialize_two_records :
    (WellFormed (State.init true : State (List Nat)) ∧ (State.init true : State (List Nat)).suspended = [] ∧
      Guarded step Step.Concurrent (State.init true : State (List Nat))
        [.setTableId "t", .subscribeRecord "a" 1 true, .subscribeRecord "b" 2 true, .settle 1,
          .unsubscribeRecord "b", .settle 0]) ∧
      Agree (finish (run (State.init true : State (List Nat))
          [.setTableId "t", .subscribeRecord "a" 1 true, .subscribeRecord "b" 2 true, .settle 1,
            .unsubscribeRecord "b", .settle 0]))
        (run (State.init true) (serialize
          [.setTableId "t", .subscribeRecord "a" 1 true, .subscribeRecord "b" 2 true, .settle 1,
            .unsubscribeRecord "b", .settle 0])) :=
  ⟨⟨WellFormed.init true, rfl, by decide⟩,
    finish_run_agree_serialize _ (WellFormed.init true) rfl _ (by decide)⟩

/-- An unsubscribe of `r` while `subscribeRecord(r)` waits on `doc.subscribe()` ends with `r`
stored with a live handle and no listener registered, which neither serial order of the two calls
gives; a `cleanup` in the same place leaves one record subscribed. -/
theorem unsubscribe_during_subscribe :
    (run (State.init true : State (List Nat))
        [.setTableId "t", .subscribeRecord "r" 1 true, .unsubscribeRecord "r", .settle 0]).subscribedDocs.get? "r" = some 0 ∧
      ((run (State.init true : State (List Nat))
        [.setTableId "t", .subscribeRecord "r" 1 true, .unsubscribeRecord "r", .settle 0]).docs.map (·.destroyed)) = [false] ∧
      (run (State.init true : State (List Nat))
        [.setTableId "t", .subscribeRecord "r" 1 true, .unsubscribeRecord "r", .settle 0]).eventHandlers.get? "r" = none ∧
      (run (State.init true : State (List Nat))
        [.setTableId "t", .subscribeRecord "r" 1 true, .settle 0, .unsubscribeRecord "r"]).subscribedDocs.get? "r" = none ∧
      (run (State.init true : State (List Nat))
        [.setTableId "t", .unsubscribeRecord "r", .subscribeRecord "r" 1 true, .settle 0]).eventHandlers.get? "r" = some [1] ∧
      getSubscribedCount (run (State.init true : State (List Nat))
        [.setTableId "t", .subscribeRecord "r" 1 true, .cleanup, .settle 0]) = 1 := by
  decide

end Runs

end LuckDB.ShareDB
