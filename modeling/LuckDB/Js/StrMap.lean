import Mathlib.Data.List.Nodup

/-!
# String-keyed JavaScript maps

`StrMap V` is a JavaScript `Map<string, V>`, or the own properties of a plain object: its entries
in insertion order, each key once (the structure carries that invariant).  `set` keeps an existing
key in its place and appends a new one, as both `map.set(k, v)` and `o[k] = v` do; `keys` is the
iteration order of `map.keys()` and `Object.keys(o)`.

A plain object is such a map on its `PlainKey`s only.  `o[k]` also reads the members of
`Object.prototype` (`objectPrototypeNames`) that `o` does not hold itself, `o.__proto__ = v` calls
that prototype's setter and makes no member, and `Object.keys(o)` lists the array indices
(`isArrayIndex`) first, in ascending order, before the other keys in insertion order.

The lemmas read every operation off `get?`, so that later proofs compare maps by their lookups
(`get?_set`, `get?_delete`), and read a fold of writes off its single write to a key
(`get?_foldl_of_unique`).
-/

namespace LuckDB.Js

/-- A string-keyed JavaScript map: its entries in insertion order, each key once. -/
structure StrMap (V : Type) where
  entries : List (String × V)
  nodup : (entries.map Prod.fst).Nodup

namespace StrMap

variable {V : Type}

/-- `new Map()`, or `{}`. -/
def empty : StrMap V := ⟨[], List.nodup_nil⟩

/-- `Array.from(map.keys())`, or `Object.keys(o)`. -/
def keys (m : StrMap V) : List String := m.entries.map Prod.fst

/-- `map.get(k)`: `none` for an absent key. -/
def get? (m : StrMap V) (k : String) : Option V := m.entries.lookup k

/-- `map.has(k)`. -/
def has (m : StrMap V) (k : String) : Bool := (m.get? k).isSome

/-- `map.size`. -/
def size (m : StrMap V) : Nat := m.entries.length

theorem nodup_map_fst_update (es : List (String × V)) (k : String) (v : V)
    (h : (es.map Prod.fst).Nodup) :
    ((es.map fun e => if e.1 = k then (k, v) else e).map Prod.fst).Nodup := by
  rw [List.map_map]
  convert h using 2
  funext e
  by_cases he : e.1 = k <;> simp [he]

/-- `map.set(k, v)`, or `o[k] = v`: an existing key keeps its place, a new one goes last. -/
def set (m : StrMap V) (k : String) (v : V) : StrMap V :=
  if hk : k ∈ m.keys then
    ⟨m.entries.map fun e => if e.1 = k then (k, v) else e, nodup_map_fst_update _ k v m.nodup⟩
  else
    ⟨m.entries ++ [(k, v)], by
      rw [List.map_append, List.nodup_append]
      exact ⟨m.nodup, List.nodup_singleton _, by simpa [keys] using hk⟩⟩

/-- `map.delete(k)`. -/
def delete (m : StrMap V) (k : String) : StrMap V :=
  ⟨m.entries.filter fun e => e.1 ≠ k, (List.Sublist.map _ (List.filter_sublist _)).nodup m.nodup⟩

/-! ### Lookups -/

@[simp] theorem get?_empty (k : String) : (empty : StrMap V).get? k = none := rfl

theorem lookup_cons_ne {β : Type} {k a : String} {b : β} {es : List (String × β)} (h : k ≠ a) :
    ((a, b) :: es).lookup k = es.lookup k := by
  simp [List.lookup_cons, beq_eq_false_iff_ne.mpr h]

theorem lookup_map_update (es : List (String × V)) (k k' : String) (v : V) :
    (es.map fun e => if e.1 = k then (k, v) else e).lookup k'
      = if k' = k then (if k ∈ es.map Prod.fst then some v else none) else es.lookup k' := by
  induction es with
  | nil => split_ifs <;> simp_all
  | cons e es ih =>
    obtain ⟨a, b⟩ := e
    by_cases ha : a = k
    · subst ha
      by_cases hk : k' = a
      · subst hk; simp
      · simp [lookup_cons_ne hk, ih, hk]
    · by_cases hk : k' = a
      · subst hk; simp [ha, Ne.symm ha, lookup_cons_ne (Ne.symm ha)]
      · simp only [List.map_cons, ha, if_false, lookup_cons_ne hk, ih, List.mem_cons]
        by_cases hk' : k' = k
        · subst hk'; simp only [hk, false_or]
        · simp [hk']

theorem get?_set (m : StrMap V) (k k' : String) (v : V) :
    (m.set k v).get? k' = if k' = k then some v else m.get? k' := by
  unfold set get?
  split
  case isTrue hk =>
    rw [lookup_map_update]
    simp only [keys] at hk
    simp [hk]
  case isFalse hk =>
    rw [List.lookup_append]
    by_cases hk' : k' = k
    · subst hk'
      have : m.entries.lookup k' = none := List.lookup_eq_none_iff.mpr fun p hp =>
        bne_iff_ne.mpr fun h => hk (by rw [keys, h]; exact List.mem_map_of_mem _ hp)
      simp [this]
    · simp [hk', lookup_cons_ne hk']

@[simp] theorem get?_set_self (m : StrMap V) (k : String) (v : V) :
    (m.set k v).get? k = some v := by
  simp [get?_set]

theorem get?_set_ne (m : StrMap V) {k k' : String} (h : k' ≠ k) (v : V) :
    (m.set k v).get? k' = m.get? k' := by
  simp [get?_set, h]

theorem lookup_filter_ne (es : List (String × V)) (k k' : String) :
    (es.filter fun e => e.1 ≠ k).lookup k' = if k' = k then none else es.lookup k' := by
  induction es with
  | nil => split_ifs <;> rfl
  | cons e es ih =>
    obtain ⟨a, b⟩ := e
    rw [List.filter_cons]
    by_cases ha : a = k
    · subst ha
      simp only [ne_eq, not_true_eq_false, decide_False, Bool.false_eq_true, if_false, ih]
      by_cases hk : k' = a
      · simp [hk]
      · simp [hk, lookup_cons_ne hk]
    · simp only [ne_eq, ha, not_false_eq_true, decide_True, if_true]
      by_cases hk : k' = a
      · subst hk; simp [ha]
      · rw [lookup_cons_ne hk, lookup_cons_ne hk, ih]

theorem get?_delete (m : StrMap V) (k k' : String) :
    (m.delete k).get? k' = if k' = k then none else m.get? k' := lookup_filter_ne _ _ _

@[simp] theorem get?_delete_self (m : StrMap V) (k : String) : (m.delete k).get? k = none := by
  simp [get?_delete]

theorem get?_delete_ne (m : StrMap V) {k k' : String} (h : k' ≠ k) :
    (m.delete k).get? k' = m.get? k' := by
  simp [get?_delete, h]

theorem mem_keys_iff (m : StrMap V) (k : String) : k ∈ m.keys ↔ (m.get? k).isSome := by
  simp [keys, get?, List.lookup_isSome_iff]

theorem has_eq (m : StrMap V) (k : String) : m.has k = (m.get? k).isSome := rfl

theorem mem_entries_iff (m : StrMap V) (k : String) (v : V) :
    (k, v) ∈ m.entries ↔ m.get? k = some v := by
  unfold get?
  obtain ⟨es, hnd⟩ := m
  induction es with
  | nil => simp
  | cons e es ih =>
    obtain ⟨a, b⟩ := e
    simp only [List.map_cons, List.nodup_cons] at hnd
    by_cases ha : k = a
    · subst ha
      have hnot : (k, v) ∉ es := fun h => hnd.1 (List.mem_map_of_mem Prod.fst h)
      simp only [List.mem_cons, Prod.mk.injEq, true_and, hnot, or_false, List.lookup_cons_self,
        Option.some.injEq]
      exact eq_comm
    · simp [lookup_cons_ne ha, ha, ih hnd.2]

theorem nodup_entries (m : StrMap V) : m.entries.Nodup := List.Nodup.of_map _ m.nodup

/-- Deleting an absent key changes nothing. -/
theorem delete_of_get?_eq_none {m : StrMap V} {k : String} (h : m.get? k = none) :
    m.delete k = m := by
  obtain ⟨es, hnd⟩ := m
  simp only [delete, mk.injEq]
  refine List.filter_eq_self.mpr fun e he => ?_
  have hk : e.1 ≠ k := by
    rintro rfl
    rw [(mem_entries_iff ⟨es, hnd⟩ e.1 e.2).mp he] at h
    cases h
  simpa using hk

theorem nodup_keys (m : StrMap V) : m.keys.Nodup := m.nodup

/-! ### The values, filtered -/

/-- Writing a value the filter drops, over one it drops, leaves the filtered values alone. -/
theorem filter_values_set (m : StrMap V) (k : String) (v : V) (q : V → Bool) (hv : q v = false)
    (hold : ∀ g, m.get? k = some g → q g = false) :
    ((m.set k v).entries.map Prod.snd).filter q = (m.entries.map Prod.snd).filter q := by
  have key : ∀ es : List (String × V), (∀ e ∈ es, e.1 = k → q e.2 = false) →
      ((es.map fun e => if e.1 = k then (k, v) else e).map Prod.snd).filter q =
        (es.map Prod.snd).filter q := by
    intro es hes
    induction es with
    | nil => rfl
    | cons e es ih =>
      simp only [List.map_cons, List.filter_cons, ih fun e' he' => hes e' (.tail _ he')]
      by_cases he : e.1 = k
      · rw [if_pos he, if_neg (by simp [hv]), if_neg (by simp [hes e (.head _) he])]
      · rw [if_neg he]
  unfold set
  split
  · exact key _ fun e he hk => hold e.2 ((mem_entries_iff m k e.2).mp (hk ▸ he))
  · simp [hv]

/-- Deleting a key whose value the filter drops leaves the filtered values alone. -/
theorem filter_values_delete (m : StrMap V) (k : String) (q : V → Bool)
    (hold : ∀ g, m.get? k = some g → q g = false) :
    ((m.delete k).entries.map Prod.snd).filter q = (m.entries.map Prod.snd).filter q := by
  have key : ∀ es : List (String × V), (∀ e ∈ es, e.1 = k → q e.2 = false) →
      ((es.filter fun e => e.1 ≠ k).map Prod.snd).filter q = (es.map Prod.snd).filter q := by
    intro es hes
    induction es with
    | nil => rfl
    | cons e es ih =>
      have ih := ih fun e' he' => hes e' (.tail _ he')
      simp only [List.filter_cons, List.map_cons]
      by_cases he : e.1 = k
      · rw [if_neg (by simp [he]), if_neg (by simp [hes e (.head _) he]), ih]
      · rw [if_pos (by simp [he])]
        simp only [List.map_cons, List.filter_cons, ih]
  exact key _ fun e he hk => hold e.2 ((mem_entries_iff m k e.2).mp (hk ▸ he))

/-! ### Folds of writes -/

/-- A fold leaves `k` alone when each of its steps does. -/
theorem get?_foldl_of_forall {α : Type} (step : StrMap V → α → StrMap V) (k : String) :
    ∀ (xs : List α) (init : StrMap V), (∀ x ∈ xs, ∀ o, (step o x).get? k = o.get? k) →
      (xs.foldl step init).get? k = init.get? k
  | [], _, _ => rfl
  | x :: xs, init, h => by
    rw [List.foldl_cons, get?_foldl_of_forall step k xs _ (fun y hy => h y (.tail _ hy)),
      h x (.head _)]

/-- A fold whose only step touching `k` is `x`, which writes `v` there, ends with `v` at `k`. -/
theorem get?_foldl_of_unique {α : Type} (step : StrMap V → α → StrMap V) (k : String)
    {xs : List α} (hxs : xs.Nodup) {x : α} (hx : x ∈ xs) {v : Option V}
    (hwrite : ∀ o, (step o x).get? k = v)
    (hother : ∀ y ∈ xs, y ≠ x → ∀ o, (step o y).get? k = o.get? k) (init : StrMap V) :
    (xs.foldl step init).get? k = v := by
  obtain ⟨l₁, l₂, rfl⟩ := List.append_of_mem hx
  have hx₂ : x ∉ l₂ := fun h =>
    (List.nodup_cons.mp (List.nodup_middle.mp hxs)).1 (List.mem_append_right _ h)
  rw [List.foldl_append, List.foldl_cons,
    get?_foldl_of_forall step k l₂ _ (fun y hy => hother y (by simp [hy]) (fun h => hx₂ (h ▸ hy))),
    hwrite]

end StrMap

/-! ### The keys of plain objects -/

/-- The members every plain object inherits from `Object.prototype`. -/
def objectPrototypeNames : List String :=
  ["constructor", "__defineGetter__", "__defineSetter__", "hasOwnProperty", "__lookupGetter__",
    "__lookupSetter__", "isPrototypeOf", "propertyIsEnumerable", "toString", "valueOf",
    "__proto__", "toLocaleString"]

/-- An array index: `String(n)` for an `n` below `2 ** 32 - 1`, with no sign and no leading
zero. -/
def isArrayIndex (k : String) : Bool :=
  match k.data with
  | [] => false
  | ['0'] => true
  | '0' :: _ => false
  | ds => ds.all Char.isDigit &&
      decide (ds.foldl (fun n c => 10 * n + (c.toNat - '0'.toNat)) 0 < 4294967295)

/-- A key on which a plain object's own members are a `StrMap`: no member of `Object.prototype`
is read or set in its place, and `Object.keys` lists it in insertion order. -/
def PlainKey (k : String) : Prop := k ∉ objectPrototypeNames ∧ isArrayIndex k = false

instance : DecidablePred PlainKey :=
  fun k => inferInstanceAs (Decidable (k ∉ objectPrototypeNames ∧ isArrayIndex k = false))

example : isArrayIndex "42" = true ∧ isArrayIndex "042" = false ∧ isArrayIndex "fld1" = false ∧
    isArrayIndex "4294967295" = false := by decide

end LuckDB.Js
