import Mathlib.Order.MinMax
import Mathlib.Tactic.SplitIfs
import LuckDB.Sdk.FieldService

/-!
# Correctness of `getFullList` and of `getList`'s pagination

Against a server that answers page `p` with `slice L p n` (`sliceServer`), in any accepted shape and
with any extra members, page by page:

* `getFullList_sliceServer`: with enough fuel, `getFullList` returns `L` and asked for the pages
  `1, …, ⌊|L| / 100⌋ + 1` in order.  The loop keeps `result = L.take (k · 100)` at page `k + 1`
  (`getFullListLoop_sliceServer`).
* `getList_pagination_of_carriesTotal`: when the response reports `|L|` as its total and `n` as its
  page size, `hasNext ↔ p n < |L|`, `total = |L|` and `totalPages = max 1 ⌈|L| / n⌉`.
* `getList_pagination_of_not_carriesTotal`: a response without a total member makes `total` the
  length of the page itself and `hasNext` false, whatever `L` is.
-/

namespace LuckDB.FieldService

variable {α : Type}

/-! ### The loop of `getFullList` -/

theorem length_slice (L : List α) (p n : Nat) :
    (slice L p n).length = min n (L.length - (p - 1) * n) := by
  simp [slice]

/-- The loop invariant: at page `k + 1` the result is the first `k` pages of `L`. -/
theorem getFullListLoop_sliceServer (L : List α) (shape : Nat → Shape) :
    ∀ (fuel k : Nat), k ≤ L.length / 100 → L.length / 100 + 1 - k ≤ fuel →
      getFullListLoop (sliceServer L shape) fuel (k + 1) (L.take (k * 100))
        = some (L, List.range' (k + 1) (L.length / 100 + 1 - k))
  | 0, k, hk, hfuel => by omega
  | fuel + 1, k, hk, hfuel => by
    have hlen := length_slice L (k + 1) 100
    have htake : L.take (k * 100) ++ slice L (k + 1) 100 = L.take ((k + 1) * 100) := by
      rw [slice, Nat.add_sub_cancel, ← List.take_add, Nat.succ_mul]
    simp only [getFullListLoop, getList_sliceServer_items, htake]
    split
    case isTrue hlt =>
      have hk' : L.length / 100 = k := by omega
      rw [List.take_of_length_le (by omega), hk', Nat.add_sub_cancel_left]
      rfl
    case isFalse hge =>
      rw [getFullListLoop_sliceServer L shape fuel (k + 1) (by omega) (by omega)]
      obtain ⟨j, hj⟩ : ∃ j, L.length / 100 + 1 - k = j + 1 := ⟨L.length / 100 - k, by omega⟩
      rw [hj, List.range'_succ, show L.length / 100 + 1 - (k + 1) = j by omega]
      rfl

/-- **`getFullList` returns the whole list.**  Against a server that answers page `p` with
`L[(p − 1) 100, p 100)` in any accepted shape, `getFullList` asks for the pages
`1, …, ⌊|L| / 100⌋ + 1` in order and returns `L`, with none lost or duplicated. -/
theorem getFullList_sliceServer (L : List α) (shape : Nat → Shape) (fuel : Nat)
    (hfuel : L.length / 100 + 1 ≤ fuel) :
    getFullList (sliceServer L shape) fuel = some (L, List.range' 1 (L.length / 100 + 1)) := by
  simpa using getFullListLoop_sliceServer L shape fuel 0 (Nat.zero_le _) (by omega)

theorem getFullList_sliceServer_250 :
    (List.range 250).length / 100 + 1 ≤ 3 ∧
      getFullList (sliceServer (List.range 250) fun _ => .array) 3
        = some (List.range 250, List.range' 1 ((List.range 250).length / 100 + 1)) :=
  ⟨by simp, getFullList_sliceServer (List.range 250) (fun _ => .array) 3 (by simp)⟩

/-! ### The pagination of `getList` -/

/-- The server reports `total` as its total and `n` as its page size wherever its shape has
these members. -/
def Shape.Reports (total n : Nat) : Shape → Prop
  | .array => True
  | .fields t ps l => (∀ x ∈ t, x = total) ∧ (∀ x ∈ ps, x = n) ∧ (∀ x ∈ l, x = n)
  | .items none => True
  | .items (some pg) => (∀ x ∈ pg.total, x = total) ∧ (∀ x ∈ pg.pageSize, x = n)

/-- The shape has a total member: `{ fields, total }` or `{ items, pagination: { total } }`. -/
def Shape.CarriesTotal : Shape → Prop
  | .fields t _ _ => t.isSome
  | .items (some pg) => pg.total.isSome
  | _ => False

theorem orElse_of_forall_mem {o : Option Nat} {v : Nat} (h : ∀ x ∈ o, x = v) (hv : 0 < v) (d : Nat) :
    orElse o d = if o.isSome then v else d := by
  cases o with
  | none => rfl
  | some x => simp [orElse_some (show 0 < x by simp_all)] at h ⊢; exact h

theorem readResponse_pageSize {s : Shape} {t n : Nat} (hs : s.Reports t n) (hn : 0 < n)
    (xs : List α) : (readResponse n (s.render xs)).2.2 = n := by
  cases s with
  | array => rfl
  | fields _ ps l =>
    simp only [Shape.render, readResponse, orElse_of_forall_mem hs.2.2 hn,
      orElse_of_forall_mem hs.2.1 hn]
    split_ifs <;> rfl
  | items pg =>
    cases pg with
    | none => rfl
    | some pg =>
      simp only [Shape.render, readResponse, orElse_of_forall_mem hs.2 hn]
      split_ifs <;> rfl

theorem readResponse_total_of_carriesTotal {s : Shape} {t n : Nat} (hs : s.Reports t n)
    (hc : s.CarriesTotal) (xs : List α) (hxs : t = 0 → xs = []) :
    (readResponse n (s.render xs)).2.1 = t := by
  rcases Nat.eq_zero_or_pos t with rfl | ht
  · cases s with
    | array => exact hc.elim
    | fields tot _ _ =>
      obtain ⟨x, rfl⟩ := Option.isSome_iff_exists.mp hc
      simp [Shape.render, readResponse, hs.1 x rfl, hxs rfl]
    | items pg =>
      rcases pg with _ | ⟨_ | x, _⟩
      · exact hc.elim
      · exact absurd hc (by simp [Shape.CarriesTotal])
      · simp [Shape.render, readResponse, hs.1 x rfl, hxs rfl]
  · cases s with
    | array => exact hc.elim
    | fields tot _ _ =>
      simp [Shape.render, readResponse, orElse_of_forall_mem hs.1 ht, show tot.isSome from hc]
    | items pg =>
      rcases pg with _ | pg
      · exact hc.elim
      · simp [Shape.render, readResponse, orElse_of_forall_mem hs.1 ht,
          show pg.total.isSome from hc]

theorem readResponse_total_of_not_carriesTotal {s : Shape} (hc : ¬ s.CarriesTotal) (xs : List α)
    (n : Nat) : (readResponse n (s.render xs)).2.1 = xs.length := by
  cases s with
  | array => rfl
  | fields tot _ _ =>
    cases tot with
    | none => rfl
    | some _ => exact absurd rfl hc
  | items pg =>
    rcases pg with _ | ⟨_ | _, _⟩
    · rfl
    · rfl
    · exact absurd rfl hc

theorem totalPagesOf_of_pos (t : Nat) {n : Nat} (hn : 0 < n) :
    totalPagesOf t n = .finite (max 1 ((t + n - 1) / n)) := by
  by_cases ht : t = 0
  · simp [totalPagesOf, ht, Nat.div_eq_of_lt (show n - 1 < n by omega)]
  · have : 1 ≤ (t + n - 1) / n := (Nat.le_div_iff_mul_le hn).mpr (by omega)
    simp [totalPagesOf, ht, Nat.pos_iff_ne_zero.mp hn, max_eq_right this]

/-- `p < ⌈t / n⌉ ↔ p n < t`: the page window arithmetic of `hasNext`. -/
theorem lt_ceilDiv_iff {p t n : Nat} (hn : 0 < n) : p < (t + n - 1) / n ↔ p * n < t := by
  rw [← Nat.add_one_le_iff, Nat.le_div_iff_mul_le hn, Nat.succ_mul]
  omega

/-- **Pagination of a response that reports the total.** -/
theorem getList_pagination_of_carriesTotal (L : List α) (shape : Shape) {p n : Nat}
    (hp : 1 ≤ p) (hn : 1 ≤ n) (hrep : shape.Reports L.length n) (hc : shape.CarriesTotal) :
    let r := (getList (sliceServer L fun _ => shape) p n).pagination
    (r.hasNext = true ↔ p * n < L.length) ∧ (r.hasPrevious = true ↔ 1 < p) ∧
      r.total = L.length ∧ r.totalPages = .finite (max 1 ((L.length + n - 1) / n)) := by
  have htot := readResponse_total_of_carriesTotal hrep hc (slice L p n)
    (fun h => List.eq_nil_of_length_eq_zero (by rw [length_slice]; omega))
  have hps := readResponse_pageSize hrep hn (slice L p n)
  simp only [getList, sliceServer, htot, hps, totalPagesOf_of_pos _ hn, PageCount.exceeds,
    decide_eq_true_eq, lt_max_iff, lt_ceilDiv_iff hn, and_true]
  omega

/-- **Pagination of a response without a total.**  The total is the length of the page itself,
so `hasNext` is false on every page. -/
theorem getList_pagination_of_not_carriesTotal (L : List α) (shape : Shape) {p n : Nat}
    (hp : 1 ≤ p) (hn : 1 ≤ n) (hrep : shape.Reports L.length n) (hc : ¬ shape.CarriesTotal) :
    let r := (getList (sliceServer L fun _ => shape) p n).pagination
    r.hasNext = false ∧ (r.hasPrevious = true ↔ 1 < p) ∧ r.total = (slice L p n).length := by
  have htot := readResponse_total_of_not_carriesTotal hc (slice L p n) n
  have hps := readResponse_pageSize hrep hn (slice L p n)
  have hlen : (slice L p n).length ≤ n := by rw [length_slice]; omega
  have hceil : (slice L p n).length + n - 1 < 2 * n := by omega
  simp only [getList, sliceServer, htot, hps, totalPagesOf_of_pos _ hn, PageCount.exceeds,
    decide_eq_true_eq, decide_eq_false_iff_not, lt_max_iff, lt_ceilDiv_iff hn, and_true]
  have : p * n ≥ n := Nat.le_mul_of_pos_left n hp
  omega

/-- **Pagination of `getList`** against a server that reports `|L|` and `n` wherever its shape
has a total or a page size: `hasPrevious ↔ p > 1` for every shape; a shape with a total gives
`hasNext ↔ p n < |L|`, `total = |L|` and `totalPages = max 1 ⌈|L| / n⌉`; a shape without one
gives the page's own length as the total and `hasNext = false`. -/
theorem getList_sliceServer_pagination (L : List α) (shape : Shape) {p n : Nat}
    (hp : 1 ≤ p) (hn : 1 ≤ n) (hrep : shape.Reports L.length n) :
    let r := (getList (sliceServer L fun _ => shape) p n).pagination
    (r.hasPrevious = true ↔ 1 < p) ∧
      (shape.CarriesTotal → (r.hasNext = true ↔ p * n < L.length) ∧ r.total = L.length ∧
        r.totalPages = .finite (max 1 ((L.length + n - 1) / n))) ∧
      (¬ shape.CarriesTotal → r.hasNext = false ∧ r.total = (slice L p n).length) :=
  ⟨by simp [getList],
    fun hc => let h := getList_pagination_of_carriesTotal L shape hp hn hrep hc; ⟨h.1, h.2.2⟩,
    fun hc => let h := getList_pagination_of_not_carriesTotal L shape hp hn hrep hc; ⟨h.1, h.2.2⟩⟩

theorem getList_sliceServer_pagination_page2 :
    let shape : Shape := .fields (some 250) (some 100) none
    (1 ≤ 2 ∧ 1 ≤ 100 ∧ shape.Reports (List.range 250).length 100) ∧
      let r := (getList (sliceServer (List.range 250) fun _ => shape) 2 100).pagination
      (r.hasPrevious = true ↔ 1 < 2) ∧
        (shape.CarriesTotal → (r.hasNext = true ↔ 2 * 100 < (List.range 250).length) ∧
          r.total = (List.range 250).length ∧
          r.totalPages = .finite (max 1 (((List.range 250).length + 100 - 1) / 100))) ∧
        (¬ shape.CarriesTotal → r.hasNext = false ∧ r.total = (slice (List.range 250) 2 100).length) :=
  ⟨⟨by decide, by decide, by simp [Shape.Reports]⟩,
    getList_sliceServer_pagination (List.range 250) (.fields (some 250) (some 100) none)
      (by decide) (by decide) (by simp [Shape.Reports])⟩

/-- A plain-array response on the first page of `[1, 2, 3]` with two elements a page: an element
remains, yet `hasNext` is false. -/
theorem getList_array_hasNext_false :
    1 * 2 < [1, 2, 3].length ∧
      (getList (sliceServer [1, 2, 3] fun _ => .array) 1 2).pagination.hasNext = false := by
  decide

end LuckDB.FieldService
