/-!
# `FieldService.getList` and `FieldService.getFullList`

The SDK's field listing (`sdk/src/services/FieldService.ts`).  The HTTP round trip `this.send` is
the parameter `send page perPage`; the table id and the filter are passed through unchanged and do
not appear.  A response body is what `getList` reads of it: a plain array, or an object whose
members `fields`, `total`, `pageSize`, `limit`, `items` and `pagination` may be absent.

`getFullList` is a `while (true)` loop; `getFullListLoop` runs it for at most `fuel` iterations and
also returns the pages it asked for, so that the number and order of the calls to `getList` are
part of its result.
-/

namespace LuckDB.FieldService

/-- The members of `response.pagination` that `getList` reads. -/
structure PaginationMembers where
  total : Option Nat
  pageSize : Option Nat
deriving DecidableEq, Repr

/-- A response body as `getList` sees it.  A member that is absent, or (for `fields` and `items`)
not an array, is `none`. -/
inductive Response (α : Type) where
  | array (xs : List α)
  | object (fields : Option (List α)) (total pageSize limit : Option Nat)
      (items : Option (List α)) (pagination : Option PaginationMembers)
deriving Repr

/-- JavaScript's `x || d` on an optional count: an absent member and `0` are falsy. -/
def orElse : Option Nat → Nat → Nat
  | some (k + 1), _ => k + 1
  | _, d => d

@[simp] theorem orElse_none (d : Nat) : orElse none d = d := rfl

theorem orElse_some {k : Nat} (hk : 0 < k) (d : Nat) : orElse (some k) d = k := by
  obtain ⟨j, rfl⟩ := Nat.exists_eq_add_of_lt hk
  rfl

@[simp] theorem orElse_some_zero (d : Nat) : orElse (some 0) d = d := rfl

/-- A page count as a JavaScript number can hold it: a natural number, or `Infinity`. -/
inductive PageCount where
  | finite (n : Nat)
  | infinity
deriving DecidableEq, Repr

/-- `page < totalPages`. -/
def PageCount.exceeds : PageCount → Nat → Bool
  | .finite n, page => decide (page < n)
  | .infinity, _ => true

/-- `Math.ceil(total / pageSize) || 1`.  `0 / pageSize` is `0` and `0 / 0` is `NaN`, both falsy, so
`1`; a positive total over a page size of `0` is `Infinity`. -/
def totalPagesOf (total pageSize : Nat) : PageCount :=
  if total = 0 then .finite 1
  else if pageSize = 0 then .infinity
  else .finite ((total + pageSize - 1) / pageSize)

/-- The `pagination` object of `getList`'s result. -/
structure PaginationResponse where
  total : Nat
  page : Nat
  pageSize : Nat
  totalPages : PageCount
  hasNext : Bool
  hasPrevious : Bool

/-- The result of `getList`: `{ items, pagination }`. -/
structure ListResult (α : Type) where
  items : List α
  pagination : PaginationResponse

/-- The `if … else if …` chain of `getList` that picks `fields`, `total` and `pageSize` out of the
response. -/
def readResponse {α : Type} (perPage : Nat) : Response α → List α × Nat × Nat
  | .array xs => (xs, xs.length, perPage)
  | .object (some fs) total pageSize limit _ _ =>
    (fs, orElse total fs.length, orElse pageSize (orElse limit perPage))
  | .object none _ _ _ (some its) (some p) => (its, orElse p.total its.length, orElse p.pageSize perPage)
  | .object none _ _ _ (some its) none => (its, its.length, perPage)
  | .object none _ _ _ none _ => ([], 0, perPage)

/-- `FieldService.getList(tableId, page, perPage, filter)`. -/
def getList {α : Type} (send : Nat → Nat → Response α) (page perPage : Nat) : ListResult α :=
  let r := readResponse perPage (send page perPage)
  let totalPages := totalPagesOf r.2.1 r.2.2
  { items := r.1
    pagination :=
      { total := r.2.1, page := page, pageSize := r.2.2, totalPages := totalPages,
        hasNext := totalPages.exceeds page, hasPrevious := decide (1 < page) } }

/-- The loop of `getFullList` from `page` on, with `result` gathered so far and at most `fuel`
iterations left: each iteration asks `getList` for `page` with `perPage = 100`, appends the items,
and stops after a page of fewer than `100` items.  Returns the result and the pages asked for. -/
def getFullListLoop {α : Type} (send : Nat → Nat → Response α) :
    Nat → Nat → List α → Option (List α × List Nat)
  | 0, _, _ => none
  | fuel + 1, page, result =>
    let response := getList send page 100
    if response.items.length < 100 then some (result ++ response.items, [page])
    else (getFullListLoop send fuel (page + 1) (result ++ response.items)).map
      fun r => (r.1, page :: r.2)

/-- `FieldService.getFullList(tableId, filter)`: the loop from page `1` with an empty result. -/
def getFullList {α : Type} (send : Nat → Nat → Response α) (fuel : Nat) :
    Option (List α × List Nat) :=
  getFullListLoop send fuel 1 []

/-! ### Servers that answer with a slice of a list -/

/-- The members a server sends beside the page's array, in the shapes `getList` accepts: a plain
array, `{ fields, total?, pageSize?, limit? }` and `{ items, pagination? }`. -/
inductive Shape where
  | array
  | fields (total pageSize limit : Option Nat)
  | items (pagination : Option PaginationMembers)
deriving DecidableEq, Repr

/-- The response of shape `s` around the array `xs`. -/
def Shape.render {α : Type} : Shape → List α → Response α
  | .array, xs => .array xs
  | .fields total pageSize limit, xs => .object (some xs) total pageSize limit none none
  | .items pagination, xs => .object none none none none (some xs) pagination

/-- Page `p` of `L` with `n` elements a page: `L[(p − 1) n, p n)`. -/
def slice {α : Type} (L : List α) (p n : Nat) : List α :=
  (L.drop ((p - 1) * n)).take n

/-- A server that answers page `p` with `slice L p n`, in the shape `shape p`. -/
def sliceServer {α : Type} (L : List α) (shape : Nat → Shape) (p n : Nat) : Response α :=
  (shape p).render (slice L p n)

@[simp] theorem readResponse_render_fst {α : Type} (s : Shape) (xs : List α) (n : Nat) :
    (readResponse n (s.render xs)).1 = xs := by
  cases s with
  | array => rfl
  | fields => rfl
  | items p => cases p <;> rfl

@[simp] theorem getList_items {α : Type} (send : Nat → Nat → Response α) (page perPage : Nat) :
    (getList send page perPage).items = (readResponse perPage (send page perPage)).1 := rfl

theorem getList_sliceServer_items {α : Type} (L : List α) (shape : Nat → Shape) (p n : Nat) :
    (getList (sliceServer L shape) p n).items = slice L p n := by
  simp [sliceServer]

end LuckDB.FieldService
