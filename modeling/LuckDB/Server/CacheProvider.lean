import Mathlib.Data.List.Infix

/-!
# `CacheProvider`

The cache the repositories of `server/internal/infrastructure/repository/cached_repository.go`
write through.  Its code is not in the repository, so it is modelled from the spec, which takes it
to be "a generic key-value store with TTL and pattern-delete" whose operations may each fail.
The model is its contract as the repositories use it.  A `Get` may fail, and to the caller a
failure looks like a miss: both are an error.  A `Set` may fail and then stores nothing.  The
failures of `Delete` and `InvalidatePattern` are only logged by the repositories; the model takes
both to succeed.  An entry may expire at any time.

The spec leaves the pattern language to the store.  `globMatch` reads `*` as any run of characters
and every other character as itself, the glob the repositories' patterns are written in.  The glob
dialects of key-value stores also read `?`, `[` and `\` specially, and the repositories put ids
into their patterns unescaped.  So a theorem that needs a pattern to match some key, or to match
nothing more than one key, takes the ids in the pattern free of those characters: `GlobSelfMatch`
(no `[` or `\`, so the pattern matches its own text in every dialect) or `GlobLiteral` (none of
`*`, `?`, `[`, `\`, so it matches its own text alone).  A theorem that only uses what a pattern
removes holds for every dialect: removing more entries keeps every cache invariant here.

The lemmas say what each operation does to one entry (`entry_set`, `entry_delete`,
`entry_invalidatePattern`), that a pattern ending in `*` matches every key it is a prefix of
(`globMatch_append_star`), that a pattern without `*` matches its own text alone
(`globMatch_eq_of_star_not_mem`), and that every pattern matches its own text
(`globMatch_self`).
-/

namespace LuckDB

/-- Modelled from the spec: the store's pattern matching, as a glob in which `*` matches any run
of characters and every other character itself. -/
def globMatch : List Char → List Char → Bool
  | [], s => s.isEmpty
  | '*' :: p, s => s.tails.any (globMatch p)
  | _ :: _, [] => false
  | c :: p, d :: s => c == d && globMatch p s

/-- A pattern matches every key that begins with its text before a final `*`. -/
theorem globMatch_append_star (p rest : List Char) : globMatch (p ++ ['*']) (p ++ rest) = true := by
  induction p with
  | nil => simp [globMatch]
  | cons c p ih =>
    by_cases hc : c = '*'
    · subst hc
      simp only [List.cons_append, globMatch, List.any_eq_true]
      exact ⟨p ++ rest, (List.mem_tails _ _).mpr (List.suffix_cons _ _), ih⟩
    · simp [globMatch, hc, ih]

/-- A pattern without `*` matches exactly its own text. -/
theorem globMatch_eq_of_star_not_mem : ∀ {p : List Char}, '*' ∉ p → ∀ s, globMatch p s = (p == s)
  | [], _, s => by cases s <;> rfl
  | c :: p, h, s => by
    have hc : c ≠ '*' := fun hc => h (hc ▸ List.mem_cons_self _ _)
    have ih := globMatch_eq_of_star_not_mem (fun hp => h (List.mem_cons_of_mem _ hp))
    cases s with
    | nil => simp [globMatch, hc]
    | cons d s => simp [globMatch, hc, ih]

/-- A `*` matches any run of characters before what the rest of the pattern matches. -/
theorem globMatch_star_append {p s : List Char} (h : globMatch p s = true) (xs : List Char) :
    globMatch ('*' :: p) (xs ++ s) = true := by
  simp only [globMatch, List.any_eq_true]
  exact ⟨s, (List.mem_tails _ _).mpr (List.suffix_append _ _), h⟩

/-- Every pattern matches its own text, each `*` matching the character `*`. -/
theorem globMatch_self : ∀ p : List Char, globMatch p p = true
  | [] => rfl
  | c :: p => by
    by_cases hc : c = '*'
    · subst hc
      exact globMatch_star_append (globMatch_self p) ['*']
    · simp [globMatch, hc, globMatch_self p]

/-- A prefix without `*` matches itself, and the rest of the pattern the rest of the key. -/
theorem globMatch_append_literal : ∀ {q : List Char}, '*' ∉ q → ∀ p s,
    globMatch (q ++ p) (q ++ s) = globMatch p s
  | [], _, _, _ => rfl
  | c :: q, h, p, s => by
    have hc : c ≠ '*' := fun hc => h (hc ▸ List.mem_cons_self _ _)
    simp [globMatch, hc, globMatch_append_literal (fun hq => h (List.mem_cons_of_mem _ hq)) p s]

/-- `s` written into a pattern matches its own text under every glob dialect: it has no `[` or `\`,
the only special characters that can fail to match themselves. -/
def GlobSelfMatch (s : String) : Prop := '[' ∉ s.data ∧ '\\' ∉ s.data

instance : DecidablePred GlobSelfMatch :=
  fun s => inferInstanceAs (Decidable ('[' ∉ s.data ∧ '\\' ∉ s.data))

/-- `s` written into a pattern matches its own text alone under every glob dialect: it has none of
the characters `*`, `?`, `[`, `\`. -/
def GlobLiteral (s : String) : Prop := ∀ c ∈ s.data, c ∉ ['*', '?', '[', '\\']

instance : DecidablePred GlobLiteral :=
  fun s => inferInstanceAs (Decidable (∀ c ∈ s.data, c ∉ ['*', '?', '[', '\\']))

/-- Modelled from the spec: whether one call's `Get` and `Set` on the cache provider succeed. -/
structure CacheIO where
  getOk : Bool
  setOk : Bool
deriving DecidableEq, Repr

/-- Modelled from the spec: the entries of the cache, the value stored under each key, if any. -/
structure Cache (V : Type) where
  entry : String → Option V

namespace Cache

variable {V : Type}

/-- Modelled from the spec: a cache with no entry. -/
def empty : Cache V := ⟨fun _ => none⟩

/-- Modelled from the spec: `Get(ctx, key, &dest)`, the entry, or nothing when the call fails. -/
def get (c : Cache V) (key : String) (ok : Bool) : Option V :=
  if ok then c.entry key else none

/-- Modelled from the spec: `Set(ctx, key, value, ttl)`, the value is stored, or nothing is when
the call fails. -/
def set (c : Cache V) (key : String) (v : V) (ok : Bool) : Cache V :=
  if ok then ⟨fun k => if k = key then some v else c.entry k⟩ else c

/-- Modelled from the spec: `Delete(ctx, keys...)`. -/
def delete (c : Cache V) (keys : List String) : Cache V :=
  ⟨fun k => if k ∈ keys then none else c.entry k⟩

/-- Modelled from the spec: `InvalidatePattern(ctx, pattern)`, every key the pattern matches is
removed. -/
def invalidatePattern (c : Cache V) (pattern : String) : Cache V :=
  ⟨fun k => if globMatch pattern.toList k.toList then none else c.entry k⟩

/-- Modelled from the spec: the entry under `key` expires. -/
def expire (c : Cache V) (key : String) : Cache V := c.delete [key]

@[simp] theorem entry_empty (k : String) : (empty : Cache V).entry k = none := rfl

theorem get_eq (c : Cache V) (key : String) (ok : Bool) :
    c.get key ok = if ok then c.entry key else none := rfl

/-- A value read by a successful `Get` is the entry. -/
theorem bind_get_eq_some {c : Cache V} {key : String} {ok : Bool} {β : Type} {g : V → Option β}
    {x : β} (h : (c.get key ok).bind g = some x) : (c.entry key).bind g = some x := by
  cases ok <;> simp_all [get_eq]

theorem entry_set (c : Cache V) (key : String) (v : V) (ok : Bool) (k : String) :
    (c.set key v ok).entry k = if ok ∧ k = key then some v else c.entry k := by
  unfold set
  by_cases hok : ok <;> simp [hok]

@[simp] theorem entry_delete (c : Cache V) (keys : List String) (k : String) :
    (c.delete keys).entry k = if k ∈ keys then none else c.entry k := rfl

@[simp] theorem entry_invalidatePattern (c : Cache V) (pattern k : String) :
    (c.invalidatePattern pattern).entry k =
      if globMatch pattern.toList k.toList then none else c.entry k := rfl

/-- A pattern per item, invalidated in turn. -/
theorem entry_foldl_invalidatePattern {α : Type} (pat : α → String) (xs : List α) (c : Cache V)
    (k : String) :
    (xs.foldl (fun c x => c.invalidatePattern (pat x)) c).entry k =
      if xs.any (fun x => globMatch (pat x).toList k.toList) then none else c.entry k := by
  induction xs generalizing c with
  | nil => simp
  | cons x xs ih =>
    rw [List.foldl_cons, ih, entry_invalidatePattern, List.any_cons]
    cases globMatch (pat x).toList k.toList <;>
      cases xs.any (fun x => globMatch (pat x).toList k.toList) <;> rfl

/-- `c'` keeps only entries of `c`: what deletions, invalidations and expiry leave. -/
def Sub (c' c : Cache V) : Prop := ∀ k v, c'.entry k = some v → c.entry k = some v

theorem Sub.refl (c : Cache V) : Sub c c := fun _ _ h => h

theorem sub_delete (c : Cache V) (keys : List String) : Sub (c.delete keys) c := by
  intro k v h
  simp only [entry_delete] at h
  split at h
  · cases h
  · exact h

theorem sub_invalidatePattern (c : Cache V) (pattern : String) :
    Sub (c.invalidatePattern pattern) c := by
  intro k v h
  simp only [entry_invalidatePattern] at h
  split at h
  · cases h
  · exact h

theorem sub_foldl_invalidatePattern {α : Type} (pat : α → String) (xs : List α) (c : Cache V) :
    Sub (xs.foldl (fun c x => c.invalidatePattern (pat x)) c) c := by
  intro k v h
  rw [entry_foldl_invalidatePattern] at h
  split at h
  · cases h
  · exact h

theorem Sub.bind_eq_some {c' c : Cache V} (h : Sub c' c) {β : Type} {g : V → Option β} {k : String}
    {x : β} (hx : (c'.entry k).bind g = some x) : (c.entry k).bind g = some x := by
  obtain ⟨v, hv, hg⟩ := Option.bind_eq_some.mp hx
  rw [h k v hv]
  exact hg

theorem Sub.trans {c₁ c₂ c₃ : Cache V} (h₁ : Sub c₁ c₂) (h₂ : Sub c₂ c₃) : Sub c₁ c₃ :=
  fun k v h => h₂ k v (h₁ k v h)

end Cache

end LuckDB
