/-!
# Transactions of the wrapped repositories

A wrapped repository's table as the cached repositories of
`server/internal/infrastructure/repository/cached_repository.go` see it: the committed table, the
working copy of the open transaction, and whether one is open.  A call whose context carries a
transaction (`database.InTransaction(ctx)`) reads and writes the working copy, any other call the
committed table.  `begin` opens a transaction on a copy of the committed table, `commit` makes the
copy the committed table, and `rollback` drops it.

`Store.All P` says that `P` holds of the committed table, and of the working copy while a
transaction is open.  Its lemmas carry it across a write in a context that agrees with the open
transaction (`All.write`) and across the transaction boundaries.
-/

namespace LuckDB

/-- A request context, as far as the repositories read it: `database.InTransaction(ctx)`. -/
structure Context where
  inTransaction : Bool
deriving DecidableEq, Repr

/-- The committed table, the working copy of the open transaction, and whether one is open. -/
structure Store (T : Type) where
  committed : T
  working : T
  inTransaction : Bool

namespace Store

variable {T : Type}

/-- A table with no transaction open. -/
def init (t : T) : Store T := ⟨t, t, false⟩

/-- The table a call in context `ctx` sees. -/
def view (s : Store T) (ctx : Context) : T :=
  if ctx.inTransaction then s.working else s.committed

/-- A write of the wrapped repository in context `ctx`. -/
def write (s : Store T) (ctx : Context) (g : T → T) : Store T :=
  if ctx.inTransaction then { s with working := g s.working }
  else { s with committed := g s.committed }

/-- A transaction opens on a copy of the committed table. -/
def begin (s : Store T) : Store T := { s with working := s.committed, inTransaction := true }

/-- The transaction's copy becomes the committed table. -/
def commit (s : Store T) : Store T := { s with committed := s.working, inTransaction := false }

/-- The transaction's copy is dropped. -/
def rollback (s : Store T) : Store T := { s with inTransaction := false }

theorem view_of_not {s : Store T} {ctx : Context} (h : ctx.inTransaction = false) :
    s.view ctx = s.committed := by
  simp [view, h]

/-- `P` holds of the committed table, and of the working copy while a transaction is open. -/
structure All (P : T → Prop) (s : Store T) : Prop where
  committed : P s.committed
  working : s.inTransaction = true → P s.working

variable {P Q : T → Prop} {s : Store T}

theorem all_init {t : T} (h : P t) : All P (init t) := ⟨h, fun h => nomatch h⟩

theorem all_of_not (hs : s.inTransaction = false) (h : P s.committed) : All P s :=
  ⟨h, fun h' => nomatch hs.symm.trans h'⟩

theorem All.mono (h : All P s) (hpq : ∀ t, P t → Q t) : All Q s :=
  ⟨hpq _ h.committed, fun hin => hpq _ (h.working hin)⟩

/-- A call whose context agrees with the open transaction sees a table `P` holds of. -/
theorem All.view (h : All P s) {ctx : Context} (hctx : ctx.inTransaction = s.inTransaction) :
    P (s.view ctx) := by
  unfold Store.view
  split
  next hin => exact h.working (hctx ▸ hin)
  next => exact h.committed

/-- A write in a context that agrees with the open transaction keeps `All` as `P` turns into a
weaker `Q`, when the written table goes from `P` to `Q`. -/
theorem All.write (h : All P s) {ctx : Context} (hctx : ctx.inTransaction = s.inTransaction)
    (g : T → T) (hmono : ∀ t, P t → Q t) (hg : P (s.view ctx) → Q (g (s.view ctx))) :
    All Q (s.write ctx g) := by
  unfold Store.write
  unfold Store.view at hg
  cases hin : ctx.inTransaction
  · simp only [hin, Bool.false_eq_true, if_false] at hg ⊢
    exact all_of_not (hctx ▸ hin) (hg h.committed)
  · simp only [hin, if_true] at hg ⊢
    exact ⟨hmono _ h.committed, fun h' => hg (h.working h')⟩

theorem All.begin (h : All P s) : All P s.begin := ⟨h.committed, fun _ => h.committed⟩

theorem All.commit (h : All P s) (hin : s.inTransaction = true) : All P s.commit :=
  ⟨h.working hin, fun h' => nomatch h'⟩

theorem All.rollback (h : All P s) : All P s.rollback := ⟨h.committed, fun h' => nomatch h'⟩

end Store

end LuckDB
