import Mathlib.Data.Nat.Digits

/-!
# Keys built with `fmt.Sprintf`

The repositories build cache keys with `fmt.Sprintf`, joining strings (`%s`) and integers (`%d`)
with `:`.  `%d` writes an integer's decimal digits, after a `-` when it is negative, which is the
text of `toString` on `Int`.  A key is read back uniquely when the parts before its last part hold
no `:`: `append_colon_inj` splits at the first `:`, and an integer's text holds none and
determines it (`colon_not_mem_toString`, `toString_int_inj`).
-/

namespace LuckDB.Fmt

/-! ### Splitting at a colon -/

/-- Two texts that each hold no `:` before a `:` agree up to it. -/
theorem append_colon_inj {s₁ s₂ t₁ t₂ : List Char} (h₁ : ':' ∉ s₁) (h₂ : ':' ∉ s₂)
    (h : s₁ ++ ':' :: t₁ = s₂ ++ ':' :: t₂) : s₁ = s₂ ∧ t₁ = t₂ := by
  induction s₁ generalizing s₂ with
  | nil =>
    cases s₂ with
    | nil => simpa using h
    | cons c s₂ =>
      simp only [List.nil_append, List.cons_append, List.cons.injEq] at h
      simp [← h.1] at h₂
  | cons c s₁ ih =>
    cases s₂ with
    | nil =>
      simp only [List.nil_append, List.cons_append, List.cons.injEq] at h
      simp [h.1] at h₁
    | cons d s₂ =>
      simp only [List.cons_append, List.cons.injEq] at h
      obtain ⟨rfl, rfl⟩ := ih (fun hm => h₁ (.tail _ hm)) (fun hm => h₂ (.tail _ hm)) h.2
      exact ⟨by rw [h.1], rfl⟩

/-! ### Decimal digits -/

theorem toDigitsCore_acc (b fuel n : Nat) (ds : List Char) :
    Nat.toDigitsCore b fuel n ds = Nat.toDigitsCore b fuel n [] ++ ds := by
  induction fuel generalizing n ds with
  | zero => rfl
  | succ fuel ih =>
    simp only [Nat.toDigitsCore]
    split
    · rfl
    · rw [ih _ (_ :: ds), ih _ [_], List.append_assoc, List.singleton_append]

/-- Enough fuel gives the same digits. -/
theorem toDigitsCore_fuel {b : Nat} (hb : 1 < b) :
    ∀ fuel fuel' n, n < fuel → n < fuel' →
      Nat.toDigitsCore b fuel n [] = Nat.toDigitsCore b fuel' n []
  | 0, _, _, h, _ | _, 0, _, _, h => absurd h (Nat.not_lt_zero _)
  | fuel + 1, fuel' + 1, n, h, h' => by
    simp only [Nat.toDigitsCore]
    split
    · rfl
    · next hn =>
      have hlt : n / b < n := Nat.div_lt_self (Nat.pos_of_ne_zero fun h0 => hn (by simp [h0])) hb
      rw [toDigitsCore_acc, toDigitsCore_acc b fuel',
        toDigitsCore_fuel hb fuel fuel' (n / b) (by omega) (by omega)]

/-- The decimal digits of `n`: those of `n / 10` unless it is `0`, then the last digit. -/
theorem toDigits_ten (n : Nat) : Nat.toDigits 10 n =
    (if n / 10 = 0 then [] else Nat.toDigits 10 (n / 10)) ++ [Nat.digitChar (n % 10)] := by
  show Nat.toDigitsCore 10 (n + 1) n [] = _
  rw [Nat.toDigitsCore]
  by_cases hn : n / 10 = 0
  · simp [hn]
  · have hlt : n / 10 < n :=
      Nat.div_lt_self (Nat.pos_of_ne_zero fun h0 => hn (by simp [h0])) (by decide)
    simp only [hn, if_false]
    rw [toDigitsCore_acc, toDigitsCore_fuel (by decide) n (n / 10 + 1) (n / 10) hlt (by omega)]
    rfl

theorem digitChar_isDigit : ∀ d < 10, (Nat.digitChar d).isDigit = true := by decide

theorem digitChar_inj : ∀ a < 10, ∀ b < 10, Nat.digitChar a = Nat.digitChar b → a = b := by decide

theorem isDigit_of_mem_toDigits (n : Nat) : ∀ c ∈ Nat.toDigits 10 n, c.isDigit = true := by
  induction n using Nat.strong_induction_on with
  | _ n ih =>
    rw [toDigits_ten]
    intro c hc
    rcases List.mem_append.mp hc with hc | hc
    · split at hc
      · simp at hc
      · exact ih _ (Nat.div_lt_self (by omega) (by decide)) c hc
    · rw [List.mem_singleton.mp hc]
      exact digitChar_isDigit _ (Nat.mod_lt _ (by decide))

theorem toDigits_ne_nil (n : Nat) : Nat.toDigits 10 n ≠ [] := by
  rw [toDigits_ten]
  simp

theorem toDigits_ten_inj {m n : Nat} (h : Nat.toDigits 10 m = Nat.toDigits 10 n) : m = n := by
  induction m using Nat.strong_induction_on generalizing n with
  | _ m ih =>
    rw [toDigits_ten m, toDigits_ten n] at h
    obtain ⟨hinit, hlast⟩ := List.append_inj' h rfl
    have hmod : m % 10 = n % 10 :=
      digitChar_inj _ (Nat.mod_lt _ (by decide)) _ (Nat.mod_lt _ (by decide))
        (List.singleton_inj.mp hlast)
    have hdiv : m / 10 = n / 10 := by
      split at hinit <;> split at hinit
      · omega
      · exact absurd hinit.symm (toDigits_ne_nil _)
      · exact absurd hinit (toDigits_ne_nil _)
      · exact ih _ (Nat.div_lt_self (by omega) (by decide)) hinit
    omega

/-! ### The text of an integer -/

theorem toString_int_data (i : Int) : (toString i).data =
    match i with
    | .ofNat m => Nat.toDigits 10 m
    | .negSucc m => '-' :: Nat.toDigits 10 (m + 1) := by
  cases i <;> rfl

/-- An integer's text holds no `:`. -/
theorem colon_not_mem_toString (i : Int) : ':' ∉ (toString i).data := by
  rw [toString_int_data]
  cases i with
  | ofNat m => exact fun h => absurd (isDigit_of_mem_toDigits m _ h) (by decide)
  | negSucc m =>
    intro h
    change ':' ∈ '-' :: Nat.toDigits 10 (m + 1) at h
    rcases List.mem_cons.mp h with h | h
    · exact absurd h (by decide)
    · exact absurd (isDigit_of_mem_toDigits _ _ h) (by decide)

/-- Distinct integers have distinct texts. -/
theorem toString_int_inj {i j : Int} (h : toString i = toString j) : i = j := by
  have h := congrArg String.data h
  rw [toString_int_data, toString_int_data] at h
  cases i with
  | ofNat m =>
    cases j with
    | ofNat n => exact congrArg _ (toDigits_ten_inj h)
    | negSucc n =>
      change Nat.toDigits 10 m = '-' :: Nat.toDigits 10 (n + 1) at h
      exact absurd (isDigit_of_mem_toDigits m '-' (by rw [h]; exact List.mem_cons_self _ _))
        (by decide)
  | negSucc m =>
    cases j with
    | ofNat n =>
      change '-' :: Nat.toDigits 10 (m + 1) = Nat.toDigits 10 n at h
      exact absurd (isDigit_of_mem_toDigits n '-' (by rw [← h]; exact List.mem_cons_self _ _))
        (by decide)
    | negSucc n =>
      change '-' :: Nat.toDigits 10 (m + 1) = '-' :: Nat.toDigits 10 (n + 1) at h
      rw [Nat.succ_inj'.mp (toDigits_ten_inj (List.cons.inj h).2)]

end LuckDB.Fmt
