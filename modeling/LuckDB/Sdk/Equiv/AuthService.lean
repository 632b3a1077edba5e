import Mathlib.Data.List.Infix
import LuckDB.Sdk.AuthService

/-!
# What `AuthService` does to the store over whole runs

Whatever the server answers, failures included:

* `token_empty_iff_no_record`: in every run from an empty store, the store holds a token exactly
  when it holds a user record, so `getToken()` is `""` exactly when `getCurrentUserSync()` is
  `null`.  `authResponse` saves only a response with both, and `logout` clears both.
* `refresh_sends_access_token`: in every run from an empty store, the store's token is empty or an
  access token that the server sent in an answer to a login, a register, a refresh or a user
  update that the run sent (`answeredTokens`), and each request to `/api/v1/auth/refresh` carries
  as its `refresh_token` member such a token, not empty.  No method reads the `refreshToken` the
  server returns.
* `signed_out_stays_empty`: from an empty store, as long as no login or register answer carries
  both a token and a user, the store stays empty and no request other than a login, a register, a
  logout or `GET /api/v1/auth/me` is sent.  `refreshToken`, `updateUser` and `updatePassword` throw
  before sending.

The proofs rest on what one call can do (`Call.run_store`): leave the store, clear it (a logout
that succeeds), or hand one response to `authResponse`, whose token is the access token of an
answer to the request the call sent (`Call.answer?`) or the store's own.  A call that throws leaves the store as it was (`Call.run_store_of_error`).
-/

namespace LuckDB.AuthService

/-! ### What one call does -/

/-- The body of the server's answer, for a call whose answer is a session body. -/
def Call.session? : Call → Option SessionBody
  | .login _ _ (.ok body) | .register _ _ _ _ (.ok body) | .refreshToken (.ok body)
  | .updateUser _ (.ok body) => some body
  | _ => none

/-- The body of the server's answer to a login or a register. -/
def Call.signIn? : Call → Option SessionBody
  | .login _ _ (.ok body) | .register _ _ _ _ (.ok body) => some body
  | _ => none

/-- The body of the server's answer, for a call on store `st` that sent its request and whose
answer is a session body. -/
def Call.answer? (st : AuthStore) (c : Call) : Option SessionBody :=
  (c.run st).sent.bind fun _ => c.session?

/-- The access tokens of the answers to the requests a run sent. -/
def answeredTokens : State → List Call → List String
  | _, [] => []
  | s, c :: calls =>
    ((c.answer? s.store).map (·.accessToken)).toList ++ answeredTokens (step s c) calls

theorem session_store (st : AuthStore) (request : Request) (answer : Except String SessionBody) :
    (session st request answer).store = st ∨ ∃ body, answer = .ok body ∧
      (session st request answer).store = authResponse st ⟨body.accessToken, body.user⟩ := by
  cases answer with
  | error e => exact .inl rfl
  | ok body => exact .inr ⟨body, rfl, rfl⟩

/-- **What a call does to the store.**  It leaves it, clears it, or hands `authResponse` the
user of the answer to the request it sent, with that answer's access token or the store's token. -/
theorem Call.run_store (st : AuthStore) (c : Call) :
    (c.run st).store = st ∨ (c.run st).store = .empty ∨
      ∃ body t, c.answer? st = some body ∧ (t = body.accessToken ∨ t = st.token) ∧
        (c.run st).store = authResponse st ⟨t, body.user⟩ := by
  cases c with
  | login _ _ answer | register _ _ _ _ answer =>
    rcases session_store st _ answer with h | ⟨body, rfl, h⟩
    · exact .inl h
    · exact .inr (.inr ⟨body, _, rfl, .inl rfl, h⟩)
  | refreshToken answer =>
    simp only [Call.answer?, Call.run, AuthService.refreshToken]
    split
    · exact .inl rfl
    · rcases session_store st _ answer with h | ⟨body, rfl, h⟩
      · exact .inl h
      · exact .inr (.inr ⟨body, _, rfl, .inl rfl, h⟩)
  | logout answer => cases answer <;> simp [Call.run, AuthService.logout]
  | getCurrentUser _ answer => cases answer <;> simp [Call.run, AuthService.getCurrentUser]
  | updateUser _ answer =>
    simp only [Call.answer?, Call.run, AuthService.updateUser]
    split
    · exact .inl rfl
    · cases answer with
      | error e => exact .inl rfl
      | ok body =>
        refine .inr (.inr ⟨body, _, rfl, ?_, rfl⟩)
        split <;> simp
  | updatePassword _ _ _ answer =>
    simp only [Call.run, AuthService.updatePassword]
    split
    · exact .inl rfl
    · cases answer <;> exact .inl rfl
  | requestPasswordReset | confirmPasswordReset | requestEmailVerification
  | confirmEmailVerification | requestEmailChange | confirmEmailChange => exact .inl rfl

/-- A call that throws leaves the store as it was. -/
theorem Call.run_store_of_error {st : AuthStore} {c : Call} {e : String}
    (h : (c.run st).result = .error e) : (c.run st).store = st := by
  cases c with
  | login _ _ answer | register _ _ _ _ answer =>
    cases answer <;> simp_all [Call.run, AuthService.login, AuthService.register, session]
  | refreshToken answer =>
    simp only [Call.run, AuthService.refreshToken] at h ⊢
    split
    · rfl
    · cases answer <;> simp_all [session]
  | logout answer | getCurrentUser _ answer =>
    cases answer <;> simp_all [Call.run, AuthService.logout, AuthService.getCurrentUser]
  | updateUser _ answer | updatePassword _ _ _ answer =>
    simp only [Call.run, AuthService.updateUser, AuthService.updatePassword] at h ⊢
    split
    · rfl
    · cases answer <;> simp_all
  | requestPasswordReset | confirmPasswordReset | requestEmailVerification
  | confirmEmailVerification | requestEmailChange | confirmEmailChange => rfl

/-- A user path is not an auth path. -/
theorem users_path_ne (id path : String) (hp : ¬ "/api/v1/users/".data <+: path.data) :
    "/api/v1/users/" ++ id ≠ path := by
  rintro rfl
  exact hp (by simp [String.data_append])

/-- The only request to `/api/v1/auth/refresh` is `refreshToken`'s, sent with the store's token,
which is not empty. -/
theorem Call.sent_refresh {st : AuthStore} {c : Call} {r : Request} (h : (c.run st).sent = some r)
    (hp : r.path = "/api/v1/auth/refresh") :
    st.token ≠ "" ∧ r.body = [("refresh_token", st.token)] := by
  have hne : ∀ id, "/api/v1/users/" ++ id ≠ "/api/v1/auth/refresh" :=
    fun id => users_path_ne id _ (by decide)
  cases c with
  | login _ _ answer | register _ _ _ _ answer | logout answer | getCurrentUser _ answer =>
    cases answer <;> simp [Call.run, AuthService.login, AuthService.register, session,
      AuthService.logout, AuthService.getCurrentUser] at h <;> subst h <;> simp at hp
  | refreshToken answer =>
    simp only [Call.run, AuthService.refreshToken] at h
    split at h
    · cases h
    · cases answer <;> simp only [session, Option.some.injEq] at h <;> subst h <;>
        exact ⟨‹_›, rfl⟩
  | updateUser _ answer =>
    simp only [Call.run, AuthService.updateUser] at h
    split at h
    · cases h
    · cases answer <;> simp only [Option.some.injEq] at h <;> subst h <;> exact absurd hp (hne _)
  | updatePassword _ _ _ answer =>
    simp only [Call.run, AuthService.updatePassword] at h
    split at h
    · cases h
    · cases answer <;> simp only [Option.some.injEq] at h <;> subst h <;>
        exact absurd hp (by rw [String.append_assoc]; exact hne _)
  | requestPasswordReset | confirmPasswordReset | requestEmailVerification
  | confirmEmailVerification | requestEmailChange | confirmEmailChange => cases h

/-- `split('@')[0]`: the local part has no `@`, and the email is the local part followed by nothing
or by the first `@`. -/
theorem localPart_spec (email : String) :
    '@' ∉ (localPart email).data ∧
      ∃ rest, email.data = (localPart email).data ++ rest ∧ ∀ c ∈ rest.head?, c = '@' := by
  refine ⟨fun h => by simpa using List.mem_takeWhile_imp h, _,
    (List.takeWhile_append_dropWhile _ _).symm, fun c hc => ?_⟩
  have h := List.head?_dropWhile_not (fun c => decide (c ≠ '@')) email.data
  rw [Option.mem_def.mp hc] at h
  simpa using h

@[simp] theorem run_nil (s : State) : run s [] = s := rfl

/-- A property of the store that every call keeps holds after every run. -/
theorem run_store_invariant (P : AuthStore → Prop)
    (hstep : ∀ (st : AuthStore) (c : Call), P st → P (c.run st).store)
    (s : State) (hs : P s.store) (calls : List Call) : P (run s calls).store := by
  induction calls generalizing s with
  | nil => exact hs
  | cons c calls ih => exact ih (step s c) (hstep _ c hs)

/-! ### A token exactly when a record -/

/-- The store holds a token exactly when it holds a record. -/
def Paired (st : AuthStore) : Prop := st.token = "" ↔ st.record = none

theorem paired_authResponse {st : AuthStore} (h : Paired st) (r : AuthResponse) :
    Paired (authResponse st r) := by
  unfold authResponse
  split
  next record _ => split <;> simp_all [Paired]
  next => exact h

theorem paired_run_store {st : AuthStore} (h : Paired st) (c : Call) : Paired (c.run st).store := by
  rcases Call.run_store st c with h' | h' | ⟨body, t, -, -, h'⟩ <;> rw [h']
  · exact h
  · simp [Paired, AuthStore.empty]
  · exact paired_authResponse h _

/-- **A token exactly when a user.**  In every run from an empty store, whatever the server
answers, `getToken()` is empty exactly when `getCurrentUserSync()` is `null`. -/
theorem token_empty_iff_no_record (calls : List Call) :
    getToken (run State.init calls).store = "" ↔
      getCurrentUserSync (run State.init calls).store = none :=
  run_store_invariant Paired (fun _ c h => paired_run_store h c) _
    (by simp [Paired, State.init, AuthStore.empty]) calls

/-! ### The token sent to `/api/v1/auth/refresh` -/

/-- The store's token is empty or one of `tokens`, and every refresh request sent so far carried
one of `tokens`. -/
structure Issued (tokens : List String) (s : State) : Prop where
  store : s.store.token = "" ∨ s.store.token ∈ tokens
  sent : ∀ r ∈ s.sent, r.path = "/api/v1/auth/refresh" →
    ∃ t, r.body = [("refresh_token", t)] ∧ t ≠ "" ∧ t ∈ tokens

theorem Issued.mono {tokens tokens' : List String} {s : State} (h : Issued tokens s)
    (hsub : tokens ⊆ tokens') : Issued tokens' s where
  store := h.store.imp_right (@hsub _)
  sent r hr hp := by
    obtain ⟨t, hb, ht, hmem⟩ := h.sent r hr hp
    exact ⟨t, hb, ht, hsub hmem⟩

theorem issued_authResponse {tokens : List String} {st : AuthStore}
    (h : st.token = "" ∨ st.token ∈ tokens) {t : String} (ht : t ∈ tokens ∨ t = st.token)
    (record : Option AuthRecord) :
    (authResponse st ⟨t, record⟩).token = "" ∨ (authResponse st ⟨t, record⟩).token ∈ tokens := by
  unfold authResponse
  split
  · split
    · exact h
    · rcases ht with ht | rfl
      · exact .inr ht
      · exact h
  · exact h

/-- One call keeps `Issued`, with the access token of the answer to the request it sent added. -/
theorem Issued.step {tokens : List String} {s : State} (h : Issued tokens s) (c : Call) :
    Issued (tokens ++ ((c.answer? s.store).map (·.accessToken)).toList) (step s c) := by
  have hsub : tokens ⊆ tokens ++ ((c.answer? s.store).map (·.accessToken)).toList :=
    List.subset_append_left _ _
  constructor
  · rcases Call.run_store s.store c with h' | h' | ⟨body, t, hc, ht, h'⟩ <;>
      simp only [AuthService.step, h']
    · exact h.store.imp_right (@hsub _)
    · exact .inl rfl
    · refine issued_authResponse (h.store.imp_right (@hsub _)) ?_ _
      rcases ht with rfl | rfl
      · exact .inl (List.mem_append_right _ (by simp [hc]))
      · exact .inr rfl
  · intro r hr hp
    simp only [AuthService.step, List.mem_append] at hr
    rcases hr with hr | hr
    · exact (h.mono hsub).sent r hr hp
    · obtain ⟨hne, hb⟩ := Call.sent_refresh (Option.mem_toList.mp hr) hp
      exact ⟨_, hb, hne, hsub (h.store.resolve_left hne)⟩

theorem issued_run {tokens : List String} {s : State} (h : Issued tokens s) (calls : List Call) :
    Issued (tokens ++ answeredTokens s calls) (run s calls) := by
  induction calls generalizing tokens s with
  | nil => simpa [answeredTokens] using h
  | cons c calls ih => simpa [answeredTokens] using ih (h.step c)

/-- **The store and the refresh requests hold access tokens.**  In every run from an empty store,
the store's token is empty or the access token of an answer to a login, a register, a refresh or a
user update that the run sent; and every request to `/api/v1/auth/refresh` has the single member
`refresh_token`, such a token, not empty. -/
theorem refresh_sends_access_token (calls : List Call) :
    ((run State.init calls).store.token = "" ∨
        (run State.init calls).store.token ∈ answeredTokens State.init calls) ∧
      ∀ r ∈ (run State.init calls).sent, r.path = "/api/v1/auth/refresh" →
        ∃ t, r.body = [("refresh_token", t)] ∧ t ≠ "" ∧ t ∈ answeredTokens State.init calls := by
  have h0 : Issued [] State.init := ⟨.inl rfl, fun _ hr => absurd hr (List.not_mem_nil _)⟩
  have h := issued_run h0 calls
  exact ⟨by simpa using h.store, by simpa using h.sent⟩

/-- A login, then a refresh: the store and the refresh request hold the login's access token. -/
theorem refresh_sends_access_token_afterLogin :
    (⟨"POST", "/api/v1/auth/refresh", [("refresh_token", "acc1")]⟩ : Request) ∈
        (run State.init [Call.login "ann@example.com" "pw" (.ok ⟨some ⟨"u1", "ann@example.com",
          none, "", ""⟩, "acc1"⟩), .refreshToken (.error "401")]).sent ∧
      ∃ t, [("refresh_token", "acc1")] = [("refresh_token", t)] ∧ t ≠ "" ∧
        t ∈ answeredTokens State.init [Call.login "ann@example.com" "pw"
          (.ok ⟨some ⟨"u1", "ann@example.com", none, "", ""⟩, "acc1"⟩), .refreshToken (.error "401")] :=
  have h : (⟨"POST", "/api/v1/auth/refresh", [("refresh_token", "acc1")]⟩ : Request) ∈
      (run State.init [Call.login "ann@example.com" "pw" (.ok ⟨some ⟨"u1", "ann@example.com",
        none, "", ""⟩, "acc1"⟩), .refreshToken (.error "401")]).sent := by decide
  ⟨h, (refresh_sends_access_token _).2 _ h rfl⟩

/-! ### Signed out -/

/-- A session body that signs a user in: a token and a user. -/
def SessionBody.SignsIn (body : SessionBody) : Prop := body.accessToken ≠ "" ∧ body.user.isSome

/-- The requests that can be sent while the store is empty. -/
def signedOutPaths : List String :=
  ["/api/v1/auth/login", "/api/v1/auth/register", "/api/v1/auth/logout", "/api/v1/auth/me"]

/-- From an empty store, a call that is not a sign-in leaves the store empty and sends at most a
login, a register, a logout or a `me` request. -/
theorem Call.run_empty {c : Call} (hc : ∀ body, c.signIn? = some body → ¬ body.SignsIn) :
    (c.run .empty).store = .empty ∧ ∀ r ∈ (c.run .empty).sent, r.path ∈ signedOutPaths := by
  have hresp : ∀ body : SessionBody, ¬ body.SignsIn →
      authResponse .empty ⟨body.accessToken, body.user⟩ = .empty := by
    intro body hb
    unfold authResponse
    split
    · split
      · rfl
      · exact absurd ⟨‹_›, by simp_all⟩ hb
    · rfl
  cases c with
  | login _ _ answer | register _ _ _ _ answer =>
    cases answer with
    | error e => simp [Call.run, AuthService.login, AuthService.register, session, signedOutPaths]
    | ok body =>
      simp [Call.run, AuthService.login, AuthService.register, session, signedOutPaths,
        hresp body (hc body rfl)]
  | logout answer | getCurrentUser _ answer =>
    cases answer <;> simp [Call.run, AuthService.logout, AuthService.getCurrentUser, signedOutPaths]
  | refreshToken | updateUser | updatePassword =>
    simp [Call.run, AuthService.refreshToken, AuthService.updateUser, AuthService.updatePassword,
      currentId, AuthStore.empty]
  | requestPasswordReset | confirmPasswordReset | requestEmailVerification
  | confirmEmailVerification | requestEmailChange | confirmEmailChange =>
    exact ⟨rfl, fun _ hr => by cases hr⟩

/-- **Signed out stays signed out.**  From an empty store, in every run whose login and register
answers never carry both a token and a user, the store stays empty, and every request sent is a
login, a register, a logout or `GET /api/v1/auth/me`: `refreshToken`, `updateUser` and
`updatePassword` throw before sending. -/
theorem signed_out_stays_empty (s : State) (hs : s.store = .empty) (calls : List Call)
    (hc : ∀ c ∈ calls, ∀ body, c.signIn? = some body → ¬ body.SignsIn) :
    (run s calls).store = .empty ∧
      ∀ r ∈ (run s calls).sent, r ∈ s.sent ∨ r.path ∈ signedOutPaths := by
  induction calls generalizing s with
  | nil => exact ⟨hs, fun r hr => .inl hr⟩
  | cons c calls ih =>
    obtain ⟨hstore, hsent⟩ := Call.run_empty (hc c (List.mem_cons_self _ _))
    obtain ⟨h₁, h₂⟩ := ih (step s c) (by simpa [AuthService.step, hs] using hstore)
      fun c' hc' => hc c' (List.mem_cons_of_mem _ hc')
    refine ⟨h₁, fun r hr => ?_⟩
    rcases h₂ r hr with hr' | hp
    · simp only [AuthService.step, List.mem_append] at hr'
      rcases hr' with hr' | hr'
      · exact .inl hr'
      · exact .inr (hsent r (by simpa [hs] using hr'))
    · exact .inr hp

/-- A login answered with a token and no user, then a refresh and a user update: the store stays
empty, and the refresh and the update send nothing. -/
theorem signed_out_stays_empty_tokenOnly :
    State.init.store = .empty ∧
      (∀ c ∈ [Call.login "ann@example.com" "pw" (.ok ⟨none, "tok"⟩),
          .refreshToken (.ok ⟨none, "tok2"⟩), .updateUser [("name", "Ann")] (.error "401")],
        ∀ body, c.signIn? = some body → ¬ body.SignsIn) ∧
      (run State.init [Call.login "ann@example.com" "pw" (.ok ⟨none, "tok"⟩),
          .refreshToken (.ok ⟨none, "tok2"⟩), .updateUser [("name", "Ann")] (.error "401")]).store =
        .empty ∧
      ∀ r ∈ (run State.init [Call.login "ann@example.com" "pw" (.ok ⟨none, "tok"⟩),
          .refreshToken (.ok ⟨none, "tok2"⟩), .updateUser [("name", "Ann")] (.error "401")]).sent,
        r ∈ State.init.sent ∨ r.path ∈ signedOutPaths := by
  have hc : ∀ c ∈ [Call.login "ann@example.com" "pw" (.ok ⟨none, "tok"⟩),
      .refreshToken (.ok ⟨none, "tok2"⟩), .updateUser [("name", "Ann")] (.error "401")],
      ∀ body, c.signIn? = some body → ¬ body.SignsIn := by
    simp [Call.signIn?, SessionBody.SignsIn]
  exact ⟨rfl, hc, signed_out_stays_empty State.init rfl _ hc⟩

end LuckDB.AuthService
