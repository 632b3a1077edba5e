/-!
# `AuthService`

The SDK's authentication service (class `AuthService` of `sdk/src/services/FieldService.ts`), over
the client's `authStore`.  The store's class is not under `src/`, and the spec leaves session
management outside the core; it is modelled from the spec and from the service's use of it: the
store keeps a token and a user record, `save(token, record)` replaces both and `clear()` empties
both.  A token that is `null` or empty is `""` here: the service only tests it for truthiness and
passes it on.

Each method sends at most one request through `this.send`, and the server's answer to it is an
input of the call: the body `send` returns (`.ok`), or the error it throws (`.error`).  `Call.run`
gives the request sent, what the method returns or throws, and the store after it; `run` strings
calls together and logs every request sent.  The clock `getCurrentUser` reads (`new Date()`) is an
input as well.
-/

namespace LuckDB.AuthService

/-- `AuthRecord`: the user as the store keeps it. -/
structure AuthRecord where
  id : String
  email : String
  name : Option String
  created : String
  updated : String
deriving DecidableEq, Repr

/-- Modelled from the spec: the client's `authStore`, an external collaborator, as the service
uses it: the token, `""` when there is none, and the user record. -/
structure AuthStore where
  token : String
  record : Option AuthRecord
deriving DecidableEq, Repr

/-- Modelled from the spec: the store after `authStore.clear()`, and before anyone signs in. -/
def AuthStore.empty : AuthStore := ⟨"", none⟩

/-- `AuthResponse`: `{ token, record }`. -/
structure AuthResponse where
  token : String
  record : Option AuthRecord
deriving DecidableEq, Repr

/-- A request handed to `this.send`: its method, its path, and the members of its body. -/
structure Request where
  method : String
  path : String
  body : List (String × String)
deriving DecidableEq, Repr

/-- The body of an answer to login, register, refresh and a user update, as the service reads it:
`user` (`none` for `null` or absent) and `accessToken` (`""` when absent).  No method reads the
`refreshToken` member. -/
structure SessionBody where
  user : Option AuthRecord
  accessToken : String
deriving DecidableEq, Repr

/-- The body of `GET /api/v1/auth/me` as `getCurrentUser` reads it. -/
structure ClaimsBody where
  userId : String
  email : String
deriving DecidableEq, Repr

/-- What a method returns: an `AuthResponse`, or nothing (`Promise<void>`). -/
inductive Result where
  | auth (response : AuthResponse)
  | done
deriving DecidableEq, Repr

/-- What one call does: the request it sends, if any, what it returns or throws, and the store
after it. -/
structure Outcome where
  sent : Option Request
  result : Except String Result
  store : AuthStore

/-! ### The methods -/

/-- `authResponse(response)`: the store saves the response when both its token and its record are
truthy, and is left as it is otherwise. -/
def authResponse (store : AuthStore) (response : AuthResponse) : AuthStore :=
  match response.record with
  | some record => if response.token = "" then store else ⟨response.token, some record⟩
  | none => store

/-- The shared tail of `login`, `register` and `refreshToken`: send the request, then build
`{ token: accessToken, record: user }`, hand it to `authResponse`, and return it. -/
def session (store : AuthStore) (request : Request) (answer : Except String SessionBody) :
    Outcome :=
  match answer with
  | .error e => ⟨some request, .error e, store⟩
  | .ok body =>
    let response : AuthResponse := ⟨body.accessToken, body.user⟩
    ⟨some request, .ok (.auth response), authResponse store response⟩

/-- `login(email, password)`. -/
def login (store : AuthStore) (email password : String) (answer : Except String SessionBody) :
    Outcome :=
  session store ⟨"POST", "/api/v1/auth/login", [("email", email), ("password", password)]⟩ answer

/-- `...(name && { name })`: the `name` member, when the name is a non-empty string. -/
def nameMember : Option String → List (String × String)
  | some name => if name = "" then [] else [("name", name)]
  | none => []

/-- `register(email, password, passwordConfirm, name?)`. -/
def register (store : AuthStore) (email password passwordConfirm : String) (name : Option String)
    (answer : Except String SessionBody) : Outcome :=
  session store ⟨"POST", "/api/v1/auth/register",
    [("email", email), ("password", password), ("passwordConfirm", passwordConfirm)] ++
      nameMember name⟩ answer

/-- `logout()`: the request first; the store is cleared only once it succeeds. -/
def logout (store : AuthStore) (answer : Except String Unit) : Outcome :=
  let request : Request := ⟨"POST", "/api/v1/auth/logout", []⟩
  match answer with
  | .error e => ⟨some request, .error e, store⟩
  | .ok () => ⟨some request, .ok .done, AuthStore.empty⟩

/-- `refreshToken()`: throws before sending when the store has no token, and sends the store's token
as the `refresh_token` member otherwise. -/
def refreshToken (store : AuthStore) (answer : Except String SessionBody) : Outcome :=
  if store.token = "" then ⟨none, .error "No token available for refresh", store⟩
  else session store ⟨"POST", "/api/v1/auth/refresh", [("refresh_token", store.token)]⟩ answer

/-- `serverResponse.email.split('@')[0]`, the source's `emailPrefix`: the text before the first
`@`, the whole email when it has none. -/
def localPart (email : String) : String := ⟨email.data.takeWhile (· ≠ '@')⟩

/-- `getCurrentUser()`: a record built from the claims, with the email's local part as its name
when that is not empty, and the store's token; the store is not written. -/
def getCurrentUser (store : AuthStore) (now : String) (answer : Except String ClaimsBody) :
    Outcome :=
  let request : Request := ⟨"GET", "/api/v1/auth/me", []⟩
  match answer with
  | .error e => ⟨some request, .error e, store⟩
  | .ok claims =>
    let name := localPart claims.email
    let record : AuthRecord :=
      { id := claims.userId, email := claims.email, name := if name = "" then none else some name,
        created := now, updated := now }
    ⟨some request, .ok (.auth ⟨store.token, some record⟩), store⟩

/-- The methods the server does not provide: each throws `Not supported by server: <path>` before
sending anything. -/
def notSupported (store : AuthStore) (path : String) : Outcome :=
  ⟨none, .error ("Not supported by server: " ++ path), store⟩

/-- `requestPasswordReset(email)`. -/
def requestPasswordReset (store : AuthStore) : Outcome :=
  notSupported store "/api/v1/auth/password-reset"

/-- `confirmPasswordReset(token, password, passwordConfirm)`. -/
def confirmPasswordReset (store : AuthStore) : Outcome :=
  notSupported store "/api/v1/auth/password-reset/confirm"

/-- `requestEmailVerification(email)`. -/
def requestEmailVerification (store : AuthStore) : Outcome :=
  notSupported store "/api/v1/auth/email-verification"

/-- `confirmEmailVerification(token)`. -/
def confirmEmailVerification (store : AuthStore) : Outcome :=
  notSupported store "/api/v1/auth/email-verification/confirm"

/-- `requestEmailChange(newEmail)`. -/
def requestEmailChange (store : AuthStore) : Outcome :=
  notSupported store "/api/v1/auth/email-change"

/-- `confirmEmailChange(token)`. -/
def confirmEmailChange (store : AuthStore) : Outcome :=
  notSupported store "/api/v1/auth/email-change/confirm"

/-- `current?.id`, when truthy: the id of the stored record, unless there is none or it is empty. -/
def currentId (store : AuthStore) : Option String :=
  match store.record with
  | some record => if record.id = "" then none else some record.id
  | none => none

/-- `updateUser(data)`: throws before sending when there is no user id; the answer's access token,
or else the store's token, goes with the returned user to `authResponse`. -/
def updateUser (store : AuthStore) (data : List (String × String))
    (answer : Except String SessionBody) : Outcome :=
  match currentId store with
  | none => ⟨none, .error "No authenticated user id for update", store⟩
  | some id =>
    let request : Request := ⟨"PATCH", "/api/v1/users/" ++ id, data⟩
    match answer with
    | .error e => ⟨some request, .error e, store⟩
    | .ok body =>
      let response : AuthResponse :=
        ⟨if body.accessToken = "" then store.token else body.accessToken, body.user⟩
      ⟨some request, .ok (.auth response), authResponse store response⟩

/-- `updatePassword(oldPassword, newPassword, newPasswordConfirm)`: throws before sending when
there is no user id; the store is not written. -/
def updatePassword (store : AuthStore) (oldPassword newPassword newPasswordConfirm : String)
    (answer : Except String Unit) : Outcome :=
  match currentId store with
  | none => ⟨none, .error "No authenticated user id for password update", store⟩
  | some id =>
    let request : Request := ⟨"PATCH", "/api/v1/users/" ++ id ++ "/password",
      [("oldPassword", oldPassword), ("newPassword", newPassword),
        ("newPasswordConfirm", newPasswordConfirm)]⟩
    match answer with
    | .error e => ⟨some request, .error e, store⟩
    | .ok () => ⟨some request, .ok .done, store⟩

/-- `getCurrentUserSync()`. -/
def getCurrentUserSync (store : AuthStore) : Option AuthRecord := store.record

/-- `getToken()`, `""` standing for `null`. -/
def getToken (store : AuthStore) : String := store.token

/-! ### Runs -/

/-- A call of the service, with the server's answer to the request it sends. -/
inductive Call where
  | login (email password : String) (answer : Except String SessionBody)
  | register (email password passwordConfirm : String) (name : Option String)
      (answer : Except String SessionBody)
  | logout (answer : Except String Unit)
  | refreshToken (answer : Except String SessionBody)
  | getCurrentUser (now : String) (answer : Except String ClaimsBody)
  | requestPasswordReset
  | confirmPasswordReset
  | requestEmailVerification
  | confirmEmailVerification
  | requestEmailChange
  | confirmEmailChange
  | updateUser (data : List (String × String)) (answer : Except String SessionBody)
  | updatePassword (oldPassword newPassword newPasswordConfirm : String)
      (answer : Except String Unit)

/-- A call on store `store`. -/
def Call.run (store : AuthStore) : Call → Outcome
  | .login email password answer => AuthService.login store email password answer
  | .register email password confirm name answer =>
    AuthService.register store email password confirm name answer
  | .logout answer => AuthService.logout store answer
  | .refreshToken answer => AuthService.refreshToken store answer
  | .getCurrentUser now answer => AuthService.getCurrentUser store now answer
  | .requestPasswordReset => AuthService.requestPasswordReset store
  | .confirmPasswordReset => AuthService.confirmPasswordReset store
  | .requestEmailVerification => AuthService.requestEmailVerification store
  | .confirmEmailVerification => AuthService.confirmEmailVerification store
  | .requestEmailChange => AuthService.requestEmailChange store
  | .confirmEmailChange => AuthService.confirmEmailChange store
  | .updateUser data answer => AuthService.updateUser store data answer
  | .updatePassword old new confirm answer => AuthService.updatePassword store old new confirm answer

/-- The store, and every request sent so far. -/
structure State where
  store : AuthStore
  sent : List Request

/-- A service whose store is empty, before any request. -/
def State.init : State := ⟨.empty, []⟩

/-- One call. -/
def step (s : State) (c : Call) : State :=
  let o := c.run s.store
  ⟨o.store, s.sent ++ o.sent.toList⟩

/-- A run of calls. -/
def run (s : State) (calls : List Call) : State := calls.foldl step s

end LuckDB.AuthService
