import HyperCopy.Library.ExpiringTable
import HyperCopy.Library.Transition

/-!
# Refresh tokens and sessions of one login

A login issues a refresh token and an access token.  A refresh request presents the refresh token,
gets its successor and a new access token, and turns the entry of the presented token into a handle
that reproduces the same successor for a short grace interval.  A logout writes deny keys.

Each Redis command is one step, and so is each reading of the clock; a request is a task that takes
its steps one at a time, and any other request can take steps in between.  The clock counts
milliseconds.  Secrets are modelled as terms: a token, its successor and its digest are new values,
known to no one who has not been given them.

The state carries a record of what was answered: the tokens issued, the first rotation of each token,
the refresh requests and the access tokens accepted, and whether a logout has committed.
-/

namespace HyperCopy.Session

/-- The primary key of a user. -/
abbrev UserId := ℕ

/-- Normalised addresses. -/
abbrev Wallet := ℕ

/-- The identifier of a refresh family. -/
abbrev SessionId := ℕ

/-- The handle of a request. -/
abbrev TaskId := ℕ

/-- `create_refresh_token`, and `derive_refresh_successor` of another token. -/
inductive RefreshToken where
  | created (entropy : ℕ)
  | successor (token : RefreshToken)
  deriving DecidableEq, Repr

/-- `derive_refresh_successor`: one token, one successor. -/
def deriveRefreshSuccessor (token : RefreshToken) : RefreshToken :=
  .successor token

/-- `hash_refresh_token`. -/
structure RefreshHash where
  token : RefreshToken
  deriving DecidableEq, Repr

/-- `hash_refresh_token`, taken to be injective. -/
def hashRefreshToken (token : RefreshToken) : RefreshHash :=
  ⟨token⟩

/-- The lifetimes, in seconds, as the settings are validated. -/
structure SessionSettings where
  sessionTtl : ℕ
  sessionRefreshTtl : ℕ
  sessionRefreshGrace : ℕ
  sessionTtl_pos : 0 < sessionTtl
  sessionTtl_lt : sessionTtl < sessionRefreshTtl
  one_le_grace : 1 ≤ sessionRefreshGrace
  grace_lt : sessionRefreshGrace < sessionTtl

/-- The defaults. -/
def SessionSettings.default : SessionSettings where
  sessionTtl := 3600
  sessionRefreshTtl := 86400
  sessionRefreshGrace := 60
  sessionTtl_pos := by decide
  sessionTtl_lt := by decide
  one_le_grace := by decide
  grace_lt := by decide

/-- What Redis stores for a refresh token. -/
structure RefreshPayload where
  sub : UserId
  wallet : Wallet
  absoluteExp : ℕ
  sessionId : SessionId
  rotatedTo : Option RefreshHash
  rotationGraceExp : ℕ
  deriving DecidableEq, Repr

/-- `_refresh_payload`. -/
def refreshPayload (sub : UserId) (wallet : Wallet) (absoluteExp : ℕ) (sessionId : SessionId) :
    RefreshPayload :=
  { sub, wallet, absoluteExp, sessionId, rotatedTo := none, rotationGraceExp := 0 }

/-- The claims of an access token that the checks read. -/
structure AccessToken where
  jti : ℕ
  exp : ℕ
  sid : Option SessionId
  sessionExp : Option ℕ
  deriving DecidableEq, Repr

/-- `session:deny:<jti>` and `session:refresh-deny:<session id>`. -/
inductive DenyKey where
  | access (jti : ℕ)
  | family (sessionId : SessionId)
  deriving DecidableEq, Repr

/-! ## Requests -/

/-- When a request looked up the deny key of its family, and whether a logout had committed. -/
structure FamilyLookup where
  clock : ℕ
  loggedOut : Bool
  deriving DecidableEq, Repr

/-- A refresh request whose token has passed the checks of `refresh`. -/
structure Presented where
  token : RefreshToken
  payload : RefreshPayload
  looked : FamilyLookup
  deriving DecidableEq, Repr

/-- A request in `_rotate_refresh_token`, with the clock reading of its start. -/
structure Rotation extends Presented where
  nowTs : ℕ
  deriving DecidableEq, Repr

/-- The next command of a refresh request: the `GET` of its entry; the checks of expiry, of the deny
key and of the user; the same checks of the rotation; then, as far as they are needed, the `EXISTS`
of the successor, the three steps of `_store_refresh_token`, the mark on the presented token, and the
new access token.  A rejected token is deleted. -/
inductive RefreshStage where
  | get (token : RefreshToken)
  | expiry (token : RefreshToken) (payload : RefreshPayload)
  | denied (token : RefreshToken) (payload : RefreshPayload)
  | user (p : Presented)
  | rotation (p : Presented)
  | rotationDenied (r : Rotation)
  | retry (r : Rotation) (relooked : FamilyLookup)
  | storeExpiry (r : Rotation)
  | storeDenied (r : Rotation) (ttl : ℕ)
  | store (r : Rotation) (ttl : ℕ) (relooked : FamilyLookup)
  | mark (r : Rotation) (relooked : FamilyLookup)
  | issue (r : Rotation) (relooked : FamilyLookup)
  | delete (token : RefreshToken)
  deriving DecidableEq, Repr

/-- What an access token is presented for. -/
inductive Purpose where
  | request
  | logout (cookie : Option RefreshToken)
  deriving DecidableEq, Repr

/-- The next command of a request with an access token: the three checks of `session_claims`, and
then the commands of a logout. -/
inductive SessionStage where
  | decode (token : AccessToken) (purpose : Purpose)
  | accessDenied (token : AccessToken) (purpose : Purpose)
  | familyDenied (token : AccessToken) (purpose : Purpose)
  | logout (token : AccessToken) (cookie : Option RefreshToken)
  | denyAccess (token : AccessToken) (cookie : Option RefreshToken) (nowTs : ℕ)
  | denyFamily (token : AccessToken) (cookie : Option RefreshToken) (nowTs : ℕ)
  | deleteCookie (cookie : Option RefreshToken)
  deriving DecidableEq, Repr

/-- A request for a refresh, or one that ends sessions. -/
inductive Task where
  | refresh (stage : RefreshStage)
  | session (stage : SessionStage)
  deriving DecidableEq, Repr

/-! ## State -/

/-- A refresh request that was answered with a successor. -/
structure RefreshAcceptance where
  token : RefreshToken
  successor : RefreshToken
  /-- The reading at which the rotation checked the token. -/
  nowTs : ℕ
  /-- The lifetime of the cookie. -/
  ttl : ℕ
  looked : FamilyLookup
  relooked : FamilyLookup
  deriving DecidableEq, Repr

/-- An access token that `session_claims` accepted. -/
structure AccessAcceptance where
  token : AccessToken
  looked : FamilyLookup
  deriving DecidableEq, Repr

/-- Redis, the users and the requests under way, and what happened to the family of the first
token. -/
structure SessionSystem where
  clock : ℕ
  users : Table UserId Wallet
  refresh : ExpiringTable RefreshHash RefreshPayload
  deny : ExpiringTable DenyKey Unit
  tasks : Table TaskId Task
  accessTokens : List AccessToken
  first : RefreshToken
  sessionId : SessionId
  absoluteExp : ℕ
  issued : List RefreshToken
  rotatedAt : Table RefreshToken ℕ
  loggedOut : Bool
  accepted : List RefreshAcceptance
  admitted : List AccessAcceptance

namespace SessionSystem

/-- Unix time in seconds. -/
def nowTs (s : SessionSystem) : ℕ :=
  s.clock / 1000

/-- When an entry written now with a lifetime of `ttl` seconds expires. -/
def after (s : SessionSystem) (ttl : ℕ) : ℕ :=
  s.clock + 1000 * ttl

/-- Is the key on the deny list? -/
def denied (s : SessionSystem) (key : DenyKey) : Bool :=
  s.deny.existsKey s.clock key

/-- A lookup at this moment. -/
def lookedUp (s : SessionSystem) : FamilyLookup :=
  ⟨s.clock, s.loggedOut⟩

/-- The request comes to this point. -/
def goto (s : SessionSystem) (id : TaskId) (task : Task) : SessionSystem :=
  { s with tasks := s.tasks.insert id task }

/-- The request is answered. -/
def finish (s : SessionSystem) (id : TaskId) : SessionSystem :=
  { s with tasks := s.tasks.erase id }

/-- `DELETE` of the entry of a token. -/
def deleteToken (s : SessionSystem) (token : RefreshToken) : SessionSystem :=
  { s with refresh := s.refresh.erase (hashRefreshToken token) }

/-- `create_session_token`. -/
def createSessionToken (s : SessionSystem) (c : SessionSettings) : SessionSystem :=
  { s with accessTokens := s.accessTokens ++
      [⟨s.accessTokens.length, s.nowTs + c.sessionTtl, some s.sessionId, some s.absoluteExp⟩] }

/-- `SETEX` of the unrotated entry of the successor. -/
def storeSuccessor (s : SessionSystem) (r : Rotation) (ttl : ℕ) : SessionSystem :=
  let successor := deriveRefreshSuccessor r.token
  let payload := refreshPayload r.payload.sub r.payload.wallet r.payload.absoluteExp
    r.payload.sessionId
  { s with
    refresh := s.refresh.setex (hashRefreshToken successor) (s.after ttl) payload
    issued := if successor ∈ s.issued then s.issued else s.issued ++ [successor] }

/-- The lifetime that is left to a login at a clock reading. -/
def ttlAt (r : Rotation) : ℕ :=
  r.payload.absoluteExp - r.nowTs

/-- `SETEX` of the entry that turns the presented token into a handle for its successor. -/
def markRotated (s : SessionSystem) (c : SessionSettings) (r : Rotation) : SessionSystem :=
  let graceSeconds := min c.sessionRefreshGrace (ttlAt r)
  let gracePayload : RefreshPayload :=
    { refreshPayload r.payload.sub r.payload.wallet r.payload.absoluteExp r.payload.sessionId with
      rotatedTo := some (hashRefreshToken (deriveRefreshSuccessor r.token))
      rotationGraceExp := r.nowTs + graceSeconds }
  { s with
    refresh := s.refresh.setex (hashRefreshToken r.token) (s.after graceSeconds) gracePayload
    rotatedAt := match s.rotatedAt.lookup r.token with
      | some _ => s.rotatedAt
      | none => s.rotatedAt.insert r.token r.nowTs }

/-- The answer to a refresh request. -/
def accept (s : SessionSystem) (r : Rotation) (relooked : FamilyLookup) : SessionSystem :=
  { s with accepted := s.accepted ++
      [⟨r.token, deriveRefreshSuccessor r.token, r.nowTs, ttlAt r, r.looked, relooked⟩] }

/-! ## Steps of a refresh request -/

/-- One step of `refresh`, of `_rotate_refresh_token` or of `_store_refresh_token`. -/
def refreshNext (c : SessionSettings) (s : SessionSystem) (id : TaskId) :
    RefreshStage → SessionSystem
  | .get token =>
    match s.refresh.get s.clock (hashRefreshToken token) with
    | none => s.finish id
    | some payload => s.goto id (.refresh (.expiry token payload))
  | .expiry token payload =>
    if payload.absoluteExp ≤ s.nowTs then s.goto id (.refresh (.delete token))
    else s.goto id (.refresh (.denied token payload))
  | .denied token payload =>
    if s.denied (.family payload.sessionId) then s.goto id (.refresh (.delete token))
    else s.goto id (.refresh (.user ⟨token, payload, s.lookedUp⟩))
  | .user p =>
    if s.users.lookup p.payload.sub ≠ some p.payload.wallet then
      s.goto id (.refresh (.delete p.token))
    else s.goto id (.refresh (.rotation p))
  | .rotation p =>
    if p.payload.absoluteExp ≤ s.nowTs then s.finish id
    else s.goto id (.refresh (.rotationDenied { p with nowTs := s.nowTs }))
  | .rotationDenied r =>
    if s.denied (.family r.payload.sessionId) then s.finish id
    else
      match r.payload.rotatedTo with
      | some successorHash =>
        if successorHash ≠ hashRefreshToken (deriveRefreshSuccessor r.token) then
          s.goto id (.refresh (.delete r.token))
        -- the handle keeps the deadline of its entry
        else if r.payload.rotationGraceExp ≤ r.nowTs then s.goto id (.refresh (.delete r.token))
        else s.goto id (.refresh (.retry r s.lookedUp))
      | none => s.goto id (.refresh (.storeExpiry r))
  | .retry r relooked =>
    if s.refresh.existsKey s.clock (hashRefreshToken (deriveRefreshSuccessor r.token)) then
      s.goto id (.refresh (.issue r relooked))
    else s.goto id (.refresh (.storeExpiry r))
  | .storeExpiry r =>
    if r.payload.absoluteExp ≤ s.nowTs then s.finish id
    else s.goto id (.refresh (.storeDenied r (r.payload.absoluteExp - s.nowTs)))
  | .storeDenied r ttl =>
    if s.denied (.family r.payload.sessionId) then s.finish id
    else s.goto id (.refresh (.store r ttl s.lookedUp))
  | .store r ttl relooked =>
    (s.storeSuccessor r ttl).goto id
      (.refresh (if r.payload.rotatedTo = none then .mark r relooked else .issue r relooked))
  | .mark r relooked => (s.markRotated c r).goto id (.refresh (.issue r relooked))
  | .issue r relooked => ((s.createSessionToken c).accept r relooked).finish id
  | .delete token => (s.deleteToken token).finish id

/-! ## Steps of a request with an access token -/

/-- The lifetime of the deny key of a family. -/
def familyTtl (c : SessionSettings) (token : AccessToken) (nowTs : ℕ) : ℕ :=
  let sessionExp := token.sessionExp.getD 0
  if sessionExp = 0 then c.sessionRefreshTtl else max (sessionExp - nowTs) 1

/-- `session_claims` has accepted the token. -/
def acceptAccess (s : SessionSystem) (id : TaskId) (token : AccessToken) (purpose : Purpose) :
    SessionSystem :=
  let s : SessionSystem := { s with admitted := s.admitted ++ [⟨token, s.lookedUp⟩] }
  match purpose with
  | .request => s.finish id
  | .logout cookie => s.goto id (.session (.logout token cookie))

/-- One step of `session_claims` or of `logout`. -/
def sessionNext (c : SessionSettings) (s : SessionSystem) (id : TaskId) :
    SessionStage → SessionSystem
  | .decode token purpose =>
    if 1000 * token.exp ≤ s.clock then s.finish id
    else s.goto id (.session (.accessDenied token purpose))
  | .accessDenied token purpose =>
    if s.denied (.access token.jti) then s.finish id
    else s.goto id (.session (.familyDenied token purpose))
  | .familyDenied token purpose =>
    if token.sid.any fun sessionId => s.denied (.family sessionId) then s.finish id
    else s.acceptAccess id token purpose
  | .logout token cookie => s.goto id (.session (.denyAccess token cookie s.nowTs))
  | .denyAccess token cookie nowTs =>
    let accessTtl := max (token.exp - nowTs) 1
    let s : SessionSystem := { s with deny := s.deny.setex (.access token.jti) (s.after accessTtl) () }
    s.goto id (.session (.denyFamily token cookie nowTs))
  | .denyFamily token cookie nowTs =>
    match token.sid with
    | none => s.goto id (.session (.deleteCookie cookie))
    | some sessionId =>
      let s : SessionSystem := { s with
        deny := s.deny.setex (.family sessionId) (s.after (familyTtl c token nowTs)) ()
        loggedOut := s.loggedOut || sessionId = s.sessionId }
      s.goto id (.session (.deleteCookie cookie))
  | .deleteCookie cookie =>
    match cookie with
    | none => s.finish id
    | some token => (s.deleteToken token).finish id

/-! ## The system -/

/-- The state after `/verify`. -/
def verified (c : SessionSettings) (clock : ℕ) (user : UserId) (wallet : Wallet)
    (sessionId : SessionId) (entropy : ℕ) : SessionSystem :=
  let absoluteExp := clock / 1000 + c.sessionRefreshTtl
  let token := RefreshToken.created entropy
  { clock
    users := (∅ : Table UserId Wallet).insert user wallet
    refresh := ExpiringTable.setex ∅ (hashRefreshToken token) (clock + 1000 * c.sessionRefreshTtl)
      (refreshPayload user wallet absoluteExp sessionId)
    deny := ∅
    tasks := ∅
    accessTokens := [⟨0, clock / 1000 + c.sessionTtl, some sessionId, some absoluteExp⟩]
    first := token
    sessionId
    absoluteExp
    issued := [token]
    rotatedAt := ∅
    loggedOut := false
    accepted := []
    admitted := [] }

end SessionSystem

/-- What happens next: the clock moves on; rows of users change; a request arrives with a token;
a request takes its next step, or fails. -/
inductive SessionOp where
  | tick (clock : ℕ)
  | users (rows : Table UserId Wallet)
  | refresh (id : TaskId) (token : RefreshToken)
  | session (id : TaskId) (token : AccessToken) (purpose : Purpose)
  | next (id : TaskId)
  | fail (id : TaskId)

/-- One step.  An access token that was not issued has no valid signature. -/
def sessionStep (c : SessionSettings) (s : SessionSystem) : SessionOp → Option SessionSystem
  | .tick clock => if s.clock ≤ clock then some { s with clock } else none
  | .users rows => some { s with users := rows }
  | .refresh id token =>
    if s.tasks.lookup id = none then some (s.goto id (.refresh (.get token))) else none
  | .session id token purpose =>
    if s.tasks.lookup id = none ∧ token ∈ s.accessTokens then
      some (s.goto id (.session (.decode token purpose)))
    else none
  | .next id =>
    match s.tasks.lookup id with
    | none => none
    | some (.refresh stage) => some (s.refreshNext c id stage)
    | some (.session stage) => some (s.sessionNext c id stage)
  | .fail id => some (s.finish id)

end HyperCopy.Session
