import HyperCopy.Session.Refresh

/-!
# Signing in with a wallet

`/auth/challenge` and `/auth/verify` of `api/auth.py`.  A challenge is a message with a new nonce,
kept in Redis under the nonce and, as a row without the message, in `auth_nonces`.  A verification
takes the newest row of the address that is neither consumed nor expired, takes the message out of
Redis, and checks the signature; then one transaction consumes the row and creates the user where
the wallet has none.

Each Redis command and each transaction is one step, and any other request can take steps in
between.  A request can fail anywhere: what it has taken out of Redis is lost then.  The clock counts
milliseconds.  The recovery of the address from a signature is the parameter `verifyWallet`.

The state records what was answered: the challenges, the logins that were committed, and the
sessions that were handed out for them.
-/

namespace HyperCopy.Session

open Transition

/-- The random part of a challenge. -/
abbrev Nonce := ℕ

/-- A signature, as the verifier reads it. -/
abbrev Signature := ℕ

/-- The fields of `build_signin_message`. -/
structure SigninMessage where
  address : Wallet
  nonce : Nonce
  issuedAt : ℕ
  expiresAt : ℕ
deriving DecidableEq, Repr

/-- The role of a user. -/
inductive LoginRole
  | superadmin
  | admin
  | user
deriving DecidableEq, Repr

/-- The settings that a login reads. -/
structure LoginSettings where
  /-- in seconds -/
  authNonceTtl : ℕ
  /-- in days -/
  trialDays : ℕ
  superadminAddresses : List Wallet
  adminAddresses : List Wallet
deriving DecidableEq, Repr

/-- The role of an address; a superadmin is no admin. -/
def LoginSettings.roleOf (c : LoginSettings) (address : Wallet) : LoginRole :=
  if address ∈ c.superadminAddresses then .superadmin
  else if address ∈ c.adminAddresses then .admin
  else .user

/-- A row of `auth_nonces`. -/
structure AuthNonce where
  address : Wallet
  expiresAt : ℕ
  consumedAt : Option ℕ
  createdAt : ℕ
deriving DecidableEq, Repr

/-- A new user, with the trial that is created beside it. -/
structure LoginUser where
  authWallet : Wallet
  role : LoginRole
  shadowStartedAt : ℕ
  trialEnd : ℕ
deriving DecidableEq, Repr

/-- What a verification has established about its challenge. -/
structure SignedChallenge where
  message : SigninMessage
  signature : Signature
  /-- when its row was selected -/
  selectedAt : ℕ
deriving DecidableEq, Repr

/-- A committed login. -/
structure Login extends SignedChallenge where
  user : UserId
deriving DecidableEq, Repr

/-- The next step of a request. -/
inductive LoginStage
  | begun (address : Wallet)
  /-- `setex` of the message -/
  | store (message : SigninMessage)
  /-- the row of the nonce -/
  | record (message : SigninMessage)
  | select (address : Wallet) (signature : Signature)
  /-- `getdel` of the message -/
  | take (address : Wallet) (signature : Signature) (nonce : Nonce) (selectedAt : ℕ)
  /-- the queries for the user and the trial plan -/
  | find (signed : SignedChallenge)
  | commit (signed : SignedChallenge) (user : Option UserId) (planFound : Bool)
  | issue (login : Login)
deriving DecidableEq, Repr

/-- Redis and the tables a login works on, the requests under way, and what happened: the challenges
and sessions handed out. -/
structure LoginSystem where
  clock : ℕ
  /-- `auth:nonce:<nonce>` -/
  redis : ExpiringTable Nonce SigninMessage
  nonces : Table Nonce AuthNonce
  users : Table UserId LoginUser
  trialPlan : Bool
  tasks : Table TaskId LoginStage
  challenges : Table Nonce SigninMessage
  logins : List Login
  sessions : List Login

namespace LoginSystem

/-- The request comes to this point. -/
def goto (s : LoginSystem) (id : TaskId) (stage : LoginStage) : LoginSystem :=
  { s with tasks := s.tasks.insert id stage }

/-- The request is answered. -/
def finish (s : LoginSystem) (id : TaskId) : LoginSystem :=
  { s with tasks := s.tasks.erase id }

/-- A request arrives. -/
def begin (s : LoginSystem) (id : TaskId) (stage : LoginStage) : Option LoginSystem :=
  if (s.tasks.lookup id).isSome then none else some (s.goto id stage)

/-- `build_signin_message` with a new nonce. -/
def challenge (c : LoginSettings) (s : LoginSystem) (id : TaskId) (nonce : Nonce) :
    Option LoginSystem :=
  match s.tasks.lookup id with
  | some (.begun address) =>
    if (s.challenges.lookup nonce).isSome then none
    else
      let message : SigninMessage := ⟨address, nonce, s.clock, s.clock + 1000 * c.authNonceTtl⟩
      some ({ s with challenges := s.challenges.insert nonce message }.goto id (.store message))
  | _ => none

/-- The message is kept in Redis for as long as the challenge lives. -/
def store (c : LoginSettings) (s : LoginSystem) (id : TaskId) : Option LoginSystem :=
  match s.tasks.lookup id with
  | some (.store message) =>
    some ({ s with
      redis := s.redis.setex message.nonce (s.clock + 1000 * c.authNonceTtl) message }.goto id
        (.record message))
  | _ => none

/-- The challenge gets its row, and is answered. -/
def record (s : LoginSystem) (id : TaskId) : Option LoginSystem :=
  match s.tasks.lookup id with
  | some (.record message) =>
    let row : AuthNonce := ⟨message.address, message.expiresAt, none, s.clock⟩
    some ({ s with nonces := s.nonces.insert message.nonce row }.finish id)
  | _ => none

/-- The row can be selected for the address. -/
def selectable (s : LoginSystem) (address : Wallet) (row : AuthNonce) : Bool :=
  row.address = address && row.consumedAt.isNone && decide (s.clock < row.expiresAt)

/-- `nonce` is one of the newest rows that can be selected. -/
def newest (s : LoginSystem) (address : Wallet) (nonce : Nonce) : Bool :=
  (s.nonces.lookup nonce).any fun row => s.selectable address row &&
    !Table.any s.nonces fun _ other => s.selectable address other && row.createdAt < other.createdAt

/-- The newest row that can be selected, or the request is refused. -/
def select (s : LoginSystem) (id : TaskId) (nonce : Nonce) : Option LoginSystem :=
  match s.tasks.lookup id with
  | some (.select address signature) =>
    if s.newest address nonce then some (s.goto id (.take address signature nonce s.clock))
    else if Table.any s.nonces fun _ row => s.selectable address row then none
    else some (s.finish id)
  | _ => none

/-- `getdel`, and the check of the signature. -/
def take (verifyWallet : Wallet → SigninMessage → Signature → Bool) (s : LoginSystem)
    (id : TaskId) : Option LoginSystem :=
  match s.tasks.lookup id with
  | some (.take address signature nonce selectedAt) =>
    match s.redis.get s.clock nonce with
    | none => some (s.finish id)
    | some message =>
      let s := { s with redis := s.redis.erase nonce }
      if message.address = address && verifyWallet address message signature then
        some (s.goto id (.find ⟨message, signature, selectedAt⟩))
      else some (s.finish id)
  | _ => none

/-- The user with a wallet. -/
def userOf (s : LoginSystem) (address : Wallet) : Option UserId :=
  s.users.keys.find? fun user => (s.users.lookup user).any fun row => row.authWallet = address

/-- The queries for the user and the trial plan. -/
def find (s : LoginSystem) (id : TaskId) : Option LoginSystem :=
  match s.tasks.lookup id with
  | some (.find signed) =>
    some (s.goto id (.commit signed (s.userOf signed.message.address) s.trialPlan))
  | _ => none

/-- The new user of a first login. -/
def newUser (c : LoginSettings) (s : LoginSystem) (address : Wallet) : LoginUser where
  authWallet := address
  role := c.roleOf address
  shadowStartedAt := s.clock
  trialEnd := s.clock + 86400000 * c.trialDays

/-- The row of the challenge is marked as used. -/
def consume (s : LoginSystem) (nonce : Nonce) : LoginSystem :=
  { s with
    nonces := Table.modify s.nonces nonce fun row => { row with consumedAt := some s.clock } }

/-- The commit behind a verified signature. -/
def login (s : LoginSystem) (id : TaskId) (signed : SignedChallenge) (user : UserId) :
    LoginSystem :=
  let login : Login := { signed with user }
  { s with logins := login :: s.logins }.goto id (.issue login)

/-- The transaction of a login.  Wallets and the slugs of plans are unique: it fails where a row it
has not found is there by now. -/
def commit (c : LoginSettings) (s : LoginSystem) (id : TaskId) (newId : UserId) :
    Option LoginSystem :=
  match s.tasks.lookup id with
  | some (.commit signed (some user) _) =>
    some ((s.consume signed.message.nonce).login id signed user)
  | some (.commit signed none planFound) =>
    if (s.users.lookup newId).isSome then none
    else if (s.userOf signed.message.address).isSome || (!planFound && s.trialPlan) then
      some (s.finish id)
    else
      let row := s.newUser c signed.message.address
      some (({ s with
        users := s.users.insert newId row
        trialPlan := true }.consume signed.message.nonce).login id signed newId)
  | _ => none

/-- The session is handed out. -/
def issue (s : LoginSystem) (id : TaskId) : Option LoginSystem :=
  match s.tasks.lookup id with
  | some (.issue login) => some ({ s with sessions := login :: s.sessions }.finish id)
  | _ => none

/-- No request has been made yet. -/
def initial : LoginSystem := ⟨0, ∅, ∅, ∅, false, ∅, ∅, [], []⟩

end LoginSystem

/-- What can happen: time passes, and each request takes its steps. -/
inductive LoginOp
  | tick (clock : ℕ)
  | challengeRequest (id : TaskId) (address : Wallet)
  | challenge (id : TaskId) (nonce : Nonce)
  | store (id : TaskId)
  | record (id : TaskId)
  | verifyRequest (id : TaskId) (address : Wallet) (signature : Signature)
  | select (id : TaskId) (nonce : Nonce)
  | take (id : TaskId)
  | find (id : TaskId)
  | commit (id : TaskId) (newId : UserId)
  | issue (id : TaskId)
  | fail (id : TaskId)

/-- One step. -/
def loginStep (c : LoginSettings) (verifyWallet : Wallet → SigninMessage → Signature → Bool)
    (s : LoginSystem) : LoginOp → Option LoginSystem
  | .tick clock => if s.clock ≤ clock then some { s with clock } else none
  | .challengeRequest id address => s.begin id (.begun address)
  | .challenge id nonce => s.challenge c id nonce
  | .store id => s.store c id
  | .record id => s.record id
  | .verifyRequest id address signature => s.begin id (.select address signature)
  | .select id nonce => s.select id nonce
  | .take id => s.take verifyWallet id
  | .find id => s.find id
  | .commit id newId => s.commit c id newId
  | .issue id => s.issue id
  | .fail id => some (s.finish id)

end HyperCopy.Session
