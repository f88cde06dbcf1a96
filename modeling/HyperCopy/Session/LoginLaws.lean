import HyperCopy.Session.Login

/-!
# A signature signs in once

The message of a challenge is in one place at a time: with the request that stores it, in Redis, or
with the request that has taken it out, and it is gone after the login.  `getdel` hands it to one
request, so two requests that have selected the same row cannot both go on
(`LoginTasks.alone`).  The row and its `consumed_at` play no part in this; they decide which message
a verification asks for.

The other half is progress: requests that fail and messages that are lost leave rows behind that
nobody can use, but a new challenge has the newest row, and signing its message in time signs in
(`fresh_challenge_signs_in`).
-/

namespace HyperCopy.Session

open Transition

/-- What one request holds at a time: the message of a nonce, or the session of a login. -/
inductive LoginItem
  | message (nonce : Nonce)
  | session (nonce : Nonce)
deriving DecidableEq, Repr

/-- What the request has taken and not yet handed on. -/
def LoginStage.item : LoginStage → Option LoginItem
  | store message => some (.message message.nonce)
  | find signed => some (.message signed.message.nonce)
  | commit signed _ _ => some (.message signed.message.nonce)
  | issue login => some (.session login.message.nonce)
  | begun _ | record _ | select _ _ | take _ _ _ _ => none

namespace LoginSystem

variable {c : LoginSettings} {verifyWallet : Wallet → SigninMessage → Signature → Bool}
  {s s' s₁ : LoginSystem}

/-! ## The invariant -/

/-- The challenges that signed somebody in. -/
def loggedIn (s : LoginSystem) : List Nonce := s.logins.map fun login => login.message.nonce

/-- The challenges whose sessions were handed out. -/
def handedOut (s : LoginSystem) : List Nonce := s.sessions.map fun login => login.message.nonce

/-- Nobody else has the item. -/
def Free (s : LoginSystem) : LoginItem → Prop
  | .message nonce => s.redis.lookup nonce = none ∧ nonce ∉ s.loggedIn
  | .session nonce => nonce ∉ s.handedOut

/-- The user's row has the address. -/
def HasWallet (s : LoginSystem) (user : UserId) (address : Wallet) : Prop :=
  ∃ row, s.users.lookup user = some row ∧ row.authWallet = address

/-- A challenge, signed by the wallet it was made for and selected in time. -/
structure Genuine (verifyWallet : Wallet → SigninMessage → Signature → Bool) (s : LoginSystem)
    (signed : SignedChallenge) : Prop where
  challenged : s.challenges.lookup signed.message.nonce = some signed.message
  verified : verifyWallet signed.message.address signed.message signed.signature = true
  issued : signed.message.issuedAt ≤ signed.selectedAt
  selected : signed.selectedAt < signed.message.expiresAt

/-- What a request knows. -/
def StageOk (verifyWallet : Wallet → SigninMessage → Signature → Bool) (s : LoginSystem) :
    LoginStage → Prop
  | .begun _ | .select _ _ => True
  | .store message | .record message => s.challenges.lookup message.nonce = some message
  | .take address _ nonce selectedAt => ∃ message, s.challenges.lookup nonce = some message ∧
      message.address = address ∧ message.issuedAt ≤ selectedAt ∧ selectedAt < message.expiresAt
  | .find signed => Genuine verifyWallet s signed
  | .commit signed user _ => Genuine verifyWallet s signed ∧
      ∀ u, user = some u → s.HasWallet u signed.message.address
  | .issue login => login ∈ s.logins

/-- The requests: what each knows and holds. -/
structure LoginTasks (verifyWallet : Wallet → SigninMessage → Signature → Bool)
    (s : LoginSystem) : Prop where
  stage : ∀ t stage, s.tasks.lookup t = some stage → StageOk verifyWallet s stage
  free : ∀ t stage i, s.tasks.lookup t = some stage → stage.item = some i → s.Free i
  alone : ∀ t t' stage stage' i, s.tasks.lookup t = some stage → s.tasks.lookup t' = some stage' →
    stage.item = some i → stage'.item = some i → t = t'

/-- The tables. -/
structure LoginBooks (c : LoginSettings)
    (verifyWallet : Wallet → SigninMessage → Signature → Bool) (s : LoginSystem) : Prop where
  challenge : ∀ n m, s.challenges.lookup n = some m →
    m.nonce = n ∧ m.issuedAt ≤ s.clock ∧ m.expiresAt = m.issuedAt + 1000 * c.authNonceTtl
  row : ∀ n row, s.nonces.lookup n = some row → ∃ m, s.challenges.lookup n = some m ∧
    row.address = m.address ∧ row.expiresAt = m.expiresAt ∧ row.createdAt ≤ s.clock
  redis : ∀ n e, s.redis.lookup n = some e →
    s.challenges.lookup n = some e.value ∧ n ∉ s.loggedIn
  login : ∀ login ∈ s.logins, Genuine verifyWallet s login.toSignedChallenge ∧
    s.HasWallet login.user login.message.address
  loggedIn : s.loggedIn.Nodup
  session : ∀ login ∈ s.sessions, login ∈ s.logins
  handedOut : s.handedOut.Nodup
  wallet : ∀ u u' row row', s.users.lookup u = some row → s.users.lookup u' = some row' →
    row.authWallet = row'.authWallet → u = u'

/-- The invariant of a run: the books, and what each request holds. -/
structure LoginInv (c : LoginSettings)
    (verifyWallet : Wallet → SigninMessage → Signature → Bool) (s : LoginSystem) : Prop where
  books : LoginBooks c verifyWallet s
  tasks : LoginTasks verifyWallet s

/-! ## What stays -/

/-- Challenges, users and logins stay. -/
structure Later (s s' : LoginSystem) : Prop where
  challenges : ∀ n m, s.challenges.lookup n = some m → s'.challenges.lookup n = some m
  users : ∀ u row, s.users.lookup u = some row → s'.users.lookup u = some row
  logins : s.logins ⊆ s'.logins

lemma Later.refl (s : LoginSystem) : Later s s := ⟨fun _ _ h => h, fun _ _ h => h, fun _ h => h⟩

lemma HasWallet.later {user : UserId} {address : Wallet} (h : s.HasWallet user address)
    (hlater : Later s s') : s'.HasWallet user address := by
  obtain ⟨row, hrow, hwallet⟩ := h
  exact ⟨row, hlater.users user row hrow, hwallet⟩

lemma Genuine.later {signed : SignedChallenge} (h : Genuine verifyWallet s signed)
    (hlater : Later s s') : Genuine verifyWallet s' signed :=
  ⟨hlater.challenges _ _ h.challenged, h.verified, h.issued, h.selected⟩

lemma StageOk.later {stage : LoginStage} (h : StageOk verifyWallet s stage)
    (hlater : Later s s') : StageOk verifyWallet s' stage := by
  cases stage with
  | begun | select => trivial
  | store message | record message => exact hlater.challenges _ _ h
  | take address signature nonce selectedAt =>
      obtain ⟨message, hchallenge, hrest⟩ := h
      exact ⟨message, hlater.challenges _ _ hchallenge, hrest⟩
  | find signed => exact Genuine.later h hlater
  | commit signed user planFound => exact ⟨h.1.later hlater, fun u hu => (h.2 u hu).later hlater⟩
  | issue login => exact hlater.logins h

/-! ## Requests that move on -/

lemma later_tasks (s : LoginSystem) (tasks : Table TaskId LoginStage) :
    Later s { s with tasks := tasks } :=
  ⟨fun _ _ h => h, fun _ _ h => h, fun _ h => h⟩

lemma LoginBooks.withTasks (h : LoginBooks c verifyWallet s) (tasks : Table TaskId LoginStage) :
    LoginBooks c verifyWallet { s with tasks := tasks } where
  challenge := h.challenge
  row := h.row
  redis := h.redis
  login login hlogin :=
    ⟨(h.login login hlogin).1.later (later_tasks s tasks), (h.login login hlogin).2⟩
  loggedIn := h.loggedIn
  session := h.session
  handedOut := h.handedOut
  wallet := h.wallet

lemma lookup_goto (s : LoginSystem) (id t : TaskId) (stage : LoginStage) :
    (s.goto id stage).tasks.lookup t = if t = id then some stage else s.tasks.lookup t :=
  Table.lookup_insert_eq s.tasks id t stage

/-- One request moves on with a new state of the tables.  The others keep what they hold. -/
lemma LoginTasks.goto {id : TaskId} {stage : LoginStage} (h : LoginTasks verifyWallet s)
    (hlater : Later s s₁) (htasks : s₁.tasks = s.tasks) (hstage : StageOk verifyWallet s₁ stage)
    (hothers : ∀ t other i, t ≠ id → s.tasks.lookup t = some other → other.item = some i →
      s₁.Free i)
    (hitem : ∀ i, stage.item = some i → s₁.Free i ∧
      ∀ t other, t ≠ id → s.tasks.lookup t = some other → other.item ≠ some i) :
    LoginTasks verifyWallet (s₁.goto id stage) := by
  refine ⟨fun t other ht => ?_, fun t other i ht hi => ?_, fun t t' one two i ht ht' hi hi' => ?_⟩
  · rw [lookup_goto, htasks] at ht
    split_ifs at ht with hid
    · obtain rfl := Option.some.inj ht
      exact hstage.later (later_tasks s₁ _)
    · exact ((h.stage t other ht).later hlater).later (later_tasks s₁ _)
  · rw [lookup_goto, htasks] at ht
    split_ifs at ht with hid
    · obtain rfl := Option.some.inj ht
      exact (hitem i hi).1
    · exact hothers t other i hid ht hi
  · rw [lookup_goto, htasks] at ht ht'
    split_ifs at ht ht' with hid hid' hid'
    · exact hid.trans hid'.symm
    · obtain rfl := Option.some.inj ht
      exact absurd hi' ((hitem i hi).2 t' two hid' ht')
    · obtain rfl := Option.some.inj ht'
      exact absurd hi ((hitem i hi').2 t one hid ht)
    · exact h.alone t t' one two i ht ht' hi hi'

/-- One request ends. -/
lemma LoginTasks.finish {id : TaskId} (h : LoginTasks verifyWallet s) (hlater : Later s s₁)
    (htasks : s₁.tasks = s.tasks)
    (hothers : ∀ t other i, t ≠ id → s.tasks.lookup t = some other → other.item = some i →
      s₁.Free i) : LoginTasks verifyWallet (s₁.finish id) := by
  have hold : ∀ t other, (s₁.finish id).tasks.lookup t = some other →
      t ≠ id ∧ s.tasks.lookup t = some other := by
    intro t other ht
    refine ⟨?_, htasks ▸ Table.lookup_of_erase ht⟩
    rintro rfl
    have hnone : (s₁.finish t).tasks.lookup t = none := AList.lookup_erase _ _
    rw [hnone] at ht
    cases ht
  refine ⟨fun t other ht => ?_, fun t other i ht hi => ?_, fun t t' one two i ht ht' hi hi' => ?_⟩
  · exact ((h.stage t other (hold t other ht).2).later hlater).later (later_tasks s₁ _)
  · exact hothers t other i (hold t other ht).1 (hold t other ht).2 hi
  · exact h.alone t t' one two i (hold t one ht).2 (hold t' two ht').2 hi hi'

/-- A request that holds nothing moves on, or gives up what it holds, with the tables as they were. -/
lemma LoginInv.goto {id : TaskId} {stage : LoginStage} (h : LoginInv c verifyWallet s)
    (hstage : StageOk verifyWallet s stage)
    (hitem : ∀ i, stage.item = some i →
      ∃ old, s.tasks.lookup id = some old ∧ old.item = some i) :
    LoginInv c verifyWallet (s.goto id stage) := by
  refine ⟨h.books.withTasks _, h.tasks.goto (.refl s) rfl hstage
    (fun t other i _ => h.tasks.free t other i) fun i hi => ?_⟩
  obtain ⟨old, hold, hsame⟩ := hitem i hi
  refine ⟨h.tasks.free id old i hold hsame, fun t other hne ht hother => hne ?_⟩
  exact h.tasks.alone t id other old i ht hold hother hsame

lemma LoginInv.finish {id : TaskId} (h : LoginInv c verifyWallet s) :
    LoginInv c verifyWallet (s.finish id) :=
  ⟨h.books.withTasks _, h.tasks.finish (.refl s) rfl fun t other i _ => h.tasks.free t other i⟩

/-- A message that a request holds is that of a challenge. -/
lemma StageOk.challenged {stage : LoginStage} {nonce : Nonce} (h : StageOk verifyWallet s stage)
    (hitem : stage.item = some (.message nonce)) : ∃ m, s.challenges.lookup nonce = some m := by
  cases stage with
  | begun | record | select | take | issue => cases hitem
  | store message =>
      cases hitem
      exact ⟨message, h⟩
  | find signed =>
      cases hitem
      exact ⟨signed.message, Genuine.challenged h⟩
  | commit signed user planFound =>
      cases hitem
      exact ⟨signed.message, h.1.challenged⟩

/-- What a request does to an item is no concern of those that hold another one. -/
lemma LoginTasks.ne_of_held {id t : TaskId} {stage other : LoginStage} {i j : LoginItem}
    (h : LoginTasks verifyWallet s) (hstage : s.tasks.lookup id = some stage)
    (hi : stage.item = some i) (hne : t ≠ id) (hother : s.tasks.lookup t = some other)
    (hj : other.item = some j) : j ≠ i := by
  rintro rfl
  exact hne (h.alone t id other stage j hother hstage hj hi)

/-! ## A challenge -/

lemma LoginInv.challenge {id : TaskId} {nonce : Nonce} (h : LoginInv c verifyWallet s)
    (hstep : s.challenge c id nonce = some s') : LoginInv c verifyWallet s' := by
  unfold LoginSystem.challenge at hstep
  split at hstep
  · rename_i address htask
    split_ifs at hstep with hsome
    obtain rfl := Option.some.inj hstep
    have hfresh : s.challenges.lookup nonce = none := by
      cases hlookup : s.challenges.lookup nonce with
      | none => rfl
      | some m => exact absurd (by rw [hlookup]; rfl) hsome
    set message : SigninMessage := ⟨address, nonce, s.clock, s.clock + 1000 * c.authNonceTtl⟩
      with hmessage
    have hold : ∀ n m, s.challenges.lookup n = some m →
        (s.challenges.insert nonce message).lookup n = some m := by
      intro n m hn
      rw [Table.lookup_insert_eq, if_neg]
      · exact hn
      · rintro rfl
        rw [hfresh] at hn
        cases hn
    have hlater : Later s { s with challenges := s.challenges.insert nonce message } :=
      ⟨hold, fun _ _ hu => hu, fun _ hl => hl⟩
    have hspent : nonce ∉ s.loggedIn := by
      intro hmem
      obtain ⟨login, hlogin, hnonce⟩ := List.mem_map.1 hmem
      have hchallenged := (h.books.login login hlogin).1.challenged
      rw [hnonce, hfresh] at hchallenged
      cases hchallenged
    have hredis : s.redis.lookup nonce = none := by
      cases hlookup : s.redis.lookup nonce with
      | none => rfl
      | some e =>
          have hchallenged := (h.books.redis nonce e hlookup).1
          rw [hfresh] at hchallenged
          cases hchallenged
    have hbooks : LoginBooks c verifyWallet
        { s with challenges := s.challenges.insert nonce message } := by
      refine ⟨?_, ?_, ?_, ?_, h.books.loggedIn, h.books.session, h.books.handedOut, h.books.wallet⟩
      · intro n m hm
        obtain ⟨rfl, rfl⟩ | hm := Table.lookup_insert_cases hm
        · exact ⟨rfl, le_rfl, rfl⟩
        · exact h.books.challenge n m hm
      · intro n row hrow
        obtain ⟨m, hm, hrest⟩ := h.books.row n row hrow
        exact ⟨m, hold n m hm, hrest⟩
      · intro n e he
        exact ⟨hold n _ (h.books.redis n e he).1, (h.books.redis n e he).2⟩
      · intro login hlogin
        exact ⟨(h.books.login login hlogin).1.later hlater, (h.books.login login hlogin).2⟩
    refine ⟨hbooks.withTasks _, h.tasks.goto hlater rfl (AList.lookup_insert _)
      (fun t other i _ => h.tasks.free t other i) fun i hi => ?_⟩
    cases hi
    refine ⟨⟨hredis, hspent⟩, fun t other _ ht hother => ?_⟩
    obtain ⟨m, hm⟩ := (h.tasks.stage t other ht).challenged hother
    rw [hfresh] at hm
    cases hm
  · cases hstep

lemma LoginInv.store {id : TaskId} (h : LoginInv c verifyWallet s)
    (hstep : s.store c id = some s') : LoginInv c verifyWallet s' := by
  unfold LoginSystem.store at hstep
  split at hstep
  · rename_i message htask
    obtain rfl := Option.some.inj hstep
    have hchallenged : s.challenges.lookup message.nonce = some message :=
      h.tasks.stage id _ htask
    obtain ⟨-, hspent⟩ := h.tasks.free id _ _ htask rfl
    set redis := s.redis.setex message.nonce (s.clock + 1000 * c.authNonceTtl) message with hredis
    have hlater : Later s { s with redis } :=
      ⟨fun _ _ hm => hm, fun _ _ hu => hu, fun _ hl => hl⟩
    have hbooks : LoginBooks c verifyWallet { s with redis } := by
      refine ⟨h.books.challenge, h.books.row, ?_, ?_, h.books.loggedIn, h.books.session,
        h.books.handedOut, h.books.wallet⟩
      · intro n e he
        rw [hredis, ExpiringTable.lookup_setex] at he
        split_ifs at he with hn
        · obtain rfl := Option.some.inj he
          rw [hn]
          exact ⟨hchallenged, hspent⟩
        · exact h.books.redis n e he
      · exact fun login hlogin => ⟨(h.books.login login hlogin).1.later hlater,
          (h.books.login login hlogin).2⟩
    refine ⟨hbooks.withTasks _, h.tasks.goto hlater rfl hchallenged ?_ fun i hi => by cases hi⟩
    intro t other i hne ht hi
    have hfree := h.tasks.free t other i ht hi
    have hother := h.tasks.ne_of_held htask rfl hne ht hi
    cases i with
    | session n => exact hfree
    | message n =>
        refine ⟨?_, hfree.2⟩
        show redis.lookup n = none
        rw [hredis, ExpiringTable.lookup_setex, if_neg fun hn => hother (by rw [hn])]
        exact hfree.1
  · cases hstep

lemma LoginInv.record {id : TaskId} (h : LoginInv c verifyWallet s)
    (hstep : s.record id = some s') : LoginInv c verifyWallet s' := by
  unfold LoginSystem.record at hstep
  split at hstep
  · rename_i message htask
    obtain rfl := Option.some.inj hstep
    have hchallenged : s.challenges.lookup message.nonce = some message :=
      h.tasks.stage id _ htask
    set row : AuthNonce := ⟨message.address, message.expiresAt, none, s.clock⟩ with hrow
    have hlater : Later s { s with nonces := s.nonces.insert message.nonce row } :=
      ⟨fun _ _ hm => hm, fun _ _ hu => hu, fun _ hl => hl⟩
    have hbooks : LoginBooks c verifyWallet
        { s with nonces := s.nonces.insert message.nonce row } := by
      refine ⟨h.books.challenge, ?_, h.books.redis, ?_, h.books.loggedIn, h.books.session,
        h.books.handedOut, h.books.wallet⟩
      · intro n row' hrow'
        obtain ⟨rfl, rfl⟩ | hrow' := Table.lookup_insert_cases hrow'
        · exact ⟨message, hchallenged, rfl, rfl, le_rfl⟩
        · exact h.books.row n row' hrow'
      · exact fun login hlogin => ⟨(h.books.login login hlogin).1.later hlater,
          (h.books.login login hlogin).2⟩
    exact ⟨hbooks.withTasks _,
      h.tasks.finish hlater rfl fun t other i _ => h.tasks.free t other i⟩
  · cases hstep

/-! ## A verification -/

lemma newest_iff {address : Wallet} {nonce : Nonce} : s.newest address nonce = true ↔
    ∃ row, s.nonces.lookup nonce = some row ∧ s.selectable address row = true ∧
      ∀ n other, s.nonces.lookup n = some other → s.selectable address other = true →
        other.createdAt ≤ row.createdAt := by
  unfold newest
  rw [Option.any_eq_true]
  refine exists_congr fun row => and_congr_right fun _ => ?_
  rw [Bool.and_eq_true, Bool.not_eq_true', Table.any_eq_false]
  refine and_congr_right fun _ => forall_congr' fun n => forall_congr' fun other =>
    forall_congr' fun _ => ?_
  rw [Bool.and_eq_false_iff, decide_eq_false_iff_not, not_lt, Bool.eq_false_iff]
  exact imp_iff_not_or.symm

lemma LoginInv.select {id : TaskId} {nonce : Nonce} (h : LoginInv c verifyWallet s)
    (hstep : s.select id nonce = some s') : LoginInv c verifyWallet s' := by
  unfold LoginSystem.select at hstep
  split at hstep
  · rename_i address signature htask
    split_ifs at hstep with hnewest hany
    · obtain rfl := Option.some.inj hstep
      obtain ⟨row, hrow, hselectable, -⟩ := newest_iff.1 hnewest
      simp only [selectable, Bool.and_eq_true, decide_eq_true_eq] at hselectable
      obtain ⟨⟨haddress, -⟩, hlive⟩ := hselectable
      obtain ⟨message, hmessage, hsame, hexpires, -⟩ := h.books.row nonce row hrow
      obtain ⟨-, hissued, -⟩ := h.books.challenge nonce message hmessage
      refine h.goto ⟨message, hmessage, hsame.symm.trans haddress, hissued, ?_⟩
        (fun i hi => by cases hi)
      rw [← hexpires]
      exact hlive
    · obtain rfl := Option.some.inj hstep
      exact h.finish
  · cases hstep

lemma LoginInv.take {id : TaskId} (h : LoginInv c verifyWallet s)
    (hstep : s.take verifyWallet id = some s') : LoginInv c verifyWallet s' := by
  unfold LoginSystem.take at hstep
  split at hstep
  · rename_i address signature nonce selectedAt htask
    split at hstep
    · obtain rfl := Option.some.inj hstep
      exact h.finish
    · rename_i message hget
      obtain ⟨e, he, hlive, rfl⟩ := ExpiringTable.get_eq_some.1 hget
      obtain ⟨hchallenged, hspent⟩ := h.books.redis nonce e he
      have hlater : Later s { s with redis := s.redis.erase nonce } :=
        ⟨fun _ _ hm => hm, fun _ _ hu => hu, fun _ hl => hl⟩
      have hbooks : LoginBooks c verifyWallet { s with redis := s.redis.erase nonce } := by
        refine ⟨h.books.challenge, h.books.row, ?_, ?_, h.books.loggedIn, h.books.session,
          h.books.handedOut, h.books.wallet⟩
        · exact fun n e' he' => h.books.redis n e' (Table.lookup_of_erase he')
        · exact fun login hlogin => ⟨(h.books.login login hlogin).1.later hlater,
            (h.books.login login hlogin).2⟩
      have hothers : ∀ t other i, t ≠ id → s.tasks.lookup t = some other → other.item = some i →
          Free { s with redis := s.redis.erase nonce } i := by
        intro t other i _ ht hi
        have hfree := h.tasks.free t other i ht hi
        cases i with
        | session n => exact hfree
        | message n =>
            refine ⟨?_, hfree.2⟩
            obtain ⟨hnone, -⟩ := hfree
            cases hlookup : (s.redis.erase nonce).lookup n with
            | none => rfl
            | some e' =>
                rw [Table.lookup_of_erase hlookup] at hnone
                cases hnone
      split_ifs at hstep with hsigned
      · obtain rfl := Option.some.inj hstep
        simp only [Bool.and_eq_true, decide_eq_true_eq] at hsigned
        obtain ⟨haddress, hverified⟩ := hsigned
        obtain ⟨message, hmessage, -, hissued, hselected⟩ := h.tasks.stage id _ htask
        obtain rfl : e.value = message := Option.some.inj (hchallenged.symm.trans hmessage)
        have hnonce : e.value.nonce = nonce := (h.books.challenge nonce _ hchallenged).1
        refine ⟨hbooks.withTasks _, h.tasks.goto hlater rfl ?_ hothers ?_⟩
        · refine ⟨?_, ?_, hissued, hselected⟩
          · rw [hnonce]
            exact hchallenged
          · rw [haddress]
            exact hverified
        · intro i hi
          cases hi
          rw [hnonce]
          refine ⟨⟨AList.lookup_erase _ _, hspent⟩, fun t other _ ht hother => ?_⟩
          have hfree := (h.tasks.free t other _ ht hother).1
          rw [he] at hfree
          cases hfree
      · obtain rfl := Option.some.inj hstep
        exact ⟨hbooks.withTasks _, h.tasks.finish hlater rfl hothers⟩
  · cases hstep

/-! ## A login -/

lemma hasWallet_of_userOf {address : Wallet} {user : UserId} (h : s.userOf address = some user) :
    s.HasWallet user address := by
  have htest := List.find?_some h
  obtain ⟨row, hrow, hwallet⟩ := (Option.any_eq_true _ _).1 htest
  exact ⟨row, hrow, of_decide_eq_true hwallet⟩

lemma wallet_ne_of_userOf {address : Wallet} {user : UserId} {row : LoginUser}
    (h : s.userOf address = none) (hrow : s.users.lookup user = some row) :
    row.authWallet ≠ address := by
  intro hwallet
  have hkey : user ∈ s.users.keys := AList.mem_keys.1 (AList.lookup_isSome.1 (by rw [hrow]; rfl))
  have htest := List.find?_eq_none.1 h user hkey
  rw [hrow, Option.any_some, decide_eq_true hwallet] at htest
  exact htest rfl

lemma LoginInv.find {id : TaskId} (h : LoginInv c verifyWallet s)
    (hstep : s.find id = some s') : LoginInv c verifyWallet s' := by
  unfold LoginSystem.find at hstep
  split at hstep
  · rename_i signed htask
    obtain rfl := Option.some.inj hstep
    exact h.goto ⟨h.tasks.stage id _ htask, fun u hu => hasWallet_of_userOf hu⟩
      fun i hi => ⟨_, htask, hi⟩
  · cases hstep

lemma LoginInv.consume (h : LoginInv c verifyWallet s) (nonce : Nonce) :
    LoginInv c verifyWallet (s.consume nonce) := by
  have hlater : Later s (s.consume nonce) := ⟨fun _ _ hm => hm, fun _ _ hu => hu, fun _ hl => hl⟩
  refine ⟨⟨h.books.challenge, ?_, h.books.redis, ?_, h.books.loggedIn, h.books.session,
    h.books.handedOut, h.books.wallet⟩,
    ⟨fun t stage ht => (h.tasks.stage t stage ht).later hlater, h.tasks.free, h.tasks.alone⟩⟩
  · intro n row hrow
    obtain ⟨-, hrow⟩ | ⟨rfl, old, hold, rfl⟩ := Table.lookup_modify_eq_some.1 hrow
    · exact h.books.row n row hrow
    · exact h.books.row n old hold
  · exact fun login hlogin => ⟨(h.books.login login hlogin).1.later hlater,
      (h.books.login login hlogin).2⟩

/-- A user is registered for a wallet that has none. -/
lemma LoginInv.register {address : Wallet} {newId : UserId} {row : LoginUser}
    (h : LoginInv c verifyWallet s) (hnone : s.userOf address = none)
    (hfresh : s.users.lookup newId = none) (hwallet : row.authWallet = address) :
    LoginInv c verifyWallet { s with users := s.users.insert newId row, trialPlan := true } := by
  have hold : ∀ u row', s.users.lookup u = some row' →
      (s.users.insert newId row).lookup u = some row' := by
    intro u row' hu
    rw [Table.lookup_insert_eq, if_neg]
    · exact hu
    · rintro rfl
      rw [hfresh] at hu
      cases hu
  have hlater : Later s { s with users := s.users.insert newId row, trialPlan := true } :=
    ⟨fun _ _ hm => hm, hold, fun _ hl => hl⟩
  refine ⟨⟨h.books.challenge, h.books.row, h.books.redis, ?_, h.books.loggedIn, h.books.session,
    h.books.handedOut, ?_⟩,
    ⟨fun t stage ht => (h.tasks.stage t stage ht).later hlater, h.tasks.free, h.tasks.alone⟩⟩
  · exact fun login hlogin => ⟨(h.books.login login hlogin).1.later hlater,
      (h.books.login login hlogin).2.later hlater⟩
  · intro u u' one two hu hu' hsame
    obtain ⟨rfl, rfl⟩ | hone := Table.lookup_insert_cases hu
    · obtain ⟨rfl, -⟩ | htwo := Table.lookup_insert_cases hu'
      · rfl
      · exact absurd (hsame.symm.trans hwallet) (wallet_ne_of_userOf hnone htwo)
    · obtain ⟨rfl, rfl⟩ | htwo := Table.lookup_insert_cases hu'
      · exact absurd (hsame.trans hwallet) (wallet_ne_of_userOf hnone hone)
      · exact h.books.wallet u u' one two hone htwo hsame

/-- The request that has the message commits the login. -/
lemma LoginInv.login {id : TaskId} {stage : LoginStage} {signed : SignedChallenge} {user : UserId}
    (h : LoginInv c verifyWallet s) (htask : s.tasks.lookup id = some stage)
    (hitem : stage.item = some (.message signed.message.nonce))
    (hgenuine : Genuine verifyWallet s signed)
    (hwallet : s.HasWallet user signed.message.address) :
    LoginInv c verifyWallet (s.login id signed user) := by
  set login : Login := { signed with user } with hlogin
  obtain ⟨hredis, hspent⟩ := h.tasks.free id _ _ htask hitem
  have hlater : Later s { s with logins := login :: s.logins } :=
    ⟨fun _ _ hm => hm, fun _ _ hu => hu, fun _ hl => List.mem_cons_of_mem _ hl⟩
  have hunissued : signed.message.nonce ∉ s.handedOut := by
    intro hmem
    obtain ⟨other, hother, hnonce⟩ := List.mem_map.1 hmem
    exact hspent (List.mem_map.2 ⟨other, h.books.session other hother, hnonce⟩)
  have hbooks : LoginBooks c verifyWallet { s with logins := login :: s.logins } := by
    refine ⟨h.books.challenge, h.books.row, ?_, ?_, List.nodup_cons.2 ⟨hspent, h.books.loggedIn⟩,
      fun other hother => List.mem_cons_of_mem _ (h.books.session other hother),
      h.books.handedOut, h.books.wallet⟩
    · intro n e he
      refine ⟨(h.books.redis n e he).1, fun hmem => ?_⟩
      obtain rfl | hmem := List.mem_cons.1 hmem
      · rw [hredis] at he
        cases he
      · exact (h.books.redis n e he).2 hmem
    · intro other hother
      obtain rfl | hother := List.mem_cons.1 hother
      · exact ⟨hgenuine.later hlater, hwallet⟩
      · exact ⟨(h.books.login other hother).1.later hlater, (h.books.login other hother).2⟩
  refine ⟨hbooks.withTasks _, h.tasks.goto hlater rfl List.mem_cons_self ?_ ?_⟩
  · intro t other i hne ht hi
    have hfree := h.tasks.free t other i ht hi
    have hother := h.tasks.ne_of_held htask hitem hne ht hi
    cases i with
    | session n => exact hfree
    | message n =>
        refine ⟨hfree.1, fun hmem => ?_⟩
        obtain rfl | hmem := List.mem_cons.1 hmem
        · exact hother rfl
        · exact hfree.2 hmem
  · intro i hi
    cases hi
    refine ⟨hunissued, fun t other _ ht hother => ?_⟩
    -- a request that holds the session would have logged in with the message
    cases other with
    | issue login' =>
        have hmem : login' ∈ s.logins := h.tasks.stage t _ ht
        have hnonce : login'.message.nonce = signed.message.nonce := by
          simpa [LoginStage.item, hlogin] using hother
        exact hspent (List.mem_map.2 ⟨login', hmem, hnonce⟩)
    | begun | store | record | select | take | find | commit => cases hother

lemma LoginInv.commit {id : TaskId} {newId : UserId} (h : LoginInv c verifyWallet s)
    (hstep : s.commit c id newId = some s') : LoginInv c verifyWallet s' := by
  unfold LoginSystem.commit at hstep
  split at hstep
  · rename_i signed user planFound htask
    obtain rfl := Option.some.inj hstep
    obtain ⟨hgenuine, hwallet⟩ : StageOk verifyWallet s _ := h.tasks.stage id _ htask
    exact (h.consume signed.message.nonce).login htask rfl
      (hgenuine.later ⟨fun _ _ hm => hm, fun _ _ hu => hu, fun _ hl => hl⟩) (hwallet user rfl)
  · rename_i signed planFound htask
    split_ifs at hstep with hknown htaken
    · obtain rfl := Option.some.inj hstep
      exact h.finish
    · obtain rfl := Option.some.inj hstep
      obtain ⟨hgenuine, -⟩ : StageOk verifyWallet s _ := h.tasks.stage id _ htask
      have hfresh : s.users.lookup newId = none := by
        cases hlookup : s.users.lookup newId with
        | none => rfl
        | some row => exact absurd (by rw [hlookup]; rfl) hknown
      have hnone : s.userOf signed.message.address = none := by
        cases hlookup : s.userOf signed.message.address with
        | none => rfl
        | some user =>
            rw [hlookup] at htaken
            exact absurd rfl htaken
      have hwallet : (s.newUser c signed.message.address).authWallet = signed.message.address := rfl
      have hregistered := h.register hnone hfresh hwallet
      refine (hregistered.consume signed.message.nonce).login htask rfl ?_
        ⟨_, AList.lookup_insert _, rfl⟩
      exact ⟨hgenuine.challenged, hgenuine.verified, hgenuine.issued, hgenuine.selected⟩
  · cases hstep

lemma LoginInv.issue {id : TaskId} (h : LoginInv c verifyWallet s)
    (hstep : s.issue id = some s') : LoginInv c verifyWallet s' := by
  unfold LoginSystem.issue at hstep
  split at hstep
  · rename_i login htask
    obtain rfl := Option.some.inj hstep
    have hunissued : login.message.nonce ∉ s.handedOut := h.tasks.free id _ _ htask rfl
    have hlater : Later s { s with sessions := login :: s.sessions } :=
      ⟨fun _ _ hm => hm, fun _ _ hu => hu, fun _ hl => hl⟩
    have hbooks : LoginBooks c verifyWallet { s with sessions := login :: s.sessions } := by
      refine ⟨h.books.challenge, h.books.row, h.books.redis, ?_, h.books.loggedIn, ?_,
        List.nodup_cons.2 ⟨hunissued, h.books.handedOut⟩, h.books.wallet⟩
      · exact fun other hother => ⟨(h.books.login other hother).1.later hlater,
          (h.books.login other hother).2⟩
      · intro other hother
        obtain rfl | hother := List.mem_cons.1 hother
        · exact h.tasks.stage id _ htask
        · exact h.books.session other hother
    refine ⟨hbooks.withTasks _, h.tasks.finish hlater rfl fun t other i hne ht hi => ?_⟩
    have hfree := h.tasks.free t other i ht hi
    have hother := h.tasks.ne_of_held htask rfl hne ht hi
    cases i with
    | message n => exact hfree
    | session n =>
        intro hmem
        obtain rfl | hmem := List.mem_cons.1 hmem
        · exact hother rfl
        · exact hfree hmem
  · cases hstep

/-! ## Runs -/

lemma LoginInv.begin {id : TaskId} {stage : LoginStage} (h : LoginInv c verifyWallet s)
    (hstage : StageOk verifyWallet s stage) (hitem : stage.item = none)
    (hstep : s.begin id stage = some s') : LoginInv c verifyWallet s' := by
  unfold LoginSystem.begin at hstep
  split_ifs at hstep
  obtain rfl := Option.some.inj hstep
  refine h.goto hstage fun i hi => ?_
  rw [hitem] at hi
  cases hi

lemma LoginInv.tick (h : LoginInv c verifyWallet s) {clock : ℕ} (hle : s.clock ≤ clock) :
    LoginInv c verifyWallet { s with clock } := by
  have hlater : Later s { s with clock } := ⟨fun _ _ hm => hm, fun _ _ hu => hu, fun _ hl => hl⟩
  refine ⟨⟨?_, ?_, h.books.redis, ?_, h.books.loggedIn, h.books.session, h.books.handedOut,
    h.books.wallet⟩,
    ⟨fun t stage ht => (h.tasks.stage t stage ht).later hlater, h.tasks.free, h.tasks.alone⟩⟩
  · intro n m hm
    obtain ⟨hnonce, hissued, hexpires⟩ := h.books.challenge n m hm
    exact ⟨hnonce, le_trans hissued hle, hexpires⟩
  · intro n row hrow
    obtain ⟨m, hm, haddress, hexpires, hcreated⟩ := h.books.row n row hrow
    exact ⟨m, hm, haddress, hexpires, le_trans hcreated hle⟩
  · exact fun login hlogin => ⟨(h.books.login login hlogin).1.later hlater,
      (h.books.login login hlogin).2⟩

lemma LoginInv.step {op : LoginOp} (h : LoginInv c verifyWallet s)
    (hstep : loginStep c verifyWallet s op = some s') : LoginInv c verifyWallet s' := by
  cases op with
  | tick clock =>
      simp only [loginStep] at hstep
      split_ifs at hstep with hle
      obtain rfl := Option.some.inj hstep
      exact h.tick hle
  | challengeRequest id address =>
      refine LoginInv.begin h ?_ rfl hstep
      trivial
  | challenge id nonce => exact h.challenge hstep
  | store id => exact h.store hstep
  | record id => exact h.record hstep
  | verifyRequest id address signature =>
      refine LoginInv.begin h ?_ rfl hstep
      trivial
  | select id nonce => exact h.select hstep
  | take id => exact h.take hstep
  | find id => exact h.find hstep
  | commit id newId => exact h.commit hstep
  | issue id => exact h.issue hstep
  | fail id =>
      obtain rfl := Option.some.inj hstep
      exact h.finish

lemma loginInv_initial : LoginInv c verifyWallet .initial := by
  refine ⟨⟨?_, ?_, ?_, ?_, List.nodup_nil, ?_, List.nodup_nil, ?_⟩, ⟨?_, ?_, ?_⟩⟩ <;>
    simp [initial]

lemma loginInv_of_run {ops : List LoginOp}
    (hrun : run (loginStep c verifyWallet) .initial ops = some s) : LoginInv c verifyWallet s :=
  run_invariant (I := LoginInv c verifyWallet) (fun _ _ _ h hstep => h.step hstep)
    loginInv_initial hrun

/-! ## A new challenge can be answered -/

/-- The message of a challenge made at `issued`. -/
def signinMessage (c : LoginSettings) (issued : ℕ) (address : Wallet) (nonce : Nonce) :
    SigninMessage :=
  ⟨address, nonce, issued, issued + 1000 * c.authNonceTtl⟩

/-- `/auth/challenge`, with nothing in between. -/
def challengeOps (clock : ℕ) (id : TaskId) (address : Wallet) (nonce : Nonce) : List LoginOp :=
  [.tick clock, .challengeRequest id address, .challenge id nonce, .store id, .record id]

/-- `/auth/verify`, with nothing in between. -/
def verifyOps (clock : ℕ) (id : TaskId) (address : Wallet) (nonce : Nonce) (signature : Signature)
    (newId : UserId) : List LoginOp :=
  [.tick clock, .verifyRequest id address signature, .select id nonce, .take id, .find id,
    .commit id newId, .issue id]

/-- A challenge has been stored and recorded, later than every other. -/
structure Challenged (s : LoginSystem) (id : TaskId) (message : SigninMessage) : Prop where
  idle : s.tasks.lookup id = none
  row : s.nonces.lookup message.nonce = some ⟨message.address, message.expiresAt, none, s.clock⟩
  redis : s.redis.lookup message.nonce = some ⟨message, message.expiresAt⟩
  newest : ∀ n row, s.nonces.lookup n = some row → n ≠ message.nonce → row.createdAt < s.clock

lemma run_challengeOps {id : TaskId} (address : Wallet) {nonce : Nonce} {clock : ℕ}
    (h : LoginInv c verifyWallet s) (hidle : s.tasks.lookup id = none)
    (hnonce : s.challenges.lookup nonce = none) (hclock : s.clock < clock) :
    ∃ s', run (loginStep c verifyWallet) s (challengeOps clock id address nonce) = some s' ∧
      s'.Challenged id (signinMessage c clock address nonce) ∧ s'.clock = clock ∧
      s'.users = s.users ∧ s'.sessions = s.sessions := by
  set message := signinMessage c clock address nonce with hmessage
  let s₁ : LoginSystem := { s with clock }.goto id (.begun address)
  let s₂ : LoginSystem :=
    { s₁ with challenges := s.challenges.insert nonce message }.goto id (.store message)
  let s₃ : LoginSystem :=
    { s₂ with redis := s.redis.setex nonce message.expiresAt message }.goto id (.record message)
  let row : AuthNonce := ⟨address, message.expiresAt, none, clock⟩
  let s₄ : LoginSystem := { s₃ with nonces := s.nonces.insert nonce row }.finish id
  have hchallenge : loginStep c verifyWallet s₁ (.challenge id nonce) = some s₂ := by
    simp [loginStep, LoginSystem.challenge, s₁, goto, hnonce, s₂, hmessage, signinMessage]
  have hstore : loginStep c verifyWallet s₂ (.store id) = some s₃ := by
    simp [loginStep, LoginSystem.store, s₂, s₁, goto, s₃, hmessage, signinMessage]
  have hrecord : loginStep c verifyWallet s₃ (.record id) = some s₄ := by
    simp [loginStep, LoginSystem.record, s₃, s₂, s₁, goto, s₄, row, hmessage, signinMessage]
  have htick : loginStep c verifyWallet s (.tick clock) = some { s with clock } :=
    if_pos (le_of_lt hclock)
  have hbegin : loginStep c verifyWallet { s with clock } (.challengeRequest id address) =
      some s₁ := by
    simp [loginStep, LoginSystem.begin, hidle, s₁]
  have hrun : run (loginStep c verifyWallet) s (challengeOps clock id address nonce) = some s₄ := by
    apply run_cons_eq_some.2 ⟨_, htick, ?_⟩
    apply run_cons_eq_some.2 ⟨s₁, hbegin, ?_⟩
    apply run_cons_eq_some.2 ⟨s₂, hchallenge, ?_⟩
    apply run_cons_eq_some.2 ⟨s₃, hstore, ?_⟩
    exact run_cons_eq_some.2 ⟨s₄, hrecord, rfl⟩
  refine ⟨s₄, hrun, ⟨AList.lookup_erase _ _, AList.lookup_insert _, AList.lookup_insert _, ?_⟩,
    rfl, rfl, rfl⟩
  intro n other hother hne
  obtain ⟨rfl, -⟩ | hother := Table.lookup_insert_cases hother
  · exact absurd rfl hne
  · obtain ⟨-, -, -, -, hcreated⟩ := h.books.row n other hother
    exact lt_of_le_of_lt hcreated hclock

/-- Its row is the one that is selected for the address. -/
lemma Challenged.newest_iff {id : TaskId} {message : SigninMessage} (h : s.Challenged id message)
    {answered : ℕ} (hanswered : answered < message.expiresAt) {nonce : Nonce} :
    LoginSystem.newest { s with clock := answered } message.address nonce = true ↔
      nonce = message.nonce := by
  have hown : LoginSystem.selectable { s with clock := answered } message.address
      ⟨message.address, message.expiresAt, none, s.clock⟩ = true := by
    simp [selectable, hanswered]
  rw [LoginSystem.newest_iff]
  constructor
  · rintro ⟨row, hrow, -, hnewest⟩
    by_contra hne
    have holder : row.createdAt < s.clock := h.newest nonce row hrow hne
    have hle : s.clock ≤ row.createdAt := hnewest message.nonce _ h.row hown
    omega
  · rintro rfl
    refine ⟨_, h.row, hown, fun n other hother _ => ?_⟩
    by_cases hn : n = message.nonce
    · subst hn
      obtain rfl : _ = other := Option.some.inj (h.row.symm.trans hother)
      exact le_refl _
    · exact le_of_lt (h.newest n other hother hn)

/-- With nothing in between, the transaction of a login does not fail. -/
lemma commit_of_find {id : TaskId} (newId : UserId) {signed : SignedChallenge}
    (htask : s.tasks.lookup id =
      some (.commit signed (s.userOf signed.message.address) s.trialPlan))
    (hfresh : s.users.lookup newId = none) :
    ∃ s' user, s.commit c id newId = some s' ∧
      s'.tasks.lookup id = some (.issue { signed with user }) ∧ s'.sessions = s.sessions := by
  unfold LoginSystem.commit
  rw [htask]
  cases huser : s.userOf signed.message.address with
  | some user => exact ⟨_, user, rfl, AList.lookup_insert _, rfl⟩
  | none =>
      refine ⟨({ s with
        users := s.users.insert newId (s.newUser c signed.message.address)
        trialPlan := true }.consume signed.message.nonce).login id signed newId, newId, ?_,
        AList.lookup_insert _, rfl⟩
      have hplan : (!s.trialPlan && s.trialPlan) = false := by
        cases s.trialPlan <;> rfl
      simp [hfresh, huser, hplan]

/-- Once the row is the newest, a verification cannot go on with another. -/
lemma run_verifyOps_of_ne {id : TaskId} {message : SigninMessage} {answered : ℕ}
    {signature : Signature} {newId : UserId} {nonce : Nonce} (h : s.Challenged id message)
    (hclock : s.clock ≤ answered) (hanswered : answered < message.expiresAt)
    (hne : nonce ≠ message.nonce) :
    run (loginStep c verifyWallet) s
      (verifyOps answered id message.address nonce signature newId) = none := by
  set t : LoginSystem := { s with clock := answered }.goto id (.select message.address signature)
    with ht
  have hnewest : t.newest message.address nonce = false := by
    rw [Bool.eq_false_iff]
    exact fun hnewest => hne ((h.newest_iff hanswered).1 hnewest)
  have hany : (Table.any t.nonces fun _ row => t.selectable message.address row) = true := by
    refine Table.any_eq_true.2 ⟨message.nonce, _, h.row, ?_⟩
    simp [selectable, ht, goto, hanswered]
  have htask : t.tasks.lookup id = some (.select message.address signature) :=
    AList.lookup_insert _
  have htick : loginStep c verifyWallet s (.tick answered) = some { s with clock := answered } :=
    if_pos hclock
  have hbegin : loginStep c verifyWallet { s with clock := answered }
      (.verifyRequest id message.address signature) = some t := by
    simp [loginStep, LoginSystem.begin, h.idle, ht]
  have hselect : loginStep c verifyWallet t (.select id nonce) = none := by
    simp [loginStep, LoginSystem.select, htask, hnewest, hany]
  rw [verifyOps, run_cons, htick, Option.bind_some, run_cons, hbegin, Option.bind_some, run_cons,
    hselect]
  rfl

lemma run_verifyOps {id : TaskId} {message : SigninMessage} {answered : ℕ} {signature : Signature}
    (newId : UserId) (h : s.Challenged id message) (hclock : s.clock ≤ answered)
    (hanswered : answered < message.expiresAt) (hfresh : s.users.lookup newId = none)
    (hverified : verifyWallet message.address message signature = true) :
    ∃ s' login, run (loginStep c verifyWallet) s
        (verifyOps answered id message.address message.nonce signature newId) = some s' ∧
      login.message = message ∧ s'.sessions = login :: s.sessions := by
  let signed : SignedChallenge := ⟨message, signature, answered⟩
  let s₁ : LoginSystem := { s with clock := answered }.goto id (.select message.address signature)
  let s₂ : LoginSystem := s₁.goto id (.take message.address signature message.nonce answered)
  let s₃ : LoginSystem := { s₂ with redis := s.redis.erase message.nonce }.goto id (.find signed)
  let s₄ : LoginSystem :=
    s₃.goto id (.commit signed (s.userOf message.address) s.trialPlan)
  have htick : loginStep c verifyWallet s (.tick answered) = some { s with clock := answered } :=
    if_pos hclock
  have hbegin : loginStep c verifyWallet { s with clock := answered }
      (.verifyRequest id message.address signature) = some s₁ := by
    simp [loginStep, LoginSystem.begin, h.idle, s₁]
  have hselect : loginStep c verifyWallet s₁ (.select id message.nonce) = some s₂ := by
    have hnewest : s₁.newest message.address message.nonce = true :=
      (h.newest_iff hanswered).2 rfl
    simp only [loginStep, LoginSystem.select]
    rw [show s₁.tasks.lookup id = some (.select message.address signature) from
      AList.lookup_insert _]
    exact if_pos hnewest
  have htake : loginStep c verifyWallet s₂ (.take id) = some s₃ := by
    have hget : s.redis.get answered message.nonce = some message :=
      ExpiringTable.get_eq_some.2 ⟨_, h.redis, hanswered, rfl⟩
    simp [loginStep, LoginSystem.take, hget, hverified, s₂, goto, s₃, s₁, signed]
  have hfind : loginStep c verifyWallet s₃ (.find id) = some s₄ := by
    simp only [loginStep, LoginSystem.find]
    rw [show s₃.tasks.lookup id = some (.find signed) from AList.lookup_insert _]
    rfl
  have hfound : s₄.tasks.lookup id =
      some (.commit signed (s₄.userOf signed.message.address) s₄.trialPlan) :=
    AList.lookup_insert _
  obtain ⟨s₅, user, hcommit, htask, hsessions⟩ := commit_of_find (c := c) newId hfound hfresh
  have hissue : loginStep c verifyWallet s₅ (.issue id) =
      some ({ s₅ with sessions := { signed with user } :: s₅.sessions }.finish id) := by
    simp only [loginStep, LoginSystem.issue, htask]
  let s₆ : LoginSystem :=
    { s₅ with sessions := { signed with user } :: s₅.sessions }.finish id
  refine ⟨s₆, { signed with user }, ?_, rfl, ?_⟩
  · apply run_cons_eq_some.2 ⟨_, htick, ?_⟩
    apply run_cons_eq_some.2 ⟨s₁, hbegin, ?_⟩
    apply run_cons_eq_some.2 ⟨s₂, hselect, ?_⟩
    apply run_cons_eq_some.2 ⟨s₃, htake, ?_⟩
    apply run_cons_eq_some.2 ⟨s₄, hfind, ?_⟩
    apply run_cons_eq_some.2 ⟨s₅, hcommit, ?_⟩
    exact run_cons_eq_some.2 ⟨s₆, hissue, rfl⟩
  · show { signed with user } :: s₅.sessions = _
    rw [hsessions]
    rfl

end LoginSystem

open LoginSystem

/-- **A signature signs in once.**  However requests interleave, are repeated or fail: no two
sessions are handed out for one challenge; each was handed out for a challenge of that wallet, with
the wallet's signature, selected between its issue and its expiry; and no wallet has two users. -/
theorem signature_signs_in_once (c : LoginSettings)
    (verifyWallet : Wallet → SigninMessage → Signature → Bool) (ops : List LoginOp)
    (s : LoginSystem) (hrun : run (loginStep c verifyWallet) .initial ops = some s) :
    s.handedOut.Nodup ∧
      (∀ login ∈ s.sessions, Genuine verifyWallet s login.toSignedChallenge ∧
        login.message.expiresAt = login.message.issuedAt + 1000 * c.authNonceTtl ∧
        s.HasWallet login.user login.message.address) ∧
      ∀ user user' row row', s.users.lookup user = some row → s.users.lookup user' = some row' →
        row.authWallet = row'.authWallet → user = user' := by
  have hinv : LoginInv c verifyWallet s := loginInv_of_run hrun
  refine ⟨hinv.books.handedOut, fun login hlogin => ?_, hinv.books.wallet⟩
  obtain ⟨hgenuine, hwallet⟩ := hinv.books.login login (hinv.books.session login hlogin)
  exact ⟨hgenuine, (hinv.books.challenge _ _ hgenuine.challenged).2.2, hwallet⟩

/-- Two verifications of one challenge: both select it, and one of them takes it. -/
def doubleVerify : List LoginOp :=
  [.challengeRequest 0 7, .challenge 0 5, .store 0, .record 0, .verifyRequest 1 7 9,
    .verifyRequest 2 7 9, .select 1 5, .select 2 5, .take 2, .take 1, .find 2, .commit 2 100,
    .issue 2]

/-- A challenge lives for five minutes. -/
def fiveMinutes : LoginSettings := ⟨300, 14, [], []⟩

theorem signature_signs_in_once_doubleVerify : ∃ s,
    run (loginStep fiveMinutes fun _ _ signature => signature = 9) .initial doubleVerify = some s ∧
      s.handedOut = [5] ∧ s.handedOut.Nodup := by
  have hend : (run (loginStep fiveMinutes fun _ _ signature => signature = 9) .initial
      doubleVerify).any (fun s => s.handedOut = [5]) = true := by
    decide +kernel
  obtain ⟨s, hrun, hs⟩ := (Option.any_eq_true _ _).1 hend
  exact ⟨s, hrun, of_decide_eq_true hs, (signature_signs_in_once _ _ _ s hrun).1⟩

/-- **A new challenge can be answered.**  Whatever has failed or was lost before, a challenge that is
later than the others is the one that is selected for its wallet, and with the wallet's signature in
time it signs in; no other row of the wallet can be asked for. -/
theorem fresh_challenge_signs_in (c : LoginSettings)
    (verifyWallet : Wallet → SigninMessage → Signature → Bool) (ops : List LoginOp)
    (s : LoginSystem) (hrun : run (loginStep c verifyWallet) .initial ops = some s)
    {id : TaskId} {address : Wallet} {nonce : Nonce} {clock answered : ℕ} {signature : Signature}
    {newId : UserId} (hidle : s.tasks.lookup id = none)
    (hnonce : s.challenges.lookup nonce = none) (hnewId : s.users.lookup newId = none)
    (hlater : s.clock < clock) (hanswered : clock ≤ answered)
    (htime : answered < clock + 1000 * c.authNonceTtl)
    (hverified : verifyWallet address (signinMessage c clock address nonce) signature = true) :
    ∃ s₁, run (loginStep c verifyWallet) s (challengeOps clock id address nonce) = some s₁ ∧
      (∃ s₂ login, run (loginStep c verifyWallet) s₁
          (verifyOps answered id address nonce signature newId) = some s₂ ∧
        login.message = signinMessage c clock address nonce ∧
        s₂.sessions = login :: s.sessions ∧ s₂.HasWallet login.user address) ∧
      ∀ other, other ≠ nonce → run (loginStep c verifyWallet) s₁
        (verifyOps answered id address other signature newId) = none := by
  have hinv : LoginInv c verifyWallet s := loginInv_of_run hrun
  obtain ⟨s₁, hchallenge, hchallenged, hclock, husers, hsessions⟩ :=
    run_challengeOps address hinv hidle hnonce hlater
  have hle : s₁.clock ≤ answered := by omega
  refine ⟨s₁, hchallenge, ?_, fun other hother => ?_⟩
  · obtain ⟨s₂, login, hverify, hmessage, hcons⟩ :=
      run_verifyOps newId hchallenged hle htime (by rw [husers]; exact hnewId) hverified
    refine ⟨s₂, login, hverify, hmessage, by rw [hcons, hsessions], ?_⟩
    have hinv₂ : LoginInv c verifyWallet s₂ :=
      run_invariant (fun _ _ _ h hstep => h.step hstep)
        (run_invariant (fun _ _ _ h hstep => h.step hstep) hinv hchallenge) hverify
    have hmem : login ∈ s₂.sessions := by
      rw [hcons]
      exact List.mem_cons_self
    have hwallet := (hinv₂.books.login login (hinv₂.books.session login hmem)).2
    rw [hmessage] at hwallet
    exact hwallet
  · exact run_verifyOps_of_ne hchallenged hle htime hother

/-- Wallet 7 has a challenge that nobody can answer any more: the request that took its message out
of Redis failed. -/
def lostMessage : List LoginOp :=
  [.challengeRequest 0 7, .challenge 0 5, .store 0, .record 0, .verifyRequest 1 7 9, .select 1 5,
    .take 1, .fail 1]

theorem fresh_challenge_signs_in_lostMessage : ∃ s,
    run (loginStep fiveMinutes fun _ _ signature => signature = 9) .initial lostMessage = some s ∧
      ∃ s₁, run (loginStep fiveMinutes fun _ _ signature => signature = 9) s
          (challengeOps 10 2 7 6) = some s₁ ∧
        ∃ s₂ login, run (loginStep fiveMinutes fun _ _ signature => signature = 9) s₁
            (verifyOps 20 2 7 6 9 100) = some s₂ ∧
          login.message = signinMessage fiveMinutes 10 7 6 ∧ s₂.sessions = login :: s.sessions := by
  have hend : (run (loginStep fiveMinutes fun _ _ signature => signature = 9) .initial
      lostMessage).any (fun s => s.tasks.lookup 2 = none ∧ s.challenges.lookup 6 = none ∧
        s.users.lookup 100 = none ∧ s.clock < 10) = true := by
    decide +kernel
  obtain ⟨s, hrun, hs⟩ := (Option.any_eq_true _ _).1 hend
  obtain ⟨hidle, hnonce, hnewId, hlater⟩ := of_decide_eq_true hs
  obtain ⟨s₁, hchallenge, ⟨s₂, login, hverify, hmessage, hcons, -⟩, -⟩ :=
    fresh_challenge_signs_in fiveMinutes _ lostMessage s hrun hidle hnonce hnewId hlater
      (by decide : 10 ≤ 20) (by decide) (decide_eq_true (rfl : (9 : Signature) = 9))
  exact ⟨s, hrun, s₁, hchallenge, s₂, login, hverify, hmessage, hcons⟩

end HyperCopy.Session
