import HyperCopy.Session.Refresh
import Mathlib.Logic.Function.Iterate
import Mathlib.Order.Basic

/-!
# What holds of the tokens of a login

The tokens of a login form one chain; none is accepted from the absolute expiry on; a token that has
been rotated is accepted until the grace deadline of its first rotation, for the same successor; and
after a logout nothing is accepted (`SessionLaws`).

Two of these need a condition (`Undisturbed`).  A request that has read the entry of its token before
another one marked it writes the mark once more, with a later deadline; and the deny key of a family
expires with the login, an hour before its last access tokens do.
-/

namespace HyperCopy.Session

open Transition

/-! ## The laws -/

/-- The grace deadline of a token that was rotated at `nowTs`. -/
def SessionSystem.graceDeadline (s : SessionSystem) (c : SessionSettings) (nowTs : ℕ) : ℕ :=
  nowTs + min c.sessionRefreshGrace (s.absoluteExp - nowTs)

/-- What holds of the family in every state of a run. -/
structure SessionLaws (c : SessionSettings) (s : SessionSystem) : Prop where
  /-- The tokens issued are the first ones of the chain of derivations. -/
  chain : ∃ n, ∀ token, token ∈ s.issued ↔ ∃ k ≤ n, token = deriveRefreshSuccessor^[k] s.first
  successor : ∀ a ∈ s.accepted, a.token ∈ s.issued ∧ a.successor ∈ s.issued ∧
    a.successor = deriveRefreshSuccessor a.token
  absolute : ∀ a ∈ s.accepted, a.nowTs < s.absoluteExp ∧ a.nowTs + a.ttl = s.absoluteExp
  /-- A token that is accepted has been rotated, and its first rotation sets the deadline. -/
  grace : ∀ a ∈ s.accepted, ∃ nowTs, s.rotatedAt.lookup a.token = some nowTs ∧
    a.nowTs < s.graceDeadline c nowTs
  /-- No refresh token of the family is accepted after a logout. -/
  refreshLogout : ∀ a ∈ s.accepted, a.looked.loggedOut = false ∧
    (a.relooked.clock < 1000 * s.absoluteExp → a.relooked.loggedOut = false)
  /-- No access token of the family is accepted after a logout. -/
  accessLogout : ∀ a ∈ s.admitted, a.looked.loggedOut = false

/-- The rotation whose mark is the next command of a task. -/
def Task.marking : Task → Option Rotation
  | .refresh (.mark r _) => some r
  | _ => none

/-- The next command is the lookup of the deny key of the family of an access token. -/
def Task.looksUpFamily : Task → Bool
  | .session (.familyDenied _ _) => true
  | _ => false

/-- A request that marks its token is not preceded by an earlier rotation of the token, unless the
deadline is the absolute expiry for both; and the family of a logged out login is looked up before
the absolute expiry. -/
def Undisturbed (c : SessionSettings) (s : SessionSystem) : SessionOp → Prop
  | .next id => ∀ task ∈ s.tasks.lookup id,
      (∀ r ∈ task.marking, ∀ nowTs ∈ s.rotatedAt.lookup r.token,
        r.nowTs ≤ nowTs ∨ s.absoluteExp ≤ nowTs + c.sessionRefreshGrace) ∧
      (task.looksUpFamily = true → s.loggedOut = true → s.clock < 1000 * s.absoluteExp)
  | _ => True

instance (c : SessionSettings) (s : SessionSystem) : ∀ op, Decidable (Undisturbed c s op)
  | .next _ => inferInstanceAs (Decidable (∀ _ ∈ _, _ ∧ _))
  | .tick _ | .users _ | .refresh _ _ | .session _ _ _ | .fail _ => .isTrue trivial

/-! ## The invariant -/

section Invariant

variable {c : SessionSettings} {s s' : SessionSystem}

/-- What the entry of a token says: the login is the one of the token, and a handle has the deadline
of the first rotation at most. -/
structure PayloadOk (c : SessionSettings) (s : SessionSystem) (token : RefreshToken)
    (payload : RefreshPayload) : Prop where
  issued : token ∈ s.issued
  sessionId : payload.sessionId = s.sessionId
  absoluteExp : payload.absoluteExp = s.absoluteExp
  rotated : payload.rotatedTo ≠ none → ∃ nowTs, s.rotatedAt.lookup token = some nowTs ∧
    payload.rotationGraceExp ≤ s.graceDeadline c nowTs

/-- A request between the checks of its rotation and its answer. -/
structure RotationOk (c : SessionSettings) (s : SessionSystem) (r : Rotation) : Prop
    extends PayloadOk c s r.token r.payload where
  looked : r.looked.loggedOut = false
  nowTs_lt : r.nowTs < s.absoluteExp

/-- The token of the request has been rotated, and the request is in time. -/
def Timely (c : SessionSettings) (s : SessionSystem) (r : Rotation) : Prop :=
  ∃ nowTs, s.rotatedAt.lookup r.token = some nowTs ∧ r.nowTs < s.graceDeadline c nowTs

/-- A deny key is missed after a logout only when the login has expired. -/
def LookupOk (s : SessionSystem) (l : FamilyLookup) : Prop :=
  l.loggedOut = true → 1000 * s.absoluteExp ≤ l.clock

/-- What a refresh request knows at each point. -/
def RefreshStageOk (c : SessionSettings) (s : SessionSystem) : RefreshStage → Prop
  | .get _ | .delete _ => True
  | .expiry token payload | .denied token payload => PayloadOk c s token payload
  | .user p | .rotation p => PayloadOk c s p.token p.payload ∧
      (p.looked.loggedOut = true → 1000 * s.absoluteExp ≤ s.clock)
  | .rotationDenied r => RotationOk c s r
  | .retry r relooked => RotationOk c s r ∧ LookupOk s relooked ∧ Timely c s r
  | .storeExpiry r | .storeDenied r _ =>
      RotationOk c s r ∧ (r.payload.rotatedTo ≠ none → Timely c s r)
  | .store r _ relooked => RotationOk c s r ∧ LookupOk s relooked ∧
      (r.payload.rotatedTo ≠ none → Timely c s r)
  | .mark r relooked => RotationOk c s r ∧ LookupOk s relooked ∧
      deriveRefreshSuccessor r.token ∈ s.issued
  | .issue r relooked => RotationOk c s r ∧ LookupOk s relooked ∧
      deriveRefreshSuccessor r.token ∈ s.issued ∧ Timely c s r

/-- The claims of a token of the login. -/
def AccessOk (s : SessionSystem) (token : AccessToken) : Prop :=
  token.sid = some s.sessionId ∧ token.sessionExp = some s.absoluteExp

/-- What a request that ends sessions knows at each point. -/
def SessionStageOk (s : SessionSystem) : SessionStage → Prop
  | .decode token _ | .accessDenied token _ | .familyDenied token _ | .logout token _ =>
      AccessOk s token
  | .denyAccess token _ nowTs | .denyFamily token _ nowTs =>
      AccessOk s token ∧ 1000 * nowTs ≤ s.clock
  | .deleteCookie _ => True

/-- What a request knows. -/
def TaskOk (c : SessionSettings) (s : SessionSystem) : Task → Prop
  | .refresh stage => RefreshStageOk c s stage
  | .session stage => SessionStageOk s stage

/-- The invariant of a run. -/
structure SessionInv (c : SessionSettings) (s : SessionSystem) : Prop extends SessionLaws c s where
  entries : ∀ hash entry, s.refresh.lookup hash = some entry →
    PayloadOk c s hash.token entry.value
  tasks : ∀ id task, s.tasks.lookup id = some task → TaskOk c s task
  tokens : ∀ token ∈ s.accessTokens, AccessOk s token
  rotatedAt : ∀ token nowTs, s.rotatedAt.lookup token = some nowTs → nowTs < s.absoluteExp
  deny : s.loggedOut = true → ∃ entry, s.deny.lookup (.family s.sessionId) = some entry ∧
    1000 * s.absoluteExp ≤ entry.expiresAt

/-! ### What does not depend on the entries and the tasks -/

/-- The login is the same, and what has been recorded stays. -/
structure Later (s s' : SessionSystem) : Prop where
  absoluteExp : s'.absoluteExp = s.absoluteExp
  sessionId : s'.sessionId = s.sessionId
  first : s'.first = s.first
  clock : s.clock ≤ s'.clock
  issued : s.issued ⊆ s'.issued
  rotatedAt : ∀ token nowTs, s.rotatedAt.lookup token = some nowTs →
    s'.rotatedAt.lookup token = some nowTs

lemma PayloadOk.later (hlater : Later s s') {token : RefreshToken} {payload : RefreshPayload}
    (h : PayloadOk c s token payload) : PayloadOk c s' token payload := by
  refine ⟨hlater.issued h.issued, ?_, ?_, fun hrotated => ?_⟩
  · rw [hlater.sessionId]
    exact h.sessionId
  · rw [hlater.absoluteExp]
    exact h.absoluteExp
  · obtain ⟨nowTs, hat, hle⟩ := h.rotated hrotated
    refine ⟨nowTs, hlater.rotatedAt _ _ hat, ?_⟩
    unfold SessionSystem.graceDeadline at hle ⊢
    rw [hlater.absoluteExp]
    exact hle

lemma RotationOk.later (hlater : Later s s') {r : Rotation} (h : RotationOk c s r) :
    RotationOk c s' r :=
  ⟨h.toPayloadOk.later hlater, h.looked, by rw [hlater.absoluteExp]; exact h.nowTs_lt⟩

lemma Timely.later (hlater : Later s s') {r : Rotation} (h : Timely c s r) : Timely c s' r := by
  obtain ⟨nowTs, hat, hlt⟩ := h
  refine ⟨nowTs, hlater.rotatedAt _ _ hat, ?_⟩
  unfold SessionSystem.graceDeadline at hlt ⊢
  rw [hlater.absoluteExp]
  exact hlt

lemma LookupOk.later (hlater : Later s s') {l : FamilyLookup} (h : LookupOk s l) :
    LookupOk s' l := by
  intro hout
  rw [hlater.absoluteExp]
  exact h hout

lemma RefreshStageOk.later (hlater : Later s s') {stage : RefreshStage}
    (h : RefreshStageOk c s stage) : RefreshStageOk c s' stage := by
  cases stage with
  | get | delete => trivial
  | expiry | denied => exact PayloadOk.later hlater h
  | user | rotation =>
      refine ⟨h.1.later hlater, fun hout => ?_⟩
      have hclock := h.2 hout
      rw [hlater.absoluteExp]
      exact hclock.trans hlater.clock
  | rotationDenied => exact RotationOk.later hlater h
  | retry => exact ⟨h.1.later hlater, h.2.1.later hlater, h.2.2.later hlater⟩
  | storeExpiry | storeDenied => exact ⟨h.1.later hlater, fun hr => (h.2 hr).later hlater⟩
  | store => exact ⟨h.1.later hlater, h.2.1.later hlater, fun hr => (h.2.2 hr).later hlater⟩
  | mark => exact ⟨h.1.later hlater, h.2.1.later hlater, hlater.issued h.2.2⟩
  | issue =>
      exact ⟨h.1.later hlater, h.2.1.later hlater, hlater.issued h.2.2.1, h.2.2.2.later hlater⟩

lemma AccessOk.later (hlater : Later s s') {token : AccessToken} (h : AccessOk s token) :
    AccessOk s' token := by
  unfold AccessOk
  rw [hlater.sessionId, hlater.absoluteExp]
  exact h

lemma SessionStageOk.later (hlater : Later s s') {stage : SessionStage}
    (h : SessionStageOk s stage) : SessionStageOk s' stage := by
  cases stage with
  | decode | accessDenied | familyDenied | logout => exact AccessOk.later hlater h
  | denyAccess | denyFamily => exact ⟨h.1.later hlater, h.2.trans hlater.clock⟩
  | deleteCookie => trivial

lemma TaskOk.later (hlater : Later s s') {task : Task} (h : TaskOk c s task) : TaskOk c s' task := by
  cases task with
  | refresh stage => exact RefreshStageOk.later hlater h
  | session stage => exact SessionStageOk.later hlater h

/-- The laws are about what has been recorded. -/
lemma SessionLaws.frame (h : SessionLaws c s) (hlater : Later s s') (hissued : s'.issued = s.issued)
    (hrotated : s'.rotatedAt = s.rotatedAt) (haccepted : s'.accepted = s.accepted)
    (hadmitted : s'.admitted = s.admitted) : SessionLaws c s' := by
  obtain ⟨h₁, h₂, h₃, h₄, h₅, h₆⟩ := h
  unfold SessionSystem.graceDeadline at h₄
  constructor
  · rwa [hissued, hlater.first]
  · rwa [haccepted, hissued]
  · rwa [haccepted, hlater.absoluteExp]
  · unfold SessionSystem.graceDeadline
    rwa [haccepted, hrotated, hlater.absoluteExp]
  · rwa [haccepted, hlater.absoluteExp]
  · rwa [hadmitted]

/-- A step that records nothing keeps everything, when the tasks and the entries it leaves are old
ones or as they should be. -/
lemma SessionInv.frame (h : SessionInv c s) (hlater : Later s s') (hissued : s'.issued = s.issued)
    (hrotated : s'.rotatedAt = s.rotatedAt) (haccepted : s'.accepted = s.accepted)
    (hadmitted : s'.admitted = s.admitted)
    (hentries : ∀ hash entry, s'.refresh.lookup hash = some entry →
      s.refresh.lookup hash = some entry ∨ PayloadOk c s' hash.token entry.value)
    (htasks : ∀ id task, s'.tasks.lookup id = some task →
      s.tasks.lookup id = some task ∨ TaskOk c s' task)
    (htokens : ∀ token ∈ s'.accessTokens, token ∈ s.accessTokens ∨ AccessOk s' token)
    (hdeny : s'.loggedOut = true → ∃ entry, s'.deny.lookup (.family s.sessionId) = some entry ∧
      1000 * s.absoluteExp ≤ entry.expiresAt) : SessionInv c s' := by
  refine ⟨h.toSessionLaws.frame hlater hissued hrotated haccepted hadmitted, ?_, ?_, ?_, ?_, ?_⟩
  · intro hash entry hentry
    rcases hentries hash entry hentry with hold | hnew
    · exact (h.entries hash entry hold).later hlater
    · exact hnew
  · intro id task htask
    rcases htasks id task htask with hold | hnew
    · exact (h.tasks id task hold).later hlater
    · exact hnew
  · intro token htoken
    rcases htokens token htoken with hold | hnew
    · exact (h.tokens token hold).later hlater
    · exact hnew
  · intro token nowTs hat
    rw [hrotated] at hat
    rw [hlater.absoluteExp]
    exact h.rotatedAt token nowTs hat
  · rw [hlater.sessionId, hlater.absoluteExp]
    exact hdeny

/-! ### The changes a step makes -/

lemma SessionInv.goto (h : SessionInv c s) (id : TaskId) (task : Task) (htask : TaskOk c s task) :
    SessionInv c (s.goto id task) := by
  have hlater : Later s (s.goto id task) := ⟨rfl, rfl, rfl, le_rfl, fun _ ht => ht, fun _ _ ht => ht⟩
  refine h.frame hlater rfl rfl rfl rfl (fun _ _ hentry => .inl hentry) (fun id' task' htask' => ?_)
    (fun _ htoken => .inl htoken) h.deny
  rcases Table.lookup_insert_cases htask' with ⟨rfl, rfl⟩ | hold
  · exact .inr (htask.later hlater)
  · exact .inl hold

lemma SessionInv.finish (h : SessionInv c s) (id : TaskId) : SessionInv c (s.finish id) :=
  h.frame ⟨rfl, rfl, rfl, le_rfl, fun _ ht => ht, fun _ _ ht => ht⟩ rfl rfl rfl rfl
    (fun _ _ hentry => .inl hentry) (fun _ _ htask => .inl (Table.lookup_of_erase htask))
    (fun _ htoken => .inl htoken) h.deny

lemma SessionInv.deleteToken (h : SessionInv c s) (token : RefreshToken) :
    SessionInv c (s.deleteToken token) :=
  h.frame ⟨rfl, rfl, rfl, le_rfl, fun _ ht => ht, fun _ _ ht => ht⟩ rfl rfl rfl rfl
    (fun _ _ hentry => .inl (Table.lookup_of_erase hentry)) (fun _ _ htask => .inl htask)
    (fun _ htoken => .inl htoken) h.deny

lemma SessionInv.createSessionToken (h : SessionInv c s) :
    SessionInv c (s.createSessionToken c) ∧ Later s (s.createSessionToken c) := by
  have hlater : Later s (s.createSessionToken c) :=
    ⟨rfl, rfl, rfl, le_rfl, fun _ ht => ht, fun _ _ ht => ht⟩
  refine ⟨h.frame hlater rfl rfl rfl rfl (fun _ _ hentry => .inl hentry) (fun _ _ htask => .inl htask)
    (fun token htoken => ?_) h.deny, hlater⟩
  rcases List.mem_append.1 htoken with hold | hnew
  · exact .inl hold
  · obtain rfl := List.mem_singleton.1 hnew
    exact .inr ⟨rfl, rfl⟩

/-- The chain grows by the successor of one of its tokens, if it grows. -/
lemma chain_succ {first token : RefreshToken} {issued : List RefreshToken}
    (h : ∃ n, ∀ t, t ∈ issued ↔ ∃ k ≤ n, t = deriveRefreshSuccessor^[k] first)
    (htoken : token ∈ issued) (hnew : deriveRefreshSuccessor token ∉ issued) :
    ∃ n, ∀ t, t ∈ issued ++ [deriveRefreshSuccessor token] ↔
      ∃ k ≤ n, t = deriveRefreshSuccessor^[k] first := by
  obtain ⟨n, hn⟩ := h
  obtain ⟨k, hk, rfl⟩ := (hn token).1 htoken
  rw [← Function.iterate_succ_apply' deriveRefreshSuccessor k first] at hnew ⊢
  -- the successor of an earlier token has been issued already
  have hlast : k = n := by
    by_contra hne
    exact hnew ((hn _).2 ⟨k + 1, by omega, rfl⟩)
  subst hlast
  refine ⟨k + 1, fun t => ?_⟩
  rw [List.mem_append, hn, List.mem_singleton]
  constructor
  · rintro (⟨j, hj, rfl⟩ | rfl)
    · exact ⟨j, by omega, rfl⟩
    · exact ⟨k + 1, le_rfl, rfl⟩
  · rintro ⟨j, hj, rfl⟩
    by_cases hjk : j ≤ k
    · exact .inl ⟨j, hjk, rfl⟩
    · obtain rfl : j = k + 1 := by omega
      exact .inr rfl

/-- The successor is stored for the same login, and is the next token of the chain. -/
lemma SessionInv.storeSuccessor (h : SessionInv c s) {r : Rotation} (hr : RotationOk c s r)
    (ttl : ℕ) :
    SessionInv c (s.storeSuccessor r ttl) ∧ Later s (s.storeSuccessor r ttl) ∧
      deriveRefreshSuccessor r.token ∈ (s.storeSuccessor r ttl).issued := by
  have hissued : s.issued ⊆ (s.storeSuccessor r ttl).issued := by
    intro t ht
    simp only [SessionSystem.storeSuccessor]
    split_ifs
    · exact ht
    · exact List.mem_append_left _ ht
  have hsuccessor : deriveRefreshSuccessor r.token ∈ (s.storeSuccessor r ttl).issued := by
    simp only [SessionSystem.storeSuccessor]
    split_ifs with hmem
    · exact hmem
    · exact List.mem_append_right _ (List.mem_singleton.2 rfl)
  have hlater : Later s (s.storeSuccessor r ttl) :=
    ⟨rfl, rfl, rfl, le_rfl, hissued, fun _ _ ht => ht⟩
  refine ⟨⟨⟨?_, fun a ha => ?_, h.absolute, h.grace, h.refreshLogout, h.accessLogout⟩,
    fun hash entry hentry => ?_, fun id task htask => (h.tasks id task htask).later hlater,
    h.tokens, h.rotatedAt, h.deny⟩, hlater, hsuccessor⟩
  · simp only [SessionSystem.storeSuccessor]
    split_ifs with hmem
    · exact h.chain
    · exact chain_succ h.chain hr.issued hmem
  · obtain ⟨hissued', hnext, heq⟩ := h.successor a ha
    exact ⟨hissued hissued', hissued hnext, heq⟩
  · rcases Table.lookup_insert_cases hentry with ⟨rfl, rfl⟩ | hold
    · exact ⟨hsuccessor, hr.sessionId, hr.absoluteExp, fun hrotated => absurd rfl hrotated⟩
    · exact (h.entries hash entry hold).later hlater

/-- The mark is the first one of its token, or its deadline is not later than that of the first. -/
lemma SessionInv.markRotated (h : SessionInv c s) {r : Rotation} (hr : RotationOk c s r)
    (hfirst : ∀ nowTs, s.rotatedAt.lookup r.token = some nowTs →
      r.nowTs ≤ nowTs ∨ s.absoluteExp ≤ nowTs + c.sessionRefreshGrace) :
    SessionInv c (s.markRotated c r) ∧ Later s (s.markRotated c r) ∧
      Timely c (s.markRotated c r) r := by
  have hgrace := c.one_le_grace
  have hexp := hr.nowTs_lt
  have hlookup : ∀ token, (s.markRotated c r).rotatedAt.lookup token =
      if token = r.token then some ((s.rotatedAt.lookup r.token).getD r.nowTs)
      else s.rotatedAt.lookup token := by
    intro token
    simp only [SessionSystem.markRotated]
    cases hat : s.rotatedAt.lookup r.token with
    | none => rw [Table.lookup_insert_eq, Option.getD_none]
    | some nowTs =>
        by_cases htoken : token = r.token
        · rw [if_pos htoken, htoken, hat, Option.getD_some]
        · rw [if_neg htoken]
  have hlater : Later s (s.markRotated c r) := by
    refine ⟨rfl, rfl, rfl, le_rfl, fun _ ht => ht, fun token nowTs hat => ?_⟩
    rw [hlookup]
    split_ifs with htoken
    · rw [← htoken, hat, Option.getD_some]
    · exact hat
  -- the time recorded for the token, which bounds the new deadline
  obtain ⟨nowTs, hat, hlt, hle⟩ : ∃ nowTs,
      (s.markRotated c r).rotatedAt.lookup r.token = some nowTs ∧ nowTs < s.absoluteExp ∧
        r.nowTs + min c.sessionRefreshGrace (s.absoluteExp - r.nowTs) ≤
          s.graceDeadline c nowTs := by
    rw [hlookup, if_pos rfl]
    unfold SessionSystem.graceDeadline
    cases hold : s.rotatedAt.lookup r.token with
    | none => exact ⟨r.nowTs, rfl, hexp, le_rfl⟩
    | some nowTs =>
        have hbefore := h.rotatedAt _ _ hold
        have hcase := hfirst nowTs hold
        exact ⟨nowTs, rfl, hbefore, by omega⟩
  have htimely : Timely c (s.markRotated c r) r := by
    refine ⟨nowTs, hat, lt_of_lt_of_le ?_ hle⟩
    omega
  refine ⟨⟨⟨h.chain, h.successor, h.absolute, fun a ha => ?_, h.refreshLogout, h.accessLogout⟩,
      fun hash entry hentry => ?_, fun id task htask => (h.tasks id task htask).later hlater,
      h.tokens, fun token nowTs' hat' => ?_, h.deny⟩,
    hlater, htimely⟩
  · obtain ⟨nowTs', hat', hlt'⟩ := h.grace a ha
    exact ⟨nowTs', hlater.rotatedAt _ _ hat', hlt'⟩
  · rcases Table.lookup_insert_cases hentry with ⟨rfl, rfl⟩ | hold
    · refine ⟨hr.issued, hr.sessionId, hr.absoluteExp, fun _ => ⟨nowTs, hat, ?_⟩⟩
      show r.nowTs + min c.sessionRefreshGrace (r.payload.absoluteExp - r.nowTs) ≤ _
      rw [hr.absoluteExp]
      exact hle
    · exact (h.entries hash entry hold).later hlater
  · rw [hlookup] at hat'
    split_ifs at hat' with htoken
    · rw [hlookup, if_pos rfl] at hat
      obtain rfl := Option.some.inj (hat.symm.trans hat')
      exact hlt
    · exact h.rotatedAt token nowTs' hat'

lemma SessionInv.accept (h : SessionInv c s) {r : Rotation} {relooked : FamilyLookup}
    (hr : RotationOk c s r) (hrelooked : LookupOk s relooked)
    (hsuccessor : deriveRefreshSuccessor r.token ∈ s.issued) (htimely : Timely c s r) :
    SessionInv c (s.accept r relooked) := by
  have hexp := hr.nowTs_lt
  have haccepted : ∀ {P : RefreshAcceptance → Prop}, (∀ a ∈ s.accepted, P a) →
      P ⟨r.token, deriveRefreshSuccessor r.token, r.nowTs, SessionSystem.ttlAt r, r.looked, relooked⟩ →
        ∀ a ∈ (s.accept r relooked).accepted, P a := by
    intro P hold hnew a ha
    rcases List.mem_append.1 ha with ha | ha
    · exact hold a ha
    · obtain rfl := List.mem_singleton.1 ha
      exact hnew
  have hlater : Later s (s.accept r relooked) :=
    ⟨rfl, rfl, rfl, le_rfl, fun _ ht => ht, fun _ _ ht => ht⟩
  refine ⟨⟨h.chain, haccepted h.successor ⟨hr.issued, hsuccessor, rfl⟩, haccepted h.absolute ⟨hexp, ?_⟩,
    haccepted h.grace htimely, haccepted h.refreshLogout ⟨hr.looked, fun hclock => ?_⟩,
    h.accessLogout⟩, fun hash entry hentry => (h.entries hash entry hentry).later hlater,
    fun id task htask => (h.tasks id task htask).later hlater, h.tokens, h.rotatedAt, h.deny⟩
  · show r.nowTs + (r.payload.absoluteExp - r.nowTs) = s.absoluteExp
    rw [hr.absoluteExp]
    omega
  · by_contra hout
    have hle := hrelooked (by simpa using hout)
    exact absurd hclock (not_lt.2 hle)

/-- An access token is accepted where no logout has committed. -/
lemma SessionInv.acceptAccess (h : SessionInv c s) {id : TaskId} {token : AccessToken}
    {purpose : Purpose} (htoken : AccessOk s token) (hout : s.loggedOut = false) :
    SessionInv c (s.acceptAccess id token purpose) := by
  have hlater : Later s { s with admitted := s.admitted ++ [⟨token, s.lookedUp⟩] } :=
    ⟨rfl, rfl, rfl, le_rfl, fun _ ht => ht, fun _ _ ht => ht⟩
  have hrecorded : SessionInv c { s with admitted := s.admitted ++ [⟨token, s.lookedUp⟩] } := by
    refine ⟨⟨h.chain, h.successor, h.absolute, h.grace, h.refreshLogout, fun a ha => ?_⟩,
      fun hash entry hentry => (h.entries hash entry hentry).later hlater,
      fun id task htask => (h.tasks id task htask).later hlater, h.tokens, h.rotatedAt, h.deny⟩
    rcases List.mem_append.1 ha with ha | ha
    · exact h.accessLogout a ha
    · obtain rfl := List.mem_singleton.1 ha
      exact hout
  cases purpose with
  | request => exact hrecorded.finish id
  | logout cookie =>
      have hstage : TaskOk c s (.session (.logout token cookie)) := htoken
      exact hrecorded.goto _ _ (hstage.later hlater)

/-- A deny key of the family that is missed after a logout has expired, and the login with it. -/
lemma SessionInv.expired (h : SessionInv c s) (hdenied : s.denied (.family s.sessionId) = false)
    (hout : s.loggedOut = true) : 1000 * s.absoluteExp ≤ s.clock := by
  obtain ⟨entry, hentry, hle⟩ := h.deny hout
  by_contra hlive
  have hbefore : s.clock < entry.expiresAt := by omega
  have hfound := ExpiringTable.existsKey_of_lookup hentry hbefore
  exact absurd (hfound.symm.trans hdenied) (by simp)

/-- A deny key of an access token leaves that of the family as it is. -/
lemma SessionInv.denyAccess (h : SessionInv c s) (jti expiresAt : ℕ) :
    SessionInv c { s with deny := s.deny.setex (.access jti) expiresAt () } := by
  refine h.frame ⟨rfl, rfl, rfl, le_rfl, fun _ ht => ht, fun _ _ ht => ht⟩ rfl rfl rfl rfl
    (fun _ _ hentry => .inl hentry) (fun _ _ htask => .inl htask) (fun _ htoken => .inl htoken)
    fun hout => ?_
  obtain ⟨entry, hentry, hle⟩ := h.deny hout
  refine ⟨entry, ?_, hle⟩
  show (s.deny.setex (.access jti) expiresAt ()).lookup (.family s.sessionId) = some entry
  rw [ExpiringTable.lookup_setex, if_neg (by simp)]
  exact hentry

/-- The deny key of the family stays until the login expires. -/
lemma SessionInv.denyFamily (h : SessionInv c s) {token : AccessToken} {nowTs : ℕ}
    (htoken : AccessOk s token) (hnow : 1000 * nowTs ≤ s.clock) :
    SessionInv c { s with
      deny := s.deny.setex (.family s.sessionId)
        (s.after (SessionSystem.familyTtl c token nowTs)) ()
      loggedOut := true } := by
  refine h.frame ⟨rfl, rfl, rfl, le_rfl, fun _ ht => ht, fun _ _ ht => ht⟩ rfl rfl rfl rfl
    (fun _ _ hentry => .inl hentry) (fun _ _ htask => .inl htask) (fun _ htoken => .inl htoken)
    fun _ => ⟨⟨(), s.after (SessionSystem.familyTtl c token nowTs)⟩, ?_, ?_⟩
  · show (s.deny.setex (.family s.sessionId) _ ()).lookup (.family s.sessionId) = _
    rw [ExpiringTable.lookup_setex, if_pos rfl]
  · show 1000 * s.absoluteExp ≤ s.clock + 1000 * SessionSystem.familyTtl c token nowTs
    unfold SessionSystem.familyTtl
    rw [htoken.2, Option.getD_some]
    dsimp only
    split_ifs with hzero
    · omega
    · omega

/-! ### Steps -/

/-- **One step of a refresh request.**  The cases are the commands of the request, in their order. -/
lemma SessionInv.refreshNext (h : SessionInv c s) {id : TaskId} {stage : RefreshStage}
    (hstage : RefreshStageOk c s stage)
    (hmark : ∀ r relooked, stage = .mark r relooked → ∀ nowTs,
      s.rotatedAt.lookup r.token = some nowTs →
        r.nowTs ≤ nowTs ∨ s.absoluteExp ≤ nowTs + c.sessionRefreshGrace) :
    SessionInv c (s.refreshNext c id stage) := by
  cases stage with
  | get token =>
      simp only [SessionSystem.refreshNext]
      cases hget : s.refresh.get s.clock (hashRefreshToken token) with
      | none => exact h.finish id
      | some payload =>
          obtain ⟨entry, hentry, -, rfl⟩ := ExpiringTable.get_eq_some.1 hget
          have hpayload := h.entries _ entry hentry
          exact h.goto _ (.refresh (.expiry token entry.value)) hpayload
  | expiry token payload =>
      simp only [SessionSystem.refreshNext]
      split_ifs
      · exact h.goto _ (.refresh (.delete token)) trivial
      · exact h.goto _ (.refresh (.denied token payload)) hstage
  | denied token payload =>
      have hpayload : PayloadOk c s token payload := hstage
      simp only [SessionSystem.refreshNext]
      split_ifs with hdenied
      · exact h.goto _ (.refresh (.delete token)) trivial
      · rw [hpayload.sessionId] at hdenied
        have hexpired := h.expired (by simpa using hdenied)
        exact h.goto _ (.refresh (.user ⟨token, payload, s.lookedUp⟩)) ⟨hpayload, hexpired⟩
  | user p =>
      simp only [SessionSystem.refreshNext]
      split_ifs
      · exact h.goto _ (.refresh (.delete p.token)) trivial
      · exact h.goto _ (.refresh (.rotation p)) hstage
  | rotation p =>
      obtain ⟨hpayload, hlooked⟩ := hstage
      simp only [SessionSystem.refreshNext]
      split_ifs with hexp
      · exact h.finish id
      · rw [hpayload.absoluteExp, SessionSystem.nowTs] at hexp
        have hrotation : RotationOk c s { p with nowTs := s.nowTs } := by
          refine ⟨hpayload, ?_, ?_⟩
          · by_contra hout
            have hexpired := hlooked (by simpa using hout)
            omega
          · show s.clock / 1000 < s.absoluteExp
            omega
        exact h.goto _ (.refresh (.rotationDenied _)) hrotation
  | rotationDenied r =>
      have hr : RotationOk c s r := hstage
      rw [SessionSystem.refreshNext]
      by_cases hdenied : s.denied (.family r.payload.sessionId) = true
      · rw [if_pos hdenied]
        exact h.finish id
      · rw [if_neg hdenied]
        rw [hr.sessionId] at hdenied
        have hlookup : LookupOk s s.lookedUp := h.expired (by simpa using hdenied)
        cases hrotated : r.payload.rotatedTo with
        | none =>
            exact h.goto _ (.refresh (.storeExpiry r)) ⟨hr, fun hsome => absurd hrotated hsome⟩
        | some successorHash =>
            dsimp only
            split_ifs with hhash hgrace
            · exact h.goto _ (.refresh (.delete r.token)) trivial
            · exact h.goto _ (.refresh (.delete r.token)) trivial
            · obtain ⟨nowTs, hat, hle⟩ := hr.rotated (by rw [hrotated]; simp)
              have htimely : Timely c s r := ⟨nowTs, hat, lt_of_lt_of_le (not_le.1 hgrace) hle⟩
              exact h.goto _ (.refresh (.retry r s.lookedUp)) ⟨hr, hlookup, htimely⟩
  | retry r relooked =>
      obtain ⟨hr, hrelooked, htimely⟩ := hstage
      simp only [SessionSystem.refreshNext]
      split_ifs with hexists
      · obtain ⟨payload, hget⟩ := Option.isSome_iff_exists.1 hexists
        obtain ⟨entry, hentry, -, -⟩ := ExpiringTable.get_eq_some.1 hget
        have hsuccessor := (h.entries _ entry hentry).issued
        exact h.goto _ (.refresh (.issue r relooked)) ⟨hr, hrelooked, hsuccessor, htimely⟩
      · exact h.goto _ (.refresh (.storeExpiry r)) ⟨hr, fun _ => htimely⟩
  | storeExpiry r =>
      simp only [SessionSystem.refreshNext]
      split_ifs
      · exact h.finish id
      · exact h.goto _ (.refresh (.storeDenied r _)) hstage
  | storeDenied r ttl =>
      obtain ⟨hr, htimely⟩ := hstage
      simp only [SessionSystem.refreshNext]
      split_ifs with hdenied
      · exact h.finish id
      · rw [hr.sessionId] at hdenied
        have hlookup : LookupOk s s.lookedUp := h.expired (by simpa using hdenied)
        exact h.goto _ (.refresh (.store r ttl s.lookedUp)) ⟨hr, hlookup, htimely⟩
  | store r ttl relooked =>
      obtain ⟨hr, hrelooked, htimely⟩ := hstage
      obtain ⟨hstored, hlater, hsuccessor⟩ := h.storeSuccessor hr ttl
      refine hstored.goto _ _ ?_
      split_ifs with hrotated
      · exact ⟨hr.later hlater, hrelooked.later hlater, hsuccessor⟩
      · exact ⟨hr.later hlater, hrelooked.later hlater, hsuccessor, (htimely hrotated).later hlater⟩
  | mark r relooked =>
      obtain ⟨hr, hrelooked, hsuccessor⟩ := hstage
      obtain ⟨hmarked, hlater, htimely⟩ := h.markRotated hr (hmark r relooked rfl)
      exact hmarked.goto _ (.refresh (.issue r relooked))
        ⟨hr.later hlater, hrelooked.later hlater, hlater.issued hsuccessor, htimely⟩
  | issue r relooked =>
      obtain ⟨hr, hrelooked, hsuccessor, htimely⟩ := hstage
      obtain ⟨hcreated, hlater⟩ := h.createSessionToken
      exact (hcreated.accept (hr.later hlater) (hrelooked.later hlater) (hlater.issued hsuccessor)
        (htimely.later hlater)).finish id
  | delete token => exact (h.deleteToken token).finish id

/-- **One step of a request with an access token.** -/
lemma SessionInv.sessionNext (h : SessionInv c s) {id : TaskId} {stage : SessionStage}
    (hstage : SessionStageOk s stage)
    (hfamily : ∀ token purpose, stage = .familyDenied token purpose → s.loggedOut = true →
      s.clock < 1000 * s.absoluteExp) :
    SessionInv c (s.sessionNext c id stage) := by
  cases stage with
  | decode token purpose =>
      simp only [SessionSystem.sessionNext]
      split_ifs
      · exact h.finish id
      · exact h.goto _ (.session (.accessDenied token purpose)) hstage
  | accessDenied token purpose =>
      simp only [SessionSystem.sessionNext]
      split_ifs
      · exact h.finish id
      · exact h.goto _ (.session (.familyDenied token purpose)) hstage
  | familyDenied token purpose =>
      have htoken : AccessOk s token := hstage
      simp only [SessionSystem.sessionNext]
      split_ifs with hdenied
      · exact h.finish id
      · refine h.acceptAccess htoken ?_
        rw [htoken.1, Option.any_some] at hdenied
        by_contra hout
        have hloggedOut : s.loggedOut = true := by simpa using hout
        have hexpired := h.expired (by simpa using hdenied) hloggedOut
        have hlive := hfamily token purpose rfl hloggedOut
        omega
  | logout token cookie =>
      have hclock : 1000 * s.nowTs ≤ s.clock := by
        unfold SessionSystem.nowTs
        omega
      exact h.goto _ (.session (.denyAccess token cookie s.nowTs)) ⟨hstage, hclock⟩
  | denyAccess token cookie nowTs =>
      exact (h.denyAccess token.jti _).goto _ (.session (.denyFamily token cookie nowTs)) hstage
  | denyFamily token cookie nowTs =>
      obtain ⟨htoken, hnow⟩ := hstage
      simp only [SessionSystem.sessionNext, htoken.1]
      have hdenied := (h.denyFamily htoken hnow).goto id
        (.session (.deleteCookie cookie)) trivial
      simpa using hdenied
  | deleteCookie cookie =>
      cases cookie with
      | none => exact h.finish id
      | some token => exact (h.deleteToken token).finish id

/-- **One step keeps the invariant.** -/
lemma SessionInv.step {op : SessionOp} (h : SessionInv c s) (hmeets : Undisturbed c s op)
    (hstep : sessionStep c s op = some s') : SessionInv c s' := by
  cases op with
  | tick clock =>
      simp only [sessionStep] at hstep
      split_ifs at hstep with hclock
      obtain rfl := Option.some.inj hstep
      exact h.frame ⟨rfl, rfl, rfl, hclock, fun _ ht => ht, fun _ _ ht => ht⟩ rfl rfl rfl rfl
        (fun _ _ hentry => .inl hentry) (fun _ _ htask => .inl htask) (fun _ htoken => .inl htoken)
        h.deny
  | users rows =>
      obtain rfl := Option.some.inj hstep
      exact h.frame ⟨rfl, rfl, rfl, le_rfl, fun _ ht => ht, fun _ _ ht => ht⟩ rfl rfl rfl rfl
        (fun _ _ hentry => .inl hentry) (fun _ _ htask => .inl htask) (fun _ htoken => .inl htoken)
        h.deny
  | refresh id token =>
      simp only [sessionStep] at hstep
      split_ifs at hstep
      obtain rfl := Option.some.inj hstep
      exact h.goto _ (.refresh (.get token)) trivial
  | session id token purpose =>
      simp only [sessionStep] at hstep
      split_ifs at hstep with hbegin
      obtain rfl := Option.some.inj hstep
      exact h.goto _ (.session (.decode token purpose)) (h.tokens token hbegin.2)
  | next id =>
      simp only [sessionStep] at hstep
      cases htask : s.tasks.lookup id with
      | none =>
          rw [htask] at hstep
          cases hstep
      | some task =>
          have hok := h.tasks id task htask
          obtain ⟨hmarking, hfamily⟩ := hmeets task htask
          rw [htask] at hstep
          cases task with
          | refresh stage =>
              obtain rfl := Option.some.inj hstep
              refine h.refreshNext hok ?_
              rintro r relooked rfl
              exact hmarking r rfl
          | session stage =>
              obtain rfl := Option.some.inj hstep
              refine h.sessionNext hok ?_
              rintro token purpose rfl
              exact hfamily rfl
  | fail id =>
      obtain rfl := Option.some.inj hstep
      exact h.finish id

end Invariant

/-! ## Runs -/

lemma SessionInv.verified (c : SessionSettings) (clock : ℕ) (user : UserId) (wallet : Wallet)
    (sessionId : SessionId) (entropy : ℕ) :
    SessionInv c (SessionSystem.verified c clock user wallet sessionId entropy) := by
  refine ⟨⟨⟨0, fun token => ?_⟩, ?_, ?_, ?_, ?_, ?_⟩, fun hash entry hentry => ?_, ?_,
    fun token htoken => ?_, ?_, ?_⟩
  · simp [SessionSystem.verified]
  all_goals try simp [SessionSystem.verified]
  · rcases Table.lookup_insert_cases hentry with ⟨rfl, rfl⟩ | hold
    · exact ⟨List.mem_singleton.2 rfl, rfl, rfl, fun hrotated => absurd rfl hrotated⟩
    · simp at hold
  · obtain rfl := List.mem_singleton.1 htoken
    exact ⟨rfl, rfl⟩

/-- **Refresh-token rotation.**  In every state of a login whose steps all meet the condition, the
laws of its tokens hold. -/
theorem session_laws_of_undisturbed (c : SessionSettings) {clock : ℕ} {user : UserId}
    {wallet : Wallet} {sessionId : SessionId} {entropy : ℕ} {ops : List SessionOp}
    {s : SessionSystem}
    (hmeets : RunMeets (sessionStep c) (Undisturbed c)
      (.verified c clock user wallet sessionId entropy) ops)
    (hrun : run (sessionStep c) (.verified c clock user wallet sessionId entropy) ops = some s) :
    SessionLaws c s :=
  (run_invariant_of_meets (fun _ _ _ => SessionInv.step)
    (SessionInv.verified c clock user wallet sessionId entropy) hmeets hrun).toSessionLaws

/-- The commands of a request, from its arrival. -/
def refreshOps (id : TaskId) (token : RefreshToken) (commands : ℕ) : List SessionOp :=
  .refresh id token :: List.replicate commands (.next id)

/-- A session request with the steps it takes. -/
def accessOps (id : TaskId) (token : AccessToken) (purpose : Purpose) (commands : ℕ) :
    List SessionOp :=
  .session id token purpose :: List.replicate commands (.next id)

/-- The first token is rotated, and presented once more within the grace interval; then a logout
commits, and the successor is presented. -/
theorem session_laws_of_undisturbed_run :
    ∃ s, run (sessionStep .default) (.verified .default 0 7 70 1 0)
        (refreshOps 0 (.created 0) 11 ++ [.tick 30000] ++ refreshOps 1 (.created 0) 8 ++
          accessOps 2 ⟨2, 3630, some 1, some 86400⟩ (.logout none) 7 ++
          refreshOps 3 (.successor (.created 0)) 4) = some s ∧
      s.accepted.map RefreshAcceptance.token = [.created 0, .created 0] ∧
      SessionLaws .default s := by
  have hmeets : RunMeets (sessionStep .default) (Undisturbed .default)
      (.verified .default 0 7 70 1 0)
      (refreshOps 0 (.created 0) 11 ++ [.tick 30000] ++ refreshOps 1 (.created 0) 8 ++
        accessOps 2 ⟨2, 3630, some 1, some 86400⟩ (.logout none) 7 ++
        refreshOps 3 (.successor (.created 0)) 4) := by
    decide +kernel
  have hrun : (run (sessionStep .default) (.verified .default 0 7 70 1 0)
      (refreshOps 0 (.created 0) 11 ++ [.tick 30000] ++ refreshOps 1 (.created 0) 8 ++
        accessOps 2 ⟨2, 3630, some 1, some 86400⟩ (.logout none) 7 ++
        refreshOps 3 (.successor (.created 0)) 4)).map (fun s =>
          s.accepted.map RefreshAcceptance.token) = some [.created 0, .created 0] := by
    decide +kernel
  obtain ⟨s, hs, haccepted⟩ := Option.map_eq_some_iff.1 hrun
  exact ⟨s, hs, haccepted, session_laws_of_undisturbed .default hmeets hs⟩

/-- Two requests with one token overlap.  The second one marks the token a second after the first,
and a third request is accepted at the grace deadline of the first.  An hour before the absolute
expiry two more access tokens are issued; the family is logged out with one of them, and from the
absolute expiry on the other one is accepted again. -/
theorem duplicate_refresh_extends_grace :
    ∃ s, run (sessionStep .default) (.verified .default 0 7 70 1 0)
        ([.refresh 0 (.created 0), .refresh 1 (.created 0), .next 0, .next 1] ++
          List.replicate 10 (.next 0) ++ [.tick 1000] ++ List.replicate 10 (.next 1) ++ [.tick 60000] ++
          refreshOps 2 (.created 0) 8 ++ [.tick 86000000] ++
          refreshOps 3 (.successor (.created 0)) 11 ++
          refreshOps 4 (.successor (.successor (.created 0))) 11 ++
          accessOps 5 ⟨5, 89600, some 1, some 86400⟩ (.logout none) 7 ++ [.tick 86400000] ++
          accessOps 6 ⟨4, 89600, some 1, some 86400⟩ .request 3) = some s ∧
      (∃ a ∈ s.accepted, ∃ nowTs, s.rotatedAt.lookup a.token = some nowTs ∧
        s.graceDeadline .default nowTs ≤ a.nowTs) ∧
      ∃ a ∈ s.admitted, a.looked.loggedOut = true := by
  have hrun : (run (sessionStep .default) (.verified .default 0 7 70 1 0)
      ([.refresh 0 (.created 0), .refresh 1 (.created 0), .next 0, .next 1] ++
        List.replicate 10 (.next 0) ++ [.tick 1000] ++ List.replicate 10 (.next 1) ++ [.tick 60000] ++
        refreshOps 2 (.created 0) 8 ++ [.tick 86000000] ++
        refreshOps 3 (.successor (.created 0)) 11 ++
        refreshOps 4 (.successor (.successor (.created 0))) 11 ++
        accessOps 5 ⟨5, 89600, some 1, some 86400⟩ (.logout none) 7 ++ [.tick 86400000] ++
        accessOps 6 ⟨4, 89600, some 1, some 86400⟩ .request 3)).map (fun s =>
          (s.accepted.any fun a => (s.rotatedAt.lookup a.token).any fun nowTs =>
            s.graceDeadline .default nowTs ≤ a.nowTs,
            s.admitted.any fun a => a.looked.loggedOut)) = some (true, true) := by
    decide +kernel
  obtain ⟨s, hs, hlate⟩ := Option.map_eq_some_iff.1 hrun
  obtain ⟨hgrace, hlogout⟩ := Prod.mk.inj hlate
  obtain ⟨a, ha, hdeadline⟩ := List.any_eq_true.1 hgrace
  obtain ⟨nowTs, hat, hle⟩ := (Option.any_eq_true _ _).1 hdeadline
  obtain ⟨b, hb, hout⟩ := List.any_eq_true.1 hlogout
  exact ⟨s, hs, ⟨a, ha, nowTs, hat, of_decide_eq_true hle⟩, b, hb, hout⟩

end HyperCopy.Session
