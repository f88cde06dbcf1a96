import HyperCopy.RateLimit.Limiter
import Mathlib.Tactic.Linarith

/-!
# The budget of every trailing window

The script of a reservation counts what its keys hold after it has dropped everything up to a
minute before *its own* time, the time the client has read before.  Where these keys have lost no
entry that is younger than that, the count covers the trailing window, and the budget holds in
every window (`rate_window_of_inOrder`).  A script that is overtaken counts too little:
`overtaken_script_overdraws`.
-/

namespace HyperCopy

open Transition

/-- What a key may hold in a window: the shared key the budget without the reserve, a lane its
allowance. -/
def Budget.capacity (b : Budget) : Option Priority → ℕ
  | none => b.totalPerMinute - b.reserve
  | some priority => b.allowance priority

/-- The admission lies in the window that ends at `t`. -/
def Admission.inWindow (key : Option Priority) (t : ℚ) (a : Admission) : Bool :=
  a.countsFor key && t - windowSeconds < a.score && a.score ≤ t

/-- The weight reserved or settled in the window that ends at `t`. -/
def windowWeight (admitted : List Admission) (key : Option Priority) (t : ℚ) : ℕ :=
  ((admitted.filter (Admission.inWindow key t)).map Admission.weight).sum

lemma Admission.inWindow_iff {key : Option Priority} {t : ℚ} {a : Admission} :
    a.inWindow key t = true ↔ a.countsFor key = true ∧ t - windowSeconds < a.score ∧ a.score ≤ t := by
  simp [Admission.inWindow, and_assoc]

/-- The keys that the call counts have lost no entry younger than a minute at the time it
carries. -/
def LimiterCall.FindsWindow (drops : List (Option Priority × ℚ)) : LimiterCall → Prop
  | .tryReserve _ priority now =>
    ∀ d ∈ drops, d.1 = none ∨ d.1 = some priority → d.2 ≤ now - windowSeconds
  | .used _ _ => True

instance (drops : List (Option Priority × ℚ)) (c : LimiterCall) : Decidable (c.FindsWindow drops) :=
  match c with
  | .tryReserve _ priority now =>
    inferInstanceAs (Decidable
      (∀ d ∈ drops, d.1 = none ∨ d.1 = some priority → d.2 ≤ now - windowSeconds))
  | .used _ _ => .isTrue trivial

/-- A reservation script runs before an entry of its window has been dropped. -/
def InOrder (s : LimiterState) : LimiterOp → Prop
  | .script call _ => ∀ c ∈ s.calls.lookup call, c.FindsWindow s.drops
  | _ => True

instance (s : LimiterState) (op : LimiterOp) : Decidable (InOrder s op) :=
  match op with
  | .script call _ => inferInstanceAs (Decidable (∀ c ∈ s.calls.lookup call, c.FindsWindow s.drops))
  | .tick _ | .tryReserve _ _ _ | .used _ _ | .settle _ _ => .isTrue trivial

/-- A settlement replaces the entry of its own reservation by a lighter one at the same score, and
does nothing else. -/
structure SettlesOnly (r : RateLimitReservation) (actual : ℕ) (s s' : LimiterState) : Prop where
  lowers : ∀ key member score, (s'.buckets key).entries.zscore member = some score →
    (s.buckets key).entries.zscore member = some score ∨
      (s.buckets key).entries.zscore r.member = some score ∧
        member = ⟨actual, r.member.suffix⟩ ∧ actual < r.member.weight
  others : ∀ key member, member.suffix ≠ r.member.suffix →
    (s'.buckets key).entries.zscore member = (s.buckets key).entries.zscore member

/-! ## Sums over windows -/

section Sums

variable {α : Type*} {p q : α → Bool} {w v : α → ℕ}

lemma sum_filter_le {l : List α} (hpq : ∀ a ∈ l, p a = true → q a = true)
    (hwv : ∀ a ∈ l, w a ≤ v a) : ((l.filter p).map w).sum ≤ ((l.filter q).map v).sum := by
  induction l with
  | nil => simp
  | cons a l ih =>
      have hrest := ih (fun b hb => hpq b (List.mem_cons_of_mem a hb))
        fun b hb => hwv b (List.mem_cons_of_mem a hb)
      have ha := hwv a List.mem_cons_self
      by_cases hp : p a = true
      · have hq := hpq a List.mem_cons_self hp
        simp only [List.filter_cons_of_pos hp, List.filter_cons_of_pos hq, List.map_cons,
          List.sum_cons]
        omega
      · rw [List.filter_cons_of_neg hp]
        by_cases hq : q a = true
        · simp only [List.filter_cons_of_pos hq, List.map_cons, List.sum_cons]
          omega
        · rw [List.filter_cons_of_neg hq]
          exact hrest

/-- What weighs nothing does not count. -/
lemma sum_filter_ne_zero (l : List α) :
    ((l.filter fun a => p a && !decide (w a = 0)).map w).sum = ((l.filter p).map w).sum := by
  induction l with
  | nil => simp
  | cons a l ih =>
      by_cases hp : p a = true
      · by_cases hw : w a = 0
        · simp [hp, hw, ih]
        · simp [hp, hw, ih]
      · simp [hp, ih]

end Sums

/-! ## The invariant of a bucket -/

/-- The entries of a bucket are admissions that count for its key, and an admission that counts is
there unless its entry was dropped. -/
structure BucketOk (admitted : List Admission) (drops : List (Option Priority × ℚ))
    (key : Option Priority) (b : Bucket) : Prop where
  sound : ∀ member score, b.entries.zscore member = some score →
    ∃ a ∈ admitted, a.member = member ∧ a.score = score ∧ a.countsFor key = true
  covers : ∀ a ∈ admitted, a.countsFor key = true → a.weight ≠ 0 →
    b.entries.zscore a.member = some a.score ∨ (key, a.score) ∈ drops

section Bucket

variable {admitted : List Admission} {drops drops' : List (Option Priority × ℚ)}
  {key : Option Priority} {b : Bucket}

lemma BucketOk.mono (h : BucketOk admitted drops key b) (hdrops : drops ⊆ drops') :
    BucketOk admitted drops' key b :=
  ⟨h.sound, fun a ha hkey hweight => (h.covers a ha hkey hweight).imp_right fun hd => hdrops hd⟩

lemma BucketOk.trim (h : BucketOk admitted drops key b) (cutoff : ℚ) :
    BucketOk admitted
      ((b.entries.scores.filter fun score => 0 ≤ score ∧ score ≤ cutoff).map
        (fun score => (key, score)) ++ drops) key (b.trim cutoff) where
  sound member score hscore := h.sound member score (SortedSet.zscore_zremrangebyscore.1 hscore).1
  covers a ha hkey hweight := by
    obtain hscore | hdropped := h.covers a ha hkey hweight
    · by_cases hold : 0 ≤ a.score ∧ a.score ≤ cutoff
      · refine Or.inr (List.mem_append_left _ (List.mem_map.2 ⟨a.score, ?_, rfl⟩))
        exact List.mem_filter.2 ⟨SortedSet.mem_scores hscore, decide_eq_true hold⟩
      · exact Or.inl (SortedSet.zscore_zremrangebyscore.2 ⟨hscore, hold⟩)
    · exact Or.inr (List.mem_append_right _ hdropped)

/-- With the key all its entries go. -/
lemma BucketOk.expired (h : BucketOk admitted drops key b) (hdrops : drops ⊆ drops')
    (hmem : ∀ score ∈ b.entries.scores, (key, score) ∈ drops') :
    BucketOk admitted drops' key .empty where
  sound member score hscore := by
    simp [Bucket.empty, SortedSet.zscore] at hscore
  covers a ha hkey hweight := by
    obtain hscore | hdropped := h.covers a ha hkey hweight
    · exact Or.inr (hmem _ (SortedSet.mem_scores hscore))
    · exact Or.inr (hdrops hdropped)

/-- An admission is known by the identifier of its reservation. -/
lemma admission_unique (hnodup : (admitted.map fun a => a.reservation.member.suffix).Nodup)
    {a a' : Admission} (ha : a ∈ admitted) (ha' : a' ∈ admitted)
    (h : a.reservation.member.suffix = a'.reservation.member.suffix) : a = a' :=
  List.inj_on_of_nodup_map hnodup ha ha' h

/-- A new admission, in a key it counts for. -/
lemma BucketOk.reserve (h : BucketOk admitted drops key b) (a : Admission)
    (hfresh : ∀ a' ∈ admitted, a'.reservation.member.suffix ≠ a.reservation.member.suffix)
    (hkey : a.countsFor key = true) (expiresAt : ℚ) :
    BucketOk (a :: admitted) drops key (b.reserve a.score a.member expiresAt) where
  sound member score hscore := by
    simp only [Bucket.reserve, SortedSet.zscore_zadd] at hscore
    split_ifs at hscore with hmember
    · obtain rfl := Option.some.inj hscore
      exact ⟨a, List.mem_cons_self, hmember.symm, rfl, hkey⟩
    · obtain ⟨a', ha', hold⟩ := h.sound member score hscore
      exact ⟨a', List.mem_cons_of_mem a ha', hold⟩
  covers a' ha' hkey' hweight := by
    simp only [Bucket.reserve, SortedSet.zscore_zadd]
    rcases List.mem_cons.1 ha' with rfl | hold
    · simp
    · have hne : a'.member ≠ a.member := by
        intro heq
        have hsuffix : a'.member.suffix = a.member.suffix := by rw [heq]
        exact hfresh a' hold hsuffix
      rw [if_neg hne]
      exact h.covers a' hold hkey' hweight

/-- A new admission, in a key it does not count for. -/
lemma BucketOk.skip (h : BucketOk admitted drops key b) {a : Admission}
    (hkey : a.countsFor key = false) : BucketOk (a :: admitted) drops key b where
  sound member score hscore := by
    obtain ⟨a', ha', hold⟩ := h.sound member score hscore
    exact ⟨a', List.mem_cons_of_mem a ha', hold⟩
  covers a' ha' hkey' hweight := by
    rcases List.mem_cons.1 ha' with rfl | hold
    · rw [hkey] at hkey'
      cases hkey'
    · exact h.covers a' hold hkey' hweight

/-! ### Settling -/

/-- Settling an admission changes its weight only, and never upwards. -/
lemma Admission.settle_keeps (r : RateLimitReservation) {actual : ℕ} (hlt : actual < r.reservedWeight)
    (a : Admission) :
    (a.settle r actual).reservation = a.reservation ∧ (a.settle r actual).score = a.score ∧
      (a.settle r actual).weight ≤ a.weight := by
  unfold Admission.settle
  split_ifs with hcond
  · refine ⟨rfl, rfl, ?_⟩
    have hweight := hcond.2
    show actual ≤ a.weight
    omega
  · exact ⟨rfl, rfl, le_refl _⟩

lemma Admission.settle_of_ne {r : RateLimitReservation} {actual : ℕ} {a : Admission}
    (h : a.reservation.member.suffix ≠ r.member.suffix) : a.settle r actual = a := by
  unfold Admission.settle
  rw [if_neg]
  rintro ⟨rfl, -⟩
  exact h rfl

/-- The entry of an admission that is settled already has another member. -/
lemma Bucket.settle_of_missing {old new : Member} (h : b.entries.zscore old = none) :
    b.settle old new = b := by
  simp only [Bucket.settle, h]

/-- What a key reads for a member once an entry that is there has been settled. -/
lemma Bucket.zscore_settle {old new : Member} {score : ℚ} (h : b.entries.zscore old = some score)
    (hne : new ≠ old) (member : Member) :
    (b.settle old new).entries.zscore member =
      if member = new then (if new.weight = 0 then b.entries.zscore member else some score)
      else if member = old then none
      else b.entries.zscore member := by
  simp only [Bucket.settle, h]
  by_cases hzero : new.weight = 0
  · rw [if_pos hzero, Bucket.withEntries, SortedSet.zscore_zrem]
    by_cases hnew : member = new
    · have hold : member ≠ old := by
        rintro rfl
        exact hne hnew.symm
      simp [hnew, hne, hzero]
    · simp [hnew]
  · simp only [hzero, if_false, Bucket.withEntries, SortedSet.zscore_zadd, SortedSet.zscore_zrem]

/-- The admission of a reservation is settled, and no other one is touched. -/
lemma mem_settled_iff (hnodup : (admitted.map fun a => a.reservation.member.suffix).Nodup)
    {a₀ : Admission} (ha₀ : a₀ ∈ admitted) {actual : ℕ}
    (hfull : a₀.weight = a₀.reservation.reservedWeight) {a : Admission} :
    a ∈ admitted.map (Admission.settle a₀.reservation actual) ↔
      a = { a₀ with weight := actual } ∨
        a ∈ admitted ∧ a.reservation.member.suffix ≠ a₀.reservation.member.suffix := by
  have hself : a₀.settle a₀.reservation actual = { a₀ with weight := actual } := by
    simp [Admission.settle, hfull]
  simp only [List.mem_map]
  constructor
  · rintro ⟨b, hb, rfl⟩
    by_cases hsuffix : b.reservation.member.suffix = a₀.reservation.member.suffix
    · obtain rfl := admission_unique hnodup hb ha₀ hsuffix
      exact Or.inl hself
    · rw [Admission.settle_of_ne hsuffix]
      exact Or.inr ⟨hb, hsuffix⟩
  · rintro (rfl | ⟨ha, hsuffix⟩)
    · exact ⟨a₀, ha₀, hself⟩
    · exact ⟨a, ha, Admission.settle_of_ne hsuffix⟩

/-- A reservation is settled for the first time, in a key of its admission. -/
lemma BucketOk.settle (h : BucketOk admitted drops key b)
    (hnodup : (admitted.map fun a => a.reservation.member.suffix).Nodup) {a₀ : Admission}
    (ha₀ : a₀ ∈ admitted) {actual : ℕ} (hfull : a₀.weight = a₀.reservation.reservedWeight)
    (hmember : a₀.reservation.member.weight = a₀.reservation.reservedWeight)
    (hlt : actual < a₀.reservation.reservedWeight) (hkey : a₀.countsFor key = true) :
    BucketOk (admitted.map (Admission.settle a₀.reservation actual)) drops key
      (b.settle a₀.reservation.member ⟨actual, a₀.reservation.member.suffix⟩) := by
  set old := a₀.reservation.member with hold
  set new : Member := ⟨actual, old.suffix⟩ with hnew
  have hentry : a₀.member = old := by
    show (⟨a₀.weight, old.suffix⟩ : Member) = old
    rw [hfull, ← hmember]
  have hne : new ≠ old := by
    intro heq
    have hweight : actual = old.weight := congrArg Member.weight heq
    omega
  -- an entry of the bucket under the identifier is the one of the admission
  have hown : ∀ member score, b.entries.zscore member = some score → member.suffix = old.suffix →
      member = old ∧ score = a₀.score := by
    intro member score hscore hsuffix
    obtain ⟨a, ha, rfl, rfl, -⟩ := h.sound member score hscore
    obtain rfl := admission_unique hnodup ha ha₀ hsuffix
    exact ⟨hentry, rfl⟩
  have hothers : ∀ member, member.suffix ≠ old.suffix →
      (b.settle old new).entries.zscore member = b.entries.zscore member := by
    intro member hsuffix
    have hmemberNew : member ≠ new := fun heq => hsuffix (by rw [heq])
    have hmemberOld : member ≠ old := fun heq => hsuffix (by rw [heq])
    cases hscore : b.entries.zscore old with
    | none => rw [Bucket.settle_of_missing hscore]
    | some score => rw [Bucket.zscore_settle hscore hne, if_neg hmemberNew, if_neg hmemberOld]
  have hreads : ∀ member score, (b.settle old new).entries.zscore member = some score →
      member = new ∧ b.entries.zscore old = some score ∨
        b.entries.zscore member = some score ∧ member.suffix ≠ old.suffix := by
    intro member score hread
    by_cases hsuffix : member.suffix = old.suffix
    · left
      cases hscore : b.entries.zscore old with
      | none =>
          rw [Bucket.settle_of_missing hscore] at hread
          obtain ⟨rfl, -⟩ := hown member score hread hsuffix
          rw [hscore] at hread
          cases hread
      | some score' =>
          rw [Bucket.zscore_settle hscore hne] at hread
          split_ifs at hread with hmemberNew hzero hmemberOld
          · obtain ⟨hmemberOld, -⟩ := hown member score hread hsuffix
            exact absurd (hmemberNew.symm.trans hmemberOld) hne
          · exact ⟨hmemberNew, hread⟩
          · obtain ⟨hmemberOld', -⟩ := hown member score hread hsuffix
            exact absurd hmemberOld' hmemberOld
    · exact Or.inr ⟨by rw [← hothers member hsuffix]; exact hread, hsuffix⟩
  constructor
  · intro member score hread
    obtain ⟨rfl, hscore⟩ | ⟨hscore, hsuffix⟩ := hreads member score hread
    · refine ⟨{ a₀ with weight := actual }, (mem_settled_iff hnodup ha₀ hfull).2 (Or.inl rfl), rfl,
        (hown old score hscore rfl).2.symm, hkey⟩
    · obtain ⟨a, ha, rfl, hrest⟩ := h.sound member score hscore
      exact ⟨a, (mem_settled_iff hnodup ha₀ hfull).2 (Or.inr ⟨ha, hsuffix⟩), rfl, hrest⟩
  · intro a ha hcounts hweight
    obtain rfl | ⟨ha, hsuffix⟩ := (mem_settled_iff hnodup ha₀ hfull).1 ha
    · refine (h.covers a₀ ha₀ hkey (by omega)).imp_left fun hscore => ?_
      have hactual : new.weight ≠ 0 := hweight
      rw [hentry] at hscore
      show (b.settle old new).entries.zscore new = some a₀.score
      rw [Bucket.zscore_settle hscore hne, if_pos rfl, if_neg hactual]
    · rw [hothers a.member hsuffix]
      exact h.covers a ha hcounts hweight

/-- The same, in a key that the admission does not count for. -/
lemma BucketOk.settleElsewhere (h : BucketOk admitted drops key b)
    (hnodup : (admitted.map fun a => a.reservation.member.suffix).Nodup) {a₀ : Admission}
    (ha₀ : a₀ ∈ admitted) {actual : ℕ} (hfull : a₀.weight = a₀.reservation.reservedWeight)
    (hkey : a₀.countsFor key = false) :
    BucketOk (admitted.map (Admission.settle a₀.reservation actual)) drops key b where
  sound member score hscore := by
    obtain ⟨a, ha, hmember, hrest, hcounts⟩ := h.sound member score hscore
    have hsuffix : a.reservation.member.suffix ≠ a₀.reservation.member.suffix := by
      intro heq
      obtain rfl := admission_unique hnodup ha ha₀ heq
      rw [hkey] at hcounts
      cases hcounts
    exact ⟨a, (mem_settled_iff hnodup ha₀ hfull).2 (Or.inr ⟨ha, hsuffix⟩), hmember, hrest, hcounts⟩
  covers a ha hcounts hweight := by
    obtain rfl | ⟨ha, -⟩ := (mem_settled_iff hnodup ha₀ hfull).1 ha
    · change a₀.countsFor key = true at hcounts
      rw [hkey] at hcounts
      cases hcounts
    · exact h.covers a ha hcounts hweight

/-- Nothing is left to settle. -/
lemma settle_map_of_settled (hnodup : (admitted.map fun a => a.reservation.member.suffix).Nodup)
    {a₀ : Admission} (ha₀ : a₀ ∈ admitted) {actual : ℕ}
    (hsettled : a₀.weight ≠ a₀.reservation.reservedWeight) :
    admitted.map (Admission.settle a₀.reservation actual) = admitted := by
  have hid : ∀ a ∈ admitted, a.settle a₀.reservation actual = a := by
    intro a ha
    by_cases hsuffix : a.reservation.member.suffix = a₀.reservation.member.suffix
    · obtain rfl := admission_unique hnodup ha ha₀ hsuffix
      simp [Admission.settle, hsettled]
    · exact Admission.settle_of_ne hsuffix
  rw [List.map_congr_left hid, List.map_id']

end Bucket

/-! ## The invariant of a run -/

/-- The granted reservations carry their weight in their member. -/
def Issued (s : LimiterState) : Prop :=
  ∀ a ∈ s.admitted, a.reservation.member.weight = a.reservation.reservedWeight

/-- The admissions are told apart, the buckets hold what was not dropped, and the windows are within
the budget. -/
structure RateInv (budget : Budget) (s : LimiterState) : Prop where
  issued : Issued s
  identified : (s.admitted.map fun a => a.reservation.member.suffix).Nodup
  buckets : ∀ key, BucketOk s.admitted s.drops key (s.buckets key)
  windows : ∀ key t, windowWeight s.admitted key t ≤ budget.capacity key

section Steps

variable {budget : Budget} {s s' : LimiterState}

lemma mem_bucketKeys (key : Option Priority) : key ∈ bucketKeys := by
  rcases key with _ | priority
  · simp [bucketKeys]
  · cases priority <;> simp [bucketKeys, Priority.all]

lemma RateInv.tick (h : RateInv budget s) (clock : ℚ) : RateInv budget (s.tick clock) where
  issued := h.issued
  identified := h.identified
  windows := h.windows
  buckets key := by
    have hdrops : s.drops ⊆ (s.tick clock).drops := List.subset_append_right _ _
    by_cases hexpired : (s.buckets key).expiresAt.any (· ≤ clock) = true
    · have hbucket : (s.tick clock).buckets key = .empty := if_pos hexpired
      rw [hbucket]
      refine (h.buckets key).expired hdrops fun score hscore => ?_
      refine List.mem_append_left _ (List.mem_flatMap.2 ⟨key, ?_, List.mem_map.2 ⟨score, hscore, rfl⟩⟩)
      exact List.mem_filter.2 ⟨mem_bucketKeys key, hexpired⟩
    · have hbucket : (s.tick clock).buckets key = s.buckets key := if_neg hexpired
      rw [hbucket]
      exact (h.buckets key).mono hdrops

lemma RateInv.trim (h : RateInv budget s) (key : Option Priority) (now : ℚ) :
    RateInv budget (s.trim key now) where
  issued := h.issued
  identified := h.identified
  windows := h.windows
  buckets key' := by
    by_cases hkey : key' = key
    · subst hkey
      have hbucket : (s.trim key' now).buckets key' =
          (s.buckets key').trim (now - windowSeconds) := Function.update_self _ _ _
      rw [hbucket]
      exact (h.buckets key').trim _
    · have hbucket : (s.trim key now).buckets key' = s.buckets key' :=
        Function.update_of_ne hkey _ _
      rw [hbucket]
      exact (h.buckets key').mono (List.subset_append_right _ _)

/-- The calls under way are no part of the invariant. -/
lemma RateInv.withCalls (h : RateInv budget s) (calls : Table CallId LimiterCall) :
    RateInv budget { s with calls := calls } :=
  ⟨h.issued, h.identified, h.buckets, h.windows⟩

/-- What a trim drops is as old as its cutoff. -/
lemma drops_trim {key : Option Priority} {now : ℚ} {d : Option Priority × ℚ}
    (h : d ∈ (s.trim key now).drops) : d.2 ≤ now - windowSeconds ∨ d ∈ s.drops := by
  rcases List.mem_append.1 h with hnew | hold
  · obtain ⟨score, hscore, rfl⟩ := List.mem_map.1 hnew
    have hcutoff := (List.mem_filter.1 hscore).2
    simp only [decide_eq_true_eq] at hcutoff
    exact Or.inl hcutoff.2
  · exact Or.inr hold

/-- A key that has lost no entry younger than a minute at `now` holds the weight of every window
that ends at `now` or later. -/
lemma RateInv.windowWeight_le_total (h : RateInv budget s) {key : Option Priority} {now t : ℚ}
    (hdrops : ∀ score, (key, score) ∈ s.drops → score ≤ now - windowSeconds) (ht : now ≤ t) :
    windowWeight s.admitted key t ≤ (s.buckets key).total := by
  unfold windowWeight
  rw [← sum_filter_ne_zero]
  set counted := s.admitted.filter fun a => a.inWindow key t && !decide (a.weight = 0)
    with hcounted
  have hnodup : (counted.map Admission.member).Nodup := by
    have hsublist : (counted.map fun a => a.reservation.member.suffix).Nodup :=
      h.identified.sublist (List.filter_sublist.map _)
    refine List.Nodup.of_map Member.suffix ?_
    rw [List.map_map]
    exact hsublist
  have hmem : ∀ member ∈ counted.map Admission.member,
      ∃ score, (s.buckets key).entries.zscore member = some score := by
    intro member hmember
    obtain ⟨a, ha, rfl⟩ := List.mem_map.1 hmember
    simp only [hcounted, List.mem_filter, Bool.and_eq_true, Bool.not_eq_true',
      decide_eq_false_iff_not, Admission.inWindow_iff] at ha
    obtain ⟨hadmitted, ⟨hkey, hyoung, -⟩, hweight⟩ := ha
    obtain hscore | hdropped := (h.buckets key).covers a hadmitted hkey hweight
    · exact ⟨a.score, hscore⟩
    · have hold := hdrops a.score hdropped
      linarith
  have hle := SortedSet.sum_le_total Member.weight hnodup hmem
  rw [List.map_map] at hle
  exact hle

/-- A new admission counts in the windows that contain it. -/
lemma windowWeight_cons_le {admitted : List Admission} {a : Admission} {key : Option Priority}
    {t : ℚ} {limit : ℕ} (hold : windowWeight admitted key t ≤ limit)
    (hnew : a.countsFor key = true → a.score ≤ t → windowWeight admitted key t + a.weight ≤ limit) :
    windowWeight (a :: admitted) key t ≤ limit := by
  by_cases hcounts : a.inWindow key t = true
  · have hwindow : windowWeight (a :: admitted) key t =
        a.weight + windowWeight admitted key t := by
      simp [windowWeight, hcounts]
    obtain ⟨hkey, -, hle⟩ := Admission.inWindow_iff.1 hcounts
    have hfits := hnew hkey hle
    omega
  · have hwindow : windowWeight (a :: admitted) key t = windowWeight admitted key t := by
      simp [windowWeight, hcounts]
    rw [hwindow]
    exact hold

lemma RateInv.reserveScript (h : RateInv budget s) {weight suffix : ℕ} {priority : Priority}
    {now : ℚ} (hdrops : (LimiterCall.tryReserve weight priority now).FindsWindow s.drops)
    (hfresh : ∀ a ∈ s.admitted, a.reservation.member.suffix ≠ some suffix) :
    RateInv budget (reserveScript budget s weight priority now suffix) := by
  have htrimmed := (h.trim none now).trim (some priority) now
  unfold HyperCopy.reserveScript
  dsimp only
  set t := (s.trim none now).trim (some priority) now with ht
  split_ifs with hover
  · exact htrimmed
  simp only [Bool.or_eq_true, decide_eq_true_eq, not_or, not_lt] at hover
  have hdropped : ∀ d ∈ t.drops, d.1 = none ∨ d.1 = some priority → d.2 ≤ now - windowSeconds := by
    intro d hd hkey
    rcases drops_trim hd with hle | hd
    · exact hle
    · rcases drops_trim hd with hle | hd
      · exact hle
      · exact hdrops d hd hkey
  set a : Admission := ⟨⟨⟨weight, some suffix⟩, priority, weight⟩, now, weight⟩ with ha
  refine ⟨?_, ?_, ?_, ?_⟩
  · intro a' ha'
    rcases List.mem_cons.1 ha' with rfl | hold
    · rfl
    · exact htrimmed.issued a' hold
  · refine List.nodup_cons.2 ⟨?_, htrimmed.identified⟩
    intro hmem
    obtain ⟨a', ha', hsuffix⟩ := List.mem_map.1 hmem
    exact hfresh a' ha' hsuffix
  · intro key
    dsimp only
    by_cases hkey : key = none ∨ key = some priority
    · rw [if_pos hkey]
      have hcounts : a.countsFor key = true := by
        rcases hkey with rfl | rfl <;> simp [Admission.countsFor, ha]
      have hreserved : BucketOk (a :: t.admitted) t.drops key
          ((t.buckets key).reserve a.score a.member (t.clock + bucketTtl)) :=
        (htrimmed.buckets key).reserve a hfresh hcounts _
      exact hreserved
    · rw [if_neg hkey]
      refine (htrimmed.buckets key).skip ?_
      rcases key with _ | other
      · exact absurd (Or.inl rfl) hkey
      · have hne : priority ≠ other := by
          rintro rfl
          exact hkey (Or.inr rfl)
        simp [Admission.countsFor, ha, hne]
  · intro key u
    refine windowWeight_cons_le (htrimmed.windows key u) fun hcounts hle => ?_
    have hkey : key = none ∨ key = some priority := by
      rcases key with _ | other
      · exact Or.inl rfl
      · obtain rfl : priority = other := by simpa [Admission.countsFor, ha] using hcounts
        exact Or.inr rfl
    have hused : windowWeight t.admitted key u ≤ (t.buckets key).total :=
      htrimmed.windowWeight_le_total (fun score hmem => hdropped _ hmem hkey) hle
    have hroom : (t.buckets key).total + weight ≤ budget.capacity key := by
      rcases hkey with rfl | rfl
      · exact hover.1
      · exact hover.2
    show windowWeight t.admitted key u + weight ≤ budget.capacity key
    omega

/-- A settlement below the reserved weight is one of a granted reservation. -/
lemma admission_of_issued {r : RateLimitReservation} (h : s.issued r = true)
    (hpos : r.reservedWeight ≠ 0) : ∃ a ∈ s.admitted, a.reservation = r := by
  simp only [LimiterState.issued, Bool.or_eq_true, Bool.and_eq_true, decide_eq_true_eq,
    List.any_eq_true] at h
  obtain ⟨-, hzero⟩ | hadmitted := h
  · exact absurd hzero hpos
  · exact hadmitted

/-- What a settlement does: nothing, or it settles the entries of an admission. -/
lemma settleReservation_cases {r : RateLimitReservation} (h : s.issued r = true) (actual : ℕ) :
    settleReservation s r actual = s ∨
      ∃ a₀ ∈ s.admitted, a₀.reservation = r ∧ actual < r.reservedWeight ∧
        settleReservation s r actual =
          { s with
            buckets := fun key =>
              if key = none ∨ key = some r.priority then
                (s.buckets key).settle r.member ⟨actual, r.member.suffix⟩
              else s.buckets key
            admitted := s.admitted.map (Admission.settle r actual) } := by
  unfold settleReservation
  split_ifs with hrange hsame
  · exact Or.inl rfl
  · exact Or.inl rfl
  · simp only [Bool.or_eq_true, decide_eq_true_eq, not_or] at hsame
    obtain ⟨a₀, ha₀, hr⟩ := admission_of_issued h hsame.1
    exact Or.inr ⟨a₀, ha₀, hr, by omega, rfl⟩

lemma RateInv.settle (h : RateInv budget s) {r : RateLimitReservation} {actual : ℕ}
    (hr : s.issued r = true) : RateInv budget (settleReservation s r actual) := by
  obtain hsame | ⟨a₀, ha₀, rfl, hlt, heq⟩ := settleReservation_cases hr actual
  · rw [hsame]
    exact h
  rw [heq]
  have hkeeps := Admission.settle_keeps a₀.reservation hlt
  have hweights : ∀ key t, windowWeight (s.admitted.map (Admission.settle a₀.reservation actual))
      key t ≤ windowWeight s.admitted key t := by
    intro key t
    have hsame : ∀ a : Admission,
        (a.settle a₀.reservation actual).inWindow key t = a.inWindow key t := by
      intro a
      obtain ⟨hreservation, hscore, -⟩ := hkeeps a
      simp only [Admission.inWindow, Admission.countsFor, hreservation, hscore]
    unfold windowWeight
    rw [List.filter_map, List.map_map]
    refine sum_filter_le (fun a _ hin => ?_) fun a _ => (hkeeps a).2.2
    rw [← hsame a]
    exact hin
  refine ⟨?_, ?_, ?_, fun key t => (hweights key t).trans (h.windows key t)⟩
  · intro a ha
    obtain ⟨b, hb, rfl⟩ := List.mem_map.1 ha
    rw [(hkeeps b).1]
    exact h.issued b hb
  · have hsuffixes : (s.admitted.map (Admission.settle a₀.reservation actual)).map
        (fun a => a.reservation.member.suffix) =
          s.admitted.map fun a => a.reservation.member.suffix := by
      rw [List.map_map]
      exact List.map_congr_left fun a _ => by simp only [Function.comp, (hkeeps a).1]
    show (List.map _ (s.admitted.map (Admission.settle a₀.reservation actual))).Nodup
    rw [hsuffixes]
    exact h.identified
  · intro key
    dsimp only
    by_cases hfull : a₀.weight = a₀.reservation.reservedWeight
    · by_cases hkey : key = none ∨ key = some a₀.reservation.priority
      · rw [if_pos hkey]
        have hcounts : a₀.countsFor key = true := by
          rcases hkey with rfl | rfl <;> simp [Admission.countsFor]
        exact (h.buckets key).settle h.identified ha₀ hfull (h.issued a₀ ha₀) hlt hcounts
      · rw [if_neg hkey]
        refine (h.buckets key).settleElsewhere h.identified ha₀ hfull ?_
        rcases key with _ | other
        · exact absurd (Or.inl rfl) hkey
        · have hne : a₀.reservation.priority ≠ other := by
            rintro rfl
            exact hkey (Or.inr rfl)
          simp [Admission.countsFor, hne]
    · rw [settle_map_of_settled h.identified ha₀ hfull]
      -- the entry has the settled member already, so the reserved one is not found
      have hmissing : (s.buckets key).entries.zscore a₀.reservation.member = none := by
        by_contra hfound
        obtain ⟨score, hscore⟩ := Option.ne_none_iff_exists'.1 hfound
        obtain ⟨a, ha, hmember, -, -⟩ := (h.buckets key).sound _ _ hscore
        have hsuffix : a.member.suffix = a₀.reservation.member.suffix := by rw [hmember]
        obtain rfl := admission_unique h.identified ha ha₀ hsuffix
        have hweight : a.member.weight = a.reservation.member.weight := by rw [hmember]
        exact hfull (hweight.trans (h.issued a ha))
      rw [Bucket.settle_of_missing hmissing, ite_self]
      exact h.buckets key

/-- **One step keeps the budget of every window**, as long as the reservations run in order. -/
lemma RateInv.step (h : RateInv budget s) {op : LimiterOp} (horder : InOrder s op)
    (hstep : limiterStep budget s op = some s') : RateInv budget s' := by
  cases op with
  | tick clock =>
      simp only [limiterStep] at hstep
      split_ifs at hstep
      obtain rfl := Option.some.inj hstep
      exact h.tick clock
  | tryReserve call weight priority =>
      simp only [limiterStep] at hstep
      split_ifs at hstep with hbusy hzero
      · obtain rfl := Option.some.inj hstep
        exact h
      · obtain rfl := Option.some.inj hstep
        exact h.withCalls _
  | used call key =>
      simp only [limiterStep] at hstep
      split_ifs at hstep with hbusy
      obtain rfl := Option.some.inj hstep
      exact h.withCalls _
  | script call suffix =>
      simp only [limiterStep] at hstep
      split at hstep
      · rename_i weight priority now hcall
        split_ifs at hstep with hfresh
        obtain rfl := Option.some.inj hstep
        refine (h.withCalls _).reserveScript (horder _ hcall) ?_
        simpa using hfresh
      · obtain rfl := Option.some.inj hstep
        exact (h.withCalls _).trim _ _
      · cases hstep
  | settle r actual =>
      simp only [limiterStep] at hstep
      split_ifs at hstep with hr
      obtain rfl := Option.some.inj hstep
      exact h.settle hr

lemma rateInv_initial (budget : Budget) : RateInv budget .initial where
  issued a ha := by simp [LimiterState.initial] at ha
  identified := List.nodup_nil
  buckets key :=
    { sound := fun member score hscore => by
        simp [LimiterState.initial, Bucket.empty, SortedSet.zscore] at hscore
      covers := fun a ha => by simp [LimiterState.initial] at ha }
  windows key t := Nat.zero_le _

/-! ## Settlements, in whatever order the scripts run -/

lemma Issued.reserveScript (h : Issued s) {weight suffix : ℕ} {priority : Priority} {now : ℚ} :
    Issued (reserveScript budget s weight priority now suffix) := by
  unfold HyperCopy.reserveScript
  dsimp only
  split_ifs
  · exact h
  · intro a ha
    rcases List.mem_cons.1 ha with rfl | hold
    · rfl
    · exact h a hold

lemma Issued.step (h : Issued s) {op : LimiterOp} (hstep : limiterStep budget s op = some s') :
    Issued s' := by
  cases op with
  | tick | tryReserve | used =>
      simp only [limiterStep] at hstep
      split_ifs at hstep <;> (obtain rfl := Option.some.inj hstep; exact h)
  | script call suffix =>
      simp only [limiterStep] at hstep
      split at hstep
      · split_ifs at hstep
        obtain rfl := Option.some.inj hstep
        have hkept : Issued { s with calls := s.calls.erase call } := h
        exact hkept.reserveScript
      · obtain rfl := Option.some.inj hstep
        exact h
      · cases hstep
  | settle r actual =>
      simp only [limiterStep] at hstep
      split_ifs at hstep with hr
      obtain rfl := Option.some.inj hstep
      obtain hsame | ⟨a₀, ha₀, rfl, hlt, heq⟩ := settleReservation_cases hr actual
      · rw [hsame]
        exact h
      · rw [heq]
        intro a ha
        obtain ⟨b, hb, rfl⟩ := List.mem_map.1 ha
        rw [(Admission.settle_keeps a₀.reservation hlt b).1]
        exact h b hb

lemma Issued.settlesOnly (h : Issued s) {r : RateLimitReservation} {actual : ℕ}
    (hr : s.issued r = true) : SettlesOnly r actual s (settleReservation s r actual) := by
  obtain hsame | ⟨a₀, ha₀, rfl, hlt, heq⟩ := settleReservation_cases hr actual
  · rw [hsame]
    exact ⟨fun _ _ _ hscore => Or.inl hscore, fun _ _ _ => rfl⟩
  have hweight := h a₀ ha₀
  set old := a₀.reservation.member
  set new : Member := ⟨actual, old.suffix⟩
  have hne : new ≠ old := by
    intro hsame
    have hactual : actual = old.weight := congrArg Member.weight hsame
    have hold : old.weight = a₀.reservation.reservedWeight := hweight
    omega
  rw [heq]
  constructor
  · intro key member score hscore
    dsimp only at hscore
    split_ifs at hscore
    · cases hfound : (s.buckets key).entries.zscore old with
      | none =>
          rw [Bucket.settle_of_missing hfound] at hscore
          exact Or.inl hscore
      | some score' =>
          rw [Bucket.zscore_settle hfound hne] at hscore
          split_ifs at hscore with hmember
          · exact Or.inl hscore
          · have hold : a₀.reservation.member.weight = a₀.reservation.reservedWeight := hweight
            exact Or.inr ⟨hscore, hmember, by omega⟩
          · exact Or.inl hscore
    · exact Or.inl hscore
  · intro key member hsuffix
    dsimp only
    split_ifs
    · have hmemberNew : member ≠ new := fun hsame => hsuffix (by rw [hsame])
      have hmemberOld : member ≠ old := fun hsame => hsuffix (by rw [hsame])
      cases hfound : (s.buckets key).entries.zscore old with
      | none => rw [Bucket.settle_of_missing hfound]
      | some score => rw [Bucket.zscore_settle hfound hne, if_neg hmemberNew, if_neg hmemberOld]
    · rfl

end Steps

/-- **The budget of every trailing window.**  In every run, with any number of clients whose calls
interleave in any way, a settlement only lowers the entry of its own reservation; and where no
reservation script finds its keys without an entry that is younger than a minute at the time it
carries, the weight of every trailing window is at most the budget without the reserve, and that of
every lane at most its allowance. -/
theorem rate_window_of_inOrder (budget : Budget) (ops : List LimiterOp) (s : LimiterState)
    (hrun : run (limiterStep budget) .initial ops = some s) :
    (∀ r actual s', limiterStep budget s (.settle r actual) = some s' →
      SettlesOnly r actual s s') ∧
    (RunMeets (limiterStep budget) InOrder .initial ops →
      ∀ key t, windowWeight s.admitted key t ≤ budget.capacity key) := by
  constructor
  · have hinitial : Issued .initial := fun a ha => by simp [LimiterState.initial] at ha
    have hissued : Issued s := run_invariant (fun _ _ _ h hstep => h.step hstep) hinitial hrun
    intro r actual s' hstep
    simp only [limiterStep] at hstep
    split_ifs at hstep with hr
    obtain rfl := Option.some.inj hstep
    exact hissued.settlesOnly hr
  · intro hmeets
    have hinv : RateInv budget s :=
      run_invariant_of_meets (fun _ _ _ h horder hstep => h.step horder hstep)
        (rateInv_initial budget) hmeets hrun
    exact hinv.windows

/-- Three reservations; the script of the last runs before that of the second. -/
def overtakenOps : List LimiterOp :=
  [.tryReserve 0 560 .order, .script 0 0, .tick 59, .tryReserve 1 559 .order, .tick 60,
    .tryReserve 2 1 .order, .script 2 2, .script 1 1]

/-- The second client reads the clock a second after the first one and runs its script before it:
the reservation of a minute ago is dropped, and the first client no longer finds it in its own
window. -/
theorem overtaken_script_overdraws :
    ∃ s, run (limiterStep .default) .initial overtakenOps = some s ∧
      Budget.default.capacity (some .order) < windowWeight s.admitted (some .order) 59 := by
  have hrun : (run (limiterStep .default) .initial overtakenOps).map
      (fun s => windowWeight s.admitted (some .order) 59) = some 1119 := by
    decide +kernel
  obtain ⟨s, hs, hweight⟩ := Option.map_eq_some_iff.1 hrun
  refine ⟨s, hs, ?_⟩
  rw [hweight]
  decide

/-- The same reservations, each script run before the next client reads the clock. -/
theorem rate_window_of_inOrder_run :
    ∃ s, run (limiterStep .default) .initial (overtakenOps.take 4 ++ [.script 1 1]) = some s ∧
      windowWeight s.admitted none 59 ≤ Budget.default.capacity none := by
  have hrun : (run (limiterStep .default) .initial
      (overtakenOps.take 4 ++ [.script 1 1])).isSome = true := by
    decide +kernel
  obtain ⟨s, hs⟩ := Option.isSome_iff_exists.1 hrun
  have hmeets : RunMeets (limiterStep .default) InOrder .initial
      (overtakenOps.take 4 ++ [.script 1 1]) := by
    decide +kernel
  exact ⟨s, hs, (rate_window_of_inOrder .default _ s hs).2 hmeets none 59⟩

end HyperCopy
