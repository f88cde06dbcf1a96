import HyperCopy.Executor.Attempts

/-!
# At most one submission per job and kind

An execution row is committed before its order is sent, and a row is never removed.  The unique
key of the row then does the rest: whoever finds the row, in whatever state, does not journal it
again, and only the attempt that has journaled a row can still call `place_ioc` for it.
-/

namespace HyperCopy

/-- An attempt has committed the row of `k` and is about to call `place_ioc`. -/
def AboutToPlace (s : ExecutorState) (k : Cloid) : Prop :=
  ∃ t id u n a leg, s.tasks.lookup t = some (.attempt id u n (.journaled a leg)) ∧
    k = ⟨id, leg.kind⟩

section

variable {venue : Venue} {s s' : ExecutorState} {now : ℕ} {op : ExecutorOp}
  {actor : Option TaskId} {k : Cloid}

/-- Once the row exists, no further attempt gets to the submission. -/
lemma aboutToPlace_of_step (hd : Disciplined venue s) (h : ExecutorEffect venue s now op actor s')
    (hk : (s.executions.lookup k).isSome = true) (hplace : AboutToPlace s' k) :
    AboutToPlace s k := by
  obtain ⟨t, id, u, n, a, leg, ht, rfl⟩ := hplace
  by_cases hactor : actor = some t
  · subst hactor
    cases h with
    | journal _ id₀ u₀ n₀ a₀ leg₀ htask hrow =>
        cases eq_of_lookup_insert ht
        rw [hrow] at hk
        cases hk
    | begin _ id₀ u₀ n₀ row reads stage hop htask hjob hdecimals hstage =>
        cases eq_of_lookup_insert ht
        obtain ⟨c, hc⟩ | ⟨a', ha', -⟩ := beginStage_cases hstage
        · cases hc
        · cases ha'
    | record _ id₀ u₀ n₀ stage a₀ leg₀ row row' o hop htask hstage hrow hreported hrow' =>
        have hnext := eq_of_lookup_insert ht
        obtain ⟨-, hs⟩ | ⟨-, c, hs⟩ := afterOutcome_cases a₀ leg₀ o
        · rw [hs] at hnext
          cases hnext
        · rw [hs] at hnext
          cases hnext
    | apply _ id₀ u₀ n₀ a₀ leg₀ filledSize row row' ledger' added htask hrow happly =>
        have hnext := eq_of_lookup_insert ht
        obtain ⟨c, hs⟩ | ⟨second, hs, -⟩ := afterApply_cases a₀ leg₀ filledSize ledger'.size.value
          (venue.szDecimals a₀.market.asset)
        · rw [hs] at hnext
          cases hnext
        · rw [hs] at hnext
          cases hnext
    | acquire | leave | replay | place | snapshot | query => cases eq_of_lookup_insert ht
    | reconcile | resolve => exact absurd ht (by simp [ExecutorState.dropTask])
  · exact ⟨t, id, u, n, a, leg, (h.others_kept hd.coherent hactor ht rfl).1, rfl⟩

/-- A step of a state where nobody is about to place `k` does not place it. -/
lemma calls_count_of_step (h : ExecutorEffect venue s now op actor s') (hplace : ¬ AboutToPlace s k) :
    s'.calls.count k = s.calls.count k := by
  obtain heq | ⟨t, id, u, n, a, leg, -, htask, heq⟩ := h.calls_cases
  · rw [heq]
  · rw [heq, List.count_append, List.count_singleton, if_neg, add_zero]
    intro hk
    exact hplace ⟨t, id, u, n, a, leg, htask, (beq_iff_eq.1 hk).symm⟩

end

/-- **At-most-once submission.**  In every run of the job path, with crashes between any two
commits, expired leases and deliveries to any worker any number of times: `place_ioc` is called at
most once for a job and a kind; a step that calls it finds the row of the pair committed in
SUBMITTING; and from the moment the row exists, but for the attempt that has just journaled it,
nothing that happens later calls it. -/
theorem at_most_once_submission (venue : Venue) (lots : Market → ℤ)
    (actions : List ExecutorAction) (s : ExecutorState)
    (hrun : Transition.run (executorStep venue) (.initial venue lots) actions = some s) :
    (∀ k, s.calls.count k ≤ 1) ∧
      (∀ action s', executorStep venue s action = some s' →
        s'.calls = s.calls ∨ ∃ k row, s'.calls = s.calls ++ [k] ∧
          s.executions.lookup k = some row ∧ row.state = .submitting) ∧
      ∀ k, (s.executions.lookup k).isSome = true → ¬ AboutToPlace s k →
        ∀ later t, Transition.run (executorStep venue) s later = some t →
          t.calls.count k = s.calls.count k := by
  have hd : Disciplined venue s := disciplined_of_run hrun
  refine ⟨fun k => List.nodup_iff_count_le_one.1 hd.calls k, ?_, ?_⟩
  · intro action s' hstep
    obtain ⟨-, actor, t, heffect, rfl⟩ := executorStep_effect hstep
    obtain heq | ⟨task, id, u, n, a, leg, -, htask, heq⟩ := heffect.calls_cases
    · exact Or.inl heq
    · obtain ⟨-, -, row, hrow, hsubmitting, -⟩ := hd.stages task id u n _ htask
      exact Or.inr ⟨_, row, heq, hrow, hsubmitting⟩
  · intro k hk hplace later t hlater
    -- carried along the later run: the row stays, and nobody comes to place it
    let Past : ExecutorState → Prop := fun s₁ =>
      Disciplined venue s₁ ∧ (s₁.executions.lookup k).isSome = true ∧ ¬ AboutToPlace s₁ k ∧
        s₁.calls.count k = s.calls.count k
    have hpast : ∀ s₁ action s₂, Past s₁ → executorStep venue s₁ action = some s₂ → Past s₂ := by
      rintro s₁ action s₂ ⟨hd₁, hrow₁, hplace₁, hcount₁⟩ hstep
      obtain ⟨-, actor, s₃, heffect, rfl⟩ := executorStep_effect hstep
      refine ⟨(hd₁.step heffect).tick _, hd₁.row_isSome heffect hrow₁, ?_, ?_⟩
      · exact fun h => hplace₁ (aboutToPlace_of_step hd₁ heffect hrow₁ h)
      · exact (calls_count_of_step heffect hplace₁).trans hcount₁
    exact (Transition.run_invariant hpast ⟨hd, hk, hplace, rfl⟩ hlater).2.2.2

/-! ## A redelivery after the call -/

/-- Every market trades in hundredths. -/
def hundredths : Venue := ⟨fun _ => 2, fun _ => by decide⟩

/-- An event of a master that now holds `position` at ten a unit. -/
def eventJob (position : ℚ) : CopyJob where
  market := ⟨0, 0⟩
  origin := .event
  context := ⟨some .mainnet, position, 100, 10, some 3, some 3, some 5, none, none, none, false, false⟩
  executionEpochId := some 0
  executionProvider := some .hyperliquid
  executionNetwork := some .mainnet

/-- What an attempt for an event reads. -/
def eventReads : ProfitExitReads where
  now := 20
  user := some ⟨true, .active⟩
  destinationMatches := true
  network := .mainnet
  adapterNetwork := .mainnet
  masterNetwork := .mainnet
  accountFound := true
  risk := some ⟨⟨1, 1000, 5000, 2500, 3, 5, 10⟩, false, [], [], 50⟩
  drawdownHalt := false
  dailyLossHalt := false
  nearLiquidation := false
  credential := some true
  entitled := true
  limits := ⟨none, none, none⟩
  equity := some ⟨1000, 1000, 0, 15⟩
  followerMark := some 10
  spec := ⟨2, 10, false, 10⟩
  evidence := ⟨[], []⟩
  managedLedgers := []
  globalPause := false
  emergencyStop := false
  liveTradingAllowed := true
  leverageUpdated := true
  jobId := 0
  decisionId := none
  decision := none
  existing := none
  ledger := none
  mode := .off
  openEventKnown := false
  collector := longAt 120

/-- The first worker crashes after the call, and the job is delivered again. -/
def retriedRun : List ExecutorAction :=
  [⟨1, .enqueue 1 (eventJob 2)⟩, ⟨2, .claim 1 7 0⟩, ⟨3, .acquire 0⟩, ⟨4, .begin 0 eventReads⟩,
   ⟨5, .enterLeg 0 ⟨.unknown, none⟩⟩, ⟨6, .placeIoc 0 true⟩, ⟨7, .crash 0⟩,
   ⟨200, .releaseStale 1⟩, ⟨300, .claim 1 8 1⟩, ⟨301, .acquire 1⟩, ⟨302, .begin 1 eventReads⟩,
   ⟨303, .enterLeg 1 ⟨.unknown, none⟩⟩]

lemma retriedRun_calls :
    (Transition.run (executorStep hundredths) (.initial hundredths fun _ => 0) retriedRun).map
      (·.calls) = some [⟨1, .o⟩] := by
  decide +kernel

/-- The second delivery only reads the row of the first. -/
theorem at_most_once_submission_retried :
    ∃ s, Transition.run (executorStep hundredths) (.initial hundredths fun _ => 0) retriedRun =
        some s ∧ s.calls = [⟨1, .o⟩] ∧ ∀ k, s.calls.count k ≤ 1 := by
  obtain ⟨s, hrun, hcalls⟩ := Option.map_eq_some_iff.1 retriedRun_calls
  exact ⟨s, hrun, hcalls, (at_most_once_submission _ _ _ s hrun).1⟩

end HyperCopy
