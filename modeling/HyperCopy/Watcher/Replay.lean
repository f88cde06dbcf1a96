import HyperCopy.Watcher.Fencing
import HyperCopy.Library.Paging

/-!
# The replay of missed fills

`Watcher.replay` (`workers/watcher.py`) reads the master's fills from the durable checkpoint on, a
page at a time, and hands each to `process_fill`.  It asks for the next page one millisecond past
the last fill of a full one, gives up after five pages or after a configured number of fills, and
then raises with the global pause on.

The exchange answers with the earliest fills from the start time on, at most 2000 of them, in
ascending order of their times; what it holds can change between two calls.  A millisecond with
several fills can fall across the end of a full page.  The fills of it that the page leaves out are
then passed by, and the replay returns all the same.  `replay_complete_iff` says that this is the
only way a replay that returns can miss a fill.

The steps of `Watcher/Step.lean` take up a replay whose first answer falls short of a page.
-/

namespace HyperCopy

open Paging

/-! ## The loop -/

/-- What a replay meets: what the exchange holds at each call, or `none` where the call raises; and
whether `process_fill` returns, by the number of fills handed over before. -/
structure ReplayWorld where
  held : ℕ → Option (List MasterFill)
  processes : ℕ → Bool

/-- The page of the exchange. -/
def replayPageLimit : ℕ := 2000

/-- `user_fills_by_time`. -/
def ReplayWorld.userFillsByTime (w : ReplayWorld) (call cursor : ℕ) : Option (List MasterFill) :=
  (w.held call).map (earliest MasterFill.time replayPageLimit cursor)

/-- The fills are handed over in order until `process_fill` raises: those handed over, the last
one included, and whether all were processed. -/
def handOver (processes : ℕ → Bool) : ℕ → List MasterFill → List MasterFill × Bool
  | _, [] => ([], true)
  | seen, fill :: fills =>
      if processes seen then
        (fill :: (handOver processes (seen + 1) fills).1, (handOver processes (seen + 1) fills).2)
      else ([fill], false)

/-- How a replay ends: it returns, a call or a fill raises, or its continuity is unproven. -/
inductive ReplayEnding
  | returned
  | raised
  | unproven
deriving DecidableEq, Repr

/-- A replay with the fills it handed over and the answers it was given. -/
structure ReplayRun where
  ending : ReplayEnding
  handed : List MasterFill
  answers : List (List MasterFill)
deriving DecidableEq

/-- A run after a page that was handed over and answered. -/
def ReplayRun.after (run : ReplayRun) (handed fills : List MasterFill) : ReplayRun :=
  { run with handed := handed ++ run.handed, answers := fills :: run.answers }

/-- The loop, with the turns that remain, the calls made, the cursor and the fills seen. -/
def replayLoop (w : ReplayWorld) (maxFills : ℕ) : ℕ → ℕ → ℕ → ℕ → ReplayRun
  | 0, _, _, _ => ⟨.unproven, [], []⟩
  | turns + 1, call, cursor, seen =>
      match w.userFillsByTime call cursor with
      | none => ⟨.raised, [], []⟩
      | some fills =>
          let new := replayFills cursor fills
          let done := handOver w.processes seen new
          if new = [] then ⟨.returned, [], [fills]⟩
          else if !done.2 then ⟨.raised, done.1, [fills]⟩
          else if fills.length < replayPageLimit then ⟨.returned, done.1, [fills]⟩
          else if maxFills ≤ seen + done.1.length then ⟨.unproven, done.1, [fills]⟩
          else (replayLoop w maxFills turns (call + 1) (maxKey MasterFill.time fills + 1)
            (seen + done.1.length)).after done.1 fills

/-! ## The replay -/

/-- A `SystemFlag` row, as the ceiling branch writes it. -/
structure PauseFlag where
  enabled : Bool
  reason : Option String
deriving DecidableEq, Repr

/-- The `SystemIncident` of the ceiling branch. -/
structure ReplayIncident where
  severity : String
  code : String
  message : String
  startMs : ℕ
  seen : ℕ
  network : Network
deriving DecidableEq, Repr

/-- The rows a replay reads and writes itself: the checkpoint, zero when there is none, the
incidents and the flag `global_pause`. -/
structure ReplayRows where
  checkpoint : ℕ
  incidents : List ReplayIncident
  globalPause : Option PauseFlag
deriving DecidableEq, Repr

/-- The time the replay starts from: five minutes back where there is no checkpoint. -/
def replayStart (checkpoint now : ℕ) : ℕ :=
  if checkpoint = 0 then now - 5 * 60 * 1000 else checkpoint

/-- The commit of the ceiling branch. -/
def ReplayRows.unproven (rows : ReplayRows) (network : Network) (startMs seen : ℕ) : ReplayRows :=
  { rows with
    incidents := rows.incidents ++ [⟨"CRITICAL", "MASTER_REPLAY_GAP_UNPROVEN",
      "Historical replay hit configured safety ceiling; manual reconciliation required",
      startMs, seen, network⟩]
    globalPause := some ⟨true, some "Master replay continuity could not be proven"⟩ }

/-- The turns of the loop. -/
def replayTurns : ℕ := 5

/-- `Watcher.replay`: the run, and the rows it leaves. -/
def Watcher.replay (cfg : WatcherSettings) (maxFills : ℕ) (w : ReplayWorld) (rows : ReplayRows)
    (now : ℕ) : ReplayRun × ReplayRows :=
  let start := replayStart rows.checkpoint now
  let run := replayLoop w maxFills replayTurns 0 start 0
  match run.ending with
  | .unproven => (run, rows.unproven cfg.masterNetwork start run.handed.length)
  | _ => (run, rows)

/-! ## What a returning run was given -/

lemma handOver_of_true {processes : ℕ → Bool} {seen : ℕ} {fills handed : List MasterFill}
    (h : handOver processes seen fills = (handed, true)) : handed = fills := by
  induction fills generalizing seen handed with
  | nil => exact (Prod.mk.inj h).1.symm
  | cons fill fills ih =>
      rw [handOver] at h
      cases hprocess : processes seen with
      | false =>
          rw [hprocess] at h
          cases h
      | true =>
          rw [hprocess, if_pos rfl] at h
          obtain ⟨rfl, hrest⟩ := Prod.mk.inj h
          have htail : (handOver processes (seen + 1) fills).1 = fills := ih (Prod.ext rfl hrest)
          rw [htail]

lemma handOver_of_processes {processes : ℕ → Bool} (h : ∀ n, processes n = true)
    (seen : ℕ) (fills : List MasterFill) : handOver processes seen fills = (fills, true) := by
  induction fills generalizing seen with
  | nil => rfl
  | cons fill fills ih =>
      rw [handOver, h seen, if_pos rfl, ih]

/-- What is new of an answer is the answer, in another order. -/
lemma replayFills_earliest_perm (limit cursor : ℕ) (fills : List MasterFill) :
    (replayFills cursor (earliest MasterFill.time limit cursor fills)).Perm
      (earliest MasterFill.time limit cursor fills) := by
  unfold replayFills
  rw [List.filter_eq_self.2]
  · exact List.perm_insertionSort _ _
  · intro fill hfill
    rw [List.mem_insertionSort] at hfill
    exact decide_eq_true (mem_earliest hfill).2

/-- What the exchange holds at a call; nothing where the call raises. -/
def ReplayWorld.heldAt (w : ReplayWorld) (call : ℕ) : List MasterFill := (w.held call).getD []

lemma ReplayWorld.heldAt_of_held {w : ReplayWorld} {call : ℕ} {history : List MasterFill}
    (h : w.held call = some history) : w.heldAt call = history := by
  rw [ReplayWorld.heldAt, h, Option.getD_some]

/-- A turn of a run that returns: it was answered and every fill of the answer was processed.
Either the answer fell short and the run ends with it, or the answer was full and the rest of the
run returns. -/
lemma replayLoop_succ_returned {w : ReplayWorld} {maxFills turns call cursor seen : ℕ}
    (h : (replayLoop w maxFills (turns + 1) call cursor seen).ending = .returned) :
    ∃ page handed, page = earliest MasterFill.time replayPageLimit cursor (w.heldAt call) ∧
      handed.Perm page ∧
      ((page.length < replayPageLimit ∧
          replayLoop w maxFills (turns + 1) call cursor seen = ⟨.returned, handed, [page]⟩) ∨
        (page.length = replayPageLimit ∧ ∃ rest,
          rest = replayLoop w maxFills turns (call + 1) (maxKey MasterFill.time page + 1)
              (seen + handed.length) ∧
            rest.ending = .returned ∧
            replayLoop w maxFills (turns + 1) call cursor seen = rest.after handed page)) := by
  cases hheld : w.held call with
  | none =>
      have hread : w.userFillsByTime call cursor = none := by
        rw [ReplayWorld.userFillsByTime, hheld, Option.map_none]
      simp only [replayLoop, hread] at h
      cases h
  | some history =>
      have hat : w.heldAt call = history := ReplayWorld.heldAt_of_held hheld
      have hread : w.userFillsByTime call cursor =
          some (earliest MasterFill.time replayPageLimit cursor history) := by
        rw [ReplayWorld.userFillsByTime, hheld, Option.map_some]
      have hperm := replayFills_earliest_perm replayPageLimit cursor history
      have hlength : (earliest MasterFill.time replayPageLimit cursor history).length ≤
          replayPageLimit := length_earliest_le
      refine ⟨_, replayFills cursor (earliest MasterFill.time replayPageLimit cursor history),
        by rw [hat], hperm, ?_⟩
      generalize earliest MasterFill.time replayPageLimit cursor history = page
        at hperm hread hlength ⊢
      simp only [replayLoop, hread] at h ⊢
      by_cases hnew : replayFills cursor page = []
      · obtain rfl : page = [] := by
          rw [hnew] at hperm
          exact hperm.nil_eq.symm
        exact Or.inl ⟨by decide, rfl⟩
      · simp only [hnew, if_false] at h ⊢
        cases hdone : handOver w.processes seen (replayFills cursor page) with
        | mk handed finished =>
            simp only [hdone] at h ⊢
            cases finished with
            | false => cases h
            | true =>
                obtain rfl := handOver_of_true hdone
                simp only [Bool.not_true, Bool.false_eq_true, if_false] at h ⊢
                by_cases hlt : page.length < replayPageLimit
                · exact Or.inl ⟨hlt, by simp only [hlt, if_true]⟩
                · simp only [hlt, if_false] at h ⊢
                  by_cases hceiling : maxFills ≤ seen + (replayFills cursor page).length
                  · simp only [hceiling, if_true] at h
                    cases h
                  · simp only [hceiling, if_false] at h ⊢
                    exact Or.inr ⟨le_antisymm hlength (not_lt.1 hlt), _, rfl, h, rfl⟩

/-- A run that returns read its answers as pages and handed over every fill of them. -/
lemma replayLoop_returned {w : ReplayWorld} {maxFills turns call cursor seen : ℕ}
    (h : (replayLoop w maxFills turns call cursor seen).ending = .returned) :
    Pages MasterFill.time replayPageLimit w.heldAt call cursor
        (replayLoop w maxFills turns call cursor seen).answers ∧
      ∀ fill, fill ∈ (replayLoop w maxFills turns call cursor seen).handed ↔
        ∃ page ∈ (replayLoop w maxFills turns call cursor seen).answers, fill ∈ page := by
  induction turns generalizing call cursor seen with
  | zero => cases h
  | succ turns ih =>
      obtain ⟨page, handed, rfl, hperm, ⟨hshort, hrun⟩ | ⟨hfull, rest, rfl, hrest, hrun⟩⟩ :=
        replayLoop_succ_returned h
      · rw [hrun]
        refine ⟨.short hshort, fun fill => ?_⟩
        simp only [hperm.mem_iff, List.mem_singleton, exists_eq_left]
      · obtain ⟨hpages, hhanded⟩ := ih hrest
        rw [hrun]
        refine ⟨.full hfull hpages, fun fill => ?_⟩
        simp only [ReplayRun.after, List.mem_append, List.mem_cons, exists_eq_or_imp, hhanded,
          hperm.mem_iff]

/-! ## Completeness -/

/-- The exchange held the fill at every call that was answered. -/
def HeldThroughout (w : ReplayWorld) (run : ReplayRun) (fill : MasterFill) : Prop :=
  ∀ call < run.answers.length, fill ∈ w.heldAt call

/-- Every fill the exchange held at the calls, from the start on, was handed to `process_fill`. -/
def ReplayRun.Complete (run : ReplayRun) (w : ReplayWorld) (start : ℕ) : Prop :=
  ∀ fill, HeldThroughout w run fill → start ≤ fill.time → fill ∈ run.handed

lemma replayLoop_complete_iff {w : ReplayWorld} {maxFills turns start : ℕ}
    (h : (replayLoop w maxFills turns 0 start 0).ending = .returned) :
    (replayLoop w maxFills turns 0 start 0).Complete w start ↔
      ¬ Cuts MasterFill.time (HeldThroughout w (replayLoop w maxFills turns 0 start 0))
        (replayLoop w maxFills turns 0 start 0).answers := by
  obtain ⟨hpages, hhanded⟩ := replayLoop_returned h
  rw [← hpages.complete_iff (by decide) fun fill hfill call _ hlt => hfill call (by omega)]
  unfold ReplayRun.Complete
  simp only [hhanded]

/-- Whatever the run does to the rows, it is the run of the loop. -/
lemma replay_fst (cfg : WatcherSettings) (maxFills : ℕ) (w : ReplayWorld) (rows : ReplayRows)
    (now : ℕ) : (Watcher.replay cfg maxFills w rows now).1 =
      replayLoop w maxFills replayTurns 0 (replayStart rows.checkpoint now) 0 := by
  unfold Watcher.replay
  cases hending : (replayLoop w maxFills replayTurns 0
    (replayStart rows.checkpoint now) 0).ending <;> simp only [hending]

/-- The giving up of the replay: the pause is on and the incident is recorded. -/
def ReplayRows.PausedAfter (rows' rows : ReplayRows) (network : Network) (startMs seen : ℕ) :
    Prop :=
  rows'.globalPause = some ⟨true, some "Master replay continuity could not be proven"⟩ ∧
    rows' = rows.unproven network startMs seen

/-- A replay that returns has handed over every fill that the exchange held, from the checkpoint
on, exactly when no full answer it went on from left out a fill of its own last millisecond; and a
replay that gives up has committed the global pause before it raises. -/
theorem replay_complete_iff (cfg : WatcherSettings) (maxFills : ℕ) (w : ReplayWorld)
    (rows : ReplayRows) (now : ℕ) {rows' : ReplayRows} {run : ReplayRun}
    (h : Watcher.replay cfg maxFills w rows now = (run, rows')) :
    (run.ending = .returned →
        (run.Complete w (replayStart rows.checkpoint now) ↔
          ¬ Cuts MasterFill.time (HeldThroughout w run) run.answers)) ∧
      (run.ending = .unproven →
        rows'.PausedAfter rows cfg.masterNetwork (replayStart rows.checkpoint now)
          run.handed.length) := by
  have hrun : replayLoop w maxFills replayTurns 0 (replayStart rows.checkpoint now) 0 = run := by
    rw [← replay_fst cfg, h]
  constructor
  · intro hreturned
    subst hrun
    exact replayLoop_complete_iff hreturned
  · intro hunproven
    have hsnd := congrArg Prod.snd h
    unfold Watcher.replay at hsnd
    simp only [hrun, hunproven] at hsnd
    subst hsnd
    exact ⟨rfl, rfl⟩

/-! ## Answers one by one -/

/-- A replay ends with an answer that falls short, and hands over what `fetchFills` leaves pending. -/
lemma replayLoop_of_short_answer {w : ReplayWorld} {fills : List MasterFill}
    {maxFills turns call cursor seen : ℕ} (hread : w.userFillsByTime call cursor = some fills)
    (hprocesses : ∀ n, w.processes n = true) (hshort : fills.length < replayPageLimit) :
    replayLoop w maxFills (turns + 1) call cursor seen =
      ⟨.returned, replayFills cursor fills, [fills]⟩ := by
  simp only [replayLoop, hread, handOver_of_processes hprocesses, hshort, Bool.not_true,
    Bool.false_eq_true, if_false, if_true]
  by_cases hnew : replayFills cursor fills = []
  · simp only [hnew, if_true]
  · simp only [hnew, if_false]

/-- It goes on from a full one, below the ceiling. -/
lemma replayLoop_of_full_answer {w : ReplayWorld} {page : List MasterFill}
    {maxFills turns call cursor seen : ℕ} (hread : w.userFillsByTime call cursor = some page)
    (hprocesses : ∀ n, w.processes n = true) (hfull : page.length = replayPageLimit)
    (hmax : seen + replayPageLimit < maxFills) :
    replayLoop w maxFills (turns + 1) call cursor seen =
      (replayLoop w maxFills turns (call + 1) (maxKey MasterFill.time page + 1)
        (seen + replayPageLimit)).after (replayFills cursor page) page := by
  obtain ⟨history, -, hpage⟩ := Option.map_eq_some_iff.1 hread
  have hperm := replayFills_earliest_perm replayPageLimit cursor history
  rw [hpage] at hperm
  have hnew : (replayFills cursor page).length = replayPageLimit := hperm.length_eq.trans hfull
  have hne : replayFills cursor page ≠ [] := by
    rw [← List.length_pos_iff, hnew]
    decide
  simp only [replayLoop, hread, handOver_of_processes hprocesses, hne, hfull, hnew, hmax.not_ge,
    lt_irrefl, Bool.not_true, Bool.false_eq_true, if_false]

/-- The page of an exchange that holds its fills in order. -/
lemma earliest_of_sorted {limit start : ℕ} {fills : List MasterFill}
    (h : fills.Pairwise fun f g => f.time ≤ g.time) :
    earliest MasterFill.time limit start fills =
      (fills.filter fun f => start ≤ f.time).take limit := by
  have : Std.Total fun f g : MasterFill => f.time ≤ g.time := ⟨fun f g => le_total f.time g.time⟩
  have : IsTrans MasterFill fun f g => f.time ≤ g.time := ⟨fun _ _ _ => le_trans⟩
  rw [earliest, (h.filter _).insertionSort_eq]

lemma maxKey_of_forall {fills : List MasterFill} {time : ℕ} (hne : fills ≠ [])
    (h : ∀ fill ∈ fills, fill.time = time) : maxKey MasterFill.time fills = time := by
  obtain ⟨fill, hfill, hkey⟩ := exists_key_eq_maxKey MasterFill.time hne
  exact hkey.symm.trans (h fill hfill)

/-- The exchange holds the same fills throughout, and every fill is processed. -/
def steadyWorld (history : List MasterFill) : ReplayWorld := ⟨fun _ => some history, fun _ => true⟩

lemma heldAt_steadyWorld (history : List MasterFill) (call : ℕ) :
    (steadyWorld history).heldAt call = history := ReplayWorld.heldAt_of_held rfl

/-- `n` fills of one millisecond. -/
def fillsAt (time n : ℕ) : List MasterFill := (List.range n).map fun i => ⟨i, 0, true, 1, 0, time⟩

lemma length_fillsAt (time n : ℕ) : (fillsAt time n).length = n := by
  rw [fillsAt, List.length_map, List.length_range]

lemma time_fillsAt {time n : ℕ} : ∀ fill ∈ fillsAt time n, fill.time = time := by
  intro fill hfill
  obtain ⟨i, -, rfl⟩ := List.mem_map.1 hfill
  rfl

lemma nodup_fillsAt (time n : ℕ) : (fillsAt time n).Nodup := by
  apply List.Nodup.map _ List.nodup_range
  intro i j h
  exact (MasterFill.mk.inj h).1

/-- A replay of a full page in one millisecond and of the later fills, which fall short of one. -/
lemma replayLoop_of_full_millisecond {history page rest : List MasterFill} {time maxFills : ℕ}
    (hhistory : history = page ++ rest) (hpage : page.length = replayPageLimit)
    (htime : ∀ fill ∈ page, fill.time = time)
    (hrest : rest.Pairwise fun f g => f.time ≤ g.time) (hlate : ∀ fill ∈ rest, time ≤ fill.time)
    (hshort : (rest.filter fun f => time + 1 ≤ f.time).length < replayPageLimit)
    (hmax : replayPageLimit < maxFills) :
    replayLoop (steadyWorld history) maxFills replayTurns 0 time 0 =
      ⟨.returned, replayFills time page ++
          replayFills (time + 1) (rest.filter fun f => time + 1 ≤ f.time),
        [page, rest.filter fun f => time + 1 ≤ f.time]⟩ := by
  subst hhistory
  have hsorted : (page ++ rest).Pairwise fun f g => f.time ≤ g.time := by
    refine List.pairwise_append.2 ⟨?_, hrest, fun f hf g hg => ?_⟩
    · exact List.Pairwise.imp_of_mem (fun hf hg _ => by rw [htime _ hf, htime _ hg])
        (List.pairwise_of_forall fun _ _ => trivial)
    · rw [htime f hf]
      exact hlate g hg
  have hread : ∀ call cursor, (steadyWorld (page ++ rest)).userFillsByTime call cursor =
      some (((page ++ rest).filter fun f => cursor ≤ f.time).take replayPageLimit) := by
    intro call cursor
    rw [← earliest_of_sorted hsorted]
    rfl
  have hfirst : (steadyWorld (page ++ rest)).userFillsByTime 0 time = some page := by
    have hall : ((page ++ rest).filter fun f => time ≤ f.time) = page ++ rest := by
      refine List.filter_eq_self.2 fun fill hfill => decide_eq_true ?_
      rcases List.mem_append.1 hfill with hfill | hfill
      · rw [htime fill hfill]
      · exact hlate fill hfill
    rw [hread, hall, ← hpage, List.take_left]
  have hnext : (steadyWorld (page ++ rest)).userFillsByTime 1 (time + 1) =
      some (rest.filter fun f => time + 1 ≤ f.time) := by
    have hnone : (page.filter fun f => time + 1 ≤ f.time) = [] := by
      refine List.filter_eq_nil_iff.2 fun fill hfill => ?_
      rw [htime fill hfill, decide_eq_true_eq]
      omega
    rw [hread, List.filter_append, hnone, List.nil_append, List.take_of_length_le hshort.le]
  have hmaxKey : maxKey MasterFill.time page = time :=
    maxKey_of_forall (List.length_pos_iff.1 (by rw [hpage]; decide)) htime
  rw [replayTurns, replayLoop_of_full_answer hfirst (fun _ => rfl) hpage (by omega), hmaxKey,
    replayLoop_of_short_answer hnext (fun _ => rfl) hshort]
  rfl

/-! ## A page that ends with its millisecond -/

/-- A full page of one millisecond, and a fill of the next one. -/
def spilledHistory : List MasterFill := fillsAt 1000 2000 ++ [⟨2000, 0, true, 1, 0, 1001⟩]

/-- The second answer has the fill that is left, and nothing is missed. -/
theorem replay_complete_iff_spilled :
    (Watcher.replay mainnetWatcher 10000 (steadyWorld spilledHistory) ⟨1000, [], none⟩ 0).1.Complete
      (steadyWorld spilledHistory) 1000 := by
  have hhistory : spilledHistory = fillsAt 1000 2000 ++ [⟨2000, 0, true, 1, 0, 1001⟩] := rfl
  have hmax : replayPageLimit < 10000 := by decide
  have hrun := replayLoop_of_full_millisecond hhistory (length_fillsAt 1000 2000) time_fillsAt
    (List.pairwise_singleton _ _) (fun fill hfill => by rw [List.mem_singleton.1 hfill]; decide)
    (by decide) hmax
  have hstart : replayStart 1000 0 = 1000 := if_neg (by decide)
  have hfst := replay_fst mainnetWatcher 10000 (steadyWorld spilledHistory) ⟨1000, [], none⟩ 0
  rw [hstart, hrun] at hfst
  have hcomplete := (replay_complete_iff mainnetWatcher 10000 (steadyWorld spilledHistory)
    ⟨1000, [], none⟩ 0 Prod.mk.eta.symm).1
  rw [hstart, hfst] at hcomplete
  rw [hfst]
  refine (hcomplete rfl).2 ?_
  rintro ⟨page, hpage, fill, hheld, htime, hmissed⟩
  have hfull : page = fillsAt 1000 2000 := by simpa using hpage
  rw [hfull] at hmissed
  rw [hfull, maxKey_of_forall (List.length_pos_iff.1 (by rw [length_fillsAt]; decide))
    time_fillsAt] at htime
  have hfill : fill ∈ spilledHistory := heldAt_steadyWorld spilledHistory 0 ▸ hheld 0 (by simp)
  rcases List.mem_append.1 hfill with hfill | hfill
  · exact hmissed hfill
  · rw [List.mem_singleton.1 hfill] at htime
    cases htime

/-! ## A millisecond across the end of a page -/

/-- A replay from a millisecond with more fills than a page holds returns and misses one. -/
lemma replay_incomplete (cfg : WatcherSettings) {history : List MasterFill} {maxFills : ℕ}
    (rows : ReplayRows) (now : ℕ) (hcheckpoint : rows.checkpoint ≠ 0)
    (htime : ∀ fill ∈ history, fill.time = rows.checkpoint) (hnodup : history.Nodup)
    (hlength : replayPageLimit < history.length) (hmax : replayPageLimit < maxFills) :
    (Watcher.replay cfg maxFills (steadyWorld history) rows now).1.ending = .returned ∧
      ¬ (Watcher.replay cfg maxFills (steadyWorld history) rows now).1.Complete
        (steadyWorld history) (replayStart rows.checkpoint now) := by
  have hstart : replayStart rows.checkpoint now = rows.checkpoint := if_neg hcheckpoint
  have hdropped : ∀ fill ∈ history.drop replayPageLimit, fill.time = rows.checkpoint :=
    fun fill hfill => htime fill (List.mem_of_mem_drop hfill)
  have hpage : (history.take replayPageLimit).length = replayPageLimit := by
    rw [List.length_take, min_eq_left hlength.le]
  -- the second call is answered with nothing, one millisecond past all fills
  have hnothing : ((history.drop replayPageLimit).filter fun f => rows.checkpoint + 1 ≤ f.time) =
      [] := by
    refine List.filter_eq_nil_iff.2 fun fill hfill => ?_
    rw [hdropped fill hfill, decide_eq_true_eq]
    omega
  have htaken : ∀ fill ∈ history.take replayPageLimit, fill.time = rows.checkpoint :=
    fun fill hfill => htime fill (List.mem_of_mem_take hfill)
  have hrun := replayLoop_of_full_millisecond
    (List.take_append_drop replayPageLimit history).symm hpage htaken
    (List.Pairwise.imp_of_mem (fun hf hg _ => by rw [hdropped _ hf, hdropped _ hg])
      (List.pairwise_of_forall fun _ _ => trivial))
    (fun fill hfill => (hdropped fill hfill).ge) (by rw [hnothing]; decide) hmax
  rw [hnothing] at hrun
  rw [replay_fst, hstart, hrun]
  refine ⟨rfl, fun hcomplete => ?_⟩
  have hsub : history ⊆ history.take replayPageLimit := by
    intro fill hfill
    have hhanded := hcomplete fill (fun call _ => by rwa [heldAt_steadyWorld]) (htime fill hfill).ge
    have hnew : fill ∈ replayFills rows.checkpoint (history.take replayPageLimit) := by
      simpa [replayFills] using hhanded
    exact (List.mem_insertionSort _).1 (List.mem_of_mem_filter hnew)
  have hle := (hnodup.subperm hsub).length_le
  omega

/-- With 2001 fills in the millisecond of the checkpoint the replay returns and misses one. -/
theorem replay_misses_fill :
    ¬ ∀ (cfg : WatcherSettings) (maxFills : ℕ) (w : ReplayWorld) (rows : ReplayRows) (now : ℕ),
      (Watcher.replay cfg maxFills w rows now).1.ending = .returned →
        (Watcher.replay cfg maxFills w rows now).1.Complete w
          (replayStart rows.checkpoint now) := by
  intro hclaim
  have hlength : replayPageLimit < (fillsAt 1000 2001).length := by
    rw [length_fillsAt]
    decide
  obtain ⟨hreturned, hmisses⟩ := replay_incomplete mainnetWatcher ⟨1000, [], none⟩ 0
    (by decide) time_fillsAt (nodup_fillsAt 1000 2001) hlength
    (show replayPageLimit < 10000 by decide)
  exact hmisses (hclaim _ _ _ _ _ hreturned)

end HyperCopy
