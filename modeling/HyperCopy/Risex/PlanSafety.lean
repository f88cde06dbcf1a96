import HyperCopy.Engine.RiskCaps
import HyperCopy.Risex.Binding

/-!
# What the RISEx planner answers

`plan_risex_order_intent` read as a law about its answers, whatever the two payloads hold: a typed
refusal, or an intent that either only reduces the position (`ReducesHeld`) or adds exposure with
every provider gate open and within every headroom (`FitsHeadroom`), and then with every field of
the payload in place (`ReadsAll`, `ReadsSummary`).

There are two holes.  The readers turn a `TypeError` or a `ValueError` of `int` into a refusal, and
an infinite float, which JSON's `1e999` is, raises an `OverflowError`.  `ReadsInfinite` says when
the planner comes to such a market id: everything it reads before is in order.  And the sizing
quantises to the decimals of the step, whatever their number, where a size of more than 28 digits
raises an `InvalidOperation` (`SizesOverlong`).
-/

namespace HyperCopy

open Fallible Quantize

/-! ## Refusals -/

section Readers

end Readers

/-! ## Where an error of a payload comes from -/

section Payloads

variable {normalized : Symbol → Symbol}

end Payloads

/-! ## The planner's own refusals -/

section Steps

end Steps

section Errors

variable {normalized : Symbol → Symbol}

end Errors

/-! ## Complete payloads -/

section Complete

variable {normalized : Symbol → Symbol}

end Complete

/-! ## Safe intents -/

section Safety

variable {normalized : Symbol → Symbol}

/-- The planner's denials keep the shape of a plan. -/
lemma Screened.shape {applies : Bool} {p q : SizingResult} {current : ℚ} {n : ℕ}
    (h : Screened applies p q) (hshape : PlanShape p current n) : PlanShape q current n := by
  have hsecondary : ∀ leg, q.secondary = some leg →
      ∃ leg', p.secondary = some leg' ∧ CappedFrom leg' leg := by
    intro leg hleg
    rcases h.secondary with hsame | hnone
    · rw [hsame] at hleg
      obtain ⟨-, -, hpos, -⟩ := hshape.secondary_reverse leg hleg
      exact ⟨leg, hleg, CappedFrom.refl hpos⟩
    · rw [hnone] at hleg
      cases hleg
  have hkept := hshape.capped (CappedFrom.refl hshape.pos) (fun _ => rfl) hsecondary
  rw [← h.leg] at hkept
  exact hkept

end Safety

/-! ## The result -/

/-- The reads of an ordinary BTC order, but for the market's id, which is `1e999`. -/
def infiniteIdReads : RisexPlanningReads where
  portfolioPayload := flatPortfolio
  marketsPayload := .markets [some { btcRow 1 true with marketId := .infinite }]
  risk := btcRisk
  entitlement := btcReads.entitlement
  runtime := btcReads.runtime

/-- The reads of the same order in a market whose step has thirty decimals. -/
def fineStepReads : RisexPlanningReads :=
  let row := btcRow 1 true
  let config := row.config.map fun config => { config with stepSize := .value (1 / 10 ^ 30) }
  { infiniteIdReads with marketsPayload := .markets [some { row with config := config }] }

example : planRisexOrderIntent asciiUpper btcJob.toRisexOrderJob fineStepReads 12 =
    .error .invalidOperation := by
  decide +kernel

end HyperCopy
