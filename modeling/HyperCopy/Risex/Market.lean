import HyperCopy.Engine.Risk
import HyperCopy.Library.Fallible

/-!
# RISEx market rows and the two parsers of them

Provider payloads as the two readers of `/v1/markets` see them: `parse_risex_risk_market`, which
the risk decision is computed from, and `resolve_market_metadata`, which the signed order is
built from.  A field is modelled by what the readers can tell apart: a flag is missing, a JSON
boolean or anything else, and a number is missing, a boolean, unreadable, or the value that
`Decimal(str(value))` or `int(value)` reads.

Both look the market up by symbol in the order of the rows.  They agree on which row *names* the
symbol (`symbolMatches`), but the first stops at the first such row, whatever its flags say,
and the second passes over the rows that are inactive or locked.  Each parser comes with the
lookup it performs as a function of its own (`firstMatch`, `firstTradable`) and a lemma that
reads the market it returns off that row.

`str.strip().upper()` is a parameter, `normalized`: nothing depends on which text it yields.
-/

namespace HyperCopy

open Fallible

/-- A text of a provider payload or of a job, as its characters. -/
abbrev Symbol := List Char

/-! ## Raw fields -/

/-- A boolean field: missing or `null`, a JSON boolean, or any other value. -/
inductive RawFlag
  | absent
  | flag (value : Bool)
  | other
deriving DecidableEq, Repr

/-- A numeric field: missing or `null`, a JSON boolean, a value the reader cannot convert, one
that is no finite number, or the finite number it converts to.  JSON numbers such as `1e999` are
infinite floats, which `Decimal` takes and `int` answers with an `OverflowError`. -/
inductive RawNumber (α : Type)
  | absent
  | boolean
  | unreadable
  | infinite
  | value (a : α)
deriving DecidableEq, Repr

/-- The `config` object of a market row. -/
structure MarketConfig where
  name : Option Symbol
  unlocked : RawFlag
  stepSize : RawNumber ℚ
  stepPrice : RawNumber ℚ
  minOrderSize : RawNumber ℚ
  maxLeverage : RawNumber ℚ
deriving DecidableEq, Repr

/-- One row of the `markets` list.  A name that is not a string is `none`, and so is a `config`
that is not an object. -/
structure MarketRow where
  baseAssetSymbol : Option Symbol
  displayBaseAssetSymbol : Option Symbol
  displayName : Option Symbol
  underlying : Option Symbol
  active : RawFlag
  reduceOnly : RawFlag
  marketId : RawNumber ℤ
  maxPositionSize : RawNumber ℚ
  markPrice : RawNumber ℚ
  config : Option MarketConfig
deriving DecidableEq, Repr

/-- An element of the `markets` list that is not an object is `none`. -/
abbrev MarketRows := List (Option MarketRow)

/-- A response body after `_unwrap_data`: a `data` envelope that is not an object, a body
without the list that is looked for, or that list. -/
inductive MarketsPayload
  | malformedEnvelope
  | noMarkets
  | markets (rows : MarketRows)
deriving DecidableEq, Repr

/-! ## Errors -/

/-- What the RISEx planning, preparation and execution code raises: `RISExRiskPlanningDenied`,
`ProviderDataMalformed`, `SignedTestnetBlocked` or a plain `RuntimeError`, with its text, the
database's `IntegrityError`, the `OverflowError` of an `int` conversion and the `InvalidOperation`
of a `quantize`.  A text that quotes a value is its own constructor. -/
inductive RisexError
  | planningDenied (text : String)
  | marketUnknown (symbol : Symbol)
  | sizingNotActionable (reason : Option SizingReason)
  | riskRefused (action : RiskAction) (reason : Option RiskReason)
  | riskLevelNotNormal (level : Symbol)
  | providerDataMalformed (text : String)
  | marketNotFound (symbol : Symbol)
  | signedTestnetBlocked (text : String)
  | runtimeError (text : String)
  | integrityError
  | overflowError
  | invalidOperation
deriving DecidableEq, Repr

/-! ## Readers of the risk planner -/

/-- `_decimal` of the risk planner. -/
def riskDecimal (field : String) (allowZero allowNegative : Bool) :
    RawNumber ℚ → Except RisexError ℚ
  | .absent | .boolean | .unreadable | .infinite =>
      .error (.planningDenied ("RISEx " ++ field ++ " is indeterminate"))
  | .value x => do
      Fallible.require (allowNegative || 0 ≤ x)
        (.planningDenied ("RISEx " ++ field ++ " must not be negative"))
      Fallible.require (allowZero || x ≠ 0)
        (.planningDenied ("RISEx " ++ field ++ " must be positive"))
      return x

/-- `_optional_nonnegative_decimal`. -/
def optionalNonnegativeDecimal (field : String) (raw : RawNumber ℚ) : Option ℚ :=
  match riskDecimal field true false raw with
  | .ok x => some x
  | .error _ => none

/-- A decimal the planner reads only where the field is there. -/
def riskOptionalDecimal (field : String) (raw : RawNumber ℚ) : Except RisexError (Option ℚ) :=
  match raw with
  | .absent => .ok none
  | raw => do return some (← riskDecimal field false false raw)

/-- `_positive_int` of the risk planner. -/
def riskPositiveInt (field : String) : RawNumber ℤ → Except RisexError ℤ
  | .absent | .boolean | .unreadable =>
      .error (.planningDenied ("RISEx " ++ field ++ " is indeterminate"))
  -- only `TypeError` and `ValueError` are turned into denials
  | .infinite => .error .overflowError
  | .value n => do
      Fallible.require (0 < n) (.planningDenied ("RISEx " ++ field ++ " must be positive"))
      return n

/-- `isinstance(value, bool)`, or the denial of a flag that is anything else. -/
def riskFlag (text : String) : RawFlag → Except RisexError Bool
  | .flag b => .ok b
  | .absent | .other => .error (.planningDenied text)

/-! ## Readers of the order preparation -/

/-- `_positive_decimal`. -/
def positiveDecimal (field : String) : RawNumber ℚ → Except RisexError ℚ
  | .absent | .boolean | .unreadable =>
      .error (.providerDataMalformed ("RISEx " ++ field ++ " is not a decimal value"))
  | .infinite =>
      .error (.providerDataMalformed ("RISEx " ++ field ++ " must be positive and finite"))
  | .value x => do
      Fallible.require (0 < x)
        (.providerDataMalformed ("RISEx " ++ field ++ " must be positive and finite"))
      return x

/-- `_optional_positive_decimal`. -/
def optionalPositiveDecimal (field : String) (raw : RawNumber ℚ) : Except RisexError (Option ℚ) :=
  match raw with
  | .absent => .ok none
  | raw => do return some (← positiveDecimal field raw)

/-- `_positive_int` of the order preparation. -/
def positiveInt (field : String) : RawNumber ℤ → Except RisexError ℤ
  | .absent | .boolean | .unreadable =>
      .error (.providerDataMalformed ("RISEx " ++ field ++ " is not an integer"))
  | .infinite => .error .overflowError
  | .value n => do
      Fallible.require (0 < n) (.providerDataMalformed ("RISEx " ++ field ++ " must be positive"))
      return n

lemma riskPositiveInt_eq_ok {field : String} {raw : RawNumber ℤ} {n : ℤ}
    (h : riskPositiveInt field raw = .ok n) : raw = .value n := by
  cases raw with
  | value m =>
      obtain ⟨-, hm⟩ := require_bind_eq_ok.1 h
      obtain rfl : m = n := Except.ok.inj hm
      rfl
  | absent => cases h
  | boolean => cases h
  | unreadable => cases h
  | infinite => cases h

lemma positiveInt_eq_ok {field : String} {raw : RawNumber ℤ} {n : ℤ}
    (h : positiveInt field raw = .ok n) : raw = .value n := by
  cases raw with
  | value m =>
      obtain ⟨-, hm⟩ := require_bind_eq_ok.1 h
      obtain rfl : m = n := Except.ok.inj hm
      rfl
  | absent => cases h
  | boolean => cases h
  | unreadable => cases h
  | infinite => cases h

lemma riskFlag_eq_ok {text : String} {raw : RawFlag} {b : Bool}
    (h : riskFlag text raw = .ok b) : raw = .flag b := by
  cases raw with
  | flag value =>
      obtain rfl : value = b := Except.ok.inj h
      rfl
  | absent => cases h
  | other => cases h

lemma riskDecimal_eq_ok {field : String} {allowZero allowNegative : Bool} {raw : RawNumber ℚ}
    {x : ℚ} (h : riskDecimal field allowZero allowNegative raw = .ok x) : raw = .value x := by
  cases raw with
  | value y =>
      obtain ⟨-, h⟩ := require_bind_eq_ok.1 h
      obtain ⟨-, h⟩ := require_bind_eq_ok.1 h
      obtain rfl : y = x := Except.ok.inj h
      rfl
  | absent => cases h
  | boolean => cases h
  | unreadable => cases h
  | infinite => cases h

lemma positiveDecimal_eq_ok {field : String} {raw : RawNumber ℚ} {x : ℚ}
    (h : positiveDecimal field raw = .ok x) : raw = .value x := by
  cases raw with
  | value y =>
      obtain ⟨-, h⟩ := require_bind_eq_ok.1 h
      obtain rfl : y = x := Except.ok.inj h
      rfl
  | absent => cases h
  | boolean => cases h
  | unreadable => cases h
  | infinite => cases h

lemma positiveInt_pos {field : String} {raw : RawNumber ℤ} {n : ℤ}
    (h : positiveInt field raw = .ok n) : 0 < n := by
  rw [positiveInt_eq_ok h] at h
  exact of_decide_eq_true (require_bind_eq_ok.1 h).1

/-! ## The two lookups -/

/-- `RISExMarketMetadata`. -/
structure RisexMarketMetadata where
  marketId : ℤ
  stepSize : ℚ
  stepPrice : ℚ
  minOrderSize : ℚ
  maxLeverage : Option ℚ
  active : Bool
  reduceOnly : Bool
  unlocked : Bool
  maxPositionSizeRaw : Option ℚ
  markPrice : Option ℚ
deriving DecidableEq, Repr

section Lookup

variable (normalized : Symbol → Symbol)

/-- `_symbol_matches`, the same function in both modules: one of the five names of the row is
the symbol, or has it before its first slash. -/
def symbolMatches (row : MarketRow) (symbol : Symbol) : Bool :=
  let target := normalized symbol
  [row.baseAssetSymbol, row.displayBaseAssetSymbol, row.displayName, row.underlying,
    row.config.bind (·.name)].any fun raw =>
      match raw with
      | none => false
      | some text =>
          let name := normalized text
          name == target || name.takeWhile (· ≠ '/') == target

/-- The loop of `parse_risex_risk_market`: the first row that names the symbol. -/
def firstMatch (symbol : Symbol) : MarketRows → Option MarketRow
  | [] => none
  | none :: rows => firstMatch symbol rows
  | some row :: rows =>
      if symbolMatches normalized row symbol then some row else firstMatch symbol rows

/-- `parse_risex_risk_market`. -/
def parseRisexRiskMarket (payload : MarketsPayload) (symbol : Symbol) :
    Except RisexError RisexMarketMetadata :=
  match payload with
  | .malformedEnvelope => .error (.planningDenied "RISEx markets data envelope is malformed")
  | .noMarkets => .error (.planningDenied "RISEx market metadata is missing")
  | .markets rows => do
      let selected ← expect (firstMatch normalized symbol rows) (.marketUnknown symbol)
      let config ← expect selected.config (.planningDenied "RISEx market config is missing")
      let active ← riskFlag "RISEx market active flag is indeterminate" selected.active
      let reduceOnly ←
        riskFlag "RISEx market reduce_only flag is indeterminate" selected.reduceOnly
      let unlocked ← riskFlag "RISEx market unlocked flag is indeterminate" config.unlocked
      let marketId ← riskPositiveInt "market_id" selected.marketId
      Fallible.require (marketId < 2 ^ 16) (.planningDenied "RISEx market_id exceeds uint16")
      let stepSize ← riskDecimal "step_size" false false config.stepSize
      let stepPrice ← riskDecimal "step_price" false false config.stepPrice
      let minOrderSize ← riskDecimal "min_order_size" false false config.minOrderSize
      let maxLeverage ← riskDecimal "max_leverage" false false config.maxLeverage
      let maxPositionSizeRaw ←
        riskOptionalDecimal "max_position_size" selected.maxPositionSize
      let markPrice ← riskDecimal "mark_price" false false selected.markPrice
      return {
        marketId := marketId
        stepSize := stepSize
        stepPrice := stepPrice
        minOrderSize := minOrderSize
        maxLeverage := some maxLeverage
        active := active
        reduceOnly := reduceOnly
        unlocked := unlocked
        maxPositionSizeRaw := maxPositionSizeRaw
        markPrice := some markPrice }

/-- What `resolve_market_metadata` makes of the row it settles on. -/
def marketMetadata (row : MarketRow) (config : MarketConfig) :
    Except RisexError RisexMarketMetadata := do
  let marketId ← positiveInt "market_id" row.marketId
  Fallible.require (marketId < 2 ^ 16) (.providerDataMalformed "RISEx market_id exceeds uint16")
  let stepSize ← positiveDecimal "step_size" config.stepSize
  let stepPrice ← positiveDecimal "step_price" config.stepPrice
  let minOrderSize ← positiveDecimal "min_order_size" config.minOrderSize
  let maxLeverage ← optionalPositiveDecimal "max_leverage" config.maxLeverage
  let maxPositionSizeRaw ← optionalPositiveDecimal "max_position_size" row.maxPositionSize
  let markPrice ← optionalPositiveDecimal "mark_price" row.markPrice
  return {
    marketId := marketId
    stepSize := stepSize
    stepPrice := stepPrice
    minOrderSize := minOrderSize
    maxLeverage := maxLeverage
    active := row.active ≠ .flag false
    reduceOnly := row.reduceOnly = .flag true
    unlocked := config.unlocked ≠ .flag false
    maxPositionSizeRaw := maxPositionSizeRaw
    markPrice := markPrice }

/-- The loop of `resolve_market_metadata` over the rows. -/
def resolveRows (symbol : Symbol) : MarketRows → Except RisexError RisexMarketMetadata
  | [] => .error (.marketNotFound symbol)
  | none :: rows => resolveRows symbol rows
  | some row :: rows =>
      if !symbolMatches normalized row symbol then resolveRows symbol rows
      else if row.active = .flag false then resolveRows symbol rows
      else
        match row.config with
        | none => .error (.providerDataMalformed "RISEx market config is missing")
        | some config =>
            if config.unlocked = .flag false then resolveRows symbol rows
            else marketMetadata row config

/-- `resolve_market_metadata` over the payload it read. -/
def resolveMarketMetadata (payload : MarketsPayload) (symbol : Symbol) :
    Except RisexError RisexMarketMetadata :=
  match payload with
  | .malformedEnvelope =>
      .error (.providerDataMalformed "RISEx markets data envelope is not an object")
  | .noMarkets => .error (.providerDataMalformed "RISEx markets response has no markets list")
  | .markets rows => resolveRows normalized symbol rows

/-- The row names the symbol and is neither marked inactive nor marked locked. -/
def namesTradable (row : MarketRow) (symbol : Symbol) : Bool :=
  symbolMatches normalized row symbol && row.active ≠ .flag false &&
    row.config.all (·.unlocked ≠ .flag false)

/-- The first row that names the symbol as a tradable market. -/
def firstTradable (symbol : Symbol) : MarketRows → Option MarketRow
  | [] => none
  | none :: rows => firstTradable symbol rows
  | some row :: rows =>
      if namesTradable normalized row symbol then some row else firstTradable symbol rows

/-! ## The row a parser read -/

variable {normalized}

/-- The fields of a row whose values both descriptions of a market take over. -/
structure ReadsOff (row : MarketRow) (config : MarketConfig) (market : RisexMarketMetadata) :
    Prop where
  marketId : row.marketId = .value market.marketId
  stepSize : config.stepSize = .value market.stepSize
  stepPrice : config.stepPrice = .value market.stepPrice
  minOrderSize : config.minOrderSize = .value market.minOrderSize

/-- Every field of a row that the planner's description of the market comes from.  Only the
position limit may be missing. -/
structure ReadsAll (row : MarketRow) (config : MarketConfig) (market : RisexMarketMetadata) :
    Prop extends ReadsOff row config market where
  active : row.active = .flag market.active
  reduceOnly : row.reduceOnly = .flag market.reduceOnly
  unlocked : config.unlocked = .flag market.unlocked
  maxLeverage : ∃ leverage, config.maxLeverage = .value leverage ∧
    market.maxLeverage = some leverage
  maxPositionSize : row.maxPositionSize = market.maxPositionSizeRaw.elim .absent .value
  markPrice : ∃ price, row.markPrice = .value price ∧ market.markPrice = some price

lemma riskOptionalDecimal_eq_ok {field : String} {raw : RawNumber ℚ} {x : Option ℚ}
    (h : riskOptionalDecimal field raw = .ok x) : raw = x.elim .absent .value := by
  cases raw with
  | absent =>
      obtain rfl := Except.ok.inj h
      rfl
  | value y =>
      obtain ⟨z, hz, h⟩ := bind_eq_ok.1 h
      obtain rfl := Except.ok.inj h
      exact riskDecimal_eq_ok hz
  | boolean => cases h
  | unreadable => cases h
  | infinite => cases h

/-- The planner reads the market off the first row that names the symbol. -/
lemma parseRisexRiskMarket_row {payload : MarketsPayload} {symbol : Symbol}
    {market : RisexMarketMetadata}
    (h : parseRisexRiskMarket normalized payload symbol = .ok market) :
    ∃ rows row config, payload = .markets rows ∧ firstMatch normalized symbol rows = some row ∧
      row.config = some config ∧ ReadsAll row config market := by
  cases payload with
  | malformedEnvelope => cases h
  | noMarkets => cases h
  | markets rows =>
      obtain ⟨row, hrow, h⟩ := bind_eq_ok.1 h
      obtain ⟨config, hconfig, h⟩ := bind_eq_ok.1 h
      obtain ⟨active, hactive, h⟩ := bind_eq_ok.1 h
      obtain ⟨reduceOnly, hreduceOnly, h⟩ := bind_eq_ok.1 h
      obtain ⟨unlocked, hunlocked, h⟩ := bind_eq_ok.1 h
      obtain ⟨marketId, hmarketId, h⟩ := bind_eq_ok.1 h
      obtain ⟨-, h⟩ := require_bind_eq_ok.1 h
      obtain ⟨stepSize, hstep, h⟩ := bind_eq_ok.1 h
      obtain ⟨stepPrice, htick, h⟩ := bind_eq_ok.1 h
      obtain ⟨minOrderSize, hmin, h⟩ := bind_eq_ok.1 h
      obtain ⟨maxLeverage, hleverage, h⟩ := bind_eq_ok.1 h
      obtain ⟨maxPositionSize, hlimit, h⟩ := bind_eq_ok.1 h
      obtain ⟨markPrice, hmark, h⟩ := bind_eq_ok.1 h
      obtain rfl := Except.ok.inj h
      refine ⟨rows, row, config, rfl, expect_eq_ok.1 hrow, expect_eq_ok.1 hconfig, ?_⟩
      exact
        { marketId := riskPositiveInt_eq_ok hmarketId
          stepSize := riskDecimal_eq_ok hstep
          stepPrice := riskDecimal_eq_ok htick
          minOrderSize := riskDecimal_eq_ok hmin
          active := riskFlag_eq_ok hactive
          reduceOnly := riskFlag_eq_ok hreduceOnly
          unlocked := riskFlag_eq_ok hunlocked
          maxLeverage := ⟨maxLeverage, riskDecimal_eq_ok hleverage, rfl⟩
          maxPositionSize := riskOptionalDecimal_eq_ok hlimit
          markPrice := ⟨markPrice, riskDecimal_eq_ok hmark, rfl⟩ }

/-- The preparation reads the market off the row it settled on. -/
lemma marketMetadata_eq_ok {row : MarketRow} {config : MarketConfig}
    {market : RisexMarketMetadata} (h : marketMetadata row config = .ok market) :
    ReadsOff row config market ∧ 0 < market.marketId ∧ market.marketId < 2 ^ 16 := by
  obtain ⟨marketId, hmarketId, h⟩ := bind_eq_ok.1 h
  obtain ⟨hlt, h⟩ := require_bind_eq_ok.1 h
  obtain ⟨stepSize, hstep, h⟩ := bind_eq_ok.1 h
  obtain ⟨stepPrice, htick, h⟩ := bind_eq_ok.1 h
  obtain ⟨minOrderSize, hmin, h⟩ := bind_eq_ok.1 h
  obtain ⟨maxLeverage, -, h⟩ := bind_eq_ok.1 h
  obtain ⟨maxPositionSize, -, h⟩ := bind_eq_ok.1 h
  obtain ⟨markPrice, -, h⟩ := bind_eq_ok.1 h
  obtain rfl := Except.ok.inj h
  exact ⟨⟨positiveInt_eq_ok hmarketId, positiveDecimal_eq_ok hstep, positiveDecimal_eq_ok htick,
    positiveDecimal_eq_ok hmin⟩, positiveInt_pos hmarketId, of_decide_eq_true hlt⟩

lemma firstTradable_cons_of_not {symbol : Symbol} {row : MarketRow} {rows : MarketRows}
    (h : namesTradable normalized row symbol = false) :
    firstTradable normalized symbol (some row :: rows) = firstTradable normalized symbol rows := by
  rw [firstTradable, h]
  rfl

/-- The loop of the preparation reads the market off the first tradable row. -/
lemma resolveRows_row {symbol : Symbol} {rows : MarketRows} {market : RisexMarketMetadata}
    (h : resolveRows normalized symbol rows = .ok market) :
    ∃ row config, firstTradable normalized symbol rows = some row ∧ row.config = some config ∧
      marketMetadata row config = .ok market := by
  induction rows with
  | nil => cases h
  | cons head rows ih =>
      cases head with
      | none => exact ih h
      | some row =>
          simp only [resolveRows] at h
          split_ifs at h with hmatch hactive
          · have hno : namesTradable normalized row symbol = false := by
              simp_all [namesTradable]
            rw [firstTradable_cons_of_not hno]
            exact ih h
          · have hno : namesTradable normalized row symbol = false := by
              simp [namesTradable, hactive]
            rw [firstTradable_cons_of_not hno]
            exact ih h
          · cases hconfig : row.config with
            | none =>
                rw [hconfig] at h
                cases h
            | some config =>
                rw [hconfig] at h
                dsimp only at h
                split_ifs at h with hlocked
                · have hno : namesTradable normalized row symbol = false := by
                    simp [namesTradable, hconfig, hlocked]
                  rw [firstTradable_cons_of_not hno]
                  exact ih h
                · have hyes : namesTradable normalized row symbol = true := by
                    simp_all [namesTradable]
                  exact ⟨row, config, by rw [firstTradable, if_pos hyes], hconfig, h⟩

/-- Where the row the planner settled on is tradable, the preparation settles on it as well. -/
lemma firstTradable_of_firstMatch {symbol : Symbol} {rows : MarketRows} {row : MarketRow}
    (h : firstMatch normalized symbol rows = some row)
    (htradable : namesTradable normalized row symbol = true) :
    firstTradable normalized symbol rows = some row := by
  induction rows with
  | nil => cases h
  | cons head rows ih =>
      cases head with
      | none => exact ih h
      | some first =>
          simp only [firstMatch] at h
          split_ifs at h with hmatch
          · obtain rfl := Option.some.inj h
            rw [firstTradable, if_pos htradable]
          · have hno : namesTradable normalized first symbol = false := by
              simp [namesTradable, hmatch]
            rw [firstTradable_cons_of_not hno]
            exact ih h

end Lookup

end HyperCopy
