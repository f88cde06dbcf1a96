import HyperCopy.Library.Fallible
import HyperCopy.Library.PackedWord
import HyperCopy.Risex.OrderHistory

/-!
# Evidence of a consumed nonce

`security/risex_consumed_nonce_evidence.py` asks the authorization contract twice at one block:
whether the nonce of an Execution is used, and for the nonce state of the account.  The second
answer must name the same anchor and show the same bit.  `_collect_risex_4c_resolution_evidence`
requires that evidence before it reads the order history, and takes every exception as no evidence.
-/

namespace HyperCopy.OrderHistory

open Fallible PackedWord

/-- What the collector raises; a transport raises errors of its own. -/
inductive NonceError
  | readUnavailable (text : String)
  | signedTestnetBlocked (text : String)
  | providerDataMalformed (text : String)
  | valueError
  | transport
deriving DecidableEq, Repr

/-- The transport of the public RPC: the answers to `eth_blockNumber`, and to `eth_call` of an
address with call data at a block tag. -/
structure PublicRpc where
  publicReadOnly : Bool
  blockNumber : Except NonceError JsonValue
  ethCall : String → List UInt8 → String → Except NonceError JsonValue

variable (P : PythonText)

/-! ## Encoding the calls -/

/-- `_is_address`. -/
def isAddress (value : String) : Bool :=
  value.length = 42 && value.startsWith "0x" &&
    (P.hexInt (String.ofList (value.toList.drop 2))).any fun n => n ≠ 0

/-- `_abi_address`. -/
def abiAddress (value : String) : Except NonceError (List UInt8) := do
  Fallible.require (isAddress P value)
    (.signedTestnetBlocked "RISEx consumed-nonce account address is invalid")
  let raw ← expect (P.fromHex (String.ofList (value.toList.drop 2))) .valueError
  return List.replicate (32 - raw.length) 0 ++ raw

/-- `_abi_uint`. -/
def abiUint (value : ℤ) (bits : ℕ) (fieldName : String) : Except NonceError (List UInt8) := do
  Fallible.require (0 ≤ value && value < 2 ^ bits)
    (.signedTestnetBlocked
      ("RISEx consumed-nonce " ++ fieldName ++ " is outside uint" ++ toString bits))
  return toBytes 32 value.toNat

/-- `IS_NONCE_USED_SELECTOR`. -/
def isNonceUsedSelector : List UInt8 := [0xdc, 0xd6, 0x21, 0xa2]

/-- `GET_NONCE_STATE_SELECTOR`. -/
def getNonceStateSelector : List UInt8 := [0x8c, 0x10, 0x09, 0xb5]

/-! ## Decoding the answers -/

/-- `_hex_bytes`. -/
def hexBytes (fieldName : String) (value : JsonValue) : Except NonceError (List UInt8) :=
  match value with
  | .text s =>
      if !s.startsWith "0x" then
        .error (.providerDataMalformed ("RISEx " ++ fieldName ++ " is not canonical hex"))
      else if (s.length - 2) % 2 ≠ 0 then
        .error (.providerDataMalformed ("RISEx " ++ fieldName ++ " has odd-length hex"))
      else
        expect (P.fromHex (String.ofList (s.toList.drop 2)))
          (.providerDataMalformed ("RISEx " ++ fieldName ++ " is not valid hex"))
  | _ => .error (.providerDataMalformed ("RISEx " ++ fieldName ++ " is not canonical hex"))

/-- `int.from_bytes(raw, 'big')`. -/
def fromBytes (raw : List UInt8) : ℕ := raw.foldl (fun value byte => 256 * value + byte.toNat) 0

/-- `_decode_two_uints`. -/
def decodeTwoUints (fieldName : String) (value : JsonValue) : Except NonceError (ℕ × ℕ) := do
  let raw ← hexBytes P fieldName value
  Fallible.require (raw.length = 64)
    (.providerDataMalformed ("RISEx " ++ fieldName ++ " must return exactly two ABI words"))
  return (fromBytes (raw.take 32), fromBytes (raw.drop 32))

/-- `_decode_bool`. -/
def decodeBool (fieldName : String) (value : JsonValue) : Except NonceError Bool := do
  let raw ← hexBytes P fieldName value
  Fallible.require (raw.length = 32)
    (.providerDataMalformed ("RISEx " ++ fieldName ++ " must return one ABI word"))
  Fallible.require (fromBytes raw = 0 || fromBytes raw = 1)
    (.providerDataMalformed ("RISEx " ++ fieldName ++ " returned a non-boolean value"))
  return fromBytes raw = 1

/-- `_parse_block_number`. -/
def parseBlockNumber (value : JsonValue) : Except NonceError ℕ :=
  match value with
  | .text s => do
      Fallible.require (s.startsWith "0x")
        (.providerDataMalformed "RISEx eth_blockNumber is not canonical hex")
      let blockNumber ← expect (P.hexInt s)
        (.providerDataMalformed "RISEx eth_blockNumber is not valid hex")
      Fallible.require (0 ≤ blockNumber)
        (.providerDataMalformed "RISEx eth_blockNumber is negative")
      return blockNumber.toNat
  | _ => .error (.providerDataMalformed "RISEx eth_blockNumber is not canonical hex")

/-- `hex(block_number)`. -/
def hexTag (blockNumber : ℕ) : String := "0x" ++ String.ofList (Nat.toDigits 16 blockNumber)

/-! ## The collector -/

/-- `RISExConsumedNonceEvidence`. -/
structure ConsumedNonceEvidence where
  blockNumber : ℕ
  blockTag : String
  nonceAnchor : ℤ
  nonceBitmapIndex : ℤ
  isNonceUsed : Bool
  stateAnchor : ℕ
  stateBitmap : ℕ
  bitmapConsistent : Bool
deriving DecidableEq, Repr

/-- The permit nonce of an Execution, and the contract that keeps it. -/
structure NonceQuery where
  authorizationAddress : String
  account : String
  nonceAnchor : ℤ
  nonceBitmapIndex : ℤ

/-- `collect_consumed_nonce_evidence`. -/
def collectConsumedNonceEvidence (rpc : PublicRpc) (q : NonceQuery) :
    Except NonceError ConsumedNonceEvidence := do
  Fallible.require rpc.publicReadOnly
    (.readUnavailable "RISEx consumed-nonce collector requires a read-only RPC transport")
  Fallible.require (isAddress P q.authorizationAddress)
    (.signedTestnetBlocked "RISEx consumed-nonce Authorization address is invalid")
  let accountWord ← abiAddress P q.account
  let anchorWord ← abiUint q.nonceAnchor 48 "nonce anchor"
  let bitmapIndexWord ← abiUint q.nonceBitmapIndex 8 "nonce bitmap index"
  let rawBlockNumber ← rpc.blockNumber
  let blockNumber ← parseBlockNumber P rawBlockNumber
  let nonceUsedRaw ← rpc.ethCall q.authorizationAddress
    (isNonceUsedSelector ++ accountWord ++ anchorWord ++ bitmapIndexWord) (hexTag blockNumber)
  let nonceStateRaw ← rpc.ethCall q.authorizationAddress
    (getNonceStateSelector ++ accountWord) (hexTag blockNumber)
  let isNonceUsed ← decodeBool P "isNonceUsed" nonceUsedRaw
  let state ← decodeTwoUints P "getNonceState" nonceStateRaw
  let relevantBitSet : Bool := state.2 &&& (1 <<< q.nonceBitmapIndex.toNat) ≠ 0
  return {
    blockNumber := blockNumber
    blockTag := hexTag blockNumber
    nonceAnchor := q.nonceAnchor
    nonceBitmapIndex := q.nonceBitmapIndex
    isNonceUsed := isNonceUsed
    stateAnchor := state.1
    stateBitmap := state.2
    bitmapConsistent := decide ((state.1 : ℤ) = q.nonceAnchor) && relevantBitSet == isNonceUsed }

/-- The order outcome with the evidence of its nonce. -/
structure ResolutionEvidence where
  order : HistoryOutcome
  nonceEvidence : ConsumedNonceEvidence
deriving DecidableEq, Repr

/-- The arguments of a resolution, all of one Execution. -/
structure ResolutionQuery where
  authorizationAddress : String
  account : String
  nonceAnchor : ℤ
  nonceBitmapIndex : ℤ
  clientOrderId : ℤ
  lowerBoundNs : ℤ
  maxPages : ℤ

/-- The nonce of the Execution. -/
def ResolutionQuery.nonce (q : ResolutionQuery) : NonceQuery :=
  ⟨q.authorizationAddress, q.account, q.nonceAnchor, q.nonceBitmapIndex⟩

/-- The order of the Execution. -/
def ResolutionQuery.history (q : ResolutionQuery) : HistoryQuery :=
  ⟨q.account, q.clientOrderId, q.lowerBoundNs, q.maxPages⟩

/-- `_collect_risex_4c_resolution_evidence`. -/
def collectRisex4CResolutionEvidence (api : PublicApi) (rpc : PublicRpc) (q : ResolutionQuery) :
    Option ResolutionEvidence :=
  match collectConsumedNonceEvidence P rpc q.nonce with
  | .error _ => none
  | .ok nonceEvidence =>
      if nonceEvidence.nonceAnchor ≠ q.nonceAnchor ∨
          nonceEvidence.nonceBitmapIndex ≠ q.nonceBitmapIndex ∨
          nonceEvidence.bitmapConsistent ≠ true ∨ nonceEvidence.isNonceUsed ≠ true then none
      else (readRisexOrderHistory P api q.history).map fun order => ⟨order, nonceEvidence⟩

/-! ## What the evidence proves -/

variable {P}

/-- At one block the contract answered that the nonce is used, and its state of the account names
the anchor of the nonce and has its bit set. -/
structure NonceConsumed (P : PythonText) (rpc : PublicRpc) (q : NonceQuery)
    (evidence : ConsumedNonceEvidence) : Prop where
  nonce : evidence.nonceAnchor = q.nonceAnchor ∧ evidence.nonceBitmapIndex = q.nonceBitmapIndex
  used : ∃ accountWord anchorWord bitmapIndexWord answer,
    abiAddress P q.account = .ok accountWord ∧
      abiUint q.nonceAnchor 48 "nonce anchor" = .ok anchorWord ∧
      abiUint q.nonceBitmapIndex 8 "nonce bitmap index" = .ok bitmapIndexWord ∧
      rpc.ethCall q.authorizationAddress
        (isNonceUsedSelector ++ accountWord ++ anchorWord ++ bitmapIndexWord)
        (hexTag evidence.blockNumber) = .ok answer ∧
      decodeBool P "isNonceUsed" answer = .ok true
  state : ∃ accountWord answer,
    abiAddress P q.account = .ok accountWord ∧
      rpc.ethCall q.authorizationAddress (getNonceStateSelector ++ accountWord)
        (hexTag evidence.blockNumber) = .ok answer ∧
      decodeTwoUints P "getNonceState" answer = .ok (evidence.stateAnchor, evidence.stateBitmap)
  anchor : (evidence.stateAnchor : ℤ) = q.nonceAnchor
  bit : evidence.stateBitmap.testBit q.nonceBitmapIndex.toNat = true

/-- Consistent evidence of a used nonce proves that the nonce was consumed. -/
lemma nonceConsumed_of_collect {rpc : PublicRpc} {q : NonceQuery}
    {evidence : ConsumedNonceEvidence}
    (h : collectConsumedNonceEvidence P rpc q = .ok evidence)
    (hconsistent : evidence.bitmapConsistent = true) (hused : evidence.isNonceUsed = true) :
    NonceConsumed P rpc q evidence := by
  obtain ⟨-, h⟩ := require_bind_eq_ok.1 h
  obtain ⟨-, h⟩ := require_bind_eq_ok.1 h
  obtain ⟨accountWord, haccount, h⟩ := bind_eq_ok.1 h
  obtain ⟨anchorWord, hanchor, h⟩ := bind_eq_ok.1 h
  obtain ⟨bitmapIndexWord, hindex, h⟩ := bind_eq_ok.1 h
  obtain ⟨rawBlockNumber, -, h⟩ := bind_eq_ok.1 h
  obtain ⟨blockNumber, -, h⟩ := bind_eq_ok.1 h
  obtain ⟨nonceUsedRaw, husedRaw, h⟩ := bind_eq_ok.1 h
  obtain ⟨nonceStateRaw, hstateRaw, h⟩ := bind_eq_ok.1 h
  obtain ⟨isNonceUsed, hisUsed, h⟩ := bind_eq_ok.1 h
  obtain ⟨⟨stateAnchor, stateBitmap⟩, hstate, h⟩ := bind_eq_ok.1 h
  obtain rfl := Except.ok.inj h
  obtain rfl : isNonceUsed = true := hused
  simp only [Bool.and_eq_true, decide_eq_true_eq, beq_true] at hconsistent
  obtain ⟨hstateAnchor, hbit⟩ := hconsistent
  refine ⟨⟨rfl, rfl⟩, ⟨accountWord, anchorWord, bitmapIndexWord, nonceUsedRaw, haccount, hanchor,
    hindex, husedRaw, hisUsed⟩, ⟨accountWord, nonceStateRaw, haccount, hstateRaw, hstate⟩,
    hstateAnchor, ?_⟩
  by_contra hclear
  rw [Bool.not_eq_true] at hclear
  apply hbit
  rw [Nat.one_shiftLeft, Nat.and_two_pow, hclear]
  simp

/-- Evidence is returned only beside the proof of the nonce, and with an order the read returned. -/
lemma collectRisex4CResolutionEvidence_sound {api : PublicApi} {rpc : PublicRpc}
    {q : ResolutionQuery} {evidence : ResolutionEvidence}
    (h : collectRisex4CResolutionEvidence P api rpc q = some evidence) :
    NonceConsumed P rpc q.nonce evidence.nonceEvidence ∧
      readRisexOrderHistory P api q.history = some evidence.order := by
  unfold collectRisex4CResolutionEvidence at h
  cases hnonce : collectConsumedNonceEvidence P rpc q.nonce with
  | error e =>
      rw [hnonce] at h
      cases h
  | ok nonceEvidence =>
      rw [hnonce] at h
      simp only at h
      by_cases hrefused : nonceEvidence.nonceAnchor ≠ q.nonceAnchor ∨
          nonceEvidence.nonceBitmapIndex ≠ q.nonceBitmapIndex ∨
          nonceEvidence.bitmapConsistent ≠ true ∨ nonceEvidence.isNonceUsed ≠ true
      · rw [if_pos hrefused] at h
        cases h
      · rw [if_neg hrefused] at h
        obtain ⟨order, hread, rfl⟩ := Option.map_eq_some_iff.1 h
        simp only [ne_eq, not_or, not_not] at hrefused
        exact ⟨nonceConsumed_of_collect hnonce hrefused.2.2.1 hrefused.2.2.2, hread⟩

/-- Evidence from the order history is sound.  Whatever the pages hold and whichever reads fail, an
outcome is returned exactly where the history proves it; and resolution evidence is returned only
where, besides, the nonce of the Execution is proven consumed. -/
theorem order_history_evidence_sound (P : PythonText) (api : PublicApi) (rpc : PublicRpc)
    (q : ResolutionQuery) :
    (∀ outcome, readRisexOrderHistory P api q.history = some outcome ↔
        HistoryProves P api q.history outcome) ∧
      ∀ evidence, collectRisex4CResolutionEvidence P api rpc q = some evidence →
        NonceConsumed P rpc q.nonce evidence.nonceEvidence ∧
          HistoryProves P api q.history evidence.order := by
  refine ⟨fun outcome => readRisexOrderHistory_eq_some, fun evidence h => ?_⟩
  obtain ⟨hconsumed, hread⟩ := collectRisex4CResolutionEvidence_sound h
  exact ⟨hconsumed, readRisexOrderHistory_eq_some.1 hread⟩

end HyperCopy.OrderHistory
