import HyperCopy.Risex.OrderPreparation
import HyperCopy.Library.PackedWord

/-!
# The RISEx order codec

`security/risex_order_codec.py` packs the core fields of an order into one word of 88 bits, and
that word, beside the fields that stay outside it, into the preimage of the action hash that is
signed.  Each function validates the order again before it encodes it.

The validation refuses a field of another Python type as well.  `RisexPlaceOrder` types its
fields, so what is left of those checks here are the ranges.  A field that passed is not negative,
which is why the encoding reads it as a natural number.

The main result is `order_encoding_injective`: the bit fields of the word are the fields of the
order, and the preimage determines the order.
-/

namespace HyperCopy

open Fallible PackedWord

/-- `RISExOrderCodecError`, a `ValueError` with its text. -/
structure RisexOrderCodecError where
  text : String
deriving DecidableEq, Repr

/-- `_require_uint`. -/
def requireUint (name : String) (value : ℤ) (bits minimum : ℕ) :
    Except RisexOrderCodecError Unit :=
  Fallible.require (minimum ≤ value && value < 2 ^ bits)
    ⟨name ++ " must be an integer in [" ++ toString minimum ++ ", " ++ toString (2 ^ bits - 1) ++
      "]"⟩

/-- `_require_enum`, the allowed values in ascending order. -/
def requireEnum (name : String) (value : ℕ) (allowed : List ℕ) :
    Except RisexOrderCodecError Unit :=
  Fallible.require (allowed.contains value)
    ⟨name ++ " must be one of: " ++ String.intercalate ", " (allowed.map toString)⟩

/-- `_validate_order`. -/
def validateOrder (order : RisexPlaceOrder) : Except RisexOrderCodecError Unit := do
  requireUint "market_id" order.marketId 16 0
  requireUint "size_steps" order.sizeSteps 32 1
  requireUint "price_ticks" order.priceTicks 24 0
  requireEnum "side" order.side [0, 1]
  requireEnum "stp_mode" order.stpMode [0, 1, 2, 3]
  requireEnum "order_type" order.orderType [0, 1]
  requireEnum "time_in_force" order.timeInForce [0, 1, 2, 3]
  requireUint "client_order_id" order.clientOrderId 64 0
  requireUint "ttl_units" order.ttlUnits 16 0

/-- `_ORDER_HEADER_VERSION`. -/
def orderHeaderVersion : ℕ := 1

/-- The flag byte of the word. -/
def orderFlags (order : RisexPlaceOrder) : ℕ :=
  order.side ||| (if order.postOnly then 0x02 else 0) ||| (if order.reduceOnly then 0x04 else 0) |||
    order.stpMode <<< 3 ||| order.orderType <<< 5 ||| order.timeInForce <<< 6

/-- The word before its last check. -/
def orderWord (order : RisexPlaceOrder) : ℕ :=
  order.marketId.toNat <<< 70 ||| order.sizeSteps.toNat <<< 38 |||
    order.priceTicks.toNat <<< 14 ||| orderFlags order <<< 6 ||| orderHeaderVersion <<< 1

/-- The refusal of a word that does not fit. -/
def orderDataOverflow : RisexOrderCodecError :=
  ⟨"encoded order data exceeds uint88"⟩

/-- `encode_order_data_88`. -/
def encodeOrderData88 (order : RisexPlaceOrder) : Except RisexOrderCodecError ℕ := do
  validateOrder order
  Fallible.require (orderWord order < 2 ^ 88) orderDataOverflow
  return orderWord order

/-- The permit flag, and a flag for each of the two optional fields that is present. -/
def headerFlags (order : RisexPlaceOrder) : ℕ :=
  0x01 ||| (if order.clientOrderId ≠ 0 then 0x04 else 0) |||
    (if order.ttlUnits ≠ 0 then 0x10 else 0)

/-- `compute_protocol_header_flags`. -/
def computeProtocolHeaderFlags (order : RisexPlaceOrder) : Except RisexOrderCodecError ℕ := do
  validateOrder order
  return headerFlags order

/-- `_abi_word`. -/
def abiWord (value : ℕ) : List UInt8 := toBytes 32 value

/-- What `build_place_order_action_hash` hashes, after the hash of the action's name. -/
def placeOrderActionPreimage (actionTypeHash : List UInt8) (order : RisexPlaceOrder) :
    Except RisexOrderCodecError (List UInt8) := do
  let orderData ← encodeOrderData88 order
  let headerFlags ← computeProtocolHeaderFlags order
  return actionTypeHash ++ (abiWord headerFlags ++ (abiWord orderData ++ (abiWord 0 ++
    (abiWord order.clientOrderId ++ abiWord order.ttlUnits))))

/-- `ACTION_PLACE_ORDER`. -/
def actionPlaceOrder : String := "RISE_PERPS_PLACE_ORDER_V1"

/-- `build_place_order_action_hash`, over the hash function it imports; the result is its bytes,
which the source writes in hexadecimal. -/
def buildPlaceOrderActionHash (keccak : List UInt8 → List UInt8) (order : RisexPlaceOrder) :
    Except RisexOrderCodecError (List UInt8) := do
  let preimage ← placeOrderActionPreimage (keccak actionPlaceOrder.toUTF8.toList) order
  return keccak preimage

/-! ## What the validation establishes -/

/-- The ranges of the fields of an order. -/
structure ValidOrder (order : RisexPlaceOrder) : Prop where
  marketId : 0 ≤ order.marketId ∧ order.marketId < 2 ^ 16
  sizeSteps : 1 ≤ order.sizeSteps ∧ order.sizeSteps < 2 ^ 32
  priceTicks : 0 ≤ order.priceTicks ∧ order.priceTicks < 2 ^ 24
  side : order.side < 2 ^ 1
  stpMode : order.stpMode < 2 ^ 2
  orderType : order.orderType < 2 ^ 1
  timeInForce : order.timeInForce < 2 ^ 2
  clientOrderId : order.clientOrderId < 2 ^ 64
  ttlUnits : order.ttlUnits < 2 ^ 16

lemma requireUint_eq_ok {name : String} {value : ℤ} {bits minimum : ℕ} {u : Unit} :
    requireUint name value bits minimum = .ok u ↔ (minimum : ℤ) ≤ value ∧ value < 2 ^ bits := by
  rw [requireUint, require_eq_ok, Bool.and_eq_true, decide_eq_true_eq, decide_eq_true_eq]

lemma requireEnum_eq_ok {name : String} {value : ℕ} {allowed : List ℕ} {u : Unit} :
    requireEnum name value allowed = .ok u ↔ value ∈ allowed := by
  rw [requireEnum, require_eq_ok, List.contains_iff_mem]

/-- The validation passes exactly the orders whose fields are in range. -/
lemma validateOrder_eq_ok {order : RisexPlaceOrder} :
    validateOrder order = .ok () ↔ ValidOrder order := by
  simp only [validateOrder, bind_eq_ok, exists_const, requireUint_eq_ok, requireEnum_eq_ok,
    List.mem_cons, List.not_mem_nil, or_false]
  constructor
  · rintro ⟨hmarket, hsize, hprice, hside, hstp, htype, htif, hclient, httl⟩
    exact ⟨hmarket, hsize, hprice, by omega, by omega, by omega, by omega, by omega, by omega⟩
  · rintro ⟨hmarket, hsize, hprice, hside, hstp, htype, htif, hclient, httl⟩
    exact ⟨hmarket, hsize, hprice, by omega, by omega, by omega, by omega, by omega, by omega⟩

/-! ## The fields of the word -/

/-- The fields of the word with their places, from the most significant one on. -/
def orderFields (order : RisexPlaceOrder) : List Field :=
  [⟨70, 16, order.marketId.toNat⟩, ⟨38, 32, order.sizeSteps.toNat⟩,
    ⟨14, 24, order.priceTicks.toNat⟩, ⟨6, 1, order.side⟩, ⟨7, 1, order.postOnly.toNat⟩,
    ⟨8, 1, order.reduceOnly.toNat⟩, ⟨9, 2, order.stpMode⟩, ⟨11, 1, order.orderType⟩,
    ⟨12, 2, order.timeInForce⟩, ⟨1, 5, orderHeaderVersion⟩]

lemma orderFlags_eq (order : RisexPlaceOrder) :
    orderFlags order = order.side ||| order.postOnly.toNat <<< 1 |||
      order.reduceOnly.toNat <<< 2 ||| order.stpMode <<< 3 ||| order.orderType <<< 5 |||
      order.timeInForce <<< 6 := by
  have hpost : (if order.postOnly then 0x02 else 0) = order.postOnly.toNat <<< 1 := by
    cases order.postOnly <;> rfl
  have hreduce : (if order.reduceOnly then 0x04 else 0) = order.reduceOnly.toNat <<< 2 := by
    cases order.reduceOnly <;> rfl
  rw [orderFlags, hpost, hreduce]

/-- The word the source builds is the packing of its fields. -/
lemma orderWord_eq_pack (order : RisexPlaceOrder) : orderWord order = pack (orderFields order) := by
  simp only [orderWord, orderFlags_eq, orderFields, pack, Nat.shiftLeft_or_distrib,
    ← Nat.shiftLeft_add, Nat.or_zero, Nat.or_assoc]

lemma orderFields_apart (order : RisexPlaceOrder) : (orderFields order).Pairwise Field.Apart := by
  simp [orderFields, Field.Apart]

lemma orderFields_end (order : RisexPlaceOrder) :
    ∀ g ∈ orderFields order, g.offset + g.width ≤ 88 := by
  simp [orderFields]

/-- Every field of a validated order fits its place. -/
lemma ValidOrder.fits {order : RisexPlaceOrder} (h : ValidOrder order) :
    ∀ g ∈ orderFields order, g.Fits := by
  have hmarket : order.marketId.toNat < 2 ^ 16 := by
    have := h.marketId
    omega
  have hsize : order.sizeSteps.toNat < 2 ^ 32 := by
    have := h.sizeSteps
    omega
  have hprice : order.priceTicks.toNat < 2 ^ 24 := by
    have := h.priceTicks
    omega
  have hbool : ∀ b : Bool, b.toNat < 2 ^ 1 := by decide
  simp only [orderFields, List.forall_mem_cons, Field.Fits]
  exact ⟨hmarket, hsize, hprice, h.side, hbool _, hbool _, h.stpMode, h.orderType, h.timeInForce,
    by decide, List.forall_mem_nil _⟩

/-- The word of a validated order fits 88 bits, so the last check of the encoding never fails. -/
lemma ValidOrder.word_lt {order : RisexPlaceOrder} (h : ValidOrder order) :
    orderWord order < 2 ^ 88 := by
  rw [orderWord_eq_pack]
  exact pack_lt h.fits (orderFields_end order)

/-- What the bit fields of a word say about an order. -/
structure OrderCore where
  marketId : ℤ
  sizeSteps : ℤ
  priceTicks : ℤ
  side : ℕ
  postOnly : Bool
  reduceOnly : Bool
  stpMode : ℕ
  orderType : ℕ
  timeInForce : ℕ
deriving DecidableEq, Repr

/-- The core fields of an order. -/
def RisexPlaceOrder.core (order : RisexPlaceOrder) : OrderCore :=
  { marketId := order.marketId
    sizeSteps := order.sizeSteps
    priceTicks := order.priceTicks
    side := order.side
    postOnly := order.postOnly
    reduceOnly := order.reduceOnly
    stpMode := order.stpMode
    orderType := order.orderType
    timeInForce := order.timeInForce }

/-- The core fields as they stand in a word. -/
def OrderCore.ofWord (word : ℕ) : OrderCore :=
  { marketId := bits 70 16 word
    sizeSteps := bits 38 32 word
    priceTicks := bits 14 24 word
    side := bits 6 1 word
    postOnly := bits 7 1 word == 1
    reduceOnly := bits 8 1 word == 1
    stpMode := bits 9 2 word
    orderType := bits 11 1 word
    timeInForce := bits 12 2 word }

/-- Reading the bit fields of the word gives the core fields of the order back. -/
lemma ValidOrder.ofWord_orderWord {order : RisexPlaceOrder} (h : ValidOrder order) :
    OrderCore.ofWord (orderWord order) = order.core := by
  have hread : ∀ f ∈ orderFields order, bits f.offset f.width (orderWord order) = f.value := by
    rw [orderWord_eq_pack]
    exact fun f hf => bits_pack h.fits (orderFields_apart order) hf
  have hbool : ∀ b : Bool, (b.toNat == 1) = b := by decide
  simp only [orderFields, List.forall_mem_cons] at hread
  obtain ⟨hmarket, hsize, hprice, hside, hpost, hreduce, hstp, htype, htif, -, -⟩ := hread
  have hmarketId := Int.toNat_of_nonneg h.marketId.1
  have hsizeSteps := Int.toNat_of_nonneg (le_trans zero_le_one h.sizeSteps.1)
  have hpriceTicks := Int.toNat_of_nonneg h.priceTicks.1
  simp only [OrderCore.ofWord, RisexPlaceOrder.core, hmarket, hsize, hprice, hside, hpost, hreduce,
    hstp, htype, htif, hbool, hmarketId, hsizeSteps, hpriceTicks]

/-! ## The preimage -/

/-- The encoding of a validated order is its word. -/
lemma ValidOrder.encodeOrderData88_eq {order : RisexPlaceOrder} (h : ValidOrder order) :
    encodeOrderData88 order = .ok (orderWord order) := by
  have hword : (decide (orderWord order < 2 ^ 88)) = true := decide_eq_true h.word_lt
  rw [encodeOrderData88, validateOrder_eq_ok.2 h]
  simp only [Fallible.require, hword]
  rfl

lemma headerFlags_lt (order : RisexPlaceOrder) : headerFlags order < 256 ^ 32 := by
  have hflags : headerFlags order < 2 ^ 5 := by
    apply Nat.or_lt_two_pow
    · apply Nat.or_lt_two_pow (by decide)
      by_cases h : order.clientOrderId = 0 <;> simp [h]
    · by_cases h : order.ttlUnits = 0 <;> simp [h]
  exact lt_trans hflags (by decide)

/-- The words of the preimage of a validated order. -/
lemma ValidOrder.placeOrderActionPreimage_eq {order : RisexPlaceOrder} (h : ValidOrder order)
    (actionTypeHash : List UInt8) :
    placeOrderActionPreimage actionTypeHash order =
      .ok (actionTypeHash ++ (abiWord (headerFlags order) ++ (abiWord (orderWord order) ++
        (abiWord 0 ++ (abiWord order.clientOrderId ++ abiWord order.ttlUnits))))) := by
  rw [placeOrderActionPreimage, h.encodeOrderData88_eq, computeProtocolHeaderFlags,
    validateOrder_eq_ok.2 h]
  rfl

/-- The core fields and the two fields outside the word are the whole order. -/
lemma RisexPlaceOrder.eq_of_core {order other : RisexPlaceOrder} (hcore : order.core = other.core)
    (hclient : order.clientOrderId = other.clientOrderId)
    (httl : order.ttlUnits = other.ttlUnits) : order = other := by
  cases order
  cases other
  simp only [RisexPlaceOrder.core, OrderCore.mk.injEq] at hcore
  simp only at hclient httl
  simp [hcore, hclient, httl]

/-- Two validated orders with one preimage are one order. -/
lemma ValidOrder.eq_of_preimage {order other : RisexPlaceOrder} (h : ValidOrder order)
    (hother : ValidOrder other) {actionTypeHash : List UInt8}
    (heq : placeOrderActionPreimage actionTypeHash order =
      placeOrderActionPreimage actionTypeHash other) : order = other := by
  have hword {o : RisexPlaceOrder} (ho : ValidOrder o) : orderWord o < 256 ^ 32 :=
    lt_trans ho.word_lt (by decide)
  have hclient {o : RisexPlaceOrder} (ho : ValidOrder o) : o.clientOrderId < 256 ^ 32 :=
    lt_trans ho.clientOrderId (by decide)
  have httl {o : RisexPlaceOrder} (ho : ValidOrder o) : o.ttlUnits < 256 ^ 32 :=
    lt_trans ho.ttlUnits (by decide)
  rw [h.placeOrderActionPreimage_eq, hother.placeOrderActionPreimage_eq, Except.ok.injEq,
    List.append_cancel_left_eq] at heq
  -- Word by word: the header flags, the order data, the builder id, and the two fields outside.
  obtain ⟨-, heq⟩ := (toBytes_append_inj (headerFlags_lt order) (headerFlags_lt other)).1 heq
  obtain ⟨hdata, heq⟩ := (toBytes_append_inj (hword h) (hword hother)).1 heq
  obtain ⟨hid, hunits⟩ :=
    (toBytes_append_inj (hclient h) (hclient hother)).1 ((List.append_cancel_left_eq _ _ _).mp heq)
  apply RisexPlaceOrder.eq_of_core
  · rw [← h.ofWord_orderWord, ← hother.ofWord_orderWord, hdata]
  · exact hid
  · exact (toBytes_inj (httl h) (httl hother)).1 hunits

/-- The encoding of an order is injective.  An order that passes the validation is encoded, its
word is below `2 ^ 88` and the bit fields of the word are the core fields of the order; and two
such orders have the same preimage exactly when they agree in every field. -/
theorem order_encoding_injective (actionTypeHash : List UInt8) {order : RisexPlaceOrder}
    (hvalid : validateOrder order = .ok ()) :
    (∃ word, encodeOrderData88 order = .ok word ∧ word < 2 ^ 88 ∧
        OrderCore.ofWord word = order.core) ∧
      ∀ other, validateOrder other = .ok () →
        (placeOrderActionPreimage actionTypeHash order =
            placeOrderActionPreimage actionTypeHash other ↔ order = other) := by
  have h : ValidOrder order := validateOrder_eq_ok.1 hvalid
  refine ⟨⟨orderWord order, h.encodeOrderData88_eq, h.word_lt, h.ofWord_orderWord⟩, ?_⟩
  intro other hother
  constructor
  · intro heq
    exact h.eq_of_preimage (validateOrder_eq_ok.1 hother) heq
  · rintro rfl
    rfl

/-- A reduce-only IOC sell of 1500 steps with its client order id. -/
def sampleOrder : RisexPlaceOrder :=
  { marketId := 3
    sizeSteps := 1500
    priceTicks := 64000
    side := 1
    postOnly := false
    reduceOnly := true
    stpMode := 0
    orderType := 1
    timeInForce := 3
    clientOrderId := 77
    ttlUnits := 0 }

theorem order_encoding_injective_sample :
    ∃ word, encodeOrderData88 sampleOrder = .ok word ∧ word < 2 ^ 88 ∧
      OrderCore.ofWord word = sampleOrder.core :=
  (order_encoding_injective [] (by decide)).1

end HyperCopy
