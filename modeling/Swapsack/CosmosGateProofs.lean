import Swapsack.VerifyProofs

/-! # The Cosmos gates against the serialized body

    The gates are meant to bind what was actually serialized: they are given
    what the body decodes to.  But the decoders look at the first occurrence of
    a few fields, and a chain executes every message, takes the last occurrence
    of a repeated field and honours the outer memo.  So a body that passes is
    the one intended exactly when it is the encoding of one message and nothing
    else. -/

namespace SwapsackCosmosGate

open ByteString PyText Wire SwapsackBase SwapsackCosmosTx SwapsackVerify

/-- The body is one `MsgSend`, as the wallet encodes it, and no memo. -/
def SingleSend (body : Bytes) : Prop :=
  ∃ fromAddr toAddr denom amount,
    body = txBody [(msgSendTypeUrl, msgSend fromAddr toAddr denom amount)] ""

/-- The body is one `MsgDeposit`, as the wallet encodes it, and no outer memo. -/
def SingleDeposit (body : Bytes) : Prop :=
  ∃ coins memo signer,
    body = txBody [(msgDepositTypeUrl, msgDeposit coins memo signer)] ""

/-- The body the send plan is for. -/
def sendBody (plan : CosmosSendPlan) : Bytes :=
  txBody [(msgSendTypeUrl,
    msgSend plan.fromAddr plan.recipient plan.denom plan.amount)] ""

/-- The body the deposit plan is for. -/
def depositBody (plan : CosmosDepositPlan) : Bytes :=
  txBody [(msgDepositTypeUrl,
    msgDeposit [(plan.asset, plan.amount)] plan.memo plan.signer)] ""

/-- A single canonical send that passes is the body of the plan. -/
theorem sendBody_of_single {body : Bytes} {decoded : DecodedSend}
    {plan : CosmosSendPlan} (hdecoded : decodeMsgSendBody body = .ok decoded)
    (hgate : verifyCosmosSend decoded plan = []) (hsingle : SingleSend body) :
    body = sendBody plan := by
  obtain ⟨fromAddr, toAddr, denom, amount, rfl⟩ := hsingle
  have hbuilt := decodeMsgSendBody_txBody hdecoded
  rw [verifyCosmosSend_eq_nil.mp hgate] at hbuilt
  obtain ⟨-, hfrom, hto, hdenom, hamount, -⟩ := DecodedSend.mk.injEq .. ▸ hbuilt
  rw [sendBody, hfrom, hto, hdenom, hamount]

/-- And so is a single canonical deposit. -/
theorem depositBody_of_single [PyUnicode] {body : Bytes} {decoded : DecodedDeposit}
    {plan : CosmosDepositPlan} {now : ℤ}
    (hdecoded : decodeMsgDepositBody body = .ok decoded)
    (hgate : verifyCosmosDeposit decoded plan now = []) (hsingle : SingleDeposit body) :
    body = depositBody plan := by
  obtain ⟨coins, memo, signer, rfl⟩ := hsingle
  have hbuilt := decodeMsgDepositBody_txBody hdecoded
  obtain ⟨-, hplan, -⟩ := verifyCosmosDeposit_eq_nil.mp hgate
  rw [hbuilt] at hplan
  obtain ⟨-, hcoins, hmemo, hsigner, -⟩ := DecodedDeposit.mk.injEq .. ▸ hplan
  rw [depositBody, hcoins, hmemo, Value.bytes.inj hsigner]

/-- **The gates bind single messages.**  A body that decodes and passes is the
    planned one exactly when it is the encoding of a single message with an
    empty outer memo — of any such message. -/
theorem cosmosGates_bind_iff (body : Bytes) :
    (∀ (decoded : DecodedSend) (plan : CosmosSendPlan),
      decodeMsgSendBody body = .ok decoded → verifyCosmosSend decoded plan = [] →
      (body = sendBody plan ↔ SingleSend body))
    ∧ ∀ (U : PyUnicode) (decoded : DecodedDeposit) (plan : CosmosDepositPlan) (now : ℤ),
      decodeMsgDepositBody body = .ok decoded →
      @verifyCosmosDeposit U decoded plan now = [] →
      (body = depositBody plan ↔ SingleDeposit body) := by
  constructor
  · intro decoded plan hdecoded hgate
    constructor
    · rintro rfl
      exact ⟨_, _, _, _, rfl⟩
    · exact sendBody_of_single hdecoded hgate
  · intro U decoded plan now hdecoded hgate
    constructor
    · rintro rfl
      exact ⟨_, _, _, rfl⟩
    · exact depositBody_of_single hdecoded hgate

/-! ## Bodies the gates let through -/

/-- A send of five cacao. -/
def rentPlan : CosmosSendPlan :=
  { fromAddr := "maya1me", recipient := "maya1shop", denom := "cacao", amount := "5" }

/-- That send, as it is decoded. -/
def rentDecoded : DecodedSend :=
  { typeUrl := msgSendTypeUrl, fromAddr := "maya1me", toAddr := "maya1shop"
    denom := "cacao", amount := "5", memo := "" }

/-- A second message after the planned one. -/
def rentAndMore : Bytes :=
  txBody [(msgSendTypeUrl, msgSend "maya1me" "maya1shop" "cacao" "5"),
    (msgSendTypeUrl, msgSend "maya1me" "maya1thief" "cacao" "900")] ""

theorem cosmosGates_bind_iff_rent :
    sendBody rentPlan = sendBody rentPlan ↔ SingleSend (sendBody rentPlan) :=
  (cosmosGates_bind_iff (sendBody rentPlan)).1 rentDecoded rentPlan
    (by decide +kernel) (by decide +kernel)

/-- A body with a second message passes the send gate. -/
theorem verifyCosmosSend_passes_second_message :
    ¬ ∀ (body : Bytes) (decoded : DecodedSend) (plan : CosmosSendPlan),
      decodeMsgSendBody body = .ok decoded → verifyCosmosSend decoded plan = [] →
      body = sendBody plan := by
  intro h
  have hsame := h rentAndMore rentDecoded rentPlan (by decide +kernel)
    (by decide +kernel)
  have hdiff : rentAndMore ≠ sendBody rentPlan := by decide +kernel
  exact hdiff hsame

end SwapsackCosmosGate
