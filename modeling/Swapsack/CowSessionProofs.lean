import Swapsack.CowProofs
import Swapsack.EvmSweepProofs
import Swapsack.ExecuteProofs
import Swapsack.PollingProofs

/-! # Selling by signed order

    Once a sale is prepared its order is gated, the user is asked, the allowance is raised
    and mined, and the order is signed and posted.  A session is followed by everything
    that is said, typed and offered.

    * `waitForReceipt_adds` — the wait for the approval, poll by poll;
    * `sellConfirmed_adds` — the courses a confirmed sale takes;
    * `sellViaCow_safe` — at most one order goes out, as the last thing, gated and consented
      to, in time, and behind an allowance that is there;
    * `swapViaCow_offer` — and it is for what was asked. -/

namespace SwapsackCowSession

open Failover ListKit Outbox Polling PyJson PyText SwapsackAllowance SwapsackBackends
open SwapsackCow SwapsackEvm SwapsackEvmVault SwapsackExecute SwapsackHttp SwapsackQuoteParsing
open SwapsackSymmetric Trace

/-! ## What is sent, and what it draws -/

/-- A raw transaction, a look for its receipt, or an order. -/
inductive CowPost where
  | tx (post : Post)
  | receipt (post : Post)
  | order (url : String) (json : Json)

def CowPost.isReceipt : CowPost → Bool
  | .receipt _ => true
  | _ => false

/-- What a sale raises: an adapter's exceptions, and `CowError`. -/
inductive CowFailure where
  | chain (e : Failure)
  | cow (text : String)

/-- `isinstance(exc, BroadcastError)`. -/
def CowFailure.isBroadcast : CowFailure → Bool
  | .chain (.broadcastError _) | .chain (.rejected ..) | .chain (.partialSymmetricAdd ..) => true
  | _ => false

/-- `isinstance(exc, (CowError, *HTTP_ERRORS))`. -/
def CowFailure.isOrder : CowFailure → Bool
  | .cow _ => true
  | .chain (.http (.python _)) => false
  | .chain (.http _) => true
  | .chain _ => false

/-- What reading an answer raises. -/
def readCow {α : Type} (x : Except PyExc α) : Except CowFailure α :=
  x.mapError fun e => .chain (.http (.python e))

/-- `CowClient._json_or_error`. -/
def jsonOrError (repr : Json → String) (reply : Reply) : Except CowFailure Json :=
  match reply with
  | .failed => .error (.chain (.http .transient))
  | .answered a =>
      if 400 ≤ a.status then
        match a.body with
        | some payload => do
            let errorType ← readCow (payload.getD "errorType" (.int a.status))
            let description ← readCow (payload.getD "description" (.str a.text))
            .error (.cow s!"{pyStr repr errorType}: {pyStr repr description}")
        | none => .error (.chain (.http
            (if a.status < 600 then .httpStatus a.status else .notJson)))
      else
        match a.body with
        | some payload => .ok payload
        | none => .error (.chain (.http .notJson))

/-- What a poll shows: a receipt, nothing yet, or what is no error of the node. -/
def receiptLook (reply : Reply) : Except CowFailure (Option Json) :=
  match rpcResult "eth_getTransactionReceipt" reply with
  | .ok .null => .ok none
  | .ok receipt => .ok (some receipt)
  | .error e => if e.isRuntimeError || isCaught e then .ok none else .error (.chain e)

/-- What a raw transaction is taken for. -/
def txVerdict (reply : Reply) : Except CowFailure Json := (ethVerdict reply).mapError .chain

/-! ## The sale -/

/-- `str(txid)` is looked for. -/
def receiptPost (rpcUrl : String) (txid : String) : CowPost :=
  .receipt
    { leg := .asset
      url := rpcUrl
      json := .obj [("jsonrpc", .str "2.0"), ("id", .int 1),
        ("method", .str "eth_getTransactionReceipt"), ("params", .arr [.str txid])] }

/-- The seconds between two polls, and those a receipt is waited for. -/
def pollInterval : ℚ := 3
def receiptTimeout : ℚ := 120

/-- A prepared sale: the quote as the order keeps it, what the plan binds, and the
    approvals with their gate's problems. -/
structure CowOffer where
  quote : CowQuote
  quoteId : Option Json
  toleranceBps : ℤ := defaultCowToleranceBps
  sellToken : String
  buyToken : String
  receiver : String
  sellAmount : ℤ
  approvals : List EvmTx
  approvalProblems : List String

def CowOffer.order (offer : CowOffer) : Order := buildOrder offer.quote offer.toleranceBps

/-- `int(order["buyAmount"])`. -/
def CowOffer.floor (offer : CowOffer) : ℤ :=
  offer.quote.buyAmount * (10000 - offer.toleranceBps) / 10000

def CowOffer.plan (offer : CowOffer) : CowOrderPlan where
  sellToken := offer.sellToken
  buyToken := offer.buyToken
  receiver := offer.receiver
  sellAmount := offer.sellAmount
  minBuyAmount := offer.floor
  expiry := offer.quote.validTo

/-- The wallet's side of a sale: its node and keys, and the address it sells from. -/
structure CowSeller where
  adapter : EthAdapter EvmTx
  fromAddress : String
  signTypedData : TypedData → Except String String
  baseUrl : String
  -- the interpreter's `str` and `repr` of a value
  shown : Json → String
  str : Option Json → String
  repr : Option Json → String
  showError : CowFailure → String

/-- The body of an order: the order itself, its signature and who it is from. -/
def orderPayload (seller : CowSeller) (offer : CowOffer) (signature : String) : Json :=
  let payload := offer.order ++
    [("signingScheme", .str "eip712"), ("signature", .str signature),
      ("from", .str seller.fromAddress)]
  match offer.quoteId with
  | none => .obj payload
  | some quoteId => .obj (payload ++ [("quoteId", quoteId)])

def cowWording : Wording where
  gateFailed := "VERIFY GATE FAILED — not safe to sign:"
  dryRun := "\nDRY RUN — verified OK, not signed/submitted. Re-run with --confirm to send."
  prompt := "\nSign and submit the CoW order shown above? type 'yes': "
  declined := "aborted, not submitted."

section Sell

variable [PyUnicode] {N : Type} (serve : CowPost → N → Reply × N)
  (clock : Clock pollInterval) (seller : CowSeller) (offer : CowOffer)

/-- `sign_cow_order`. -/
def signCowOrder : Except CowFailure String := do
  let data ← readCow (orderTypedData seller.shown offer.order)
  (seller.signTypedData data).mapError fun text => .chain (.signing text)

def waitForReceipt (txid : String) : EStateM CowFailure (Wire CowPost Reply N) (Option Json) :=
  pollFrom serve receiptLook clock (clock.start + receiptTimeout)
    (receiptPost seller.adapter.rpcUrl txid) 0

/-- Sign the order and post it. -/
def placeOrder : EStateM (Raised CowFailure) (Session CowPost Reply N) ℤ := do
  let signature ← onWire (signed (signCowOrder seller offer))
  catching CowFailure.isOrder
    (onWire (offerAll serve (jsonOrError seller.shown) .null
      [.order (seller.baseUrl ++ "/orders") (orderPayload seller offer signature)]))
    (fun e => do
      warn s!"ORDER SUBMIT FAILED: {seller.showError e}"
      pure 1)
    fun answer => do
      let uid := pyStr seller.shown answer
      say s!"\nORDER submitted, uid: {uid}"
      say s!"track: swapsack status {uid}"
      pure 0

/-- What the wait came to: the order goes out behind a receipt that does not say that
    the approval was reverted. -/
def receiptFound (found : Option Json) :
    EStateM (Raised CowFailure) (Session CowPost Reply N) ℤ :=
  match found with
  | none => do
      warn <| "TIMED OUT waiting for the approval to mine. It is still " ++
        "pending — once it confirms, re-run the same command: the " ++
        "allowance will already be in place, so no new approval is " ++
        "sent and the order goes straight out."
      pure 1
  | some receipt => do
      let status ← onWire (signed (readCow (receipt.getField "status")))
      if isField status "0x0" then do
        warn <| "ABORTED: the approval transaction reverted; allowance not " ++
          "set, order not submitted."
        pure 1
      else placeOrder serve seller offer

/-- Raise the allowance and see it mined, then place the order. -/
def approveThenPlace : EStateM (Raised CowFailure) (Session CowPost Reply N) ℤ := do
  let raws ← onWire (signed ((seller.adapter.sign offer.approvals).mapError .chain))
  catching CowFailure.isBroadcast
    (onWire (offerAll serve txVerdict (.str "") (raws.map fun raw => .tx (seller.adapter.post raw))))
    (fun e => do
      warn s!"BROADCAST FAILED (approval): {seller.showError e}"
      pure 1)
    fun txid => do
      say "approve: broadcast; waiting for it to mine before submitting…"
      let found ← onWire (waitForReceipt serve clock seller (pyStr seller.shown txid))
      receiptFound serve seller offer found

/-- A sale that was agreed to. -/
def sellConfirmed (time : ℤ) : EStateM (Raised CowFailure) (Session CowPost Reply N) ℤ :=
  if offer.quote.validTo ≤ time then do
    warn "ABORTED: order expired while confirming; re-run."
    pure 1
  else if offer.approvals = [] then placeOrder serve seller offer
  else approveThenPlace serve clock seller offer

/-- Both gates: the order against the plan, then the approvals. -/
def cowProblems (now : ℤ) : Except PyExc (List String) := do
  let problems ← verifyCowOrder offer.order offer.plan now
  pure (problems.map (fun p => p.text seller.str seller.repr) ++ offer.approvalProblems)

/-- The second half of `_swap_via_cow`: what was prepared is summed up, gated and asked
    about. -/
def sellViaCow (summary : List String) (args : Args) (line : Option String) (now time : ℤ) :
    EStateM (Raised CowFailure) (Session CowPost Reply N) ℤ := do
  let problems ← onWire (signed (readCow (cowProblems seller offer now)))
  sayAll summary
  askFirst cowWording problems args line (sellConfirmed serve clock seller offer time)

end Sell

/-! ## The courses of a sale -/

section Courses

variable [PyUnicode] {N : Type} (serve : CowPost → N → Reply × N) (clock : Clock pollInterval)
  (seller : CowSeller) (offer : CowOffer) (time : ℤ)

/-- The approvals went out, all of them taken, and what the wait for the last came to. -/
inductive Waited : List (CowPost × Reply) → Except CowFailure (Option Json) → Prop
  | intro {raws : List String} {approved polls : List (CowPost × Reply)} {txid : Json}
      {res : Except CowFailure (Option Json)}
      (hsign : seller.adapter.sign offer.approvals = .ok raws)
      (happroved : Went txVerdict (.str "") (raws.map fun raw => .tx (seller.adapter.post raw))
        approved (.ok txid))
      (hpolled : Polled receiptLook
        (receiptPost seller.adapter.rpcUrl (pyStr seller.shown txid)) polls res)
      (hpolls : polls.length ≤ 41) : Waited (approved ++ polls) res

/-- The allowance is there: it stood, or a receipt shows that it was not reverted. -/
inductive Ready : List (CowPost × Reply) → Prop
  | standing (h : offer.approvals = []) : Ready []
  | mined {sent : List (CowPost × Reply)} {receipt : Json} {status : Option Json}
      (hwaited : Waited seller offer sent (.ok (some receipt)))
      (hstatus : receipt.getField "status" = .ok status) (hmined : isField status "0x0" = false) :
      Ready sent

/-- What a confirmed sale offers, and how it ends. -/
inductive Sold : List (CowPost × Reply) → Except (Raised CowFailure) ℤ → Prop
  | idle {r : Except (Raised CowFailure) ℤ} (hr : r ≠ .ok 0) : Sold [] r
  | approving {raws : List String} {sent : List (CowPost × Reply)} {e : CowFailure}
      {r : Except (Raised CowFailure) ℤ} (hfresh : time < offer.quote.validTo)
      (hsign : seller.adapter.sign offer.approvals = .ok raws)
      (hwent : Went txVerdict (.str "") (raws.map fun raw => .tx (seller.adapter.post raw))
        sent (.error e)) (hr : r ≠ .ok 0) : Sold sent r
  | waited {sent : List (CowPost × Reply)} {res : Except CowFailure (Option Json)}
      {r : Except (Raised CowFailure) ℤ} (hfresh : time < offer.quote.validTo)
      (hwaited : Waited seller offer sent res) (hr : r ≠ .ok 0) : Sold sent r
  | ordered {before : List (CowPost × Reply)} {signature : String} {reply : Reply}
      {r : Except (Raised CowFailure) ℤ} (hfresh : time < offer.quote.validTo)
      (hready : Ready seller offer before) (hsigned : signCowOrder seller offer = .ok signature)
      (hr : r = .ok 0 ↔ ∃ answer, jsonOrError seller.shown reply = .ok answer) :
      Sold (before ++ [(.order (seller.baseUrl ++ "/orders")
        (orderPayload seller offer signature), reply)]) r

variable {serve clock seller offer time}

omit [PyUnicode] in
theorem failed_ne_done : (.ok 1 : Except (Raised CowFailure) ℤ) ≠ .ok 0 :=
  fun h => absurd (Except.ok.inj h) (by decide)

omit [PyUnicode] in
theorem raised_ne_done (e : Raised CowFailure) : (.error e : Except (Raised CowFailure) ℤ) ≠ .ok 0 :=
  fun h => (by cases h)

/-- **The order** is signed and posted, and its answer decides the exit code. -/
theorem placeOrder_adds {before : List (CowPost × Reply)} (hfresh : time < offer.quote.validTo)
    (hready : Ready seller offer before) :
    Adds Session.trace (placeOrder serve seller offer) fun r added =>
      Sold seller offer time (before ++ offers added) r := by
  unfold placeOrder
  refine adds_signed_bind (fun signature hsigned => ?_) fun e hsigned => ?_
  · refine adds_catching (adds_onWire (adds_offerAll serve _ _ _)) ?_ ?_ ?_ ?_
    · rintro answer added ⟨sent, res, rfl, hwent, hres⟩
      obtain ⟨reply, rfl, rfl⟩ := hwent.one
      cases hlook : jsonOrError seller.shown reply with
      | error e =>
          rw [hlook] at hres
          cases hres
      | ok answer' =>
          refine adds_happen_bind (adds_happen_bind (adds_pure ?_))
          exact .ordered hfresh hready hsigned (iff_of_true rfl ⟨_, hlook⟩)
    · rintro added ⟨sent, res, rfl, hwent, hres⟩
      cases res <;> cases hres
    · rintro e added ⟨sent, res, rfl, hwent, hres⟩ hcaught
      obtain ⟨reply, rfl, rfl⟩ := hwent.one
      refine adds_happen_bind (adds_pure ?_)
      refine .ordered hfresh hready hsigned (iff_of_false failed_ne_done ?_)
      rintro ⟨answer, hlook⟩
      rw [hlook] at hres
      cases hres
    · rintro e added ⟨sent, res, rfl, hwent, hres⟩ huncaught
      obtain ⟨reply, rfl, rfl⟩ := hwent.one
      refine .ordered hfresh hready hsigned (iff_of_false (raised_ne_done _) ?_)
      rintro ⟨answer, hlook⟩
      rw [hlook] at hres
      cases hres
  · rw [show offers ([] : List (Event CowPost Reply)) = [] from rfl, List.append_nil]
    cases hready with
    | standing => exact .idle (raised_ne_done _)
    | mined hwaited => exact .waited hfresh hwaited (raised_ne_done _)

/-- **Behind a wait** the order goes out only where the receipt allows it. -/
theorem receiptFound_adds {sent : List (CowPost × Reply)} {found : Option Json}
    (hfresh : time < offer.quote.validTo) (hwaited : Waited seller offer sent (.ok found)) :
    Adds Session.trace (receiptFound serve seller offer found) fun r added =>
      Sold seller offer time (sent ++ offers added) r := by
  have hquiet : ∀ {r : Except (Raised CowFailure) ℤ} {added : List (Event CowPost Reply)},
      offers added = [] → r ≠ .ok 0 → Sold seller offer time (sent ++ offers added) r := by
    intro r added hadded hr
    rw [hadded, List.append_nil]
    exact .waited hfresh hwaited hr
  unfold receiptFound
  cases found with
  | none => exact adds_happen_bind (adds_pure (hquiet rfl failed_ne_done))
  | some receipt =>
      refine adds_signed_bind (fun status hstatus => ?_) fun e _ => hquiet rfl (raised_ne_done _)
      refine Adds.ite (fun _ => ?_) fun hmined => ?_
      · exact adds_happen_bind (adds_pure (hquiet rfl failed_ne_done))
      · exact placeOrder_adds hfresh (.mined hwaited (mapError_eq_ok hstatus)
          (Bool.not_eq_true _ ▸ hmined))

omit [PyUnicode] in
/-- **The wait** is one of at most 41 polls. -/
theorem waitForReceipt_adds (txid : String) :
    Adds Wire.sent (waitForReceipt serve clock seller txid) fun res sent =>
      Polled receiptLook (receiptPost seller.adapter.rpcUrl txid) sent res
        ∧ sent.length ≤ 41 := by
  refine (adds_poll serve receiptLook clock _ _ 0).mono fun res sent hpolled => ?_
  refine ⟨hpolled.1, hpolled.2.1.trans ?_⟩
  have hleft : clock.left (clock.start + receiptTimeout) 0 ≤ 40 := by
    rw [Clock.left, Nat.ceil_le, div_le_iff₀ clock.positive]
    have hfirst := clock.first
    unfold receiptTimeout pollInterval
    push_cast
    linarith
  omega

theorem approveThenPlace_adds (hfresh : time < offer.quote.validTo) :
    Adds Session.trace (approveThenPlace serve clock seller offer) fun r added =>
      Sold seller offer time (offers added) r := by
  unfold approveThenPlace
  refine adds_signed_bind (fun raws hraws => ?_) fun e _ => .idle (raised_ne_done _)
  have hsign := mapError_eq_ok hraws
  refine adds_catching (adds_onWire (adds_offerAll serve _ _ _)) ?_ ?_ ?_ ?_
  · rintro txid added ⟨sent, res, rfl, hwent, hres⟩
    cases res with
    | error e => cases hres
    | ok txid' =>
        cases hres
        refine adds_happen_bind ?_
        -- only behind a receipt is an order placed; without one the wait is the last thing
        refine (adds_onWire (waitForReceipt_adds _)).bind ?_ ?_
        · rintro found added ⟨polls, res, rfl, ⟨hpolled, hpolls⟩, hres⟩
          cases res with
          | error e => cases hres
          | ok found' =>
              cases hres
              refine (receiptFound_adds hfresh (.intro hsign hwent hpolled hpolls)).mono ?_
              intro r more hsold
              rw [offers_append, offers_offered, ← List.singleton_append, offers_append,
                offers_append, offers_offered]
              change Sold seller offer time (sent ++ ([] ++ (polls ++ offers more))) r
              rw [List.nil_append, ← List.append_assoc]
              exact hsold
        · rintro raised added ⟨polls, res, rfl, ⟨hpolled, hpolls⟩, hres⟩
          rw [offers_append, offers_offered, ← List.singleton_append, offers_append,
            offers_offered]
          exact .waited hfresh (.intro hsign hwent hpolled hpolls) (raised_ne_done _)
  · rintro added ⟨sent, res, rfl, hwent, hres⟩
    cases res <;> cases hres
  · rintro e added ⟨sent, res, rfl, hwent, hres⟩ hcaught
    cases res with
    | ok txid => cases hres
    | error e' =>
        refine adds_happen_bind (adds_pure ?_)
        rw [offers_append, offers_offered]
        exact (List.append_nil sent).symm ▸ .approving hfresh hsign hwent failed_ne_done
  · rintro e added ⟨sent, res, rfl, hwent, hres⟩ huncaught
    cases res with
    | ok txid => cases hres
    | error e' =>
        rw [offers_offered]
        exact .approving hfresh hsign hwent (raised_ne_done _)

/-- **A confirmed sale** takes one of these courses. -/
theorem sellConfirmed_adds :
    Adds Session.trace (sellConfirmed serve clock seller offer time) fun r added =>
      Sold seller offer time (offers added) r := by
  rw [sellConfirmed]
  refine Adds.ite (fun _ => ?_) fun hfresh => Adds.ite (fun hstanding => ?_) fun _ => ?_
  · exact adds_happen_bind (adds_pure (.idle failed_ne_done))
  · exact placeOrder_adds (not_le.mp hfresh) (.standing hstanding)
  · exact approveThenPlace_adds (not_le.mp hfresh)

/-! ## What a sale does in what order -/

section Order

variable {sent pre post : List (CowPost × Reply)} {r : Except (Raised CowFailure) ℤ}

omit [PyUnicode] in
/-- Waiting posts no order. -/
theorem Waited.no_order {res : Except CowFailure (Option Json)}
    (h : Waited seller offer sent res) : ∀ p ∈ sent, ∀ url json, p.1 ≠ .order url json := by
  rintro p hp url json hkind
  cases h with
  | intro _ happroved hpolled =>
      rcases List.mem_append.mp hp with hp | hp
      · obtain ⟨raw, -, hraw⟩ := List.mem_map.mp (happroved.mem p hp)
        rw [← hraw] at hkind
        cases hkind
      · rw [hpolled.all p hp] at hkind
        cases hkind

omit [PyUnicode] in
theorem Ready.no_order (h : Ready seller offer sent) :
    ∀ p ∈ sent, ∀ url json, p.1 ≠ .order url json := by
  cases h with
  | standing => exact fun p hp => absurd hp List.not_mem_nil
  | mined hwaited => exact hwaited.no_order

/-- Nothing is offered but in time. -/
theorem Sold.fresh (h : Sold seller offer time sent r) (hsent : sent ≠ []) :
    time < offer.quote.validTo := by
  cases h with
  | idle => exact absurd rfl hsent
  | approving hfresh | waited hfresh | ordered hfresh => exact hfresh

/-- **An order is the last thing offered**, behind an allowance that is there. -/
theorem Sold.order {url : String} {json : Json} {reply : Reply}
    (h : Sold seller offer time sent r) (hsent : sent = pre ++ (.order url json, reply) :: post) :
    post = [] ∧ Ready seller offer pre ∧ url = seller.baseUrl ++ "/orders"
      ∧ (∃ signature, signCowOrder seller offer = .ok signature
        ∧ json = orderPayload seller offer signature)
      ∧ (r = .ok 0 ↔ ∃ answer, jsonOrError seller.shown reply = .ok answer) := by
  have hmem : (.order url json, reply) ∈ sent :=
    hsent ▸ List.mem_append_right pre List.mem_cons_self
  cases h with
  | idle => exact absurd hmem List.not_mem_nil
  | approving _ _ hwent =>
      obtain ⟨raw, -, hraw⟩ := List.mem_map.mp (hwent.mem _ hmem)
      cases hraw
  | waited _ hwaited => exact absurd rfl (hwaited.no_order _ hmem url json)
  | @ordered before signature reply' _ _ hready hsigned hr =>
      obtain ⟨mid, hpre, hlast⟩ :=
        split_behind (fun hbefore => hready.no_order _ hbefore url json rfl) hsent
      cases mid with
      | nil =>
          cases hlast
          rw [List.append_nil] at hpre
          exact ⟨rfl, hpre ▸ hready, rfl, ⟨signature, hsigned, rfl⟩, hr⟩
      | cons p mid => simp at hlast

omit [PyUnicode] in
/-- Approvals go out in turn, each behind ones that were taken. -/
theorem Waited.tx {res : Except CowFailure (Option Json)} {raw : Post} {reply : Reply}
    (h : Waited seller offer sent res) (hsent : sent = pre ++ (.tx raw, reply) :: post) :
    ∃ raws rest, seller.adapter.sign offer.approvals = .ok raws
      ∧ raws.map (fun raw => CowPost.tx (seller.adapter.post raw))
        = pre.map Prod.fst ++ .tx raw :: rest
      ∧ ∀ p ∈ pre, ∃ txid, txVerdict p.2 = .ok txid := by
  cases h with
  | intro hsign happroved hpolled =>
      have hno : (CowPost.tx raw, reply) ∉ _ := fun hmem => by cases hpolled.all _ hmem
      obtain ⟨mid, happ, -⟩ := split_before hno hsent
      obtain ⟨⟨rest, hrest⟩, htaken⟩ := happroved.before happ
      exact ⟨_, rest, hsign, hrest, htaken⟩

theorem Sold.tx {raw : Post} {reply : Reply} (h : Sold seller offer time sent r)
    (hsent : sent = pre ++ (.tx raw, reply) :: post) :
    ∃ raws rest, seller.adapter.sign offer.approvals = .ok raws
      ∧ raws.map (fun raw => CowPost.tx (seller.adapter.post raw))
        = pre.map Prod.fst ++ .tx raw :: rest
      ∧ ∀ p ∈ pre, ∃ txid, txVerdict p.2 = .ok txid := by
  cases h with
  | idle => exact absurd hsent (by simp)
  | approving _ hsign hwent =>
      obtain ⟨⟨rest, hrest⟩, htaken⟩ := hwent.before hsent
      exact ⟨_, rest, hsign, hrest, htaken⟩
  | waited _ hwaited => exact hwaited.tx hsent
  | ordered _ hready =>
      obtain ⟨mid, hbefore, -⟩ := split_before (by simp) hsent
      cases hready with
      | standing => exact absurd hbefore (by simp)
      | mined hwaited => exact hwaited.tx hbefore

/-- An exit code of 0 is an order that was taken. -/
theorem Sold.done (h : Sold seller offer time sent (.ok 0)) :
    ∃ url json reply answer, (.order url json, reply) ∈ sent
      ∧ jsonOrError seller.shown reply = .ok answer := by
  cases h with
  | idle hr | approving _ _ _ hr | waited _ _ hr => exact absurd rfl hr
  | ordered _ _ _ hr =>
      obtain ⟨answer, hanswer⟩ := hr.mp rfl
      exact ⟨_, _, _, answer, List.mem_append_right _ List.mem_cons_self, hanswer⟩

omit [PyUnicode] in
theorem Waited.polls {res : Except CowFailure (Option Json)} (h : Waited seller offer sent res) :
    sent.countP (fun p => p.1.isReceipt) ≤ 41 := by
  cases h with
  | intro _ happroved _ hpolls =>
      rw [List.countP_append, List.countP_eq_zero.mpr, Nat.zero_add]
      · exact List.countP_le_length.trans hpolls
      · intro p hp
        obtain ⟨raw, -, hraw⟩ := List.mem_map.mp (happroved.mem p hp)
        rw [← hraw]
        exact Bool.false_ne_true

/-- A receipt is looked for at most 41 times. -/
theorem Sold.polls (h : Sold seller offer time sent r) :
    sent.countP (fun p => p.1.isReceipt) ≤ 41 := by
  cases h with
  | idle => exact Nat.zero_le _
  | approving _ _ hwent =>
      rw [List.countP_eq_zero.mpr]
      · exact Nat.zero_le _
      · intro p hp
        obtain ⟨raw, -, hraw⟩ := List.mem_map.mp (hwent.mem p hp)
        rw [← hraw]
        exact Bool.false_ne_true
  | waited _ hwaited => exact hwaited.polls
  | ordered _ hready =>
      rw [List.countP_append]
      cases hready with
      | standing => exact Nat.zero_le _
      | mined hwaited => exact hwaited.polls

end Order

/-! ## The whole sale -/

/-- An empty gate binds every field of the order, and the approvals. -/
theorem cowProblems_nil {now : ℤ} (h : cowProblems seller offer now = .ok []) :
    OrderBound offer.order offer.plan now ∧ offer.approvalProblems = [] := by
  obtain ⟨problems, hverify, h⟩ := bind_eq_ok h
  obtain ⟨horder, happrovals⟩ := List.append_eq_nil_iff.mp (Except.ok.inj h)
  rw [List.map_eq_nil_iff.mp horder] at hverify
  exact ⟨verifyCowOrder_ok.mp hverify, happrovals⟩

/-- A sale is summed up, asked about, and if allowed executed. -/
theorem sellViaCow_adds (summary : List String) (args : Args) (line : Option String) (now : ℤ) :
    Adds Session.trace (sellViaCow serve clock seller offer summary args line now time)
      fun r added => (added = [] ∧ r ≠ .ok 0)
        ∨ ∃ problems more, cowProblems seller offer now = .ok problems
          ∧ added = summary.map .out ++ more
          ∧ Asked cowWording problems args line
            (fun r behind => Sold seller offer time (offers behind) r) r more := by
  refine adds_signed_bind (fun problems hproblems => ?_) fun e _ => Or.inl ⟨rfl, raised_ne_done _⟩
  refine adds_happenAll_bind _ ?_
  refine (askFirst_adds cowWording problems args line fun _ => sellConfirmed_adds).mono ?_
  intro r more hasked
  exact Or.inr ⟨problems, more, mapError_eq_ok hproblems, rfl, hasked⟩

/-- **What a sale does**: every offer is gated, consented to and in time; approvals go out
    in turn; at most one order goes out, as the last thing offered, for an allowance that
    is there, bound by the plan and signed; a receipt is looked for at most 41 times; and
    success is reported exactly of an order that was taken. -/
theorem sellViaCow_safe (serve : CowPost → N → Reply × N) (clock : Clock pollInterval)
    (seller : CowSeller) (offer : CowOffer) (summary : List String) (args : Args)
    (line : Option String) (now time : ℤ) (s : Session CowPost Reply N) :
    let run := sellViaCow serve clock seller offer summary args line now time s
    ∃ added, (final run).trace = s.trace ++ added
      ∧ (∀ before m r behind, added = before ++ .offered m r :: behind →
        (∃ problems, cowProblems seller offer now = .ok problems ∧ Allowed problems args before)
        ∧ time < offer.quote.validTo)
      ∧ (∀ before raw r behind, added = before ++ .offered (.tx raw) r :: behind →
        ∃ raws rest, seller.adapter.sign offer.approvals = .ok raws
          ∧ raws.map (fun raw => CowPost.tx (seller.adapter.post raw))
            = (offers before).map Prod.fst ++ .tx raw :: rest
          ∧ ∀ p ∈ offers before, ∃ txid, txVerdict p.2 = .ok txid)
      ∧ (∀ before url json r behind, added = before ++ .offered (.order url json) r :: behind →
        offers behind = [] ∧ Ready seller offer (offers before)
        ∧ OrderBound offer.order offer.plan now
        ∧ (∃ signature, signCowOrder seller offer = .ok signature
          ∧ json = orderPayload seller offer signature)
        ∧ (outcome run = .ok 0 ↔ ∃ answer, jsonOrError seller.shown r = .ok answer))
      ∧ (offers added).countP (fun p => p.1.isReceipt) ≤ 41
      ∧ (outcome run = .ok 0 → offers added ≠ [] →
        ∃ url json r answer, (.order url json, r) ∈ offers added
          ∧ jsonOrError seller.shown r = .ok answer) := by
  intro run
  have hadds : Adds Session.trace (sellViaCow serve clock seller offer summary args line now time)
    _ := sellViaCow_adds summary args line now
  obtain ⟨added, htrace, hsale⟩ := hadds s
  refine ⟨added, htrace, ?_⟩
  change _ ∧ outcome run ≠ .ok 0 ∨ ∃ problems more, _ ∧ _
    ∧ Asked cowWording problems args line _ (outcome run) more at hsale
  rcases hsale with ⟨rfl, hr⟩ | ⟨problems, more, hproblems, rfl, hasked⟩
  · exact ⟨fun _ _ _ _ h => absurd h (not_offered rfl), fun _ _ _ _ h => absurd h (not_offered rfl),
      fun _ _ _ _ _ h => absurd h (not_offered rfl), Nat.zero_le _, fun h => absurd h hr⟩
  generalize hr : outcome run = r at hasked
  rcases hasked.offered (offers_out summary) with hnone | ⟨hgate, behind, hsold, hoffers, hallowed⟩
  · exact ⟨fun _ _ _ _ h => absurd h (not_offered hnone),
      fun _ _ _ _ h => absurd h (not_offered hnone),
      fun _ _ _ _ _ h => absurd h (not_offered hnone), hnone ▸ Nat.zero_le _,
      fun _ h => absurd hnone h⟩
  have hsent : ∀ pre m r post, summary.map .out ++ more = pre ++ .offered m r :: post →
      offers behind = offers pre ++ (m, r) :: offers post :=
    fun pre m r post hadded => hoffers ▸ offers_split hadded
  rw [hoffers]
  refine ⟨fun pre m r post hadded => ?_, fun pre raw r post hadded => ?_,
    fun pre url json r post hadded => ?_, hsold.polls, fun hdone _ => ?_⟩
  · have hbehind := hsent _ _ _ _ hadded
    exact ⟨⟨problems, hproblems, hallowed _ _ _ _ hadded⟩, hsold.fresh (by simp [hbehind])⟩
  · exact hsold.tx (hsent _ _ _ _ hadded)
  · obtain ⟨hlast, hready, -, hsigned, hdone⟩ := hsold.order (hsent _ _ _ _ hadded)
    exact ⟨hlast, hready, (cowProblems_nil (hgate ▸ hproblems)).1, hsigned, hdone⟩
  · exact Sold.done (hdone ▸ hsold)

end Courses

/-! ## Sales that were prepared -/

section Prepared

/-- What a parsed quote keeps for its order. -/
def cowQuoteOf (quote : ParsedCowQuote) : CowQuote where
  sellToken := quote.sellToken
  buyToken := quote.buyToken
  receiver := quote.receiver
  sellAmount := quote.sellAmount
  feeAmount := quote.feeAmount
  buyAmount := quote.buyAmount
  validTo := quote.validTo

/-- `if quote_id is not None`. -/
def quoteIdOf : Json → Option Json
  | .null => none
  | v => some v

/-- What a prepared sale offers; its approvals come with what their gate found. -/
def saleOffer (sale : SwapsackEvm.CowSale) (approvalProblems : List String)
    (toleranceBps : Option ℤ) : CowOffer where
  quote := cowQuoteOf sale.quote
  quoteId := quoteIdOf sale.quote.quoteId
  toleranceBps := toleranceBps.getD defaultCowToleranceBps
  sellToken := sale.sellToken
  buyToken := sale.buyToken
  receiver := sale.receiver
  sellAmount := sale.sellAmount
  approvals := sale.approvals.txs
  approvalProblems := approvalProblems

/-- **A prepared sale** binds its order to what was asked for, and grants the relayer what
    the order sells. -/
theorem swapViaCow_offer [PyUnicode] {ad : EvmAdapter} {venues : SwapsackEvmSweep.Venues}
    {args : SwapsackEvmSweep.SwapArgs} {backend : SwapBackend}
    {request : SwapsackPrepare.SwapRequest} {fees : Gas} {prepared : SwapsackEvm.Prepared}
    (h : SwapsackEvmSweep.swapViaCow ad venues args backend request fees = .ok prepared)
    (toleranceBps : Option ℤ) :
    ∃ sale problems, prepared.built = .sale sale ∧ prepared.problems = problems.map .text
      ∧ (∃ sellDecimals buyDecimals,
        cowAssets.lookup request.fromAsset
          = some ((saleOffer sale problems toleranceBps).plan.sellToken, sellDecimals)
        ∧ cowAssets.lookup request.toAsset
          = some ((saleOffer sale problems toleranceBps).plan.buyToken, buyDecimals)
        ∧ (saleOffer sale problems toleranceBps).plan.sellAmount
          = sellUnits request.amount sellDecimals)
      ∧ (saleOffer sale problems toleranceBps).plan.receiver = request.destination
      ∧ ∃ allowance : ℕ, buildAndVerifyApprovals ad.abi ad.lib ad.chainId
          sale.sellToken SwapsackEvmSweep.vaultRelayer sale.sellAmount allowance fees
          SwapsackEvmSweep.ethMaxFeeWei = .ok (sale.approvals, problems) := by
  rw [SwapsackEvmSweep.swapViaCow] at h
  split at h
  · cases h
  · obtain ⟨⟨sellToken, sellDecimals⟩, hsell, h⟩ := bind_eq_ok h
    obtain ⟨⟨buyToken, buyDecimals⟩, hbuy, h⟩ := bind_eq_ok h
    obtain ⟨quote, -, h⟩ := bind_eq_ok h
    obtain ⟨contract, -, h⟩ := bind_eq_ok h
    obtain ⟨allowance, -, h⟩ := bind_eq_ok h
    obtain ⟨⟨approvals, problems⟩, happrovals, h⟩ := bind_eq_ok h
    cases h
    exact ⟨_, problems, rfl, rfl,
      ⟨sellDecimals, buyDecimals, SwapsackEvmSweep.listed_eq_ok hsell,
        SwapsackEvmSweep.listed_eq_ok hbuy, rfl⟩, rfl, allowance,
      SwapsackPrepare.orRaised_eq_ok happrovals⟩

end Prepared

end SwapsackCowSession
