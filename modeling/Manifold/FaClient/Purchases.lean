import Manifold.Lib.Machine
import Manifold.FaClient.SeatPurchase

/-!
# Runs of a purchase, one after the other

A run loads the row and drives the purchase, and is cut at any await, between which consensus decides payments.
-/

namespace Manifold.FaClient

open Guardian (QuoteId FederationId)
open Lib (Routine Task)

structure World where
  row : Option StoredGuardianTransfer
  wallet : Wallet := {}

inductive Event where
  /-- The wallet answered that no payment of the quote started. -/
  | proved (quoteId : QuoteId)
  | polled (reservation : PaymentReservation) (quote : VerifiedQuote)
  | wrote (write : GuardianTransferWrite)
  /-- The guardian signed an acceptance of the presented quote, which may have been lost. -/
  | accepted (quoteId : QuoteId)
  | refused (quoteId : QuoteId)
deriving DecidableEq

structure Outside where
  fault : Option CallFault := none
  walletError : Option String := none
  /-- A call that failed took effect nevertheless. -/
  lands : Bool := false
  nowSecs : Nat := 0
  sign : Except String Unit := .ok ()
  writeError : Option FaError := none
  connect : Except Unit Unit := .ok ()
  availability : Except MgCause GetAvailabilityResponse := .error .transport
  quote : Except MgCause SignedResponse := .error .transport
  seat : Except MgCause SignedResponse := .error .transport
  policy : Option (List FederationId) := none
  payable : List FederationId := []
  refundIssuance : RefundIssuance := ⟨.mintV1, 0, []⟩
  signatures : List String := []
  generation : MintGeneration := .mintV1
  replay : Bool := true
  payment : Payment := .accepted

namespace Outside

variable (x : Outside)

def reply {α : Type} (a : α) : Except CallFault α :=
  match x.fault with
  | some fault => .error fault
  | none => .ok a

def walletFailure {α : Type} : Option (WalletCall α) :=
  match x.fault, x.walletError with
  | some fault, _ => some (.error fault)
  | none, some text => some (.ok (.error text))
  | none, none => none

def walletRead {α : Type} (answer : Option α) : Option (WalletCall α) :=
  match x.walletFailure with
  | some failure => some failure
  | none => answer.map (fun a => .ok (.ok a))

/-- A call that changes the wallet. Its answer says that the change was made. -/
def walletWrite {α : Type} (w : Wallet) (change : Option (α × Wallet)) : Option (WalletCall α × Wallet) :=
  match x.walletFailure with
  | some failure => some (failure, if x.lands then (change.map Prod.snd).getD w else w)
  | none => change.map (fun c => (.ok (.ok c.1), c.2))

end Outside

/-! ## Answers -/

namespace World

variable (w : World)

def written (write : GuardianTransferWrite) : Except FaError (Option StoredGuardianTransfer) :=
  match write with
  | .update transfer =>
    if w.row.any (fun open_ => open_.transferId == transfer.transferId) then .ok (some transfer)
    else .error (.storage "the open guardian transfer changed under its driver")
  | .close => .ok none

def write (write : GuardianTransferWrite) (x : Outside) : Except FaError Unit × World × List Event :=
  match w.written write, x.writeError with
  | .error error, _ => (.error error, w, [])
  | .ok row, none => (.ok (), { w with row := row }, [.wrote write])
  | .ok row, some error =>
    if x.lands then (.error error, { w with row := row }, [.wrote write]) else (.error error, w, [])

def seatEvents (codec : Codec) (locator : Locator) (presented : QuoteId) (x : Outside) : List Event :=
  match x.seat with
  | .error _ => []
  | .ok signed =>
    match codec.verifyCreateSeat signed locator.servicePubkey with
    | .error _ => []
    | .ok response =>
      if response.quoteId = presented then
        match response.outcome with
        | .accepted _ _ => [.accepted presented]
        | .refused _ => if x.fault.isNone then [.refused presented] else []
      else []

def createSeatPayment (r : PaymentReservation) (quote : VerifiedQuote) (x : Outside) :
    Option (WalletCall PreparedSeatPayment × World × List Event) :=
  (w.wallet.fund quote.quoteId x.payment).bind (fun wallet =>
    let next := ({ w with wallet := wallet }, [Event.polled r quote])
    match x.walletFailure with
    | some failure => some (failure, next)
    | none =>
      if x.payment = .accepted then
        some (.ok (.ok ⟨x.signatures, x.generation, ⟨r.id, quote.quoteId⟩⟩), next)
      else none)

def onWallet {α : Type} (r : Option (WalletCall α × Wallet)) (events : WalletCall α → List Event) :
    Option (WalletCall α × World × List Event) :=
  r.map (fun r => (r.1, { w with wallet := r.2 }, events r.1))

end World

def provedBy {α : Type} (quoteIds : List QuoteId) (proves : α → Bool) : WalletCall α → List Event
  | .ok (.ok a) => if proves a then quoteIds.map .proved else []
  | _ => []

def handler (codec : Codec) : Lib.Handler Ans World Outside Event
  | .nowSecs, w, x => some (x.nowSecs, w, [])
  | .renew, w, x => some (x.reply (), w, [])
  | .sign _, w, x => some (x.sign, w, [])
  | .writeGuardianTransfer write, w, x => some (w.write write x)
  | .connect _, w, x => some (x.reply x.connect, w, [])
  | .getAvailability _, w, x => some (x.reply x.availability, w, [])
  | .getQuote _ _, w, x => some (x.reply x.quote, w, [])
  | .createSeat locator request, w, x =>
    some (x.reply x.seat, w, World.seatEvents codec locator (codec.quoteId request.quote) x)
  | .refreshSetupPaymentPolicy, w, x => some (x.reply x.policy, w, [])
  | .payableFederations _, w, x => (x.walletRead (some x.payable)).map (·, w, [])
  | .prepareQuoteRefund _ _, w, x => (x.walletRead (some x.refundIssuance)).map (·, w, [])
  | .recoverPaymentReservation id preflight, w, x =>
    (x.walletRead (w.wallet.recoverReservation id preflight)).map (fun r =>
      (r, w, provedBy preflight.quoteIds (· == .absent) r))
  | .reservePaymentRequirements id preflight, w, x =>
    w.onWallet (x.walletWrite w.wallet (w.wallet.reserve id preflight)) (fun _ => [])
  | .releasePaymentReservation r, w, x =>
    w.onWallet (x.walletWrite w.wallet (w.wallet.release r)) (provedBy r.quoteIds (fun _ => true))
  | .releaseSeatPaymentReservation proof, w, x =>
    w.onWallet (x.walletWrite w.wallet (w.wallet.releaseMember proof)) (fun _ => [])
  | .recoverSeatPayment id quote, w, x =>
    (x.walletRead (w.wallet.recoverPayment id quote.quoteId x.signatures x.generation x.replay)).map
      (fun r => (r, w, provedBy [quote.quoteId] (· == .notStarted) r))
  | .createSeatPayment r quote, w, x => w.createSeatPayment r quote x
  | .settleSeatRefund context _, w, x =>
    w.onWallet (x.walletWrite w.wallet (w.wallet.settle context)) (fun _ => [])

/-! ## The machine -/

structure PurchaseState where
  world : World
  run : Option (Task Ans Unit (Except FaError Unit)) := none

inductive PurchaseAct where
  | begin
  | resume (x : Outside)
  | cut
  /-- Consensus decides the pending payment of a quote. -/
  | decide (quoteId : QuoteId) (payment : Payment)

def PurchaseState.step (env : Env) (s : PurchaseState) : PurchaseAct → Option (PurchaseState × List Event)
  | .begin =>
    match s.run, s.world.row with
    | none, some transfer =>
      match transfer.stage with
      | .buying p => some ({ s with run := some (Driver.driveBuying env transfer p ()) }, [])
      | .moving _ => none
    | _, _ => none
  | .resume x =>
    match s.run with
    | some (.await _ e k) =>
      (handler env.codec e s.world x).map (fun r => (⟨r.2.1, some (k r.1)⟩, r.2.2))
    | _ => none
  | .cut => some ({ s with run := none }, [])
  | .decide q p =>
    if (s.world.wallet.payment q).decides p then
      some ({ s with world := { s.world with wallet := s.world.wallet.setPayment q p } }, [])
    else none

def StoredSeatPurchase.fresh (p : StoredSeatPurchase) : Prop :=
  p.signedQuote = none ∧ p.outputsStarted = false

def purchases (env : Env) (transferId : FormationId) (purchase : StoredSeatPurchase) :
    Lib.Machine PurchaseState PurchaseAct Event where
  init s := s = ⟨{ row := some ⟨transferId, .buying purchase⟩ }, none⟩ ∧ purchase.fresh
  step := PurchaseState.step env

end Manifold.FaClient
