import Manifold.FaClient.Lemmas.SeatPurchase

/-!
# Buying a seat never puts money at risk
-/

namespace Manifold.FaClient

open Guardian (QuoteId)
open Lib

variable {env : Env} {tid : FormationId} {p₀ : StoredSeatPurchase} {es : List Event} {s : PurchaseState}

/-! ## Steps and runs -/

structure PurchaseSound (env : Env) (tid : FormationId) (p₀ : StoredSeatPurchase) (es : List Event)
    (s : PurchaseState) : Prop where
  inv : PurchaseInv env tid p₀ ⟨es, s.world⟩
  run : ∀ t, s.run = some t →
    t.Safe (handler env.codec) (pact env tid p₀) (fun _ _ => True) (fun _ _ _ => True) ⟨es, s.world⟩

theorem drift_decide {q a w} (h : (w.wallet.payment q).decides a = true) :
    Drift ⟨es, w⟩ ⟨es, { w with wallet := w.wallet.setPayment q a }⟩ := by
  refine ⟨⟨[], by simp⟩, rfl, rfl, fun r => ?_⟩
  by_cases hr : r = q
  · subst hr
    simpa using h
  · simp only [Wallet.setPayment_ne _ _ hr]
    exact Payment.decides_refl _

theorem PurchaseSound.step {a s' out} (hs : PurchaseSound env tid p₀ es s) (h : s.step env a = some (s', out)) :
    PurchaseSound env tid p₀ (es ++ out) s' ∧ ∀ e ∈ out, EventOk env tid p₀ ⟨es, s.world⟩ e := by
  cases a with
  | begin =>
    simp only [PurchaseState.step] at h
    split at h
    · rename_i transfer hrun hrow
      split at h <;> cases h
      rename_i p hp
      obtain ⟨hid, -⟩ := hs.inv.row transfer hrow
      have hst : Stored tid p ⟨es, s.world⟩ := by
        show s.world.row = _
        rw [hrow, ← hid, ← hp]
      rw [List.append_nil]
      refine ⟨⟨hs.inv, fun t ht => ?_⟩, by simp⟩
      cases ht
      have htr : transfer = ⟨tid, transfer.stage⟩ := by rw [← hid]
      rw [htr]
      exact (drives_driveBuying () _ hst).mono (fun _ _ h => h) fun _ _ _ _ => trivial
    · cases h
  | resume x =>
    simp only [PurchaseState.step] at h
    split at h
    · rename_i m e k hrun
      obtain ⟨⟨r, w', o⟩, hh, he⟩ := Option.map_eq_some_iff.mp h
      cases he
      obtain ⟨⟨out', hpast, hev⟩, hi, hk⟩ := (hs.run _ hrun).step hs.inv hh
      obtain rfl := List.append_cancel_left hpast
      refine ⟨⟨hi, fun t ht => ?_⟩, hev⟩
      cases ht
      exact hk
    · cases h
  | cut =>
    cases h
    rw [List.append_nil]
    exact ⟨⟨hs.inv, fun t ht => by cases ht⟩, by simp⟩
  | decide q a =>
    simp only [PurchaseState.step] at h
    split at h <;> cases h
    rename_i hd
    rw [List.append_nil]
    have hdrift : Drift ⟨es, _⟩ _ := drift_decide hd
    refine ⟨⟨hs.inv.drift hdrift, fun t ht => ?_⟩, by simp⟩
    exact (hs.run t ht).stable hdrift (fun _ _ _ _ _ => trivial) fun _ _ _ _ _ _ => trivial

theorem PurchaseSound.of_init (h : (purchases env tid p₀).init s) : PurchaseSound env tid p₀ [] s := by
  obtain ⟨rfl, hnone, hmark⟩ := h
  refine ⟨.of_buying (p := p₀) rfl ⟨?_, fun _ hst => ?_, by simp, fun q hne => absurd rfl hne, by simp⟩
    fun q b hq => ?_, fun t ht => by cases ht⟩
  · rfl
  · rw [hnone] at hst
    cases hst
  · cases hq

theorem PurchaseSound.of_reaches (h : (purchases env tid p₀).Reaches es s) : PurchaseSound env tid p₀ es s :=
  Machine.Reaches.induct (I := PurchaseSound env tid p₀) (fun _ hi => .of_init hi)
    (fun _ _ _ _ _ _ hs hst => (hs.step hst).1) h

/-! ## Where the row changes -/

theorem World.write_row {w w' : World} {write x r out} (h : w.write write x = (r, w', out)) :
    w'.row = w.row ∨ .wrote write ∈ out ∧ w.written write = .ok w'.row := by
  unfold World.write at h
  split at h
  · cases h
    exact .inl rfl
  · rename_i hw _
    cases h
    exact .inr ⟨List.mem_singleton.mpr rfl, hw⟩
  rename_i hw _
  split at h <;> cases h
  · exact .inr ⟨List.mem_singleton.mpr rfl, hw⟩
  · exact .inl rfl

theorem handler_row {codec e w w' x r out} (h : handler codec e w x = some (r, w', out)) :
    w'.row = w.row ∨ ∃ write, .wrote write ∈ out ∧ w.written write = .ok w'.row := by
  by_cases hq : e.quiet = true
  · exact .inl (by rw [(handler_quiet hq h).1])
  cases e <;> try exact absurd rfl hq
  case writeGuardianTransfer write =>
    rcases World.write_row (Option.some.inj h) with hr | hr
    · exact .inl hr
    · exact .inr ⟨write, hr⟩
  all_goals
    left
    simp only [handler, World.onWallet, World.createSeatPayment, Option.map_eq_some_iff, Option.some.injEq,
      Option.bind_eq_some_iff, Prod.mk.injEq] at h
  case createSeat => rw [← h.2.1]
  case createSeatPayment =>
    obtain ⟨w₁, -, h⟩ := h
    split at h
    · cases h
      rfl
    · split at h <;> cases h
      rfl
  all_goals
    obtain ⟨_, -, -, rfl, -⟩ := h
    rfl

theorem step_row {a s' out} (h : s.step env a = some (s', out)) :
    s'.world.row = s.world.row ∨ ∃ write, .wrote write ∈ out ∧ s.world.written write = .ok s'.world.row := by
  cases a with
  | begin =>
    simp only [PurchaseState.step] at h
    split at h
    · split at h <;> cases h
      exact .inl rfl
    · cases h
  | resume x =>
    simp only [PurchaseState.step] at h
    split at h
    · obtain ⟨⟨r, w', o⟩, hh, he⟩ := Option.map_eq_some_iff.mp h
      cases he
      exact handler_row hh
    · cases h
  | cut =>
    cases h
    exact .inl rfl
  | decide q a =>
    simp only [PurchaseState.step] at h
    split at h <;> cases h
    exact .inl rfl

/-! ## The main result -/

/-- Over every sequence of runs: outputs are created only for the stored, started quote, within the cap and reserved;
the quote or its mark is given up only once the wallet has proved that no payment of it started; at most one quote
has a live payment; and the transfer is closed only when nothing is reserved, every payment is released, and every
accepted quote was also refused. -/
theorem purchase_protects_funds (hreach : (purchases env tid p₀).Reaches es s) :
    (∀ q q', (s.world.wallet.payment q).live = true → (s.world.wallet.payment q').live = true → q = q') ∧
    ∀ a s' out, (purchases env tid p₀).step s a = some (s', out) →
      (∀ r quote, .polled r quote ∈ out → ∃ p signed, s.world.row = some ⟨tid, .buying p⟩ ∧
        p.signedQuote = some signed ∧ env.verify p signed = .ok quote ∧ p.outputsStarted = true ∧
        quote.terms.priceMsats ≤ p₀.maxMsats ∧ r ∈ s.world.wallet.reservations ∧
        r.quoteIds = [quote.quoteId]) ∧
      (∀ p p', s.world.row = some ⟨tid, .buying p⟩ → s'.world.row = some ⟨tid, .buying p'⟩ →
        (∀ signed, p.signedQuote = some signed →
          (p'.signedQuote ≠ some signed ∨ p.outputsStarted = true ∧ p'.outputsStarted = false) →
          s.world.wallet.payment (env.codec.quoteId signed) = .notStarted ∧
            Proved (env.codec.quoteId signed) ⟨es, s.world⟩) ∧
        (∀ signed, p'.signedQuote = some signed → p.signedQuote ≠ some signed → s.world.wallet.reservations = [])) ∧
      (s.world.row.isSome = true → s'.world.row = none → s.world.wallet.reservations = [] ∧
        (∀ q, (s.world.wallet.payment q).unreleased = false) ∧ ∀ q, .accepted q ∈ es → .refused q ∈ es) := by
  have hs := PurchaseSound.of_reaches hreach
  have hstart : ∀ q, (s.world.wallet.payment q).live = true → s.world.wallet.payment q ≠ .notStarted :=
    fun q hl hn => by simp [hn, Payment.live] at hl
  refine ⟨fun q q' hq hq' => hs.inv.single q q' (hstart q hq) (hstart q' hq'), fun a s' out hstep => ?_⟩
  obtain ⟨-, hev⟩ := hs.step hstep
  refine ⟨fun r quote hp => ?_, fun p p' hp hp' => ?_, fun hsome hnone => ?_⟩
  · obtain ⟨p, signed, hst, hq, hmark, hcap, hheld, hids⟩ := hev _ hp
    exact ⟨p, signed, hst, hq.stored, hq.verified, hmark, hcap, hheld, hids⟩
  · rcases step_row hstep with hrow | ⟨write, hw, hrow⟩
    · -- the row stayed, so nothing was given up
      obtain rfl : p = p' := by
        rw [hp', hp] at hrow
        cases hrow
        rfl
      refine ⟨fun signed hst hne => ?_, fun signed hst hne => absurd hst hne⟩
      rcases hne with hne | ⟨h1, h2⟩
      · exact absurd hst hne
      · rw [h1] at h2
        cases h2
    cases write with
    | close =>
      rw [hp'] at hrow
      cases hrow
    | update t =>
      have ht : t.stage = .buying p' := by
        simp only [World.written] at hrow
        split at hrow
        · rw [hp'] at hrow
          cases hrow
          rfl
        · cases hrow
      have hrep := hev _ hw p p' hp ht
      exact ⟨hrep.idle, hrep.unreserved⟩
  rcases step_row hstep with hrow | ⟨write, hw, hrow⟩
  · rw [hrow] at hnone
    rw [hnone] at hsome
    cases hsome
  cases write with
  | close =>
    have hc := hev _ hw
    exact ⟨hc.unreserved, hc.released, hc.refused⟩
  | update t =>
    simp only [World.written] at hrow
    split at hrow
    · rw [hnone] at hrow
      cases hrow
    · cases hrow

/-! ## A guardian that changes its mind -/

namespace Sample

def version : FedimintdVersion := ⟨⟨0, 5, 0⟩, "", ""⟩

def refund : RefundIssuance := ⟨.mintV1, 0, []⟩

def request (price : UInt64) (payer : Option String) (refund : Option RefundIssuance) : GetQuoteRequest :=
  ⟨0, version, 7, .infiniteBestEffort price, payer, refund⟩

def free : QuoteTerms := ⟨0, 0, request 0 none none, 0, none⟩

def paid : QuoteTerms :=
  ⟨0, 0, request 5 (some "payer") (some refund), 5, some ⟨.mintV1, "payer", [⟨5, [], []⟩]⟩⟩

def codec : Codec where
  verifySchnorr := fun _ _ _ _ => true
  sha256 := fun payload => BitVec.ofNat 256 payload.length
  quoteTerms := fun payload => if payload = "free" then some free else some paid
  createSeatResponse := fun payload =>
    some ⟨4, if payload = "yes" then .accepted 4 "account" else .refused none⟩
  canonicalFeeAccount := fun _ => true

def client : Env where
  codec := codec
  faId := 0
  setupPaymentPublisher := some "publisher"
  paymentAuthorizationId := fun _ _ _ => 1
  reservationDigest := fun _ _ => 2

def purchase : StoredSeatPurchase where
  mgId := "guardian"
  holder := "holder"
  locator := ⟨"address", "key"⟩
  terms := ⟨"name", 7, .infiniteBestEffort, ⟨⟨0, 5, 0⟩, ⟨0, 6, 0⟩⟩, version.dkgVersion, some 10⟩
  maxMsats := 10
  signedQuote := none
  outputsStarted := false
  paymentFederationId := some "payer"

def start : PurchaseState := ⟨{ row := some ⟨"transfer", .buying purchase⟩ }, none⟩

def outside (price : UInt64) (quote seat : String) : Outside where
  availability := .ok ⟨true, version, [7], [.infiniteBestEffort price]⟩
  quote := .ok ⟨quote, ""⟩
  seat := .ok ⟨seat, ""⟩
  policy := some ["payer"]
  payable := ["payer"]
  refundIssuance := refund

/-- The acceptance arrives, the run is cut before the move is stored, and the next run is refused. -/
def changeOfMind : List PurchaseAct :=
  [.begin] ++ List.replicate 8 (.resume (outside 0 "free" "yes")) ++ [.cut, .begin] ++
    List.replicate 6 (.resume (outside 0 "free" "no"))

def payingRun : List PurchaseAct := .begin :: List.replicate 11 (.resume (outside 5 "price" "yes"))

end Sample

theorem close_after_acceptance :
    ∃ es s q, (purchases Sample.client "transfer" Sample.purchase).Reaches es s ∧ s.world.row = none ∧
      .accepted q ∈ es := by
  have hrun : ((purchases Sample.client "transfer" Sample.purchase).exec Sample.start Sample.changeOfMind).map
      (fun r => (r.1.world.row, r.2.contains (.accepted 4))) = some (none, true) := by decide +kernel
  obtain ⟨⟨s, es⟩, hexec, he⟩ := Option.map_eq_some_iff.mp hrun
  obtain ⟨hrow, hacc⟩ := Prod.mk.inj he
  have hreach : (purchases Sample.client "transfer" Sample.purchase).Reaches es s :=
    Machine.reaches_of_exec (M := purchases Sample.client "transfer" Sample.purchase) ⟨rfl, rfl, rfl⟩ hexec
  exact ⟨es, s, 4, hreach, hrow, by simpa using hacc⟩

theorem purchase_protects_funds_paying :
    ∃ es s a s' out r quote, (purchases Sample.client "transfer" Sample.purchase).Reaches es s ∧
      (purchases Sample.client "transfer" Sample.purchase).step s a = some (s', out) ∧
      .polled r quote ∈ out ∧ quote.terms.priceMsats ≤ 10 ∧ r ∈ s.world.wallet.reservations := by
  have hrun : (((purchases Sample.client "transfer" Sample.purchase).exec Sample.start Sample.payingRun).bind
      (fun r => ((purchases Sample.client "transfer" Sample.purchase).step r.1
        (.resume (Sample.outside 5 "price" "yes"))).map (fun t => t.2))) =
      some [.polled ⟨2, [5]⟩ ⟨Sample.paid, 5⟩] := by decide +kernel
  obtain ⟨⟨s, es⟩, hexec, hs⟩ := Option.bind_eq_some_iff.mp hrun
  obtain ⟨⟨s', out⟩, hstep, rfl⟩ := Option.map_eq_some_iff.mp hs
  have hreach : (purchases Sample.client "transfer" Sample.purchase).Reaches es s :=
    Machine.reaches_of_exec (M := purchases Sample.client "transfer" Sample.purchase) ⟨rfl, rfl, rfl⟩ hexec
  have hpoll : .polled ⟨2, [5]⟩ ⟨Sample.paid, 5⟩ ∈ [Event.polled ⟨2, [5]⟩ ⟨Sample.paid, 5⟩] := by simp
  obtain ⟨p, signed, -, -, -, -, hcap, hheld, -⟩ :=
    ((purchase_protects_funds hreach).2 _ s' _ hstep).1 _ _ hpoll
  exact ⟨es, s, _, s', _, _, _, hreach, hstep, hpoll, hcap, hheld⟩

end Manifold.FaClient
