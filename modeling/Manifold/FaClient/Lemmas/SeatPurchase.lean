import Manifold.FaClient.Lemmas.PurchasePayments

/-!
# The purchase, function by function
-/

namespace Manifold.FaClient

open Guardian (QuoteId FederationId)
open Lib Lib.Routine

variable {env : Env} {tid : FormationId} {p₀ p : StoredSeatPurchase} {P : History → Prop}
  {signed : SignedResponse} {v : VerifiedQuote} {id : PaymentReservationId} {stage : TransferStage}

/-! ## Quotes -/

theorem Codec.verifySignedQuote_quoteId {codec : Codec} {key} (h : codec.verifySignedQuote signed key = .ok v) :
    codec.quoteId signed = v.quoteId := by
  unfold verifySignedQuote at h
  cases hv : codec.verify "get_quote" codec.quoteTerms signed key with
  | error e => simp [hv, Except.map] at h
  | ok t =>
    rw [hv] at h
    cases h
    rfl

theorem Env.verify_quoteId (h : env.verify p signed = .ok v) : env.codec.quoteId signed = v.quoteId := by
  unfold Env.verify verifyQuote at h
  split at h
  · cases h
  rename_i quote hq
  split at h
  · cases h
  split at h
  · cases h
  · split at h <;> cases h
    exact Codec.verifySignedQuote_quoteId hq

theorem Env.requirements_eq {r} (h : env.purchaseRequirements tid p v = .ok r) :
    env.reservation tid p v = some ⟨env.paymentReservationId tid r, [v.quoteId]⟩ ∧
      v.terms.payment.isSome = true ∧ r.seats.map (·.quoteId) = [v.quoteId] := by
  refine ⟨by simp [Env.reservation, h], ?_⟩
  unfold Env.purchaseRequirements at h
  split at h
  · cases h
  · rename_i hsome
    cases h
    exact ⟨by simp [hsome], rfl⟩

theorem ExactPaymentPreflight.new_quoteIds {r preflight} (h : ExactPaymentPreflight.new r [v] = .ok preflight) :
    preflight.quoteIds = r.seats.map (·.quoteId) := by
  unfold ExactPaymentPreflight.new at h
  split at h
  · cases h
  rename_i hlen
  split at h
  · cases h
  dsimp only at h
  split at h <;> cases h
  have hlen' : r.seats.length = 1 := by simpa using hlen
  obtain ⟨s, hs⟩ := List.length_eq_one_iff.mp hlen'
  simp [quoteIds, hs]

theorem Env.reservation_free (h : v.terms.payment = none) : env.reservation tid p v = none := by
  simp [Env.reservation, Env.purchaseRequirements, h]

/-! ## The payer and the quote -/

theorem stays_requireSetupPaymentFederation (hP : Lasting P) (payer : FederationId) :
    Stays env tid p₀ P (Driver.requireSetupPaymentFederation env payer) := by
  have hpayable : Stays env tid p₀ P (Driver.payableSetupPaymentFederations env) := by
    unfold Driver.payableSetupPaymentFederations
    split
    · exact keeps_throw
    refine keeps_bind (stays_call (stays_quiet hP rfl)) fun policy => ?_
    cases policy with
    | none => exact keeps_throw
    | some ids =>
      dsimp only
      split
      · exact keeps_throw
      · exact keeps_bind (stays_walletCall (stays_quiet hP rfl)) fun _ => keeps_pure
  refine keeps_bind (Spec.mapError hpayable) fun ids => ?_
  dsimp only
  split
  · exact keeps_throw
  · exact keeps_pure

def QuotesVerify (env : Env) (P : History → Prop) (index : Nat) (locator : Locator)
    (intent : ResolvedFormationIntent) (payer : Option FederationId)
    (r : Except FaError (SignedResponse × VerifiedQuote)) (h : History) : Prop :=
  P h ∧ ∀ q, r = .ok q → verifyQuote env.codec index q.1 locator intent env.faId payer = .ok q.2

theorem spec_getQuote (hP : Lasting P) {index locator intent payer request} :
    Spec (handler env.codec) (pact env tid p₀) (fun _ _ => True) (fun _ h => P h)
      (Driver.getQuote env index locator intent payer request)
      (fun r _ => QuotesVerify env P index locator intent payer r) := by
  refine Spec.after (stays_mgCall (stays_quiet hP rfl)) (fun _ _ _ hp => ⟨hp, fun _ h => by cases h⟩)
    fun signed => ?_
  split
  · exact Spec.throw fun _ _ hp => ⟨hp, fun _ h => by cases h⟩
  rename_i quote hv
  split
  · exact Spec.throw fun _ _ hp => ⟨hp, fun _ h => by cases h⟩
  · exact Spec.pure fun _ _ hp => ⟨hp, fun _ h => by cases h; exact hv⟩

theorem stays_quotePayer (hP : Lasting P) {index policy payer cell plan} :
    Stays env tid p₀ P (Driver.quotePayer env index policy payer cell plan) := by
  unfold Driver.quotePayer Driver.pricedQuotePayer
  split
  · refine stays_map ?_
    split
    · split
      · exact keeps_throw
      · exact keeps_throw
    · exact keeps_pure
    · split
      · exact stays_requireSetupPaymentFederation hP _
      · exact keeps_throw
  · exact keeps_pure

theorem stays_quoteRefund (hP : Lasting P) {payer plan} : Stays env tid p₀ P (Driver.quoteRefund payer plan) := by
  cases payer with
  | none => exact keeps_pure
  | some id => exact stays_map (stays_walletCall (stays_quiet hP rfl))

theorem spec_requestNewQuote (hP : Lasting P) {index locator intent policy payer cell} :
    Spec (handler env.codec) (pact env tid p₀) (fun _ _ => True) (fun _ h => P h)
      (Driver.requestNewQuote env index locator intent policy payer cell)
      (fun r _ => QuotesVerify env P index locator intent payer r) := by
  have hfail : ∀ (e : FaError) (m : Unit) (h : History), P h →
      QuotesVerify env P index locator intent payer (.error e) h := fun _ _ _ hp =>
    ⟨hp, fun _ h => by cases h⟩
  refine Spec.after (stays_mgCall (stays_quiet hP rfl)) hfail fun availability => ?_
  split
  · split
    · exact Spec.throw (hfail _)
    · exact Spec.throw (hfail _)
  refine Spec.after (stays_quotePayer hP) hfail fun payer => Spec.after (stays_quoteRefund hP) hfail
    fun refund => Spec.mapError ((spec_getQuote hP).mono (fun _ _ h => h) fun r _ h hr => ⟨hr.1, fun q hq => ?_⟩)
  cases r with
  | error e => cases hq
  | ok a =>
    cases hq
    exact hr.2 _ rfl

/-! ## A stale quote and a new one -/

theorem Buying.unpaid {h} (hb : Buying env tid p₀ p h) (hmark : p.outputsStarted = false) (q : QuoteId) :
    h.now.wallet.payment q = .notStarted := by
  by_contra hne
  rw [(hb.paid q hne).1] at hmark
  cases hmark

theorem Buying.closable_of {h} (hb : Buying env tid p₀ p h) (hnil : h.now.wallet.reservations = [])
    (hq : ∀ signed v, Quoted env p signed v →
      (v.terms.payment.isSome = true → (h.now.wallet.payment v.quoteId).unreleased = false) ∧
      ((v.terms.payment.isSome = true → (h.now.wallet.payment v.quoteId).funded = true) →
        .refused v.quoteId ∈ h.past)) : Closable h := by
  refine ⟨hnil, fun q => ?_, fun q hacc => ?_⟩
  · by_cases hn : h.now.wallet.payment q = .notStarted
    · rw [hn]
      rfl
    · obtain ⟨-, _, v, hv, rfl, hsome⟩ := hb.paid q hn
      exact (hq _ v hv).1 hsome
  · rcases hb.accepted q hacc with hr | ⟨_, v, hv, rfl, hf⟩
    · exact hr
    · exact (hq _ v hv).2 hf

theorem Buying.closable {h} (hb : Buying env tid p₀ p h) (hnone : p.signedQuote = none) : Closable h := by
  have hno : ∀ signed v, ¬ Quoted env p signed v := fun signed v hq => by
    rw [hq.stored] at hnone
    cases hnone
  refine hb.closable_of (List.eq_nil_iff_forall_not_mem.mpr fun r hr => ?_) fun signed v hq => absurd hq (hno _ _)
  obtain ⟨signed, v, hv, -⟩ := hb.held r hr
  exact hno _ _ hv

theorem drives_forgetQuote (hq : Quoted env p signed v) (hmark : p.outputsStarted = false)
    (hsome : v.terms.payment.isSome = true) :
    Drives env tid p₀ (fun h => Stored tid p h ∧ h.now.wallet.reservations = [] ∧ Proved v.quoteId h)
      (Driver.savePurchase ⟨tid, stage⟩ { p with signedQuote := none })
      (fun _ => Stored tid { p with signedQuote := none }) :=
  (drives_savePurchase (R := fun _ => True) (lasting_stored.and
      ((lasting_reservations (φ := (· = []))).and lasting_proved)) (fun h hp => hp.1) (fun h hp hb => by
      obtain ⟨hs, hnil, hproved⟩ := hp
      refine ⟨⟨fun signed' hst _ => ?_, fun _ h => by cases h⟩,
        ⟨?_, fun _ h => (by cases h), ?_, fun q hne => absurd (hb.unpaid hmark q) hne, fun q hacc => ?_⟩⟩
      · obtain rfl : signed = signed' := Option.some.inj (hq.stored.symm.trans hst)
        refine ⟨hb.unpaid hmark _, ?_⟩
        rw [Env.verify_quoteId hq.verified]
        exact hproved
      · rw [hb.same]
      · intro r hr
        rw [show (h.saved tid _).now.wallet = h.now.wallet from rfl, hnil] at hr
        cases hr
      -- an acceptance of the forgotten quote would have been paid for
      have hacc' : .accepted q ∈ h.past := by simpa [History.saved] using hacc
      rcases hb.accepted q hacc' with hr | ⟨signed', v', hv', rfl, hf⟩
      · exact .inl (List.mem_append_left _ hr)
      rw [← (hq.unique hv').2] at hf
      have := hf hsome
      rw [hb.unpaid hmark] at this
      cases this) fun _ _ => trivial).mono (fun _ h => h) fun _ _ h => h.1

theorem drives_releaseStale (hq : Quoted env p signed v) (hr : env.reservation tid p v = some ⟨id, [v.quoteId]⟩)
    {recovery} :
    Drives env tid p₀ (fun h => Stored tid p h ∧ match recovery with
        | .existing r => r = ⟨id, [v.quoteId]⟩ ∧ r ∈ h.now.wallet.reservations
        | .absent => h.now.wallet.reservations = [] ∧ Proved v.quoteId h)
      (Driver.releaseStale recovery)
      (fun _ h => Stored tid p h ∧ h.now.wallet.reservations = [] ∧ Proved v.quoteId h) := by
  cases recovery with
  | absent => exact .pure fun _ h => h
  | existing r =>
    refine Drives.mono (P := fun h => r = ⟨id, [v.quoteId]⟩ ∧ Stored tid p h)
      (.of_fact fun he => ?_) (fun h hp => ⟨hp.2.1, hp.1⟩) (fun _ _ h => h)
    subst he
    exact drives_release (fun _ h => h) lasting_stored hq hr

theorem drives_refreshStaleQuote :
    Drives env tid p₀ (Stored tid p) (Driver.refreshStaleQuote env ⟨tid, stage⟩ p)
      (fun p' => Stored tid p') := by
  unfold Driver.refreshStaleQuote
  split
  · rename_i signed hmark hst
    refine .bindExcept fun v hv => ?_
    have hq : Quoted env p signed v := ⟨hst, hv⟩
    split
    · exact .pure fun _ h => h
    refine .bindExcept fun r hr => ?_
    obtain ⟨hres, hsome, hseats⟩ := Env.requirements_eq hr
    refine .bindExcept fun f hf => ?_
    have hpf : f.quoteIds = [v.quoteId] := by rw [ExactPaymentPreflight.new_quoteIds hf, hseats]
    refine (drives_recoverReservation lasting_stored (fun _ h => h) hq hres hpf).bind fun recovery =>
      (drives_releaseStale hq hres).bind fun _ => (drives_forgetQuote hq hmark hsome).bind fun _ =>
        .pure fun _ h => h
  · exact .pure fun _ h => h

theorem drives_storeQuote (hnone : p.signedQuote = none) (hv : env.verify p signed = .ok v)
    (hcap : v.terms.priceMsats ≤ p.maxMsats) :
    Drives env tid p₀ (Stored tid p) (Driver.savePurchase ⟨tid, stage⟩ { p with signedQuote := some signed })
      (fun _ => Stored tid { p with signedQuote := some signed }) :=
  (drives_savePurchase (R := fun _ => True) lasting_stored (fun _ h => h) (fun h hs hb => by
    have hc := hb.closable hnone
    refine ⟨⟨fun _ hst => (by rw [hnone] at hst; cases hst), fun _ _ _ => hc.unreserved⟩,
      ⟨?_, fun signed' hst => ?_, ?_, fun q hne => ?_, fun q hacc => ?_⟩⟩
    · rw [hb.same]
    · cases hst
      refine ⟨v, hv, ?_⟩
      rw [hb.same] at hcap
      exact hcap
    · intro r hr
      rw [show (h.saved tid _).now.wallet = h.now.wallet from rfl, hc.unreserved] at hr
      cases hr
    · obtain ⟨-, _, _, hv', -⟩ := hb.paid q hne
      rw [hv'.stored] at hnone
      cases hnone
    · have hacc' : .accepted q ∈ h.past := by simpa [History.saved] using hacc
      exact .inl (List.mem_append_left _ (hc.refused q hacc'))) fun _ _ => trivial).mono
    (fun _ h => h) fun _ _ h => h.1

theorem drives_obtainQuote :
    Drives env tid p₀ (Stored tid p) (Driver.obtainQuote env ⟨tid, stage⟩ p)
      (fun r h => r.1.signedQuote = some r.2 ∧ Stored tid r.1 h) := by
  unfold Driver.obtainQuote
  split
  · rename_i signed hst
    exact .pure fun _ h => ⟨hst, h⟩
  rename_i hnone
  have hclose : Drives env tid p₀ (Stored tid p) (Driver.write .close) (fun _ _ => True) :=
    drives_close lasting_stored fun h hs hi => (hi.buying hs).closable hnone
  refine Drives.bind (R := fun r => QuotesVerify env (Stored tid p) 0 p.locator p.terms p.paymentFederationId r)
    (Spec.attempt (spec_requestNewQuote lasting_stored)) fun r => ?_
  cases r with
  | error e =>
    cases e with
    | selectionReauthorizationRequired reason failure =>
      exact (hclose.mono (fun _ h => h.1) fun _ _ h => h).bind fun _ => .throw
    | _ => exact .throw
  | ok q =>
    obtain ⟨signed, v⟩ := q
    dsimp only
    split
    · exact (hclose.mono (fun _ h => h.1) fun _ _ h => h).bind fun _ => .throw
    rename_i hcap
    refine Drives.mono (P := fun h => env.verify p signed = .ok v ∧ Stored tid p h) (.of_fact fun hv => ?_)
      (fun h hq => ⟨hq.2 _ rfl, hq.1⟩) fun _ _ h => h
    exact (drives_storeQuote hnone hv (UInt64.not_lt.mp hcap)).bind fun _ => .pure fun _ h => ⟨rfl, h⟩

/-! ## Funding -/

def Released (q : QuoteId) (h : History) : Prop :=
  h.now.wallet.reservations = [] ∧ (h.now.wallet.payment q).unreleased = false ∧ Void q h

theorem lasting_released {q} : Lasting (Released q) :=
  (lasting_reservations (φ := (· = []))).and ((lasting_payment (φ := fun a => a.unreleased = false)
    (by simp [Payment.unreleased])).and lasting_void)

theorem drives_recoverFunding (hq : Quoted env p signed v)
    (hr : env.reservation tid p v = some ⟨id, [v.quoteId]⟩) :
    Drives env tid p₀ (Stored tid p) (Driver.recoverFunding p id v)
      (fun r h => Stored tid p h ∧ match r with
        | some (some pay) => pay.refundContext = ⟨id, v.quoteId⟩ ∧ Funded v.quoteId h
        | some none => Released v.quoteId h
        | none => p.outputsStarted = true → h.now.wallet.payment v.quoteId = .notStarted ∧ Proved v.quoteId h) := by
  unfold Driver.recoverFunding
  split
  · refine drives_recoverPayment.bind fun recovery => ?_
    cases recovery with
    | notStarted => exact .pure fun h hp => ⟨hp.1, fun _ => hp.2⟩
    | prepared pay => exact .pure fun h hp => hp
    | rejected proof =>
      refine Drives.mono (P := fun h => proof = ⟨id, v.quoteId⟩ ∧ Stored tid p h) (.of_fact fun he => ?_)
        (fun h hp => ⟨hp.2.1, hp.1⟩) fun _ _ h => h
      subst he
      exact (drives_releaseMember lasting_stored (fun _ h => h) hq hr).bind fun _ => .pure fun h hp => hp
  · rename_i hmark
    exact .pure fun h hs => ⟨hs, fun h => absurd h hmark⟩

theorem drives_holdReservation {preflight} (hP : Lasting P) (hs : ∀ h, P h → Stored tid p h)
    (hP' : p.outputsStarted = false → ∀ h, Stored tid p h → P h) (hq : Quoted env p signed v)
    (hr : env.reservation tid p v = some ⟨id, [v.quoteId]⟩) (hpf : preflight.quoteIds = [v.quoteId]) :
    Drives env tid p₀ P (Driver.holdReservation p id preflight)
      (fun r h => r = ⟨id, [v.quoteId]⟩ ∧ P h ∧ ⟨id, [v.quoteId]⟩ ∈ h.now.wallet.reservations) := by
  refine (drives_recoverReservation hP hs hq hr hpf).bind fun recovery => ?_
  cases recovery with
  | existing r =>
    refine .pure fun h hp => ?_
    obtain ⟨hp, rfl, hm⟩ := hp
    exact ⟨rfl, hp, hm⟩
  | absent =>
    dsimp only
    split
    · exact .throw
    rename_i hmark
    refine (drives_reserve hq hr hpf).mono (fun h hp => hs h hp.1) fun r h hp => ?_
    obtain ⟨hst, rfl, hm⟩ := hp
    exact ⟨rfl, hP' (by simpa using hmark) h hst, hm⟩

theorem Quoted.remark (hq : Quoted env p signed v) (b : Bool) :
    Quoted env { p with outputsStarted := b } signed v := ⟨hq.stored, hq.verified⟩

theorem Buying.remark {h b} (hb : Buying env tid p₀ p h)
    (hpaid : ∀ q, h.now.wallet.payment q ≠ .notStarted → b = true) :
    Buying env tid p₀ { p with outputsStarted := b } (h.saved tid { p with outputsStarted := b }) := by
  refine ⟨by rw [hb.same], hb.quote, fun r hr => ?_, fun q hne => ?_, fun q hacc => ?_⟩
  · obtain ⟨signed, v, hv, hr'⟩ := hb.held r hr
    exact ⟨signed, v, hv.remark b, hr'⟩
  · obtain ⟨-, signed, v, hv, hq⟩ := hb.paid q hne
    exact ⟨hpaid q hne, signed, v, hv.remark b, hq⟩
  have hacc' : .accepted q ∈ h.past := by simpa [History.saved] using hacc
  rcases hb.accepted q hacc' with hr | ⟨signed, v, hv, hq⟩
  · exact .inl (List.mem_append_left _ hr)
  · exact .inr ⟨signed, v, hv.remark b, hq⟩

theorem drives_markStarted {r} :
    Drives env tid p₀ (fun h => Stored tid p h ∧ r ∈ h.now.wallet.reservations)
      (Driver.savePurchase ⟨tid, stage⟩ { p with outputsStarted := true })
      (fun _ h => Stored tid { p with outputsStarted := true } h ∧ r ∈ h.now.wallet.reservations) :=
  drives_savePurchase (lasting_stored.and lasting_reservations) (fun _ h => h.1) (fun h hp hb => by
    refine ⟨⟨fun signed' hst hne => ?_, fun signed' hst hne => absurd hst hne⟩, hb.remark fun _ _ => rfl⟩
    rcases hne with hne | ⟨-, hf⟩
    · exact absurd hst hne
    · cases hf) fun _ hp => hp.2

theorem Buying.unpaid_of_quoted {h} (hb : Buying env tid p₀ p h) (hq : Quoted env p signed v)
    (hn : h.now.wallet.payment v.quoteId = .notStarted) (q : QuoteId) :
    h.now.wallet.payment q = .notStarted := by
  by_contra hne
  obtain ⟨-, _, v', hv', rfl, -⟩ := hb.paid q hne
  rw [← (hq.unique hv').2] at hne
  exact hne hn

theorem drives_unmarkStarted (hq : Quoted env p signed v) :
    Drives env tid p₀ (fun h => Stored tid p h ∧ h.now.wallet.payment v.quoteId = .notStarted ∧ Proved v.quoteId h)
      (Driver.savePurchase ⟨tid, stage⟩ { p with outputsStarted := false })
      (fun _ h => Stored tid { p with outputsStarted := false } h ∧ True) :=
  drives_savePurchase (lasting_stored.and
    ((lasting_payment (φ := (· = .notStarted)) (by simp)).and lasting_proved)) (fun _ h => h.1) (fun h hp hb => by
    obtain ⟨hs, hn, hproved⟩ := hp
    have hunpaid := hb.unpaid_of_quoted hq hn
    refine ⟨⟨fun signed' hst _ => ?_, fun signed' hst hne => absurd hst hne⟩,
      hb.remark fun q hne => absurd (hunpaid q) hne⟩
    obtain rfl : signed = signed' := Option.some.inj (hq.stored.symm.trans hst)
    refine ⟨hunpaid _, ?_⟩
    rw [Env.verify_quoteId hq.verified]
    exact hproved) fun _ _ => trivial

theorem Buying.closable_unmarked {h} (hb : Buying env tid p₀ p h) (hmark : p.outputsStarted = false)
    (hq : Quoted env p signed v) (hsome : v.terms.payment.isSome = true) (hnil : h.now.wallet.reservations = []) :
    Closable h := by
  refine hb.closable_of hnil fun signed' v' hv' => ?_
  rw [← (hq.unique hv').2, hb.unpaid hmark]
  exact ⟨fun _ => rfl, fun hf => by cases hf hsome⟩

theorem drives_withdraw (hq : Quoted env p signed v) (hsome : v.terms.payment.isSome = true)
    (hr : env.reservation tid p v = some ⟨id, [v.quoteId]⟩) {β : Type} {R : β → History → Prop} {e : FaError} :
    Drives env tid p₀ (fun h => Stored tid p h ∧ h.now.wallet.payment v.quoteId = .notStarted ∧ Proved v.quoteId h)
      (do
        Driver.savePurchase ⟨tid, stage⟩ { p with outputsStarted := false }
        Driver.walletCall "releasing destination seat reservation"
          (Driver.ask (.releasePaymentReservation ⟨id, [v.quoteId]⟩))
        Driver.write .close
        throw e) R := by
  have hq' := hq.remark false
  refine (drives_unmarkStarted hq).bind fun _ => (drives_release (fun _ h => h.1)
    (lasting_stored.and fun _ _ _ h => h) hq' hr).bind fun _ => Drives.bind (R := fun _ _ => True) ?_ fun _ => .throw
  exact drives_close (lasting_stored.and ((lasting_reservations (φ := (· = []))).and lasting_proved))
    fun h hp hi => (hi.buying hp.1).closable_unmarked rfl hq' hsome hp.2.1

def Before (p : StoredSeatPurchase) (q : QuoteId) (h : History) : Prop :=
  p.outputsStarted = true → h.now.wallet.payment q = .notStarted ∧ Proved q h

theorem lasting_before {q} : Lasting (Before p q) := fun h h' hd hb hm =>
  ⟨lasting_payment (φ := (· = .notStarted)) (by simp) h h' hd (hb hm).1, lasting_proved h h' hd (hb hm).2⟩

theorem drives_passBoundary (hq : Quoted env p signed v) (hsome : v.terms.payment.isSome = true)
    (hr : env.reservation tid p v = some ⟨id, [v.quoteId]⟩) {payer} :
    Drives env tid p₀ (fun h => (Stored tid p h ∧ Before p v.quoteId h) ∧ ⟨id, [v.quoteId]⟩ ∈ h.now.wallet.reservations)
      (Driver.passBoundary env ⟨tid, stage⟩ p payer ⟨id, [v.quoteId]⟩)
      (fun _ h => Stored tid { p with outputsStarted := true } h ∧ ⟨id, [v.quoteId]⟩ ∈ h.now.wallet.reservations) := by
  unfold Driver.passBoundary
  split
  · rename_i hmark
    have hsame : { p with outputsStarted := true } = p := by
      cases p
      simp_all
    rw [hsame]
    have hl : Lasting (fun h => (Stored tid p h ∧ Before p v.quoteId h) ∧
        ⟨id, [v.quoteId]⟩ ∈ h.now.wallet.reservations) :=
      (lasting_stored.and lasting_before).and lasting_reservations
    refine (Drives.of_stays (keeps_attempt (stays_requireSetupPaymentFederation hl payer))).bind fun r => ?_
    cases r with
    | ok _ => exact .pure fun h hp => ⟨hp.1.1, hp.2⟩
    | error e =>
      cases e with
      | selectionReauthorizationRequired reason failure =>
        exact (drives_withdraw hq hsome hr).mono (fun h hp => ⟨hp.1.1, hp.1.2 hmark⟩) fun _ _ h => h
      | _ => exact .throw
  · exact drives_markStarted.mono (fun h hp => ⟨hp.1.1, hp.2⟩) fun _ _ h => h

theorem drives_fundSeatPurchase (hq : Quoted env p signed v) :
    Drives env tid p₀ (Stored tid p) (Driver.fundSeatPurchase env ⟨tid, stage⟩ p v)
      (fun r h => ∃ id, env.reservation tid p v = some ⟨id, [v.quoteId]⟩ ∧ match r with
        | some pay => (∃ b, Stored tid { p with outputsStarted := b } h) ∧
            pay.refundContext = ⟨id, v.quoteId⟩ ∧ Funded v.quoteId h
        | none => Stored tid p h ∧ Released v.quoteId h) := by
  refine .bindExcept fun r hreq => ?_
  obtain ⟨hr, hsome, hseats⟩ := Env.requirements_eq hreq
  refine (drives_recoverFunding hq hr).bind fun funding => ?_
  match funding with
  | some (some pay) =>
    exact .pure fun h hp => ⟨_, hr, ⟨p.outputsStarted, hp.1⟩, hp.2⟩
  | some none => exact .pure fun h hp => ⟨_, hr, hp⟩
  | none =>
    dsimp only
    split
    · exact .throw
    refine .bindExcept fun f hf => ?_
    have hpf : f.quoteIds = [v.quoteId] := by rw [ExactPaymentPreflight.new_quoteIds hf, hseats]
    refine (drives_holdReservation (lasting_stored.and lasting_before) (fun _ h => h.1)
      (fun hm h hs => ⟨hs, fun h => by rw [hm] at h; cases h⟩) hq hr hpf).bind fun res => .of_fact fun hres => ?_
    subst hres
    have hq' := hq.remark true
    refine (drives_passBoundary hq hsome hr).bind fun _ => (Drives.of_stays (stays_call (stays_quiet
      (lasting_stored.and lasting_reservations) rfl))).bind fun _ =>
      (drives_createPayment hq' rfl hsome).bind fun pay => .pure fun h hp => ?_
    exact ⟨_, hr, ⟨true, hp.1⟩, hp.2⟩

/-! ## Presenting -/

theorem Payment.refunded_of_funded {a : Payment} (h₁ : a.funded = true) (h₂ : a.terminal = true) :
    ∃ b, a = .refunded b := by
  cases a <;> simp_all [Payment.funded, Payment.terminal]

/-- Once the stored quote is released, nothing is left: an accepted payment of it was refunded, and a refund is only
settled after a refusal. -/
theorem PurchaseInv.closable_released {h} (hi : PurchaseInv env tid p₀ h) (hs : Stored tid p h)
    (hq : Quoted env p signed v) (hsome : v.terms.payment.isSome = true) (hrel : Released v.quoteId h) :
    Closable h := by
  refine (hi.buying hs).closable_of hrel.1 fun signed' v' hv' => ?_
  rw [← (hq.unique hv').2]
  refine ⟨fun _ => hrel.2.1, fun hf => ?_⟩
  obtain ⟨b, hb⟩ := Payment.refunded_of_funded (hf hsome) hrel.2.2
  exact hi.refunded _ b hb

theorem Buying.closable_free {h} (hb : Buying env tid p₀ p h) (hq : Quoted env p signed v)
    (hfree : v.terms.payment = none) (href : .refused v.quoteId ∈ h.past) : Closable h := by
  refine hb.closable_of (List.eq_nil_iff_forall_not_mem.mpr fun r hr => ?_) fun signed' v' hv' => ?_
  · obtain ⟨_, v', hv', he⟩ := hb.held r hr
    rw [← (hq.unique hv').2, Env.reservation_free hfree] at he
    cases he
  · rw [← (hq.unique hv').2, hfree]
    exact ⟨fun hsome => (by cases hsome), fun _ => href⟩

def Presents (env : Env) (tid : FormationId) (p : StoredSeatPurchase) (signed : SignedResponse)
    (v : VerifiedQuote) : SeatPresentation → Prop
  | .free signed' v' => signed' = signed ∧ v' = v ∧ v.terms.payment = none
  | .paid signed' v' prepared => signed' = signed ∧ v' = v ∧ v.terms.payment.isSome = true ∧
      ∃ id, env.reservation tid p v = some ⟨id, [v.quoteId]⟩ ∧ prepared.refundContext = ⟨id, v.quoteId⟩

theorem Drives.of_exists {ι α : Type} {Q : ι → History → Prop} {d : Driver α} {R : α → History → Prop}
    (hd : ∀ i, Drives env tid p₀ (Q i) d R) : Drives env tid p₀ (fun h => ∃ i, Q i h) d R :=
  fun m h ⟨i, hi⟩ => hd i m h hi

theorem drives_preparePresentation (hq : Quoted env p signed v) :
    Drives env tid p₀ (Stored tid p) (Driver.preparePresentation env ⟨tid, stage⟩ p signed v)
      (fun pres h => Presents env tid p signed v pres ∧
        ∃ b, Stored tid { p with outputsStarted := b } h ∧ Presentable v h) := by
  unfold Driver.preparePresentation
  split
  · rename_i hfree
    have hnone : v.terms.payment = none := Option.isNone_iff_eq_none.mp hfree
    exact .pure fun h hs => ⟨⟨rfl, rfl, hnone⟩, p.outputsStarted, hs, fun h => by simp [hnone] at h⟩
  rename_i hpaid
  have hsome : v.terms.payment.isSome = true := by simpa [Option.isSome_iff_ne_none] using hpaid
  refine (drives_fundSeatPurchase hq).bind fun r => ?_
  cases r with
  | some pay =>
    refine .pure fun h hp => ?_
    obtain ⟨id, hr, ⟨b, hs⟩, hctx, hf⟩ := hp
    exact ⟨⟨rfl, rfl, hsome, id, hr, hctx⟩, b, hs, fun _ => hf⟩
  | none =>
    refine Drives.bind (R := fun _ _ => True) (Drives.mono (P := fun h => Stored tid p h ∧ Released v.quoteId h)
      (drives_close (lasting_stored.and lasting_released) fun h hp hi =>
        hi.closable_released hp.1 hq hsome hp.2) (fun h hp => ?_) fun _ _ h => h) fun _ => .throw
    obtain ⟨_, _, hp'⟩ := hp
    exact hp'

theorem Driver.presentationParts_eq {pres parts} (hpres : Presents env tid p signed v pres)
    (h : Driver.presentationParts 0 pres = .ok parts) :
    parts.1 = signed ∧ parts.2.1 = v ∧
      ((v.terms.payment = none ∧ parts.2.2.2 = none) ∨ v.terms.payment.isSome = true ∧
        ∃ id, env.reservation tid p v = some ⟨id, [v.quoteId]⟩ ∧ parts.2.2.2 = some ⟨id, v.quoteId⟩) := by
  cases pres with
  | free signed' v' =>
    obtain ⟨rfl, rfl, hnone⟩ := hpres
    cases h
    exact ⟨rfl, rfl, Or.inl ⟨hnone, rfl⟩⟩
  | paid signed' v' prepared =>
    obtain ⟨rfl, rfl, hsome, id, hr, hctx⟩ := hpres
    simp only [Driver.presentationParts] at h
    split at h <;> cases h
    exact ⟨rfl, rfl, Or.inr ⟨hsome, id, hr, by rw [hctx]⟩⟩

def Presented (env : Env) (tid : FormationId) (p : StoredSeatPurchase) (v : VerifiedQuote) (h : History) :
    SeatCreation → Prop
  | .accepted _ _ => Stored tid p h
  | .refused _ (some proof) => (Stored tid p h ∧ .refused v.quoteId ∈ h.past) ∧ v.terms.payment.isSome = true ∧
      ∃ id, env.reservation tid p v = some ⟨id, [v.quoteId]⟩ ∧ proof = ⟨id, v.quoteId⟩
  | .refused _ none => (Stored tid p h ∧ .refused v.quoteId ∈ h.past) ∧ v.terms.payment = none

theorem drives_settleRefusal (hq : Quoted env p signed v) {context}
    (hctx : (v.terms.payment = none ∧ context = none) ∨ v.terms.payment.isSome = true ∧
      ∃ id, env.reservation tid p v = some ⟨id, [v.quoteId]⟩ ∧ context = some ⟨id, v.quoteId⟩) {refund error} :
    Drives env tid p₀ (fun h => Stored tid p h ∧ .refused v.quoteId ∈ h.past)
      (Driver.settleRefusal 0 context refund)
      (fun proof h => Presented env tid p v h (.refused error proof)) := by
  rcases hctx with ⟨hnone, rfl⟩ | ⟨hsome, id, hr, rfl⟩
  · cases refund with
    | none => exact .pure fun h hp => ⟨hp, hnone⟩
    | some _ => exact .throw
  cases refund with
  | none => exact .throw
  | some refund =>
    refine .map ((drives_settle hq).mono (fun _ h => h) fun proof h hp => ?_)
    exact ⟨hp.2.1, hsome, id, hr, hp.1⟩

theorem drives_presentSeat (hq : Quoted env p signed v) {locator pres}
    (hpres : Presents env tid p signed v pres) :
    Drives env tid p₀ (fun h => Stored tid p h ∧ Presentable v h) (Driver.presentSeat env 0 locator pres)
      (fun c h => Presented env tid p v h c) := by
  have hl : Lasting (fun h => Stored tid p h ∧ Presentable v h) := lasting_stored.and lasting_presentable
  refine .bindExcept fun parts hparts => ?_
  obtain ⟨signed', v', signatures, context⟩ := parts
  obtain ⟨hsigned, hv, hctx⟩ := Driver.presentationParts_eq hpres hparts
  obtain rfl : signed' = signed := hsigned
  obtain rfl : v' = v := hv
  refine (Drives.of_stays (stays_quiet hl rfl)).bind fun ts => (Drives.of_stays (stays_call
    (stays_quiet hl rfl))).bind fun _ => (Drives.of_stays (stays_quiet hl rfl)).bind fun signature => ?_
  cases signature with
  | error _ => exact .throw
  | ok _ =>
    refine (drives_createSeat hq (Env.verify_quoteId hq.verified) rfl).bind fun answer => ?_
    split
    · exact .throw
    rename_i response hver
    split
    · exact .throw
    rename_i hid
    split
    · split
      · exact .pure fun h hp => hp.1
      · exact .throw
    rename_i refund hout
    refine Drives.mono (P := fun h => Stored tid p h ∧ .refused v'.quoteId ∈ h.past)
      ((drives_settleRefusal hq hctx).bind fun proof => .pure fun h hp => hp)
      (fun h hp => ⟨hp.1, hp.2 response refund hver (by simpa using hid) hout⟩) fun _ _ h => h

theorem drives_concludePresentation (hq : Quoted env p signed v) {c p'} :
    Drives env tid p₀ (fun h => Presented env tid p v h c) (Driver.concludePresentation p' c)
      (fun _ => Stored tid p) := by
  match c with
  | .accepted _ _ => exact .pure fun h hs => hs
  | .refused _ none =>
    refine Drives.bind (R := fun _ h => (Stored tid p h ∧ Event.refused v.quoteId ∈ h.past) ∧
      v.terms.payment = none) (.pure fun _ h => h) fun _ => Drives.bind (R := fun _ _ => True) ?_ fun _ => .throw
    exact drives_close ((lasting_stored.and lasting_past).and fun _ _ _ h => h) fun h hp hi =>
      (hi.buying hp.1.1).closable_free hq hp.2 hp.1.2
  | .refused _ (some proof) =>
    refine Drives.mono (P := fun h => (v.terms.payment.isSome = true ∧
        ∃ id, env.reservation tid p v = some ⟨id, [v.quoteId]⟩ ∧ proof = ⟨id, v.quoteId⟩) ∧ Stored tid p h)
      (.of_fact fun hf => ?_) (fun h hp => ⟨hp.2, hp.1.1⟩) fun _ _ h => h
    obtain ⟨hsome, id, hr, rfl⟩ := hf
    refine (drives_releaseMember lasting_stored (fun _ h => h) hq hr).bind fun _ =>
      Drives.bind (R := fun _ _ => True) ?_ fun _ => .throw
    exact drives_close (lasting_stored.and lasting_released) fun h hp hi =>
      hi.closable_released hp.1 hq hsome hp.2

/-! ## A whole run -/

theorem drives_driveBuying :
    Drives env tid p₀ (Stored tid p) (Driver.driveBuying env ⟨tid, stage⟩ p) (fun _ _ => True) := by
  refine Drives.bind (R := fun _ h => ∃ p', Stored tid p' h) ?_ fun destination =>
    .of_exists fun p' => drives_saveMove _
  refine (Drives.of_stays (P := Stored tid p) (stays_mgCall (stays_map (stays_quiet lasting_stored rfl)))).bind
    fun _ => drives_refreshStaleQuote.bind fun p₁ => drives_obtainQuote.bind fun r => .of_fact fun hst => ?_
  obtain ⟨p₂, signed⟩ := r
  refine .bindExcept fun v hv => ?_
  have hq : Quoted env p₂ signed v := ⟨hst, hv⟩
  refine (drives_preparePresentation hq).bind fun pres => .of_fact fun hpres => .of_exists fun b => ?_
  have hpres' : Presents env tid { p₂ with outputsStarted := b } signed v pres := by
    cases pres <;> exact hpres
  refine (drives_presentSeat (hq.remark b) hpres').bind fun c =>
    (drives_concludePresentation (hq.remark b)).mono (fun _ h => h) fun _ h hs => ⟨_, hs⟩

end Manifold.FaClient
