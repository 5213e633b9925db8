import Manifold.FaClient.Lemmas.PurchaseSteps

/-!
# Payments, presentations and writes of the driver
-/

namespace Manifold.FaClient

open Guardian (QuoteId FederationId)
open Lib Lib.Routine

variable {env : Env} {tid : FormationId} {p₀ p : StoredSeatPurchase} {P : History → Prop}
  {signed : SignedResponse} {v : VerifiedQuote} {id : PaymentReservationId}

/-! ## Payments -/

def Funded (q : QuoteId) (h : History) : Prop := (h.now.wallet.payment q).funded = true

def Void (q : QuoteId) (h : History) : Prop := (h.now.wallet.payment q).terminal = true

theorem lasting_funded {q} : Lasting (Funded q) :=
  lasting_payment (φ := fun p => p.funded = true) (by simp [Payment.funded])

theorem lasting_void {q} : Lasting (Void q) :=
  lasting_payment (φ := fun p => p.terminal = true) (by simp [Payment.terminal])

@[simp] theorem Wallet.setPayment_self (w : Wallet) (q : QuoteId) (a : Payment) :
    (w.setPayment q a).payment q = a := by simp [setPayment]

theorem Wallet.setPayment_ne (w : Wallet) {q r} (a : Payment) (h : r ≠ q) :
    (w.setPayment q a).payment r = w.payment r := by simp [setPayment, h]

theorem drives_recoverPayment {operation} :
    Drives env tid p₀ (Stored tid p)
      (Driver.walletCall operation (Driver.ask (.recoverSeatPayment id v)))
      (fun r h => Stored tid p h ∧ match r with
        | .notStarted => h.now.wallet.payment v.quoteId = .notStarted ∧ Proved v.quoteId h
        | .prepared pay => pay.refundContext = ⟨id, v.quoteId⟩ ∧ Funded v.quoteId h
        | .rejected proof => proof = ⟨id, v.quoteId⟩ ∧ Void v.quoteId h) :=
  drives_walletCall (drives_ask lasting_stored fun h x r t out hs hi hs' => by
    simp only [handler, Option.map_eq_some_iff, Prod.mk.injEq] at hs'
    obtain ⟨c, hc, rfl, rfl, rfl⟩ := hs'
    obtain ⟨qs, hqs, hall⟩ := provedBy_eq [v.quoteId] (· == SeatPaymentRecovery.notStarted) c
    rw [hqs]
    refine ⟨eventOk_proved, hi.drift (drift_proved h qs), fun a ha => ?_⟩
    rcases Outside.walletRead_eq hc with hno | ⟨b, hb, rfl⟩
    · exact absurd ha (hno a)
    cases ha
    refine ⟨hs, ?_⟩
    unfold Wallet.recoverPayment at hb
    split at hb
    · rename_i hpay
      cases hb
      refine ⟨hpay, ?_⟩
      rw [hall _ rfl rfl]
      exact proved_of_mem (List.mem_singleton.mpr rfl)
    · cases hb
    · rename_i hpay
      cases hb
      exact ⟨rfl, by simp [Funded, hpay, Payment.funded]⟩
    · rename_i hpay
      cases hb
      exact ⟨rfl, by simp [Void, hpay, Payment.terminal]⟩
    rename_i hpay
    cases hreplay : x.replay with
    | true =>
      rw [hreplay] at hb
      cases hb
      exact ⟨rfl, by simp [Funded, hpay, Payment.funded]⟩
    | false =>
      rw [hreplay] at hb
      cases hb
      exact ⟨rfl, by simp [Void, hpay, Payment.terminal]⟩)

theorem PurchaseInv.setPayment {h w a} (hi : PurchaseInv env tid p₀ h) (hs : Stored tid p h)
    (hq : Quoted env p signed v) (hw : w.payment = (h.now.wallet.setPayment v.quoteId a).payment)
    (hres : ∀ r ∈ w.reservations, r ∈ h.now.wallet.reservations)
    (hstart : a ≠ .notStarted → p.outputsStarted = true ∧ v.terms.payment.isSome = true)
    (hfund : (h.now.wallet.payment v.quoteId).funded = true → a.funded = true)
    (href : ∀ b, a = .refunded b → .refused v.quoteId ∈ h.past) {out} (hout : ∀ q, .accepted q ∉ out) :
    PurchaseInv env tid p₀ (h.snoc out { h.now with wallet := w }) := by
  have hb := hi.buying hs
  refine hi.wallet hs (fun r hr => hb.held r (hres r hr)) (fun q hne => ?_) (fun q hf => ?_) (fun q b hr => ?_) hout
  all_goals
    rw [hw] at *
    by_cases hqv : q = v.quoteId
  · subst hqv
    rw [Wallet.setPayment_self] at hne
    exact ⟨(hstart hne).1, signed, v, hq, rfl, (hstart hne).2⟩
  · rw [Wallet.setPayment_ne _ _ hqv] at hne
    exact hb.paid q hne
  · subst hqv
    rw [Wallet.setPayment_self]
    exact hfund hf
  · rwa [Wallet.setPayment_ne _ _ hqv]
  · subst hqv
    rw [Wallet.setPayment_self] at hr
    exact href b hr
  · rw [Wallet.setPayment_ne _ _ hqv] at hr
    exact hi.refunded q b hr

/-- The member of the stored quote is released, and with it the whole reservation. -/
theorem drives_releaseMember (hPl : Lasting P) (hP : ∀ h, P h → Stored tid p h) (hq : Quoted env p signed v)
    (hr : env.reservation tid p v = some ⟨id, [v.quoteId]⟩) {operation} :
    Drives env tid p₀ P
      (Driver.walletCall operation (Driver.ask (.releaseSeatPaymentReservation ⟨id, v.quoteId⟩)))
      (fun _ h => Stored tid p h ∧ h.now.wallet.reservations = [] ∧
        (h.now.wallet.payment v.quoteId).unreleased = false ∧ Void v.quoteId h) :=
  drives_walletCall (drives_ask hPl fun h x r t out hp hi hs' => by
    have hs := hP h hp
    simp only [handler, World.onWallet, Option.map_eq_some_iff, Prod.mk.injEq] at hs'
    obtain ⟨⟨c, w'⟩, hw, rfl, rfl, rfl⟩ := hs'
    have hchange : ∀ a w, h.now.wallet.releaseMember ⟨id, v.quoteId⟩ = some (a, w) →
        w.reservations = [] ∧ (w.payment v.quoteId).unreleased = false ∧
          (w.payment v.quoteId).terminal = true ∧
          PurchaseInv env tid p₀ (h.snoc [] { h.now with wallet := w }) := by
      intro a w hc
      unfold Wallet.releaseMember at hc
      split at hc <;> cases hc
      rename_i hterm
      have hnil : h.now.wallet.dropMember id v.quoteId = [] := by
        refine List.filter_eq_nil_iff.mpr fun r hr' => ?_
        obtain ⟨r', hm, rfl⟩ := List.mem_map.mp hr'
        rw [hi.reservation_eq hs hq hr hm]
        simp
      have hpaid := (hi.buying hs).paid v.quoteId (by
        intro hn
        simp [hn, Payment.terminal] at hterm)
      obtain ⟨hstart, _, v', hv', -, hsome⟩ := hpaid
      rw [← (hq.unique hv').2] at hsome
      refine ⟨hnil, ?_, ?_, hi.setPayment (w := ⟨h.now.wallet.dropMember id v.quoteId, _⟩) hs hq rfl
        (fun r hm => by rw [hnil] at hm; cases hm) (fun _ => ⟨hstart, hsome⟩) ?_ ?_ fun _ => List.not_mem_nil⟩
      · rw [Wallet.setPayment_self]
        cases hpay : h.now.wallet.payment v.quoteId <;> simp_all [Payment.terminal, Payment.release, Payment.unreleased]
      · rw [Wallet.setPayment_self]
        cases hpay : h.now.wallet.payment v.quoteId <;> simp_all [Payment.terminal, Payment.release]
      · cases hpay : h.now.wallet.payment v.quoteId <;> simp [Payment.funded, Payment.release]
      · intro b hb
        cases hpay : h.now.wallet.payment v.quoteId <;> rw [hpay] at hb <;> cases hb
        exact hi.refunded _ _ hpay
    refine ⟨by simp, hi.walletWrite hw (fun a w hc => (hchange a w hc).2.2.2) [], fun a ha => ?_⟩
    obtain ⟨h1, h2, h3, -⟩ := hchange a w' ((Outside.walletWrite_eq hw).2 a ha)
    exact ⟨hs, h1, h2, h3⟩)

theorem Payment.funded_of_funds {a b : Payment} (h : a.funds b = true) (ha : a.funded = true) : b.funded = true := by
  cases a <;> cases b <;> simp_all [Payment.funds, Payment.decides, Payment.funded]

theorem Payment.refunded_of_funds {a : Payment} {b} (h : a.funds (.refunded b) = true) : a = .refunded b := by
  cases a <;> simp_all [Payment.funds, Payment.decides]

theorem drives_createPayment (hq : Quoted env p signed v) (hstart : p.outputsStarted = true)
    (hsome : v.terms.payment.isSome = true) {operation} :
    Drives env tid p₀ (fun h => Stored tid p h ∧ ⟨id, [v.quoteId]⟩ ∈ h.now.wallet.reservations)
      (Driver.walletCall operation (Driver.ask (.createSeatPayment ⟨id, [v.quoteId]⟩ v)))
      (fun pay h => Stored tid p h ∧ pay.refundContext = ⟨id, v.quoteId⟩ ∧ Funded v.quoteId h) :=
  drives_walletCall (drives_ask (lasting_stored.and lasting_reservations) fun h x r t out hp hi hs' => by
    obtain ⟨hs, hheld⟩ := hp
    simp only [handler, World.createSeatPayment, Option.bind_eq_some_iff] at hs'
    obtain ⟨w', hw, hs'⟩ := hs'
    unfold Wallet.fund at hw
    split at hw <;> cases hw
    rename_i hfunds
    obtain ⟨v', hv', hcap⟩ := (hi.buying hs).quote signed hq.stored
    obtain rfl : v' = v := Except.ok.inj (hv'.symm.trans hq.verified)
    have hinv : PurchaseInv env tid p₀ (h.snoc [.polled ⟨id, [v'.quoteId]⟩ v']
        { h.now with wallet := h.now.wallet.setPayment v'.quoteId x.payment }) := by
      refine hi.setPayment hs hq rfl (fun r hr => hr) (fun _ => ⟨hstart, hsome⟩)
        (Payment.funded_of_funds hfunds) (fun b hb => ?_) (by simp)
      rw [hb] at hfunds
      exact hi.refunded _ b (Payment.refunded_of_funds hfunds)
    have hev : ∀ e ∈ [Event.polled ⟨id, [v'.quoteId]⟩ v'], EventOk env tid p₀ h e := by
      intro e he
      rw [List.mem_singleton.mp he]
      exact ⟨p, signed, hs, hq, hstart, hcap, hheld, rfl⟩
    split at hs'
    · rename_i failure hf
      cases hs'
      refine ⟨hev, hinv, fun a ha => ?_⟩
      unfold Outside.walletFailure at hf
      split at hf <;> cases hf <;> cases ha
    split at hs' <;> cases hs'
    rename_i hacc
    refine ⟨hev, hinv, fun a ha => ?_⟩
    cases ha
    exact ⟨hs, rfl, by simp [Funded, hacc, Payment.funded]⟩)

theorem drives_settle (hq : Quoted env p signed v) {refund operation} :
    Drives env tid p₀ (fun h => Stored tid p h ∧ .refused v.quoteId ∈ h.past)
      (Driver.walletCall operation (Driver.ask (.settleSeatRefund ⟨id, v.quoteId⟩ refund)))
      (fun proof h => proof = ⟨id, v.quoteId⟩ ∧ (Stored tid p h ∧ .refused v.quoteId ∈ h.past) ∧ Void v.quoteId h) :=
  drives_walletCall (drives_ask (lasting_stored.and lasting_past) fun h x r t out hp hi hs' => by
    obtain ⟨hs, href⟩ := hp
    simp only [handler, World.onWallet, Option.map_eq_some_iff, Prod.mk.injEq] at hs'
    obtain ⟨⟨c, w'⟩, hw, rfl, rfl, rfl⟩ := hs'
    have hchange : ∀ a w, h.now.wallet.settle ⟨id, v.quoteId⟩ = some (a, w) →
        a = ⟨id, v.quoteId⟩ ∧ (w.payment v.quoteId).terminal = true ∧
          PurchaseInv env tid p₀ (h.snoc [] { h.now with wallet := w }) := by
      intro a w hc
      unfold Wallet.settle at hc
      split at hc
      · rename_i hpay
        cases hc
        obtain ⟨hstart, _, v', hv', -, hsome⟩ := (hi.buying hs).paid v.quoteId (by simp [hpay])
        rw [← (hq.unique hv').2] at hsome
        exact ⟨rfl, by simp [Payment.terminal], hi.setPayment hs hq rfl (fun r hr => hr)
          (fun _ => ⟨hstart, hsome⟩) (fun _ => rfl) (fun _ _ => href) fun _ => List.not_mem_nil⟩
      · rename_i hpay
        cases hc
        have hsame : h.snoc [] { h.now with wallet := h.now.wallet } = h := h.snoc_nil
        exact ⟨rfl, by simp [hpay, Payment.terminal], by rwa [hsame]⟩
      · cases hc
    refine ⟨by simp, hi.walletWrite hw (fun a w hc => (hchange a w hc).2.2) [], fun a ha => ?_⟩
    obtain ⟨h1, h2, -⟩ := hchange a w' ((Outside.walletWrite_eq hw).2 a ha)
    exact ⟨h1, ⟨hs, List.mem_append_left _ href⟩, h2⟩)

/-! ## Presentations -/

def Presentable (v : VerifiedQuote) (h : History) : Prop :=
  v.terms.payment.isSome = true → Funded v.quoteId h

theorem lasting_presentable : Lasting (Presentable v) := fun h h' hd hp hsome =>
  lasting_funded h h' hd (hp hsome)

theorem World.seatEvents_eq (codec : Codec) (locator : Locator) (q : QuoteId) (x : Outside) :
    World.seatEvents codec locator q x = [] ∨ World.seatEvents codec locator q x = [.accepted q] ∨
      World.seatEvents codec locator q x = [.refused q] := by
  unfold World.seatEvents
  split
  · exact .inl rfl
  split
  · exact .inl rfl
  split
  · split
    · exact .inr (Or.inl rfl)
    · split
      · exact .inr (Or.inr rfl)
      · exact .inl rfl
  · exact .inl rfl

theorem drives_createSeat (hq : Quoted env p signed v) (hid : env.codec.quoteId signed = v.quoteId)
    {locator request} (hreq : request.quote = signed) :
    Drives env tid p₀ (fun h => Stored tid p h ∧ Presentable v h)
      (Driver.mgCall locator .createSeat (Driver.ask (.createSeat locator request)))
      (fun answer h => Stored tid p h ∧ ∀ response refund,
        env.codec.verifyCreateSeat answer locator.servicePubkey = .ok response →
        response.quoteId = v.quoteId → response.outcome = .refused refund → .refused v.quoteId ∈ h.past) :=
  drives_mgCall (drives_ask (lasting_stored.and lasting_presentable) fun h x r t out hp hi hs' => by
    obtain ⟨hs, hpres⟩ := hp
    obtain ⟨rfl, rfl, rfl⟩ := hs'
    rw [hreq, hid]
    have hb := hi.buying hs
    refine ⟨?_, .of_buying (p := p) hs ⟨hb.same, hb.quote, hb.held, hb.paid, fun q hacc => ?_⟩
      fun q b hr => List.mem_append_left _ (hi.refunded q b hr), fun answer ha => ⟨hs, ?_⟩⟩
    · rcases World.seatEvents_eq env.codec locator v.quoteId x with h | h | h <;>
        simp [h, EventOk]
    · rcases List.mem_append.mp hacc with hacc | hacc
      · rcases hb.accepted q hacc with hr | hr
        · exact .inl (List.mem_append_left _ hr)
        · exact .inr hr
      rcases World.seatEvents_eq env.codec locator v.quoteId x with h | h | h <;>
        rw [h] at hacc <;> simp at hacc
      subst hacc
      exact .inr ⟨signed, v, hq, rfl, hpres⟩
    intro response refund hver hrq hout
    refine List.mem_append_right _ ?_
    unfold Outside.reply at ha
    split at ha
    · cases ha
    · rename_i hfault
      have hseat : x.seat = .ok answer := Except.ok.inj ha
      simp [World.seatEvents, hseat, hver, hrq, hout, hfault])

/-! ## Writes -/

theorem drives_write {w} (row : Option StoredGuardianTransfer) {R} (hP : Lasting P)
    (hrow : ∀ h, P h → h.now.written w = .ok row)
    (hok : ∀ h, P h → PurchaseInv env tid p₀ h → EventOk env tid p₀ h (.wrote w) ∧
      PurchaseInv env tid p₀ (h.snoc [.wrote w] { h.now with row := row }) ∧
      R (h.snoc [.wrote w] { h.now with row := row })) :
    Drives env tid p₀ P (Driver.write w) (fun _ => R) := by
  refine Drives.bind (R := fun r h => r = .ok () → R h) (drives_ask hP fun h x r t out hp hi hs' => ?_)
    fun r => .ofExcept fun a ha h hr => hr (by cases a; exact ha)
  obtain ⟨hev, hinv, hR⟩ := hok h hp hi
  have hev' : ∀ e ∈ [Event.wrote w], EventOk env tid p₀ h e := fun e he => by
    rw [List.mem_singleton.mp he]
    exact hev
  simp only [handler, World.write, hrow h hp, Option.some.injEq] at hs'
  split at hs'
  · rename_i heq
    cases heq
  · rename_i heq _
    cases heq
    cases hs'
    exact ⟨hev', hinv, fun _ => hR⟩
  rename_i heq _
  cases heq
  split at hs' <;> cases hs'
  · exact ⟨hev', hinv, fun h => by cases h⟩
  · exact ⟨by simp, by rwa [Hist.snoc_nil], fun h => by cases h⟩

theorem drives_close (hP : Lasting P) (hc : ∀ h, P h → PurchaseInv env tid p₀ h → Closable h) :
    Drives env tid p₀ P (Driver.write .close) (fun _ _ => True) :=
  drives_write none hP (fun _ _ => rfl) fun h hp hi =>
    ⟨hc h hp hi, hi.of_done (fun _ ht => by cases ht), trivial⟩

theorem Stored.written {h} (hs : Stored tid p h) {stage} :
    h.now.written (.update ⟨tid, stage⟩) = .ok (some ⟨tid, stage⟩) := by
  have hrow : h.now.row = some ⟨tid, .buying p⟩ := hs
  simp [World.written, hrow]

theorem drives_saveMove (m : StoredMove) :
    Drives env tid p₀ (Stored tid p) (Driver.write (.update ⟨tid, .moving m⟩)) (fun _ _ => True) :=
  drives_write _ lasting_stored (fun h hs => Stored.written hs) fun h hs hi =>
    ⟨fun _ _ _ hm => (by cases hm), hi.of_done fun t ht => (by cases ht; exact ⟨rfl, fun p hp => by cases hp⟩), trivial⟩

def History.saved (h : History) (tid : FormationId) (p' : StoredSeatPurchase) : History :=
  h.snoc [.wrote (.update ⟨tid, .buying p'⟩)] ⟨some ⟨tid, .buying p'⟩, h.now.wallet⟩

theorem drives_savePurchase {stage : TransferStage} {p' : StoredSeatPurchase} {R : History → Prop}
    (hP : Lasting P) (hs : ∀ h, P h → Stored tid p h)
    (hok : ∀ h, P h → Buying env tid p₀ p h → Replaces env h p p' ∧ Buying env tid p₀ p' (h.saved tid p'))
    (hR : ∀ h, P h → R (h.saved tid p')) :
    Drives env tid p₀ P (Driver.savePurchase ⟨tid, stage⟩ p') (fun _ h => Stored tid p' h ∧ R h) :=
  drives_write _ hP (fun h hp => Stored.written (hs h hp)) fun h hp hi => by
    obtain ⟨hrep, hb⟩ := hok h hp (hi.buying (hs h hp))
    refine ⟨fun p₁ p₂ h₁ h₂ => ?_, .of_buying (p := p') rfl hb fun q b hr =>
      List.mem_append_left _ (hi.refunded q b hr), rfl, hR h hp⟩
    cases (hs h hp).symm.trans h₁
    cases h₂
    exact hrep

end Manifold.FaClient
