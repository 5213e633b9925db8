import Manifold.FaClient.Lemmas.Purchases

/-!
# What each question of the driver does to the purchase
-/

namespace Manifold.FaClient

open Guardian (QuoteId FederationId)
open Lib Lib.Routine

section

variable (env : Env) (tid : FormationId) (p₀ : StoredSeatPurchase)

def pact : Pact Event World where
  inv := PurchaseInv env tid p₀
  rely := Drift
  guar h h' := ∃ out, h'.past = h.past ++ out ∧ ∀ e ∈ out, EventOk env tid p₀ h e
  rely_refl := Drift.refl
  rely_trans := Drift.trans

def IfOk {α : Type} (R : α → History → Prop) : Except FaError α → Unit → History → Prop
  | .ok a, _, h => R a h
  | .error _, _, _ => True

def Drives {α : Type} (P : History → Prop) (p : Driver α) (R : α → History → Prop) : Prop :=
  Spec (handler env.codec) (pact env tid p₀) (fun _ _ => True) (fun _ h => P h) p (IfOk R)

/-- Whatever it ends with, the function keeps `P`. -/
abbrev Stays {α : Type} (P : History → Prop) (p : Driver α) : Prop :=
  Keeps (handler env.codec) (pact env tid p₀) (fun _ h => P h) p

end

variable {env : Env} {tid : FormationId} {p₀ p : StoredSeatPurchase} {P P' : History → Prop} {α β : Type}

/-! ## Rules -/

namespace Drives

variable {R R' : α → History → Prop} {S : β → History → Prop}

theorem mono {d} (hd : Drives env tid p₀ P d R) (hP : ∀ h, P' h → P h) (hR : ∀ a h, R a h → R' a h) :
    Drives env tid p₀ P' d R' :=
  Spec.mono hd (fun _ h => hP h) fun r _ h hr => by
    cases r with
    | ok a => exact hR a h hr
    | error e => trivial

theorem pure {a} (h : ∀ h, P h → R a h) : Drives env tid p₀ P (Pure.pure a : Driver α) R :=
  Spec.pure fun _ => h

theorem throw {e} : Drives env tid p₀ P (MonadExcept.throw e : Driver α) R :=
  Spec.throw fun _ _ _ => trivial

theorem ofExcept {r} (h : ∀ a, r = .ok a → ∀ h, P h → R a h) : Drives env tid p₀ P (Routine.ofExcept r : Driver α) R :=
  Spec.ofExcept fun _ h' hp => by
    cases r with
    | ok a => exact h a rfl h' hp
    | error e => trivial

theorem bind {d f} (hd : Drives env tid p₀ P d R) (hf : ∀ a, Drives env tid p₀ (R a) (f a) S) :
    Drives env tid p₀ P (d >>= f) S :=
  Spec.bind (R := fun a _ h => R a h) (Spec.mono hd (fun _ _ h => h) fun r _ _ hr => by
    cases r with
    | ok a => exact hr
    | error e => trivial) hf

theorem map {d : Driver α} {g : α → β} (hd : Drives env tid p₀ P d (fun a h => S (g a) h)) :
    Drives env tid p₀ P (g <$> d) S := bind hd fun _ => pure fun _ h => h

theorem of_fact {φ d} (hd : φ → Drives env tid p₀ P d R) : Drives env tid p₀ (fun h => φ ∧ P h) d R := Spec.of_fact hd

theorem bindExcept {r} {f : α → Driver β} (hf : ∀ a, r = .ok a → Drives env tid p₀ P (f a) S) :
    Drives env tid p₀ P (Routine.ofExcept r >>= f) S :=
  bind (R := fun a h => r = .ok a ∧ P h) (ofExcept fun _ ha _ hp => ⟨ha, hp⟩) fun a => of_fact (hf a)

theorem of_stays {d : Driver α} (hd : Stays env tid p₀ P d) : Drives env tid p₀ P d (fun _ => P) :=
  Spec.mono hd.undropped (fun _ _ h => h) fun r _ _ hr => by
    cases r with
    | ok a => exact hr
    | error e => trivial

end Drives

theorem drives_ask {e R} (hP : Lasting P)
    (hact : ∀ h x r t out, P h → PurchaseInv env tid p₀ h → handler env.codec e h.now x = some (r, t, out) →
      (∀ e ∈ out, EventOk env tid p₀ h e) ∧ PurchaseInv env tid p₀ (h.snoc out t) ∧ R r (h.snoc out t)) :
    Drives env tid p₀ P (Driver.ask e) R :=
  Spec.ask (fun _ h h' hd => hP h h' hd) (fun _ _ _ => trivial) fun _ h x r t out hp hi hs => by
    obtain ⟨hev, hi', hr⟩ := hact h x r t out hp hi hs
    exact ⟨⟨out, rfl, hev⟩, hi', trivial, hr⟩

theorem drives_call {d : Driver (Except CallFault α)} {operation : String} {R : α → History → Prop}
    (hd : Drives env tid p₀ P d (fun c h => ∀ a, c = .ok a → R a h)) :
    Drives env tid p₀ P (Driver.call operation d) R :=
  hd.bind fun c => by
    cases c with
    | ok a => exact .pure fun h hr => hr a rfl
    | error f => exact .throw

theorem drives_walletCall {d : Driver (WalletCall α)} {operation : String} {R : α → History → Prop}
    (hd : Drives env tid p₀ P d (fun c h => ∀ a, c = .ok (.ok a) → R a h)) :
    Drives env tid p₀ P (Driver.walletCall operation d) R :=
  (drives_call (hd.mono (fun _ h => h) fun c h hc b hb a ha => hc a (by rw [hb, ha]))).bind
    (R := fun b h => ∀ a, b = .ok a → R a h) fun c => by
      cases c with
      | ok a => exact .pure fun h hr => hr a rfl
      | error f => exact .throw

theorem drives_mgCall {d : Driver (MgCall α)} {locator : Locator} {operation : MgOperation}
    {R : α → History → Prop} (hd : Drives env tid p₀ P d (fun c h => ∀ a, c = .ok (.ok a) → R a h)) :
    Drives env tid p₀ P (Driver.mgCall locator operation d) R :=
  hd.bind fun c => by
    match c with
    | .error .timeout => exact .throw
    | .error .busy => exact .throw
    | .error (.storage _) => exact .throw
    | .ok (.error _) => exact .throw
    | .ok (.ok a) => exact .pure fun h hr => hr a rfl

/-! ## Quiet questions -/

def Ask.quiet : Ask → Bool
  | .nowSecs | .renew | .sign _ | .connect _ | .getAvailability _ | .getQuote _ _
  | .refreshSetupPaymentPolicy | .payableFederations _ | .prepareQuoteRefund _ _ => true
  | _ => false

theorem handler_quiet {codec e w w' x r out}
    (he : e.quiet = true) (h : handler codec e w x = some (r, w', out)) : w' = w ∧ out = [] := by
  cases e <;> try cases he
  all_goals
    simp only [handler, Option.map_eq_some_iff, Option.some.injEq, Prod.mk.injEq] at h
  case payableFederations =>
    obtain ⟨_, -, -, rfl, rfl⟩ := h
    exact ⟨rfl, rfl⟩
  case prepareQuoteRefund =>
    obtain ⟨_, -, -, rfl, rfl⟩ := h
    exact ⟨rfl, rfl⟩
  all_goals exact ⟨h.2.1.symm, h.2.2.symm⟩

theorem stays_quiet (hP : Lasting P) {e} (he : e.quiet = true) : Stays env tid p₀ P (Driver.ask e) :=
  keeps_ask (fun _ h h' hd hp => hP h h' hd hp) fun _ h x r t out hp hi hs => by
    obtain ⟨rfl, rfl⟩ := handler_quiet he hs
    rw [Hist.snoc_nil]
    exact ⟨⟨[], by simp, by simp⟩, hi, hp⟩

theorem stays_call {d : Driver (Except CallFault α)} {operation : String} (hd : Stays env tid p₀ P d) :
    Stays env tid p₀ P (Driver.call operation d) :=
  keeps_bind hd fun c => by
    cases c with
    | ok a => exact keeps_pure
    | error f => exact keeps_throw

theorem stays_walletCall {d : Driver (WalletCall α)} {operation : String} (hd : Stays env tid p₀ P d) :
    Stays env tid p₀ P (Driver.walletCall operation d) :=
  keeps_bind (stays_call hd) fun c => by
    cases c with
    | ok a => exact keeps_pure
    | error f => exact keeps_throw

theorem stays_mgCall {d : Driver (MgCall α)} {locator : Locator} {operation : MgOperation}
    (hd : Stays env tid p₀ P d) : Stays env tid p₀ P (Driver.mgCall locator operation d) :=
  keeps_bind hd fun c => by
    match c with
    | .error .timeout => exact keeps_throw
    | .error .busy => exact keeps_throw
    | .error (.storage _) => exact keeps_throw
    | .ok (.error _) => exact keeps_throw
    | .ok (.ok a) => exact keeps_pure

theorem stays_map {d : Driver α} {g : α → β} (hd : Stays env tid p₀ P d) : Stays env tid p₀ P (g <$> d) :=
  keeps_bind hd fun _ => keeps_pure

/-! ## Answers of the wallet -/

theorem Outside.walletRead_eq {x : Outside} {a : Option α} {r : WalletCall α} (h : x.walletRead a = some r) :
    (∀ b, r ≠ .ok (.ok b)) ∨ ∃ b, a = some b ∧ r = .ok (.ok b) := by
  unfold Outside.walletRead Outside.walletFailure at h
  cases hf : x.fault with
  | some f =>
    simp only [hf] at h
    cases h
    exact .inl fun b => by simp
  | none =>
    cases he : x.walletError with
    | some e =>
      simp only [hf, he] at h
      cases h
      exact .inl fun b => by simp
    | none =>
      simp only [hf, he, Option.map_eq_some_iff] at h
      obtain ⟨b, hb, rfl⟩ := h
      exact .inr ⟨b, hb, rfl⟩

theorem Outside.walletWrite_eq {x : Outside} {w w' : Wallet} {c : Option (α × Wallet)} {r : WalletCall α}
    (h : x.walletWrite w c = some (r, w')) :
    (w' = w ∨ ∃ a, c = some (a, w')) ∧ ∀ a, r = .ok (.ok a) → c = some (a, w') := by
  unfold Outside.walletWrite at h
  split at h
  · rename_i failure hf
    have hno : ∀ a, failure ≠ .ok (.ok a) := by
      unfold Outside.walletFailure at hf
      split at hf <;> cases hf <;> simp
    cases h
    refine ⟨?_, fun a ha => absurd ha (hno a)⟩
    split
    · cases c with
      | none => exact .inl rfl
      | some c => exact .inr ⟨c.1, rfl⟩
    · exact .inl rfl
  obtain ⟨c', hc, he⟩ := Option.map_eq_some_iff.mp h
  cases he
  refine ⟨Or.inr ⟨c'.1, hc⟩, fun a ha => ?_⟩
  cases ha
  exact hc

theorem provedBy_eq (qs : List QuoteId) (proves : α → Bool) (r : WalletCall α) :
    ∃ out : List QuoteId, provedBy qs proves r = out.map .proved ∧
      ∀ a, r = .ok (.ok a) → proves a = true → out = qs := by
  unfold provedBy
  split
  · rename_i a
    split
    · exact ⟨qs, rfl, fun _ _ _ => rfl⟩
    rename_i hn
    refine ⟨[], rfl, fun b hb hp => ?_⟩
    cases hb
    exact absurd hp hn
  · rename_i hne
    exact ⟨[], rfl, fun a ha _ => absurd ha (hne a)⟩

theorem drift_proved (h : History) (out : List QuoteId) : Drift h (h.snoc (out.map .proved) h.now) :=
  ⟨⟨out, rfl⟩, rfl, rfl, fun _ => Payment.decides_refl _⟩

theorem eventOk_proved {h} {out : List QuoteId} : ∀ e ∈ out.map Event.proved, EventOk env tid p₀ h e := by
  intro e he
  obtain ⟨q, -, rfl⟩ := List.mem_map.mp he
  trivial

theorem PurchaseInv.walletWrite {h : History} {x : Outside} {c : Option (α × Wallet)} {r : WalletCall α}
    {w' : Wallet} (hi : PurchaseInv env tid p₀ h) (hw : x.walletWrite h.now.wallet c = some (r, w'))
    (hc : ∀ a w, c = some (a, w) → PurchaseInv env tid p₀ (h.snoc [] { h.now with wallet := w }))
    (out : List QuoteId) : PurchaseInv env tid p₀ (h.snoc (out.map .proved) { h.now with wallet := w' }) := by
  have hi' : PurchaseInv env tid p₀ (h.snoc [] { h.now with wallet := w' }) := by
    rcases (Outside.walletWrite_eq hw).1 with rfl | ⟨a, ha⟩
    · have hsame : h.snoc [] { h.now with wallet := h.now.wallet } = h := h.snoc_nil
      rwa [hsame]
    · exact hc a w' ha
  have := hi'.drift (drift_proved _ out)
  simpa [Hist.snoc] using this

theorem PurchaseInv.wallet {h w} (hi : PurchaseInv env tid p₀ h) (hs : Stored tid p h)
    (hheld : ∀ r ∈ w.reservations, ∃ signed v, Quoted env p signed v ∧ env.reservation tid p v = some r)
    (hpaid : ∀ q, w.payment q ≠ .notStarted → p.outputsStarted = true ∧
      ∃ signed v, Quoted env p signed v ∧ v.quoteId = q ∧ v.terms.payment.isSome = true)
    (hfunded : ∀ q, (h.now.wallet.payment q).funded = true → (w.payment q).funded = true)
    (hrefunded : ∀ q b, w.payment q = .refunded b → .refused q ∈ h.past) {out} (hout : ∀ q, .accepted q ∉ out) :
    PurchaseInv env tid p₀ (h.snoc out { h.now with wallet := w }) := by
  have hb := hi.buying hs
  refine .of_buying (p := p) hs ⟨hb.same, hb.quote, hheld, hpaid, fun q hq => ?_⟩ fun q b hq =>
    List.mem_append_left _ (hrefunded q b hq)
  have hq' : .accepted q ∈ h.past := (List.mem_append.mp hq).resolve_right (hout q)
  rcases hb.accepted q hq' with hr | ⟨signed, v, hv, he, hf⟩
  · exact .inl (List.mem_append_left _ hr)
  · exact .inr ⟨signed, v, hv, he, fun hpay => hfunded q (hf hpay)⟩

/-! ## Reservations -/

section

variable {signed : SignedResponse} {v : VerifiedQuote} {id : PaymentReservationId}
  {preflight : ExactPaymentPreflight}

theorem PurchaseInv.reservation_eq {h} (hi : PurchaseInv env tid p₀ h) (hs : Stored tid p h)
    (hq : Quoted env p signed v) {r r'} (hr : env.reservation tid p v = some r)
    (hr' : r' ∈ h.now.wallet.reservations) : r' = r := by
  obtain ⟨signed', v', hv', he⟩ := (hi.buying hs).held r' hr'
  rw [← (hq.unique hv').2, hr] at he
  exact (Option.some.inj he).symm

theorem PurchaseInv.lookup_none {h} (hi : PurchaseInv env tid p₀ h) (hs : Stored tid p h)
    (hq : Quoted env p signed v) (hr : env.reservation tid p v = some ⟨id, [v.quoteId]⟩)
    (hl : h.now.wallet.lookup id = none) : h.now.wallet.reservations = [] := by
  refine List.eq_nil_iff_forall_not_mem.mpr fun r hr' => ?_
  have hid := List.find?_eq_none.mp hl r hr'
  rw [hi.reservation_eq hs hq hr hr'] at hid
  simp at hid

theorem PurchaseInv.lookup_some {h} (hi : PurchaseInv env tid p₀ h) (hs : Stored tid p h)
    (hq : Quoted env p signed v) (hr : env.reservation tid p v = some ⟨id, [v.quoteId]⟩) {r}
    (hl : h.now.wallet.lookup id = some r) :
    r = ⟨id, [v.quoteId]⟩ ∧ r ∈ h.now.wallet.reservations :=
  ⟨hi.reservation_eq hs hq hr (List.mem_of_find?_eq_some hl), List.mem_of_find?_eq_some hl⟩

theorem drives_recoverReservation (hP : Lasting P) (hs : ∀ h, P h → Stored tid p h) (hq : Quoted env p signed v)
    (hr : env.reservation tid p v = some ⟨id, [v.quoteId]⟩) (hpf : preflight.quoteIds = [v.quoteId]) {operation} :
    Drives env tid p₀ P
      (Driver.walletCall operation (Driver.ask (.recoverPaymentReservation id preflight)))
      (fun r h => P h ∧ match r with
        | .existing r => r = ⟨id, [v.quoteId]⟩ ∧ r ∈ h.now.wallet.reservations
        | .absent => h.now.wallet.reservations = [] ∧ Proved v.quoteId h) :=
  drives_walletCall (drives_ask hP fun h x r t out hp hi hs' => by
    simp only [handler, Option.map_eq_some_iff, Prod.mk.injEq] at hs'
    obtain ⟨c, hc, rfl, rfl, rfl⟩ := hs'
    obtain ⟨qs, hqs, hall⟩ := provedBy_eq preflight.quoteIds
      (· == PaymentReservationRecovery.absent) c
    rw [hqs]
    refine ⟨eventOk_proved, hi.drift (drift_proved h qs), fun a ha => ?_⟩
    rcases Outside.walletRead_eq hc with hno | ⟨b, hb, rfl⟩
    · exact absurd ha (hno a)
    cases ha
    refine ⟨hP h _ (drift_proved h qs) hp, ?_⟩
    unfold Wallet.recoverReservation at hb
    split at hb
    · rename_i hl
      cases hb
      refine ⟨hi.lookup_none (hs h hp) hq hr hl, ?_⟩
      rw [hall _ rfl rfl, hpf]
      exact proved_of_mem (List.mem_singleton.mpr rfl)
    · rename_i r' hl
      split at hb <;> cases hb
      exact hi.lookup_some (hs h hp) hq hr hl)

theorem drives_reserve (hq : Quoted env p signed v) (hr : env.reservation tid p v = some ⟨id, [v.quoteId]⟩)
    (hpf : preflight.quoteIds = [v.quoteId]) {operation} :
    Drives env tid p₀ (Stored tid p)
      (Driver.walletCall operation (Driver.ask (.reservePaymentRequirements id preflight)))
      (fun r h => Stored tid p h ∧ r = ⟨id, [v.quoteId]⟩ ∧ r ∈ h.now.wallet.reservations) :=
  drives_walletCall (drives_ask lasting_stored fun h x r t out hs hi hs' => by
    simp only [handler, World.onWallet, Option.map_eq_some_iff, Prod.mk.injEq] at hs'
    obtain ⟨⟨c, w'⟩, hw, rfl, rfl, rfl⟩ := hs'
    have hchange : ∀ a w, h.now.wallet.reserve id preflight = some (a, w) →
        a = ⟨id, [v.quoteId]⟩ ∧ a ∈ w.reservations ∧ PurchaseInv env tid p₀ (h.snoc [] { h.now with wallet := w }) := by
      intro a w hc
      unfold Wallet.reserve at hc
      split at hc
      · cases hc
        refine ⟨by rw [hpf], List.mem_cons_self, ?_⟩
        have hb := hi.buying hs
        refine hi.wallet (w := ⟨_ :: _, _⟩) hs (fun r hr' => ?_) hb.paid (fun _ h => h) hi.refunded fun _ => List.not_mem_nil
        rcases List.mem_cons.mp hr' with rfl | hr'
        · exact ⟨signed, v, hq, by rw [hr, hpf]⟩
        · exact hb.held r hr'
      rename_i r' hl
      split at hc <;> cases hc
      obtain ⟨he, hm⟩ := hi.lookup_some hs hq hr hl
      have hsame : h.snoc [] { h.now with wallet := h.now.wallet } = h := h.snoc_nil
      exact ⟨he, hm, by rwa [hsame]⟩
    refine ⟨by simp, ?_, fun a ha => ?_⟩
    · exact hi.walletWrite hw (fun a w hc => (hchange a w hc).2.2) []
    · obtain ⟨he, hm, -⟩ := hchange a w' ((Outside.walletWrite_eq hw).2 a ha)
      exact ⟨hs, he, hm⟩)

theorem drives_release (hP : ∀ h, P h → Stored tid p h) (hPl : Lasting P) (hq : Quoted env p signed v)
    (hr : env.reservation tid p v = some ⟨id, [v.quoteId]⟩) {operation} :
    Drives env tid p₀ P
      (Driver.walletCall operation (Driver.ask (.releasePaymentReservation ⟨id, [v.quoteId]⟩)))
      (fun _ h => Stored tid p h ∧ h.now.wallet.reservations = [] ∧ Proved v.quoteId h) :=
  drives_walletCall (drives_ask hPl fun h x r t out hp hi hs' => by
    have hs := hP h hp
    simp only [handler, World.onWallet, Option.map_eq_some_iff, Prod.mk.injEq] at hs'
    obtain ⟨⟨c, w'⟩, hw, rfl, rfl, rfl⟩ := hs'
    obtain ⟨qs, hqs, hall⟩ := provedBy_eq [v.quoteId] (fun _ : Unit => true) c
    have hchange : ∀ a w, h.now.wallet.release ⟨id, [v.quoteId]⟩ = some (a, w) →
        w.reservations = [] ∧ PurchaseInv env tid p₀ (h.snoc [] { h.now with wallet := w }) := by
      intro a w hc
      unfold Wallet.release at hc
      split at hc <;> cases hc
      have hnil : h.now.wallet.reservations.filter (fun s => s.id != id) = [] := by
        refine List.filter_eq_nil_iff.mpr fun r hr' => ?_
        rw [hi.reservation_eq hs hq hr hr']
        simp
      refine ⟨hnil, hi.wallet (w := ⟨List.filter _ _, _⟩) hs ?_ (hi.buying hs).paid (fun _ h => h) hi.refunded fun _ => List.not_mem_nil⟩
      intro r hr'
      exact (hi.buying hs).held r (List.mem_of_mem_filter hr')
    refine ⟨by rw [hqs]; exact eventOk_proved, ?_, fun a ha => ?_⟩
    · rw [hqs]
      exact hi.walletWrite hw (fun a w hc => (hchange a w hc).2) qs
    · refine ⟨hs, (hchange a w' ((Outside.walletWrite_eq hw).2 a ha)).1, ?_⟩
      rw [hqs, hall a ha rfl]
      exact proved_of_mem (List.mem_singleton.mpr rfl))

end

end Manifold.FaClient
