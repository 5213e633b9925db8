import Manifold.Lib.Trace
import Manifold.FaClient.Purchases

/-!
# What the row and the wallet say about each other
-/

namespace Manifold.FaClient

open Guardian (QuoteId FederationId)
open Lib Lib.Routine

abbrev History := Lib.Hist Event World

def Env.reservation (env : Env) (transferId : FormationId) (p : StoredSeatPurchase) (v : VerifiedQuote) :
    Option PaymentReservation :=
  match env.purchaseRequirements transferId p v with
  | .ok requirements => some ⟨env.paymentReservationId transferId requirements, [v.quoteId]⟩
  | .error _ => none

structure Quoted (env : Env) (p : StoredSeatPurchase) (signed : SignedResponse) (v : VerifiedQuote) : Prop where
  stored : p.signedQuote = some signed
  verified : env.verify p signed = .ok v

/-- Since the quote was last polled for, the wallet proved that no payment of it started. -/
def Proved (q : QuoteId) (h : History) : Prop :=
  .proved q ∈ Trace.since (fun e => match e with
    | .polled _ quote => quote.quoteId == q
    | _ => false) h.past

structure Closable (h : History) : Prop where
  unreserved : h.now.wallet.reservations = []
  released : ∀ q, (h.now.wallet.payment q).unreleased = false
  refused : ∀ q, .accepted q ∈ h.past → .refused q ∈ h.past

section

variable (env : Env) (tid : FormationId) (p₀ : StoredSeatPurchase)

def Stored (p : StoredSeatPurchase) (h : History) : Prop := h.now.row = some ⟨tid, .buying p⟩

/-- The state while `p` is stored. -/
structure Buying (p : StoredSeatPurchase) (h : History) : Prop where
  /-- Only the quote and the mark ever change. -/
  same : p = { p₀ with signedQuote := p.signedQuote, outputsStarted := p.outputsStarted }
  quote : ∀ signed, p.signedQuote = some signed → ∃ v, env.verify p signed = .ok v ∧ v.terms.priceMsats ≤ p₀.maxMsats
  held : ∀ r ∈ h.now.wallet.reservations, ∃ signed v, Quoted env p signed v ∧ env.reservation tid p v = some r
  paid : ∀ q, h.now.wallet.payment q ≠ .notStarted → p.outputsStarted = true ∧
    ∃ signed v, Quoted env p signed v ∧ v.quoteId = q ∧ v.terms.payment.isSome = true
  accepted : ∀ q, .accepted q ∈ h.past → .refused q ∈ h.past ∨ ∃ signed v, Quoted env p signed v ∧
    v.quoteId = q ∧ (v.terms.payment.isSome = true → (h.now.wallet.payment q).funded = true)

structure PurchaseInv (h : History) : Prop where
  row : ∀ t, h.now.row = some t → t.transferId = tid ∧ ∀ p, t.stage = .buying p → Buying env tid p₀ p h
  single : ∀ q q', h.now.wallet.payment q ≠ .notStarted → h.now.wallet.payment q' ≠ .notStarted → q = q'
  refunded : ∀ q b, h.now.wallet.payment q = .refunded b → .refused q ∈ h.past

def Idle (signed : SignedResponse) (h : History) : Prop :=
  h.now.wallet.payment (env.codec.quoteId signed) = .notStarted ∧ Proved (env.codec.quoteId signed) h

/-- The stored quote or its mark is given up only when idle, and another quote is stored only when nothing is
reserved. -/
structure Replaces (h : History) (p p' : StoredSeatPurchase) : Prop where
  idle : ∀ signed, p.signedQuote = some signed →
    (p'.signedQuote ≠ some signed ∨ p.outputsStarted = true ∧ p'.outputsStarted = false) → Idle env signed h
  unreserved : ∀ signed, p'.signedQuote = some signed → p.signedQuote ≠ some signed → h.now.wallet.reservations = []

/-- The payment that is polled for is that of the stored and started quote, within the cap and reserved. -/
def Polls (h : History) (r : PaymentReservation) (quote : VerifiedQuote) : Prop :=
  ∃ p signed, Stored tid p h ∧ Quoted env p signed quote ∧ p.outputsStarted = true ∧
    quote.terms.priceMsats ≤ p₀.maxMsats ∧ r ∈ h.now.wallet.reservations ∧ r.quoteIds = [quote.quoteId]

def EventOk (h : History) : Event → Prop
  | .polled r quote => Polls env tid p₀ h r quote
  | .wrote (.update t) => ∀ p p', Stored tid p h → t.stage = .buying p' → Replaces env h p p'
  | .wrote .close => Closable h
  | _ => True

structure Drift (h h' : History) : Prop where
  past : ∃ out : List QuoteId, h'.past = h.past ++ out.map .proved
  row : h'.now.row = h.now.row
  reservations : h'.now.wallet.reservations = h.now.wallet.reservations
  payment : ∀ q, (h.now.wallet.payment q).decides (h'.now.wallet.payment q) = true

end

/-! ## Drift -/

theorem Payment.decides_refl (p : Payment) : p.decides p = true := by
  cases p <;> simp [Payment.decides]

theorem Payment.decides_cases {p q : Payment} (h : p.decides q = true) :
    q = p ∨ p = .pending ∧ (q = .accepted ∨ q = .rejected false) := by
  unfold Payment.decides at h
  split at h <;> simp_all

theorem Payment.decides_trans {p q r : Payment} (h₁ : p.decides q = true) (h₂ : q.decides r = true) :
    p.decides r = true := by
  rcases decides_cases h₁ with rfl | ⟨rfl, rfl | rfl⟩
  · exact h₂
  · rcases decides_cases h₂ with rfl | ⟨hp, -⟩
    · rfl
    · cases hp
  · rcases decides_cases h₂ with rfl | ⟨hp, -⟩
    · rfl
    · cases hp

theorem Drift.refl (h : History) : Drift h h :=
  ⟨⟨[], by simp⟩, rfl, rfl, fun _ => Payment.decides_refl _⟩

theorem Drift.trans {h₁ h₂ h₃} (h : Drift h₁ h₂) (h' : Drift h₂ h₃) : Drift h₁ h₃ := by
  obtain ⟨out, ho⟩ := h.past
  obtain ⟨out', ho'⟩ := h'.past
  exact ⟨⟨out ++ out', by rw [ho', ho, List.map_append, List.append_assoc]⟩, h'.row.trans h.row,
    h'.reservations.trans h.reservations, fun q => Payment.decides_trans (h.payment q) (h'.payment q)⟩

def Lasting (P : History → Prop) : Prop := ∀ h h', Drift h h' → P h → P h'

theorem Lasting.and {P Q} (hP : Lasting P) (hQ : Lasting Q) :
    Lasting (fun h => P h ∧ Q h) := fun h h' hd hh => ⟨hP h h' hd hh.1, hQ h h' hd hh.2⟩

theorem lasting_stored {tid p} : Lasting (Stored tid p) :=
  fun _ _ hd hs => hd.row.trans hs

theorem lasting_reservations {φ : List PaymentReservation → Prop} :
    Lasting (fun h => φ h.now.wallet.reservations) := fun h h' hd hp => by
  beta_reduce
  rw [hd.reservations]
  exact hp

theorem lasting_payment {φ : Payment → Prop} {q : QuoteId} (hφ : ¬ φ .pending) :
    Lasting (fun h => φ (h.now.wallet.payment q)) := fun h h' hd hp => by
  beta_reduce at hp ⊢
  rcases Payment.decides_cases (hd.payment q) with he | ⟨he, -⟩
  · rwa [he]
  · rw [he] at hp
    exact absurd hp hφ

theorem lasting_past {e} : Lasting (fun h => e ∈ h.past) := fun h h' hd he => by
  obtain ⟨out, ho⟩ := hd.past
  rw [ho]
  exact List.mem_append_left _ he

theorem Proved.snoc {q h} (hp : Proved q h) {out w} (hout : ∀ e ∈ out, ∀ r quote, e ≠ .polled r quote) :
    Proved q (h.snoc out w) := by
  unfold Proved
  rw [Hist.snoc_past, Trace.since_append]
  · exact List.mem_append_left _ hp
  intro e he
  cases e with
  | polled r quote => exact absurd rfl (hout _ he r quote)
  | _ => rfl

theorem lasting_proved {q} : Lasting (Proved q) := fun h h' hd hp => by
  obtain ⟨out, ho⟩ := hd.past
  have hs : h' = h.snoc (out.map .proved) h'.now := by
    cases h'
    simp_all [Hist.snoc]
  rw [hs]
  refine hp.snoc fun e he => ?_
  obtain ⟨q', -, rfl⟩ := List.mem_map.mp he
  exact fun _ _ => by simp

theorem proved_of_mem {q} {h : History} {qs : List QuoteId} {w} (hq : q ∈ qs) :
    Proved q (h.snoc (qs.map .proved) w) := by
  refine Trace.mem_since_of_append (fun e he => ?_) (List.mem_map_of_mem hq)
  obtain ⟨q', -, rfl⟩ := List.mem_map.mp he
  rfl

/-! ## The invariant -/

variable {env : Env} {tid : FormationId} {p₀ p : StoredSeatPurchase} {h h' : History}

theorem Quoted.unique {signed signed' v v'} (h₁ : Quoted env p signed v) (h₂ : Quoted env p signed' v') :
    signed = signed' ∧ v = v' := by
  obtain rfl : signed = signed' := Option.some.inj (h₁.stored.symm.trans h₂.stored)
  exact ⟨rfl, Except.ok.inj (h₁.verified.symm.trans h₂.verified)⟩

theorem PurchaseInv.buying (hi : PurchaseInv env tid p₀ h) (hs : Stored tid p h) : Buying env tid p₀ p h :=
  (hi.row _ hs).2 p rfl

theorem PurchaseInv.of_buying (hs : Stored tid p h) (hb : Buying env tid p₀ p h)
    (hr : ∀ q b, h.now.wallet.payment q = .refunded b → .refused q ∈ h.past) : PurchaseInv env tid p₀ h := by
  refine ⟨fun t ht => ?_, fun q q' hq hq' => ?_, hr⟩
  · obtain rfl : t = ⟨tid, .buying p⟩ := Option.some.inj (ht.symm.trans hs)
    refine ⟨rfl, fun p' hp' => ?_⟩
    obtain rfl : p = p' := TransferStage.buying.inj hp'
    exact hb
  · obtain ⟨-, _, v, hv, rfl, -⟩ := hb.paid q hq
    obtain ⟨-, _, v', hv', rfl, -⟩ := hb.paid q' hq'
    rw [(hv.unique hv').2]

theorem PurchaseInv.of_done (hi : PurchaseInv env tid p₀ h) {row out}
    (hrow : ∀ t, row = some t → t.transferId = tid ∧ ∀ p, t.stage ≠ .buying p) :
    PurchaseInv env tid p₀ (h.snoc out { h.now with row := row }) :=
  ⟨fun t ht => ⟨(hrow t ht).1, fun p hp => absurd hp ((hrow t ht).2 p)⟩, hi.single,
    fun q b hq => List.mem_append_left _ (hi.refunded q b hq)⟩

theorem PurchaseInv.drift (hi : PurchaseInv env tid p₀ h) (hd : Drift h h') : PurchaseInv env tid p₀ h' := by
  obtain ⟨out, ho⟩ := hd.past
  have hstart : ∀ q, h'.now.wallet.payment q ≠ .notStarted → h.now.wallet.payment q ≠ .notStarted :=
    fun q hq hn => hq (lasting_payment (φ := (· = .notStarted)) (by simp) h h' hd hn)
  have hmem : ∀ e, e ∈ h.past → e ∈ h'.past := fun e he => lasting_past h h' hd he
  refine ⟨fun t ht => ?_, fun q q' hq hq' => hi.single q q' (hstart q hq) (hstart q' hq'), fun q b hq => ?_⟩
  · rw [hd.row] at ht
    obtain ⟨hid, hb⟩ := hi.row t ht
    refine ⟨hid, fun p hp => ?_⟩
    obtain ⟨same, quote, held, paid, acc⟩ := hb p hp
    refine ⟨same, quote, by rwa [hd.reservations], fun q hq => paid q (hstart q hq), fun q hq => ?_⟩
    rw [ho] at hq
    rcases acc q (by simpa using hq) with hr | ⟨signed, v, hv, hq', hf⟩
    · exact .inl (hmem _ hr)
    · exact .inr ⟨signed, v, hv, hq', fun hpay =>
        lasting_payment (φ := fun p => p.funded = true) (by simp [Payment.funded]) h h' hd (hf hpay)⟩
  refine hmem _ ?_
  rcases Payment.decides_cases (hd.payment q) with he | ⟨-, he | he⟩
  · exact hi.refunded q b (he.symm.trans hq)
  · rw [hq] at he
    cases he
  · rw [hq] at he
    cases he

end Manifold.FaClient
