import Mathlib.Data.List.Nodup
import Manifold.Guardian.Quoting
import Manifold.Guardian.Lemmas.Admission

/-!
# Current quotes stay payable
-/

namespace Manifold.Guardian

/-! ## What a write does to the members -/

def KeepsMembers {α : Type} (s : Store) (tx : Tx α) : Prop :=
  tx.drawn = [] → ∀ m ∈ s.members, m ∈ tx.store.members

variable {first : PortBase} {s : Store}

theorem onSeat_members {α : Type} (seatId : QuoteId) (missing : α) (f : SeatRows → SeatRows × α) :
    KeepsMembers s (s.onSeat seatId missing f) := by
  intro _ m hm
  unfold Store.onSeat
  split <;> exact hm

theorem setOfferedPrice_members (price : Option Nat) (now : Int) (fresh : OfferEpoch) :
    KeepsMembers s (s.setOfferedPrice price now fresh) := by
  intro _ m hm
  unfold Store.setOfferedPrice
  split <;> exact hm

theorem configureInitialOffer_members (price : Option Nat) (maxSeats : Option UInt32) (now : Int)
    (fresh : OfferEpoch) : KeepsMembers s (s.configureInitialOffer price maxSeats now fresh) := by
  intro _ m hm
  unfold Store.configureInitialOffer
  split
  · exact hm
  · dsimp only
    split <;> exact hm

theorem updateSeatsConfig_members (u : SeatsConfigUpdate) (now : Int) (fresh : OfferEpoch) :
    KeepsMembers s (s.updateSeatsConfig u first now fresh) := by
  intro _ m hm
  unfold Store.updateSeatsConfig
  dsimp only
  split
  · exact hm
  · split <;> exact hm

theorem admitSeat_members (newSeat : NewSeat) (epoch : OfferEpoch) (now : Int) (fresh : OfferEpoch) :
    KeepsMembers s (s.admitSeatAtWriterBoundary newSeat epoch first now fresh) := by
  intro _ m hm
  unfold Store.admitSeatAtWriterBoundary
  split
  · exact hm
  split
  · exact hm
  dsimp only
  split
  · exact hm
  · split <;> exact hm

def Store.losesMember (s : Store) (memberIds : List FederationId) : Prop :=
  ∃ m ∈ s.members, m ∉ memberIds

theorem removedAny_iff (memberIds : List FederationId) :
    s.members.any (fun previous => !memberIds.contains previous) = true ↔ s.losesMember memberIds := by
  simp [Store.losesMember]

theorem replacePolicy_members (eventJson : String) (memberIds : List FederationId) (fresh : OfferEpoch) :
    KeepsMembers s (s.replaceSetupPaymentPolicy eventJson memberIds fresh) := by
  intro hdrawn m hm
  unfold Store.replaceSetupPaymentPolicy at hdrawn ⊢
  split
  · rename_i hn
    simp only [hn, ↓reduceIte] at hdrawn
    by_contra hnot
    rw [if_pos (removedAny_iff memberIds |>.mpr ⟨m, hm, hnot⟩)] at hdrawn
    cases hdrawn
  · exact hm

def KeepsEpoch {α : Type} (s : Store) (tx : Tx α) : Prop :=
  tx.drawn = [tx.store.offer.offerEpoch] ∨ (tx.drawn = [] ∧ tx.store.offer.offerEpoch = s.offer.offerEpoch)

theorem OfferWriter.keepsEpoch {α : Type} {tx : Tx α} (hw : OfferWriter first s tx) : KeepsEpoch s tx := by
  rcases hw.epoch with hd | ⟨hd, he, -⟩
  · exact .inl hd
  · exact .inr ⟨hd, he⟩

theorem admitSeat_keepsEpoch (newSeat : NewSeat) (epoch : OfferEpoch) (now : Int) (fresh : OfferEpoch) :
    KeepsEpoch s (s.admitSeatAtWriterBoundary newSeat epoch first now fresh) := by
  rcases admitSeatAtWriterBoundary_cases first s newSeat epoch now fresh with
    ⟨facts, -, htx⟩ | ⟨-, -, htx⟩ | ⟨-, -, -, htx⟩ | ⟨-, facts, hins⟩
  · rw [htx]
    exact .inr ⟨rfl, rfl⟩
  · rw [htx]
    exact .inr ⟨rfl, rfl⟩
  · rw [htx]
    exact .inr ⟨rfl, rfl⟩
  · rcases hins.epoch with hd | ⟨hd, he, -⟩
    · exact .inl hd
    · exact .inr ⟨hd, he⟩

/-! ## Steps -/

structure EpochStep (s t : Admission.State) : Prop where
  drawn : ∀ e ∈ s.drawn, e ∈ t.drawn
  epoch : (t.store.offer.offerEpoch ∉ s.drawn ∧ t.store.offer.offerEpoch ∈ t.drawn) ∨
    (t.store.offer.offerEpoch = s.store.offer.offerEpoch ∧ ∀ m ∈ s.store.members, m ∈ t.store.members)

namespace Admission

variable {s t : State} {out : List Event}

theorem same_epochStep (hstore : t.store = s.store) (hdrawn : t.drawn = s.drawn) : EpochStep s t := by
  refine ⟨fun e he => by rwa [hdrawn], Or.inr ?_⟩
  rw [hstore]
  exact ⟨rfl, fun _ hm => hm⟩

theorem epochStep_commit {α : Type} {tx : Tx α} (h : s.commit tx = some t) (he : KeepsEpoch s.store tx)
    (hm : KeepsMembers s.store tx) : EpochStep s t := by
  obtain ⟨hfresh, rfl⟩ := commit_eq_some h
  refine ⟨fun e he => List.mem_append_right _ he, ?_⟩
  rcases he with hd | ⟨hd, he⟩
  · left
    rw [hd] at hfresh ⊢
    exact ⟨hfresh _ (by simp), by simp⟩
  · exact .inr ⟨he, hm hd⟩

theorem step_epochStep {a} (h : step first s a = some (t, out)) : EpochStep s t := by
  have hwrite : ∀ {α : Type} {tx : Tx α}, OfferWriter first s.store tx → KeepsMembers s.store tx →
      (s.commit tx).map (·, ([] : List Event)) = some (t, out) → EpochStep s t := by
    intro α tx hw hm hc
    obtain ⟨t', ht', heq⟩ := Option.map_eq_some_iff.mp hc
    cases heq
    exact epochStep_commit ht' hw.keepsEpoch hm
  cases a with
  | getQuote q =>
    simp only [step] at h
    split at h
    · cases h
    split at h
    · cases h
      exact same_epochStep rfl rfl
    · cases h
  | createSeat q payment =>
    simp only [step] at h
    split at h
    · split at h
      · cases h
        exact same_epochStep rfl rfl
      split at h
      · cases h
        exact same_epochStep rfl rfl
      · cases h
        exact same_epochStep rfl rfl
    · cases h
  | writer i now fresh =>
    simp only [step] at h
    split at h
    · cases h
    obtain ⟨t', ht', heq⟩ := Option.map_eq_some_iff.mp h
    cases heq
    have hstep := epochStep_commit ht' (admitSeat_keepsEpoch _ _ _ _) (admitSeat_members _ _ _ _)
    exact ⟨hstep.drawn, hstep.epoch⟩
  | cut | crash => cases h; exact same_epochStep rfl rfl
  | setOfferedPrice price now fresh =>
    exact hwrite (setOfferedPrice_writer price now fresh) (setOfferedPrice_members price now fresh) h
  | configureInitialOffer price maxSeats now fresh =>
    exact hwrite (configureInitialOffer_writer price maxSeats now fresh)
      (configureInitialOffer_members price maxSeats now fresh) h
  | updateSeatsConfig u now fresh =>
    exact hwrite (updateSeatsConfig_writer u now fresh) (updateSeatsConfig_members u now fresh) h
  | replaceSetupPaymentPolicy eventJson memberIds fresh =>
    exact hwrite (replaceSetupPaymentPolicy_writer eventJson memberIds fresh)
      (replacePolicy_members eventJson memberIds fresh) h
  | recordFormed seatId invite now =>
    exact hwrite (recordFormed_writer seatId invite now) (onSeat_members _ _ _) h
  | decommissionSeat seatId now =>
    exact hwrite (decommissionSeat_writer seatId now) (onSeat_members _ _ _) h
  | retireForTransfer seatId =>
    exact hwrite (retireForTransfer_writer seatId) (onSeat_members _ _ _) h
  | recordTransferRemoval seatId =>
    exact hwrite (recordTransferRemoval_writer seatId) (onSeat_members _ _ _) h

end Admission

namespace Quoting

def Covered (s : State) (epoch : OfferEpoch) (members : List FederationId) : Prop :=
  epoch ∈ s.admission.drawn ∧ (epoch = s.epoch → ∀ m ∈ members, m ∈ s.members)

theorem Covered.step {s t epoch members}
    (hs : EpochStep s.admission t.admission) (h : Covered s epoch members) : Covered t epoch members := by
  refine ⟨hs.drawn _ h.1, ?_⟩
  intro he m hm
  rcases hs.epoch with ⟨hfresh, -⟩ | ⟨hsame, hkept⟩
  · subst he
    exact absurd h.1 hfresh
  · exact hkept m (h.2 (he.trans hsame) m hm)

structure Inv (s : State) : Prop where
  drawn : s.epoch ∈ s.admission.drawn
  pending : ∀ p ∈ s.pending, Covered s p.offer.epoch p.offer.settings.paymentFederations ∧
    ∀ f, p.paymentFederationId = some f → f ∈ p.offer.settings.paymentFederations
  issued : ∀ q ∈ s.issued, Covered s q.offerEpoch q.members ∧
    ∀ f, q.paymentFederationId = some f → Covered s q.offerEpoch [f]

theorem select_mem {settings r price f} (h : select settings r = .ok (price, some f)) :
    f ∈ settings.paymentFederations := by
  unfold select at h
  split at h
  · cases h
  split at h
  · cases h
  split at h
  · split at h <;> cases h
  split at h
  · cases h
  split at h
  · cases h
  · rename_i hmem
    cases h
    simpa using hmem

theorem covered_now (s : State) (hd : s.epoch ∈ s.admission.drawn) : Covered s s.epoch s.members :=
  ⟨hd, fun _ _ hm => hm⟩

theorem quoteOffer_eq {first} {store : Store} {offer : Offer} (h : store.quoteOffer first = some offer) :
    offer.epoch = store.offer.offerEpoch ∧ offer.settings.paymentFederations = store.members := by
  unfold Store.quoteOffer at h
  split at h
  · cases h
    exact ⟨rfl, rfl⟩
  · cases h

theorem getQuote_inv (first : PortBase) {s} (r : Request) (hi : Inv s) : Inv (getQuote first s r).1 := by
  unfold getQuote
  split
  · exact hi
  rename_i offer hoffer
  obtain ⟨hepoch, hmembers⟩ := quoteOffer_eq hoffer
  split
  · exact hi
  rename_i price federation hsel
  refine ⟨hi.drawn, ?_, hi.issued⟩
  intro p hp
  rcases Lib.mem_snoc.mp hp with hp | rfl
  · exact hi.pending p hp
  refine ⟨?_, ?_⟩
  · rw [hepoch, hmembers]
    exact covered_now s hi.drawn
  intro f hf
  dsimp only at hf
  rw [hf] at hsel
  exact select_mem hsel

theorem sign_inv {s i p} (hi : Inv s) (hp : p ∈ s.pending) :
    Inv { s with pending := s.pending.eraseIdx i, issued := p.sign s.members :: s.issued } := by
  obtain ⟨hcov, hfed⟩ := hi.pending p hp
  refine ⟨hi.drawn, fun p' hp' => hi.pending p' (List.mem_of_mem_eraseIdx hp'), ?_⟩
  intro q hq
  rcases List.mem_cons.mp hq with rfl | hq
  · refine ⟨⟨hcov.1, fun _ _ hm => hm⟩, ?_⟩
    intro f hf
    refine ⟨hcov.1, ?_⟩
    intro he m hm
    rw [List.mem_singleton.mp hm]
    exact hcov.2 he f (hfed f hf)
  · exact hi.issued q hq

theorem step_inv {first s t a out} (hi : Inv s) (h : step first s a = some (t, out)) : Inv t := by
  cases a with
  | admission a =>
    obtain ⟨⟨t', out'⟩, ha, he⟩ := Option.map_eq_some_iff.mp h
    cases he
    have hs : EpochStep s.admission t' := Admission.step_epochStep ha
    have hcov : ∀ {epoch members}, Covered s epoch members → Covered { s with admission := t' } epoch members :=
      fun hc => Covered.step hs hc
    refine ⟨?_, ?_, ?_⟩
    · rcases hs.epoch with ⟨-, hd⟩ | ⟨hsame, -⟩
      · exact hd
      · show t'.store.offer.offerEpoch ∈ t'.drawn
        rw [hsame]
        exact hs.drawn _ hi.drawn
    · intro p hp
      obtain ⟨hc, hf⟩ := hi.pending p hp
      exact ⟨hcov hc, hf⟩
    · intro q hq
      obtain ⟨hc, hf⟩ := hi.issued q hq
      exact ⟨hcov hc, fun f hqf => hcov (hf f hqf)⟩
  | getQuote r =>
    have he : getQuote first s r = (t, out) := Option.some.inj h
    have ht := getQuote_inv first r hi
    rwa [he] at ht
  | sign i =>
    obtain ⟨p, hp, he⟩ := Option.map_eq_some_iff.mp h
    cases he
    exact sign_inv hi (List.mem_of_getElem? hp)
  | cut i =>
    cases h
    exact ⟨hi.drawn, fun p hp => hi.pending p (List.mem_of_mem_eraseIdx hp), hi.issued⟩
  | crash => cases h; exact ⟨hi.drawn, fun p hp => absurd hp (by simp), hi.issued⟩

theorem reaches_inv {first es s} (h : (machine first).Reaches es s) : Inv s := by
  refine Lib.Machine.Reaches.inv (I := Inv) ?_ (fun s a t out hi hs => step_inv hi hs) h
  rintro s ⟨⟨-, -, hdrawn⟩, hpending, hissued⟩
  refine ⟨?_, by simp [hpending], by simp [hissued]⟩
  rw [hdrawn]
  exact List.mem_singleton.mpr rfl

/-- Every signed quote whose epoch is current was signed under members that are still members, and is paid in one of
them. A committed replacement changes the epoch exactly when a member is lost. -/
theorem current_quotes_payable {first : PortBase} {es : List Event} {s : State}
    (h : (machine first).Reaches es s) :
    (∀ q ∈ s.issued, q.offerEpoch = s.epoch →
      (∀ m ∈ q.members, m ∈ s.members) ∧ ∀ f, q.paymentFederationId = some f → f ∈ s.members) ∧
    ∀ eventJson memberIds fresh t out,
      step first s (.admission (.replaceSetupPaymentPolicy eventJson memberIds fresh)) = some (t, out) →
      if memberIds.Nodup then
        t.members = memberIds ∧ (t.epoch ≠ s.epoch ↔ ∃ m ∈ s.members, m ∉ memberIds)
      else t.members = s.members ∧ t.epoch = s.epoch := by
  have hi := reaches_inv h
  refine ⟨?_, ?_⟩
  · intro q hq he
    obtain ⟨hc, hf⟩ := hi.issued q hq
    refine ⟨hc.2 he, fun f hqf => (hf f hqf).2 he f (by simp)⟩
  intro eventJson memberIds fresh t out hs
  obtain ⟨⟨t', out'⟩, ha, he⟩ := Option.map_eq_some_iff.mp hs
  cases he
  obtain ⟨t'', ht'', heq⟩ := Option.map_eq_some_iff.mp ha
  cases heq
  obtain ⟨hfresh, rfl⟩ := Admission.commit_eq_some ht''
  by_cases hn : memberIds.Nodup
  · rw [if_pos hn]
    simp only [Store.replaceSetupPaymentPolicy, if_pos hn] at hfresh
    simp only [State.members, State.epoch, Store.replaceSetupPaymentPolicy, if_pos hn, true_and]
    refine Iff.trans ?_ (removedAny_iff memberIds)
    cases hr : s.admission.store.members.any (fun previous => !memberIds.contains previous) with
    | true =>
      simp only [hr, ↓reduceIte, List.mem_singleton, forall_eq] at hfresh
      simp only [↓reduceIte, iff_true]
      intro heq
      subst heq
      exact hfresh hi.drawn
    | false => simp
  · rw [if_neg hn]
    simp only [State.members, State.epoch, Store.replaceSetupPaymentPolicy, if_neg hn, and_self]

/-- A member is added while a quote waits for the wallet, and removed after another is signed. -/
def policyRun : List Act :=
  let paid (f : FederationId) : Request := ⟨.infiniteBestEffort 1000, some f, true⟩
  [.getQuote (paid "federation"), .admission (.replaceSetupPaymentPolicy "e" ["other", "federation"] 2), .sign 0,
    .getQuote (paid "other"), .sign 0, .admission (.replaceSetupPaymentPolicy "e" ["federation"] 3),
    .getQuote (paid "federation"), .sign 0]

def policyStart : State :=
  { admission :=
      { store :=
          { seats := .empty
            offer :=
              { maxSeats := some 2, memoryMaxSeats := 4, policyMaxSeats := 12, readyForNewSeats := true
                priceMsats := some 1000, offerEpoch := 1, updatedAtMs := none }
            stage := .complete
            members := ["federation"]
            setupPaymentEvent := none }
        issued := []
        calls := []
        drawn := [1] }
    pending := []
    issued := [] }

theorem current_quotes_payable_replaced :
    ((machine ⟨50000, by decide⟩).exec policyStart policyRun).map (fun r =>
      (r.1.epoch, r.1.issued.map (fun q => (q.offerEpoch, q.paymentFederationId)))) =
      some (3, [(3, some "federation"), (1, some "other"), (1, some "federation")]) ∧
    ∀ r ∈ (machine ⟨50000, by decide⟩).exec policyStart policyRun, ∀ q ∈ r.1.issued, q.offerEpoch = r.1.epoch →
      ∀ f, q.paymentFederationId = some f → f ∈ r.1.members :=
  ⟨by decide +kernel, fun _ hr q hq he =>
    ((current_quotes_payable (Lib.Machine.reaches_of_exec ⟨⟨rfl, rfl, rfl⟩, rfl, rfl⟩ hr)).1 q hq he).2⟩

end Quoting

end Manifold.Guardian
