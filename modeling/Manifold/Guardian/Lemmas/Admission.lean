import Manifold.Guardian.Admission
import Manifold.Guardian.Lemmas.Store

/-!
# What the offer writers and the admission transaction do
-/

namespace Manifold.Guardian

structure OfferWriter {α : Type} (first : PortBase) (s : Store) (tx : Tx α) : Prop where
  facts : ∀ id, (tx.store.seats.find? id).map (·.facts) = (s.seats.find? id).map (·.facts)
  epoch : tx.drawn = [tx.store.offer.offerEpoch] ∨
    (tx.drawn = [] ∧ tx.store.offer.offerEpoch = s.offer.offerEpoch ∧ (0 < s.slots first → 0 < tx.store.slots first))

variable {first : PortBase} {s : Store}

theorem OfferWriter.unchanged {α : Type} (a : α) : OfferWriter first s { store := s, answer := a } :=
  ⟨fun _ => rfl, Or.inr ⟨rfl, rfl, id⟩⟩

theorem OfferWriter.modify {α : Type} (id : QuoteId) {f} (a : α)
    (hf : ∀ r, (f r).active = true → r.active = true) :
    OfferWriter first s { store := { s with seats := s.seats.modify id f }, answer := a } := by
  refine ⟨fun id' => by simp, Or.inr ⟨rfl, rfl, fun h => ?_⟩⟩
  unfold Store.slots SeatsConfig.slots at h ⊢
  rw [SeatTable.nextNo_modify]
  exact availableSlots_pos_of_active_le (SeatTable.activeCount_modify_le s.seats id hf) h

/-! ## One lemma for each writer -/

theorem setOfferedPrice_writer (price : Option Nat) (now : Int) (fresh : OfferEpoch) :
    OfferWriter first s (s.setOfferedPrice price now fresh) := by
  unfold Store.setOfferedPrice
  split
  · exact ⟨fun _ => rfl, Or.inl rfl⟩
  · exact .unchanged _

theorem configureInitialOffer_writer (price : Option Nat) (maxSeats : Option UInt32) (now : Int)
    (fresh : OfferEpoch) : OfferWriter first s (s.configureInitialOffer price maxSeats now fresh) := by
  unfold Store.configureInitialOffer
  split
  · exact .unchanged _
  dsimp only
  split
  · exact .unchanged _
  · exact ⟨fun _ => rfl, Or.inl rfl⟩

theorem updateSeatsConfig_writer (u : SeatsConfigUpdate) (now : Int) (fresh : OfferEpoch) :
    OfferWriter first s (s.updateSeatsConfig u first now fresh) := by
  unfold Store.updateSeatsConfig
  dsimp only
  split
  · exact .unchanged _
  split
  · exact .unchanged _
  refine ⟨fun _ => rfl, ?_⟩
  cases hr : rotatesEpoch s.offer.seatsConfig (u.apply s.offer.seatsConfig) first s.seats with
  | true => exact .inl (by simp)
  | false =>
    refine .inr ⟨by simp, by simp, fun hpos => ?_⟩
    -- the last disjunct of the rotation test is what keeps a slot
    simp only [rotatesEpoch, Bool.or_eq_false_iff, Bool.and_eq_false_iff, decide_eq_false_iff_not] at hr
    rcases hr.2 with h | h
    · exact absurd hpos h
    · exact Nat.pos_of_ne_zero h

theorem replaceSetupPaymentPolicy_writer (eventJson : String) (memberIds : List FederationId)
    (fresh : OfferEpoch) :
    OfferWriter first s (s.replaceSetupPaymentPolicy eventJson memberIds fresh) := by
  unfold Store.replaceSetupPaymentPolicy
  split
  · refine ⟨fun _ => rfl, ?_⟩
    cases s.members.any (fun previous => !memberIds.contains previous) with
    | true => exact .inl (by simp)
    | false => exact .inr ⟨by simp, by simp, fun h => h⟩
  · exact .unchanged _

theorem onSeat_writer {α : Type} (seatId : QuoteId) (missing : α) {f}
    (hf : ∀ r, (f r).1.active = true → r.active = true) :
    OfferWriter first s (s.onSeat seatId missing f) := by
  unfold Store.onSeat
  split
  · exact .unchanged _
  · exact .modify _ _ hf

theorem recordFormed_writer (seatId : QuoteId) (invite : InviteCode) (now : Int) :
    OfferWriter first s (s.recordFormed seatId invite now) :=
  onSeat_writer _ _ fun r h => by
    unfold SeatRows.recordFormed at h
    split at h <;> exact h

theorem decommissionSeat_writer (seatId : QuoteId) (now : Int) : OfferWriter first s (s.decommissionSeat seatId now) :=
  onSeat_writer _ _ fun r h => by
    unfold SeatRows.decommission at h
    split at h
    · exact h
    · simp [SeatRows.active] at h

theorem retireForTransfer_writer (seatId : QuoteId) : OfferWriter first s (s.retireForTransfer seatId) :=
  onSeat_writer _ _ fun r h => by
    unfold SeatRows.retireForTransfer at h
    split at h
    · simp [SeatRows.active] at h
    · exact h

theorem recordTransferRemoval_writer (seatId : QuoteId) : OfferWriter first s (s.recordTransferRemoval seatId) :=
  onSeat_writer _ _ fun r h => by
    unfold SeatRows.recordTransferRemoval at h
    split at h
    · simp [SeatRows.active] at h
    · exact h

/-! ## The admission transaction -/

structure Insertion (first : PortBase) (s : Store) (newSeat : NewSeat) (facts : SeatFacts)
    (tx : Tx WriterOutcome) : Prop where
  answer : tx.answer = .result (.inserted facts)
  seatId : facts.seatId = newSeat.seatId
  seatNo : facts.seatNo = s.seats.nextNo
  absent : s.seats.find? newSeat.seatId = none
  rows : ∀ id, (tx.store.seats.find? id).map (·.facts) =
    if newSeat.seatId = id then some facts else (s.seats.find? id).map (·.facts)
  inGrid : (SeatNo.portBase facts.seatNo first).isSome
  slots : tx.store.slots first + 1 = s.slots first
  epoch : tx.drawn = [tx.store.offer.offerEpoch] ∨
    (tx.drawn = [] ∧ tx.store.offer.offerEpoch = s.offer.offerEpoch ∧ 0 < tx.store.slots first)

theorem admitSeatAtWriterBoundary_cases (first : PortBase) (s : Store) (newSeat : NewSeat)
    (offerEpoch : OfferEpoch) (now : Int) (fresh : OfferEpoch) :
    let tx := s.admitSeatAtWriterBoundary newSeat offerEpoch first now fresh
    (∃ facts, (s.seats.find? newSeat.seatId).map (·.facts) = some facts ∧
      tx = { store := s, answer := .result (.existing facts) }) ∨
    (s.seats.find? newSeat.seatId = none ∧ s.offer.offerEpoch ≠ offerEpoch ∧
      tx = { store := s, answer := .result .offerChanged }) ∨
    (s.seats.find? newSeat.seatId = none ∧ s.offer.offerEpoch = offerEpoch ∧ s.slots first = 0 ∧
      tx = { store := s, answer := .assertionFailed }) ∨
    (s.offer.offerEpoch = offerEpoch ∧ ∃ facts, Insertion first s newSeat facts tx) := by
  unfold Store.admitSeatAtWriterBoundary
  cases hf : s.seats.find? newSeat.seatId with
  | some r => exact .inl ⟨r.facts, rfl, rfl⟩
  | none =>
    right
    dsimp only [Option.map_none]
    by_cases he : s.offer.offerEpoch = offerEpoch
    · right
      simp only [he, ne_eq, not_true_eq_false, ↓reduceIte]
      by_cases hs : s.slots first = 0
      · exact .inl (by simp [hs])
      right
      refine ⟨trivial, ?_⟩
      simp only [hs, ↓reduceIte]
      split
      · rename_i hins
        have := SeatTable.insert_isSome (r := newSeat.rows s.seats.nextNo now) hf rfl
        simp [hins] at this
      rename_i seats hins
      have hpos : 0 < s.slots first := Nat.pos_of_ne_zero hs
      have hslots : s.offer.seatsConfig.slots first seats + 1 = s.slots first := by
        unfold Store.slots SeatsConfig.slots at hpos ⊢
        rw [SeatTable.activeCount_insert hins rfl, SeatTable.nextNo_insert hins rfl]
        exact availableSlots_succ (effectiveMaxSeats_le _ _ _) hpos
      refine ⟨_, rfl, rfl, rfl, hf, fun id => ?_, ?_, hslots, ?_⟩
      · rw [SeatTable.find?_insert hins id]
        change Option.map _ (if newSeat.seatId = id then _ else _) = _
        split <;> rfl
      · obtain ⟨-, hport⟩ := availableSlots_pos.mp hpos
        have hno := le_of_portBase_u32OrMax hport
        rwa [u32OrMax_of_le (by have := u16Max_lt_u32Max; omega)] at hport
      by_cases h1 : s.slots first = 1
      · exact .inl (by simp [h1])
      · refine .inr ⟨by simp [h1], by simp [h1, he], ?_⟩
        have : 0 < s.offer.seatsConfig.slots first seats := by omega
        exact this
    · exact .inl ⟨rfl, he, by simp [he]⟩

/-! ## What one step of the machine does -/

namespace Admission

def Answerable (s : Store) (q : Quote) : SeatAdmissionResult → Prop
  | .existing facts => (s.seats.find? q.quoteId).map (·.facts) = some facts
  | .offerChanged => s.seats.find? q.quoteId = none ∧ s.offer.offerEpoch ≠ q.offerEpoch
  | .inserted _ => False

inductive Effect (first : PortBase) (s t : State) : List Event → Prop where
  | quoted (q : Quote) (offer : Offer) (ho : s.store.quoteOffer first = some offer)
      (he : q.offerEpoch = offer.epoch) (hid : s.idFresh q) (hs : t.store = s.store)
      (hi : t.issued = (q, offer) :: s.issued) (hd : t.drawn = s.drawn) : Effect first s t [.quoted q]
  | silent (hs : t.store = s.store) (hi : t.issued = s.issued) (hd : t.drawn = s.drawn) : Effect first s t []
  | answered (q : Quote) (r : SeatAdmissionResult) (hq : q ∈ s.issued.map Prod.fst)
      (hr : Answerable s.store q r) (hs : t.store = s.store) (hi : t.issued = s.issued)
      (hd : t.drawn = s.drawn) : Effect first s t [.answered q.quoteId r]
  | assertionFailed (q : Quote) (hq : q ∈ s.issued.map Prod.fst)
      (he : s.store.offer.offerEpoch = q.offerEpoch) (h0 : s.store.slots first = 0) :
      Effect first s t [.assertionFailed q.quoteId]
  | written {α : Type} (tx : Tx α) (hw : OfferWriter first s.store tx)
      (hf : ∀ e ∈ tx.drawn, e ∉ s.drawn) (hs : t.store = tx.store) (hi : t.issued = s.issued)
      (hd : t.drawn = tx.drawn ++ s.drawn) : Effect first s t []
  | inserted (q : Quote) (payment : Option (List UInt8)) (facts : SeatFacts) (tx : Tx WriterOutcome)
      (hq : q ∈ s.issued.map Prod.fst) (he : s.store.offer.offerEpoch = q.offerEpoch)
      (hins : Insertion first s.store (q.newSeat payment) facts tx)
      (hf : ∀ e ∈ tx.drawn, e ∉ s.drawn) (hs : t.store = tx.store) (hi : t.issued = s.issued)
      (hd : t.drawn = tx.drawn ++ s.drawn) :
      Effect first s t [.answered q.quoteId (.inserted facts)]

def CallsIssued (s : State) : Prop := ∀ c ∈ s.calls, c.quote ∈ s.issued.map Prod.fst

variable {s t : State} {out : List Event}

theorem commit_eq_some {α : Type} {tx : Tx α} (h : s.commit tx = some t) :
    (∀ e ∈ tx.drawn, e ∉ s.drawn) ∧ t = { s with store := tx.store, drawn := tx.drawn ++ s.drawn } := by
  unfold State.commit at h
  split at h
  · rename_i hall
    exact ⟨by simpa using hall, by cases h; rfl⟩
  · cases h

theorem effect_of_commit {α : Type} {tx : Tx α} (hw : OfferWriter first s.store tx)
    (hc : CallsIssued s) (h : (s.commit tx).map (·, ([] : List Event)) = some (t, out)) :
    Effect first s t out ∧ CallsIssued t := by
  obtain ⟨t', ht', he⟩ := Option.map_eq_some_iff.mp h
  obtain ⟨hf, rfl⟩ := commit_eq_some ht'
  cases he
  exact ⟨.written tx hw hf rfl rfl rfl, hc⟩

theorem effect_of_writer {i now fresh} (hc : CallsIssued s)
    (h : step first s (.writer i now fresh) = some (t, out)) : Effect first s t out ∧ CallsIssued t := by
  simp only [step] at h
  split at h
  · cases h
  rename_i c hi
  have hq := hc c (List.mem_of_getElem? hi)
  have hc' : CallsIssued { s with calls := s.calls.eraseIdx i } :=
    fun c' hc'' => hc c' (List.mem_of_mem_eraseIdx hc'')
  obtain ⟨t', ht', he⟩ := Option.map_eq_some_iff.mp h
  obtain ⟨hf, rfl⟩ := commit_eq_some ht'
  obtain ⟨rfl, rfl⟩ := he
  refine ⟨?_, hc'⟩
  rcases admitSeatAtWriterBoundary_cases first s.store (c.quote.newSeat c.payment)
    c.quote.offerEpoch now fresh with ⟨facts, hx, htx⟩ | ⟨hx, hne, htx⟩ | ⟨hx, he, h0, htx⟩ |
    ⟨he, facts, hins⟩
  · rw [htx]
    exact .answered c.quote (.existing facts) hq hx rfl rfl rfl
  · rw [htx]
    exact .answered c.quote .offerChanged hq ⟨hx, hne⟩ rfl rfl rfl
  · rw [htx]
    exact .assertionFailed c.quote hq he h0
  · rw [hins.answer]
    exact .inserted c.quote c.payment facts _ hq he hins hf rfl rfl rfl

theorem step_effect {a} (hc : CallsIssued s) (h : step first s a = some (t, out)) :
    Effect first s t out ∧ CallsIssued t := by
  cases a with
  | getQuote q =>
    simp only [step] at h
    split at h
    · cases h
    rename_i offer ho
    split at h
    · rename_i hq
      cases h
      refine ⟨.quoted q offer ho hq.1 hq.2 rfl rfl rfl, fun c hc' => ?_⟩
      exact List.mem_cons_of_mem _ (hc c hc')
    · cases h
  | createSeat q payment =>
    simp only [step, Store.admissionSnapshot] at h
    split at h
    · rename_i hq
      split at h
      · rename_i facts epoch hsnap
        simp only [Prod.mk.injEq] at hsnap
        cases h
        exact ⟨.answered q (.existing facts) hq hsnap.1 rfl rfl rfl, hc⟩
      rename_i epoch hsnap
      simp only [Prod.mk.injEq, Option.map_eq_none_iff] at hsnap
      obtain ⟨hnone, rfl⟩ := hsnap
      split at h
      · rename_i hne
        cases h
        exact ⟨.answered q .offerChanged hq ⟨hnone, hne⟩ rfl rfl rfl, hc⟩
      cases h
      refine ⟨.silent rfl rfl rfl, fun c hc' => ?_⟩
      rcases List.mem_cons.mp hc' with rfl | hc'
      · exact hq
      · exact hc c hc'
    · cases h
  | writer i now fresh => exact effect_of_writer hc h
  | cut i =>
    cases h
    exact ⟨.silent rfl rfl rfl, fun c hc' => hc c (List.mem_of_mem_eraseIdx hc')⟩
  | crash =>
    cases h
    exact ⟨.silent rfl rfl rfl, fun c hc' => by simp at hc'⟩
  | setOfferedPrice price now fresh => exact effect_of_commit (setOfferedPrice_writer price now fresh) hc h
  | configureInitialOffer price maxSeats now fresh =>
    exact effect_of_commit (configureInitialOffer_writer price maxSeats now fresh) hc h
  | updateSeatsConfig u now fresh => exact effect_of_commit (updateSeatsConfig_writer u now fresh) hc h
  | replaceSetupPaymentPolicy eventJson memberIds fresh =>
    exact effect_of_commit (replaceSetupPaymentPolicy_writer eventJson memberIds fresh) hc h
  | recordFormed seatId invite now => exact effect_of_commit (recordFormed_writer seatId invite now) hc h
  | decommissionSeat seatId now => exact effect_of_commit (decommissionSeat_writer seatId now) hc h
  | retireForTransfer seatId => exact effect_of_commit (retireForTransfer_writer seatId) hc h
  | recordTransferRemoval seatId => exact effect_of_commit (recordTransferRemoval_writer seatId) hc h

end Admission

end Manifold.Guardian
