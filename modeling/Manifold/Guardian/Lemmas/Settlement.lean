import Manifold.Guardian.Lemmas.Admission

/-!
# The settlement invariant
-/

namespace Manifold.Guardian.Admission

def Event.Consistent (e e' : Event) : Prop :=
  ∀ id r r', e = .answered id r → e' = .answered id r' →
    (r = .offerChanged → r' = .offerChanged) ∧
    (∀ facts, r = .inserted facts ∨ r = .existing facts → r' = .existing facts)

def Event.NumberBelow (e e' : Event) : Prop :=
  ∀ id id' facts facts', e = .answered id (.inserted facts) → e' = .answered id' (.inserted facts') →
    facts.seatNo < facts'.seatNo

structure Inv (first : PortBase) (es : List Event) (s : State) : Prop where
  calls : CallsIssued s
  current_drawn : s.store.offer.offerEpoch ∈ s.drawn
  issued_drawn : ∀ q ∈ s.issued.map Prod.fst, q.offerEpoch ∈ s.drawn
  issued_id : ∀ q ∈ s.issued.map Prod.fst, ∀ q' ∈ s.issued.map Prod.fst, q.quoteId = q'.quoteId → q = q'
  live_slot : ∀ q ∈ s.issued.map Prod.fst, q.offerEpoch = s.store.offer.offerEpoch → 0 < s.store.slots first
  refused : ∀ id, .answered id .offerChanged ∈ es → s.store.seats.find? id = none ∧
    ∃ q ∈ s.issued.map Prod.fst, q.quoteId = id ∧ q.offerEpoch ≠ s.store.offer.offerEpoch
  seated : ∀ id facts, .answered id (.inserted facts) ∈ es ∨ .answered id (.existing facts) ∈ es →
    (s.store.seats.find? id).map (·.facts) = some facts
  consistent : es.Pairwise Event.Consistent
  numbers : es.Pairwise Event.NumberBelow
  no_assertion : ∀ id, .assertionFailed id ∉ es

variable {first : PortBase} {s t : State} {es out : List Event}

theorem quoteOffer_eq_some {st : Store} {offer : Offer} (h : st.quoteOffer first = some offer) :
    0 < st.slots first ∧ st.offer.readyForNewSeats = true ∧ offer.epoch = st.offer.offerEpoch := by
  unfold Store.quoteOffer at h
  split at h
  · rename_i hg
    cases h
    exact ⟨hg.1, hg.2, rfl⟩
  · cases h

theorem epoch_step {drawn new : List OfferEpoch} {se te : OfferEpoch} {K : Prop}
    (hf : ∀ e ∈ new, e ∉ drawn) (h : new = [te] ∨ (new = [] ∧ te = se ∧ K)) (hs : se ∈ drawn) :
    te ∈ new ++ drawn ∧ ∀ e ∈ drawn, e = te → e = se ∧ K := by
  rcases h with rfl | ⟨rfl, rfl, hk⟩
  · refine ⟨by simp, fun e he heq => ?_⟩
    exact absurd (heq ▸ he) (hf te (by simp))
  · exact ⟨by simpa using hs, fun e _ heq => ⟨heq, hk⟩⟩

theorem Inv.init (h : Admission.init s) : Inv first [] s := by
  obtain ⟨hi, hc, hd⟩ := h
  constructor <;> simp [hi, hc, hd, CallsIssued]

/-! ## Adding one event -/

theorem pairwise_snoc {R e} (h : es.Pairwise R) (he : ∀ e' ∈ es, R e' e) : (es ++ [e]).Pairwise R := by
  rw [List.pairwise_append]
  exact ⟨h, by simp, fun a ha b hb => by rw [List.mem_singleton.mp hb]; exact he a ha⟩

theorem Inv.consistent_answer (h : Inv first es s) {q r} (hr : Answerable s.store q r) :
    ∀ e ∈ es, Event.Consistent e (.answered q.quoteId r) := by
  intro e he id r₁ r₂ h₁ h₂
  subst h₁
  cases h₂
  constructor
  · rintro rfl
    obtain ⟨hnone, q', hq', hid, hne⟩ := h.refused _ he
    cases r with
    | offerChanged => rfl
    | existing facts => simp [Answerable, hnone] at hr
    | inserted facts => exact hr.elim
  intro facts hf
  have hrow := h.seated q.quoteId facts (by rcases hf with rfl | rfl; exacts [Or.inl he, Or.inr he])
  cases r with
  | offerChanged => simp [hr.1] at hrow
  | existing facts' =>
    have hr' : (s.store.seats.find? q.quoteId).map (·.facts) = some facts' := hr
    rw [hrow] at hr'
    cases hr'; rfl
  | inserted facts => exact hr.elim

theorem Inv.consistent_inserted (h : Inv first es s) {q facts} (hq : q ∈ s.issued.map Prod.fst)
    (he : s.store.offer.offerEpoch = q.offerEpoch) (hnone : s.store.seats.find? q.quoteId = none) :
    ∀ e ∈ es, Event.Consistent e (.answered q.quoteId (.inserted facts)) := by
  intro e hmem id r₁ r₂ h₁ h₂
  subst h₁
  cases h₂
  constructor
  · rintro rfl
    obtain ⟨-, q', hq', hid, hne⟩ := h.refused _ hmem
    rw [h.issued_id q' hq' q hq hid] at hne
    exact absurd he.symm hne
  · intro f hf
    have hrow := h.seated q.quoteId f (by rcases hf with rfl | rfl; exacts [Or.inl hmem, Or.inr hmem])
    simp [hnone] at hrow

theorem Inv.numberBelow_inserted (h : Inv first es s) {id facts} (hno : facts.seatNo = s.store.seats.nextNo) :
    ∀ e ∈ es, Event.NumberBelow e (.answered id (.inserted facts)) := by
  intro e hmem id₁ id₂ f₁ f₂ h₁ h₂
  subst h₁
  cases h₂
  obtain ⟨r, hr, rfl⟩ := Option.map_eq_some_iff.mp (h.seated id₁ f₁ (Or.inl hmem))
  have := SeatTable.lt_nextNo (SeatTable.mem_of_find? hr).1
  omega

/-! ## Preservation -/

theorem Inv.no_assertion_snoc (h : Inv first es s) {e} (he : ∀ id, .assertionFailed id ≠ e) :
    ∀ id, .assertionFailed id ∉ es ++ [e] := fun id hmem =>
  (List.mem_append.mp hmem).elim (h.no_assertion id) fun hmem => he id (List.mem_singleton.mp hmem)

theorem Inv.quoted (h : Inv first es s) (hct : CallsIssued t) {q offer}
    (ho : s.store.quoteOffer first = some offer) (he : q.offerEpoch = offer.epoch) (hid : s.idFresh q)
    (hs : t.store = s.store) (hi : t.issued = (q, offer) :: s.issued) (hd : t.drawn = s.drawn) :
    Inv first (es ++ [.quoted q]) t := by
  obtain ⟨hpos, -, hep⟩ := quoteOffer_eq_some ho
  have hiss : t.issued.map Prod.fst = q :: s.issued.map Prod.fst := by rw [hi]; rfl
  have hid' : ∀ p ∈ s.issued.map Prod.fst, p.quoteId = q.quoteId → p = q := by
    intro p hp
    obtain ⟨x, hx, rfl⟩ := List.mem_map.mp hp
    exact hid x hx
  refine ⟨hct, ?_, ?_, ?_, ?_, ?_, ?_, ?_, ?_, ?_⟩
  · rw [hs, hd]; exact h.current_drawn
  · intro p hp
    rw [hd]
    rw [hiss] at hp
    rcases List.mem_cons.mp hp with rfl | hp
    · rw [he, hep]; exact h.current_drawn
    · exact h.issued_drawn p hp
  · intro p hp p' hp' heq
    rw [hiss] at hp hp'
    rcases List.mem_cons.mp hp with hp | hp <;> rcases List.mem_cons.mp hp' with hp' | hp'
    · rw [hp, hp']
    · rw [hp] at heq ⊢
      exact (hid' p' hp' heq.symm).symm
    · rw [hp'] at heq ⊢
      exact hid' p hp heq
    · exact h.issued_id p hp p' hp' heq
  · intro p hp hpe
    rw [hs] at hpe ⊢
    rw [hiss] at hp
    rcases List.mem_cons.mp hp with rfl | hp
    · exact hpos
    · exact h.live_slot p hp hpe
  · intro id hmem
    simp only [List.mem_append, List.mem_singleton, reduceCtorEq, or_false] at hmem
    obtain ⟨hnone, p, hp, hpid, hne⟩ := h.refused id hmem
    rw [hs, hiss]
    exact ⟨hnone, p, List.mem_cons_of_mem _ hp, hpid, hne⟩
  · intro id facts hmem
    simp only [List.mem_append, List.mem_singleton, reduceCtorEq, or_false] at hmem
    rw [hs]; exact h.seated id facts hmem
  · exact pairwise_snoc h.consistent (fun e _ id r r' _ h₂ => by cases h₂)
  · exact pairwise_snoc h.numbers (fun e _ id id' f f' _ h₂ => by cases h₂)
  · exact h.no_assertion_snoc (by simp)

theorem Inv.silent (h : Inv first es s) (hct : CallsIssued t) (hs : t.store = s.store)
    (hi : t.issued = s.issued) (hd : t.drawn = s.drawn) : Inv first es t := by
  refine ⟨hct, ?_, ?_, ?_, ?_, ?_, ?_, h.consistent, h.numbers, h.no_assertion⟩
  · rw [hs, hd]; exact h.current_drawn
  · rw [hi, hd]; exact h.issued_drawn
  · rw [hi]; exact h.issued_id
  · rw [hi, hs]; exact h.live_slot
  · rw [hi, hs]; exact h.refused
  · rw [hs]; exact h.seated

theorem Inv.answered (h : Inv first es s) (hct : CallsIssued t) {q r} (hq : q ∈ s.issued.map Prod.fst)
    (hr : Answerable s.store q r) (hs : t.store = s.store) (hi : t.issued = s.issued) (hd : t.drawn = s.drawn) :
    Inv first (es ++ [.answered q.quoteId r]) t := by
  have h' := h.silent hct hs hi hd
  have hr' : Answerable t.store q r := by rw [hs]; exact hr
  have hq' : q ∈ t.issued.map Prod.fst := by rw [hi]; exact hq
  refine ⟨hct, h'.current_drawn, h'.issued_drawn, h'.issued_id, h'.live_slot, ?_, ?_, ?_, ?_, ?_⟩
  · intro id hmem
    rcases List.mem_append.mp hmem with hmem | hmem
    · exact h'.refused id hmem
    · cases List.mem_singleton.mp hmem
      exact ⟨hr'.1, q, hq', rfl, fun he => hr'.2 he.symm⟩
  · intro id facts hmem
    simp only [List.mem_append, List.mem_singleton] at hmem
    rcases hmem with (hmem | hmem) | (hmem | hmem)
    · exact h'.seated id facts (Or.inl hmem)
    · cases hmem; exact hr'.elim
    · exact h'.seated id facts (Or.inr hmem)
    · cases hmem; exact hr'
  · exact pairwise_snoc h.consistent (h.consistent_answer hr)
  · refine pairwise_snoc h.numbers (fun e _ id id' f f' _ h₂ => ?_)
    cases h₂; exact hr.elim
  · exact h.no_assertion_snoc (by simp)

theorem Inv.written {α : Type} {tx : Tx α} (h : Inv first es s) (hct : CallsIssued t)
    (hw : OfferWriter first s.store tx) (hf : ∀ e ∈ tx.drawn, e ∉ s.drawn) (hs : t.store = tx.store)
    (hi : t.issued = s.issued) (hd : t.drawn = tx.drawn ++ s.drawn) : Inv first es t := by
  obtain ⟨hcur, hold⟩ := epoch_step hf hw.epoch h.current_drawn
  refine ⟨hct, ?_, ?_, ?_, ?_, ?_, ?_, h.consistent, h.numbers, h.no_assertion⟩
  · rw [hs, hd]; exact hcur
  · intro q hq
    rw [hd]
    exact List.mem_append_right _ (h.issued_drawn q (hi ▸ hq))
  · rw [hi]; exact h.issued_id
  · intro q hq hqe
    rw [hi] at hq
    rw [hs] at hqe ⊢
    obtain ⟨hse, hk⟩ := hold q.offerEpoch (h.issued_drawn q hq) hqe
    exact hk (h.live_slot q hq hse)
  · intro id hmem
    obtain ⟨hnone, q, hq, hqid, hne⟩ := h.refused id hmem
    have hfacts := hw.facts id
    rw [hnone, Option.map_none, Option.map_eq_none_iff] at hfacts
    rw [hs, hi]
    refine ⟨hfacts, q, hq, hqid, fun hqe => ?_⟩
    exact hne (hold q.offerEpoch (h.issued_drawn q hq) hqe).1
  · intro id facts hmem
    rw [hs, hw.facts id]; exact h.seated id facts hmem

theorem Inv.inserted (h : Inv first es s) (hct : CallsIssued t) {q payment facts tx}
    (hq : q ∈ s.issued.map Prod.fst) (he : s.store.offer.offerEpoch = q.offerEpoch)
    (hins : Insertion first s.store (q.newSeat payment) facts tx) (hf : ∀ e ∈ tx.drawn, e ∉ s.drawn)
    (hs : t.store = tx.store) (hi : t.issued = s.issued) (hd : t.drawn = tx.drawn ++ s.drawn) :
    Inv first (es ++ [.answered q.quoteId (.inserted facts)]) t := by
  obtain ⟨hcur, hold⟩ := epoch_step hf hins.epoch h.current_drawn
  have hrows : ∀ id, (t.store.seats.find? id).map (·.facts) =
      if q.quoteId = id then some facts else (s.store.seats.find? id).map (·.facts) := by
    intro id; rw [hs]; exact hins.rows id
  refine ⟨hct, ?_, ?_, ?_, ?_, ?_, ?_, ?_, ?_, ?_⟩
  · rw [hs, hd]; exact hcur
  · intro q' hq'
    rw [hd]
    exact List.mem_append_right _ (h.issued_drawn q' (hi ▸ hq'))
  · rw [hi]; exact h.issued_id
  · intro q' hq' hqe
    rw [hi] at hq'
    rw [hs] at hqe ⊢
    exact (hold q'.offerEpoch (h.issued_drawn q' hq') hqe).2
  · intro id hmem
    simp only [List.mem_append, List.mem_singleton, Event.answered.injEq, reduceCtorEq, and_false, or_false] at hmem
    obtain ⟨hnone, q', hq', hqid, hne⟩ := h.refused id hmem
    -- the refused quote is another one: this quote's epoch is current
    have hdiff : q.quoteId ≠ id := by
      rintro rfl
      rw [h.issued_id q' hq' q hq hqid] at hne
      exact hne he.symm
    have hfacts := hrows id
    rw [if_neg hdiff, hnone, Option.map_none, Option.map_eq_none_iff] at hfacts
    rw [hi]
    refine ⟨hfacts, q', hq', hqid, fun hqe => ?_⟩
    rw [hs] at hqe
    exact hne (hold q'.offerEpoch (h.issued_drawn q' hq') hqe).1
  · intro id f hmem
    rw [hrows id]
    have hold (hrow : (s.store.seats.find? id).map (·.facts) = some f) :
        (if q.quoteId = id then some facts else (s.store.seats.find? id).map (·.facts)) = some f := by
      rw [if_neg, hrow]
      rintro rfl
      simp [show s.store.seats.find? q.quoteId = none from hins.absent] at hrow
    simp only [List.mem_append, List.mem_singleton] at hmem
    rcases hmem with (hmem | hmem) | (hmem | hmem)
    · exact hold (h.seated id f (Or.inl hmem))
    · cases hmem; simp
    · exact hold (h.seated id f (Or.inr hmem))
    · cases hmem
  · exact pairwise_snoc h.consistent (h.consistent_inserted hq he hins.absent)
  · exact pairwise_snoc h.numbers (h.numberBelow_inserted hins.seatNo)
  · exact h.no_assertion_snoc (by simp)

theorem Inv.step {a} (h : Inv first es s) (hst : Admission.step first s a = some (t, out)) :
    Inv first (es ++ out) t := by
  obtain ⟨heff, hct⟩ := step_effect h.calls hst
  cases heff with
  | quoted q offer ho he hid hs hi hd => exact h.quoted hct ho he hid hs hi hd
  | silent hs hi hd => simpa using h.silent hct hs hi hd
  | answered q r hq hr hs hi hd => exact h.answered hct hq hr hs hi hd
  | assertionFailed q hq he h0 =>
    have := h.live_slot q hq he.symm
    omega
  | written tx hw hf hs hi hd => simpa using h.written hct hw hf hs hi hd
  | inserted q payment facts tx hq he hins hf hs hi hd => exact h.inserted hct hq he hins hf hs hi hd

theorem Inv.of_reaches (h : (machine first).Reaches es s) : Inv first es s :=
  h.induct (fun _ hi => .init hi) (fun _ _ _ _ _ _ hI hs => hI.step hs)

end Manifold.Guardian.Admission
