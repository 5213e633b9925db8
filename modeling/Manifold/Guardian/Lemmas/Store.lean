import Manifold.Guardian.Store

/-!
# Slots and the seat table
-/

namespace Manifold.Guardian

/-! ## The port grid -/

theorem SeatNo.portBase_le {no first} (h : (SeatNo.portBase no first).isSome) : no ≤ u16Max := by
  unfold SeatNo.portBase at h
  split at h
  · assumption
  · simp at h

theorem u16Max_lt_u32Max : u16Max < u32Max := by decide

theorem u32OrMax_of_le {n} (h : n ≤ u32Max) : u32OrMax n = n := by simp [u32OrMax, h]

theorem u32OrMax_le_max (n : Nat) : u32OrMax n ≤ u32Max := by
  unfold u32OrMax; split <;> omega

theorem u32OrMax_mono {m n} (h : m ≤ n) : u32OrMax m ≤ u32OrMax n := by
  unfold u32OrMax; split <;> split <;> omega

theorem le_of_portBase_u32OrMax {n first} (h : (SeatNo.portBase (u32OrMax n) first).isSome) : n ≤ u16Max := by
  have hle := SeatNo.portBase_le h
  unfold u32OrMax at hle
  split at hle
  · exact hle
  · have := u16Max_lt_u32Max
    omega

/-! ## Free slots -/

theorem takeWhile_range_succ (p : Nat → Bool) (k : Nat) (h : p 0 = true) :
    ((List.range (k + 1)).takeWhile p).length = ((List.range k).takeWhile (fun i => p (i + 1))).length + 1 := by
  rw [List.range_succ_eq_map, List.takeWhile_cons_of_pos h, List.length_cons, List.takeWhile_map, List.length_map]
  rfl

theorem availableSlots_pos {maxSeats active nextNo first} :
    0 < availableSlots maxSeats first active nextNo ↔
      u32OrMax active < maxSeats ∧ (SeatNo.portBase (u32OrMax nextNo) first).isSome := by
  have hzero : u32SaturatingAdd (u32OrMax nextNo) 0 = u32OrMax nextNo := by
    have := u32OrMax_le_max nextNo
    simp only [u32SaturatingAdd]; omega
  unfold availableSlots
  cases hk : maxSeats - u32OrMax active with
  | zero => simp; omega
  | succ k =>
    cases hp : (SeatNo.portBase (u32OrMax nextNo) first).isSome with
    | false => simp [List.range_succ_eq_map, hzero, hp]
    | true =>
      dsimp only
      rw [takeWhile_range_succ _ _ (by simpa [hzero] using hp)]
      simp; omega

theorem availableSlots_pos_of_active_le {maxSeats active active' nextNo first} (hle : active' ≤ active)
    (h : 0 < availableSlots maxSeats first active nextNo) :
    0 < availableSlots maxSeats first active' nextNo := by
  rw [availableSlots_pos] at h ⊢
  exact ⟨Nat.lt_of_le_of_lt (u32OrMax_mono hle) h.1, h.2⟩

theorem availableSlots_succ {maxSeats active nextNo first} (hmax : maxSeats ≤ u32Max)
    (h : 0 < availableSlots maxSeats first active nextNo) :
    availableSlots maxSeats first (active + 1) (nextNo + 1) + 1 = availableSlots maxSeats first active nextNo := by
  obtain ⟨hlt, hport⟩ := availableSlots_pos.mp h
  have hno := le_of_portBase_u32OrMax hport
  have hactive : active < maxSeats := by
    unfold u32OrMax at hlt
    split at hlt <;> omega
  have e₁ : u32OrMax active = active := u32OrMax_of_le (by omega)
  have e₂ : u32OrMax (active + 1) = active + 1 := u32OrMax_of_le (by omega)
  have hgrid := u16Max_lt_u32Max
  have e₃ : u32OrMax nextNo = nextNo := u32OrMax_of_le (by omega)
  have e₄ : u32OrMax (nextNo + 1) = nextNo + 1 := u32OrMax_of_le (by omega)
  rw [e₃] at hport
  have hshift : ∀ i, u32SaturatingAdd nextNo (i + 1) = u32SaturatingAdd (nextNo + 1) i := by
    intro i
    unfold u32SaturatingAdd
    rw [show nextNo + (i + 1) = nextNo + 1 + i by omega]
  have hzero : u32SaturatingAdd nextNo 0 = nextNo := by
    simp only [u32SaturatingAdd]; omega
  obtain ⟨k, hk⟩ : ∃ k, maxSeats - active = k + 1 := ⟨maxSeats - active - 1, by omega⟩
  have hk' : maxSeats - (active + 1) = k := by omega
  unfold availableSlots
  simp only [e₁, e₂, e₃, e₄, hk, hk']
  rw [takeWhile_range_succ _ _ (by simpa [hzero] using hport)]
  simp only [hshift]
  omega

theorem effectiveMaxSeats_le (maxSeats : Option UInt32) (memory policy : UInt32) :
    effectiveMaxSeats maxSeats memory policy ≤ u32Max := by
  have h := memory.toNat_lt
  unfold effectiveMaxSeats u32Max
  omega

/-! ## The seat table -/

namespace SeatTable

variable {t t' : SeatTable} {r : SeatRows} {id : QuoteId}

theorem mem_of_find? (h : t.find? id = some r) : r ∈ t.rows ∧ r.facts.seatId = id := by
  have := List.find?_some h
  exact ⟨List.mem_of_find?_eq_some h, by simpa using this⟩

theorem find?_of_mem (h : r ∈ t.rows) (hid : r.facts.seatId = id) : t.find? id = some r := by
  unfold find?
  have hn := t.ids_nodup
  revert hn h
  induction t.rows with
  | nil => intro h; simp at h
  | cons x xs ih =>
    intro h hn
    simp only [List.map_cons, List.nodup_cons] at hn
    rcases List.mem_cons.mp h with rfl | h
    · simp [hid]
    have hne : x.facts.seatId ≠ id := by
      intro he
      exact hn.1 (List.mem_map.mpr ⟨r, h, by rw [hid, he]⟩)
    simp [hne, ih h hn.2]

theorem find?_eq_none : t.find? id = none ↔ ∀ r ∈ t.rows, r.facts.seatId ≠ id := by
  simp [find?, List.find?_eq_none]

theorem lt_nextNo (h : r ∈ t.rows) : r.facts.seatNo < t.nextNo := by
  unfold nextNo
  revert h
  induction t.rows with
  | nil => intro h; simp at h
  | cons x xs ih =>
    intro h
    rcases List.mem_cons.mp h with rfl | h
    · simp only [List.foldr_cons]; omega
    · have := ih h
      simp only [List.foldr_cons]; omega

theorem insert_rows (h : t.insert r = some t') : t'.rows = r :: t.rows := by
  unfold insert at h
  split at h
  · cases h; rfl
  · cases h

theorem insert_isSome (hid : t.find? r.facts.seatId = none) (hno : r.facts.seatNo = t.nextNo) :
    (t.insert r).isSome := by
  unfold insert
  rw [dif_pos]
  · rfl
  constructor
  · intro h
    obtain ⟨x, hx, he⟩ := List.mem_map.mp h
    exact find?_eq_none.mp hid x hx he
  intro h
  obtain ⟨x, hx, he⟩ := List.mem_map.mp h
  have := lt_nextNo hx
  omega

theorem find?_insert (h : t.insert r = some t') (id : QuoteId) :
    t'.find? id = if r.facts.seatId = id then some r else t.find? id := by
  unfold find?
  rw [insert_rows h, List.find?_cons]
  by_cases hid : r.facts.seatId = id
  · simp [hid]
  · rw [if_neg hid, beq_eq_false_iff_ne.mpr hid]

theorem activeCount_insert (h : t.insert r = some t') (ha : r.active = true) : t'.activeCount = t.activeCount + 1 := by
  unfold activeCount
  rw [insert_rows h, List.countP_cons_of_pos ha]

theorem nextNo_insert (h : t.insert r = some t') (hno : r.facts.seatNo = t.nextNo) : t'.nextNo = t.nextNo + 1 := by
  unfold nextNo at hno ⊢
  rw [insert_rows h, List.foldr_cons, hno]
  omega

@[simp] theorem nextNo_modify (t : SeatTable) (id : QuoteId) (f : SeatRows → SeatRows) :
    (t.modify id f).nextNo = t.nextNo := by
  unfold nextNo modify
  simp [List.foldr_map]

theorem find?_modify (t : SeatTable) (id : QuoteId) (f : SeatRows → SeatRows) (id' : QuoteId) :
    (t.modify id f).find? id' = (t.find? id').map (modifyRow id f) := by
  unfold find? modify
  rw [List.find?_map]
  have hsame : (fun r : SeatRows => r.facts.seatId == id') ∘ modifyRow id f = fun r => r.facts.seatId == id' := by
    funext r
    simp
  rw [hsame]

@[simp] theorem find?_modify_facts (t : SeatTable) (id : QuoteId) (f : SeatRows → SeatRows)
    (id' : QuoteId) : ((t.modify id f).find? id').map (·.facts) = (t.find? id').map (·.facts) := by
  rw [find?_modify, Option.map_map]
  congr 1
  funext r
  simp

theorem activeCount_modify_le (t : SeatTable) (id : QuoteId) {f}
    (hf : ∀ r, (f r).active = true → r.active = true) :
    (t.modify id f).activeCount ≤ t.activeCount := by
  unfold activeCount modify
  rw [List.countP_map]
  apply List.countP_mono_left
  intro r _ hr
  simp only [Function.comp_apply, modifyRow] at hr
  split at hr
  · exact hf r hr
  · exact hr

end SeatTable

end Manifold.Guardian
