import Mathlib.Algebra.GroupWithZero.Nat
import Mathlib.Data.List.Sort
import Mathlib.Data.List.Destutter
import Mathlib.Algebra.BigOperators.Group.List.Basic

/-!
# Splitting a price into the mint's denominations

`quote_denominations`. Amounts are natural numbers: the loop only divides.
-/

namespace Manifold.LockedPayments

def maxLockedPaymentNotes : Nat := 64

/-- The loop of `quote_denominations` over the tiers still to come. -/
def selectNotes : List Nat → Nat → List Nat → Option (List Nat)
  | [], remaining, selected => if remaining ≠ 0 then none else some selected
  | tier :: available, remaining, selected =>
    if tier = 0 then selectNotes available remaining selected
    else
      let count := remaining / tier
      let remainingCapacity := maxLockedPaymentNotes - selected.length
      if count > remainingCapacity then none
      else selectNotes available (remaining % tier) (selected ++ List.replicate count tier)

/-- The tiers from the largest to the smallest, each once. -/
def sortTiers (available : List Nat) : List Nat :=
  (available.insertionSort (· ≥ ·)).destutter (· ≠ ·)

def quoteDenominations (priceMsats : Nat) (available : List Nat) : Option (List Nat) :=
  selectNotes (sortTiers available) priceMsats []

/-! ## The greedy choice without a limit -/

-- a tier of zero takes no note and leaves the price: division by zero is zero
def greedy : List Nat → Nat → List Nat
  | [], _ => []
  | tier :: tiers, price => List.replicate (price / tier) tier ++ greedy tiers (price % tier)

def residue : List Nat → Nat → Nat
  | [], price => price
  | tier :: tiers, price => residue tiers (price % tier)

/-- The limit is tested tier by tier, but the number of notes only grows. -/
theorem selectNotes_eq (tiers : List Nat) (price : Nat) (selected) (h : selected.length ≤ maxLockedPaymentNotes) :
    selectNotes tiers price selected =
      if residue tiers price = 0 ∧ selected.length + (greedy tiers price).length ≤ maxLockedPaymentNotes then
        some (selected ++ greedy tiers price)
      else none := by
  induction tiers generalizing price selected with
  | nil =>
    by_cases hp : price = 0 <;> simp [selectNotes, residue, greedy, hp, h]
  | cons tier tiers ih =>
    simp only [selectNotes, residue, greedy, List.length_append, List.length_replicate]
    by_cases hzero : tier = 0
    · simp [ih _ _ h, hzero]
    by_cases hcount : price / tier > maxLockedPaymentNotes - selected.length
    · rw [if_neg hzero, if_pos hcount, if_neg (by omega)]
    · rw [if_neg hzero, if_neg hcount, ih _ _ (by simp only [List.length_append, List.length_replicate]; omega)]
      simp [Nat.add_assoc]

theorem sum_greedy (tiers : List Nat) (price : Nat) : (greedy tiers price).sum + residue tiers price = price := by
  induction tiers generalizing price with
  | nil => simp [greedy, residue]
  | cons tier tiers ih =>
    simp only [greedy, residue, List.sum_append, List.sum_replicate_nat, Nat.add_assoc, ih]
    exact Nat.div_add_mod' price tier

theorem mem_greedy {tiers price n} (h : n ∈ greedy tiers price) : n ∈ tiers ∧ n ≠ 0 := by
  induction tiers generalizing price with
  | nil => cases h
  | cons tier tiers ih =>
    rcases List.mem_append.mp h with h | h
    · obtain ⟨hcount, rfl⟩ := List.mem_replicate.mp h
      exact ⟨List.mem_cons_self, fun hzero => hcount (by simp [hzero])⟩
    · exact ⟨List.mem_cons_of_mem _ (ih h).1, (ih h).2⟩

theorem pairwise_greedy {tiers} (h : tiers.Pairwise (· > ·)) (price : Nat) :
    (greedy tiers price).Pairwise (· ≥ ·) := by
  induction tiers generalizing price with
  | nil => exact .nil
  | cons tier tiers ih =>
    obtain ⟨hlt, h⟩ := List.pairwise_cons.mp h
    refine List.pairwise_append.mpr ⟨List.pairwise_replicate.mpr (.inr le_rfl), ih h _, fun a ha b hb => ?_⟩
    rw [List.eq_of_mem_replicate ha]
    exact (hlt b (mem_greedy hb).1).le

/-! ## The sorted tiers -/

theorem sortTiers_eq (available : List Nat) :
    sortTiers available = (available.insertionSort (· ≥ ·)).dedup :=
  (List.pairwise_insertionSort _ available).destutter_eq_dedup

@[simp]
theorem mem_sortTiers {available t} : t ∈ sortTiers available ↔ t ∈ available := by
  rw [sortTiers_eq, List.mem_dedup, (List.perm_insertionSort _ _).mem_iff]

theorem pairwise_sortTiers (available : List Nat) : (sortTiers available).Pairwise (· > ·) := by
  rw [sortTiers_eq]
  have hge := (List.pairwise_insertionSort (· ≥ ·) available).sublist (List.dedup_sublist _)
  exact (hge.and (List.nodup_dedup _)).imp fun h => lt_of_le_of_ne h.1 h.2.symm

theorem sortTiers_congr {available available'} (h : ∀ t, t ∈ available' ↔ t ∈ available) :
    sortTiers available' = sortTiers available :=
  List.Subset.antisymm_of_sortedGT (fun t ht => by simpa [h] using ht) (fun t ht => by simpa [h] using ht)
    (pairwise_sortTiers _).sortedGT (pairwise_sortTiers _).sortedGT

/-! ## Divisor chains -/

/-- Each non-zero tier divides the next larger one. -/
def DivisorChain (available : List Nat) : Prop :=
  ∀ d ∈ available, d ≠ 0 → ∀ t ∈ available, d < t → (∀ c ∈ available, d < c → t ≤ c) → d ∣ t

structure Represents (available : List Nat) (price : Nat) (xs : List Nat) : Prop where
  tiers : ∀ x ∈ xs, x ∈ available
  sum : xs.sum = price

theorem DivisorChain.tail {t tiers} (h : DivisorChain (t :: tiers)) (hlt : ∀ d ∈ tiers, t > d) :
    DivisorChain tiers := by
  intro d hd hne u hu hdu hnext
  refine h d (.tail _ hd) hne u (.tail _ hu) hdu fun c hc hdc => ?_
  rcases List.mem_cons.mp hc with rfl | hc
  · exact (hlt u hu).le
  · exact hnext c hc hdc

theorem DivisorChain.head {t d tiers} (h : DivisorChain (t :: d :: tiers))
    (hs : (t :: d :: tiers).Pairwise (· > ·)) (hd : d ≠ 0) : d ∣ t := by
  obtain ⟨hlt, hs⟩ := List.pairwise_cons.mp hs
  refine h d (by simp) hd t (by simp) (hlt d (by simp)) fun c hc hdc => ?_
  simp only [List.mem_cons] at hc
  rcases hc with rfl | rfl | hc
  · exact le_rfl
  · exact absurd hdc (lt_irrefl _)
  · exact absurd hdc (List.rel_of_pairwise_cons hs hc).asymm

/-- Taking whole notes of `t` first never costs more notes of the smaller tiers. -/
theorem greedy_exchange {t tiers} (hs : (t :: tiers).Pairwise (· > ·)) (h : DivisorChain (t :: tiers)) {price}
    (hres : residue tiers price = 0) :
    residue tiers (price % t) = 0 ∧ price / t + (greedy tiers (price % t)).length ≤ (greedy tiers price).length := by
  match tiers with
  | [] => simp_all [residue, greedy]
  | d :: tiers =>
    have hdt : t > d := List.rel_of_pairwise_cons hs (by simp)
    rcases Nat.eq_zero_or_pos d with rfl | hd
    · -- below zero there is no tier, so nothing is left of the price
      have hnil : tiers = [] := List.eq_nil_iff_forall_not_mem.mpr fun c hc =>
        absurd (List.rel_of_pairwise_cons (List.pairwise_cons.mp hs).2 hc) (Nat.not_lt_zero c)
      simp_all [residue, greedy]
    obtain ⟨m, rfl⟩ := h.head hs hd.ne'
    have hm : 0 < m := Nat.pos_of_ne_zero fun hzero => by simp [hzero] at hdt
    have hmod : price % (d * m) % d = price % d := Nat.mod_mod_of_dvd _ ⟨m, rfl⟩
    have hdiv : price / d = m * (price / (d * m)) + price % (d * m) / d := by
      conv_lhs => rw [← Nat.div_add_mod price (d * m), Nat.mul_assoc]
      rw [Nat.mul_add_div hd]
    have hle : price / (d * m) ≤ m * (price / (d * m)) := Nat.le_mul_of_pos_left _ hm
    simp only [residue, greedy, hmod, List.length_append, List.length_replicate] at hres ⊢
    exact ⟨hres, by omega⟩

theorem greedy_minimal {tiers} (hs : tiers.Pairwise (· > ·)) (h : DivisorChain tiers) {price xs}
    (hx : Represents tiers price xs) : residue tiers price = 0 ∧ (greedy tiers price).length ≤ xs.length := by
  induction tiers generalizing price xs with
  | nil =>
    have hnil : xs = [] := List.eq_nil_iff_forall_not_mem.mpr fun x hmem => nomatch hx.tiers x hmem
    simp [← hx.sum, hnil, residue, greedy]
  | cons t tiers ih =>
    obtain ⟨hlt, hs'⟩ := List.pairwise_cons.mp hs
    -- the notes of `t` in the representation, and the others
    have hperm := List.filter_append_perm (· = t) xs
    rw [List.filter_eq] at hperm
    obtain ⟨ys, hys⟩ : ∃ ys, xs.filter (fun x => !decide (x = t)) = ys := ⟨_, rfl⟩
    have hsum := hperm.sum_eq
    have hlength := hperm.length_eq
    simp only [hys, List.sum_append_nat, List.sum_replicate_nat, List.length_append, List.length_replicate] at hsum hlength
    have hrest : Represents tiers ys.sum ys := ⟨fun y hy => by grind [hx.tiers y], rfl⟩
    obtain ⟨hres, hle⟩ := ih hs' (h.tail hlt) hrest
    obtain ⟨hres, hexchange⟩ := greedy_exchange hs h hres
    have hdiv : (xs.count t * t + ys.sum) / t ≤ xs.count t + ys.sum / t := by
      rcases Nat.eq_zero_or_pos t with rfl | ht
      · simp
      · rw [Nat.mul_comm, Nat.mul_add_div ht]
    rw [← hx.sum, ← hsum, ← hlength]
    simp only [residue, greedy, List.length_append, List.length_replicate, Nat.mul_add_mod_self_right]
    exact ⟨hres, by omega⟩

theorem quote_eq_some {price available notes} : quoteDenominations price available = some notes ↔
    (residue (sortTiers available) price = 0 ∧ (greedy (sortTiers available) price).length ≤ maxLockedPaymentNotes) ∧
      greedy (sortTiers available) price = notes := by
  simp [quoteDenominations, selectNotes_eq _ _ [] (Nat.zero_le _)]

theorem quote_canonical (priceMsats : Nat) (available : List Nat) :
    (∀ notes, quoteDenominations priceMsats available = some notes →
      notes.length ≤ maxLockedPaymentNotes ∧ (∀ n ∈ notes, n ∈ available ∧ n ≠ 0) ∧ notes.Pairwise (· ≥ ·) ∧
        notes.sum = priceMsats) ∧
    (∀ available', (∀ t, t ∈ available' ↔ t ∈ available) →
      quoteDenominations priceMsats available' = quoteDenominations priceMsats available) ∧
    (DivisorChain available →
      ((∃ notes, quoteDenominations priceMsats available = some notes) ↔
        ∃ xs, Represents available priceMsats xs ∧ xs.length ≤ maxLockedPaymentNotes) ∧
      ∀ notes, quoteDenominations priceMsats available = some notes →
        ∀ xs, Represents available priceMsats xs → notes.length ≤ xs.length) := by
  have hsum := sum_greedy (sortTiers available) priceMsats
  refine ⟨fun notes h => ?_, fun available' h => ?_, fun hchain => ?_⟩
  · obtain ⟨⟨hres, hlength⟩, rfl⟩ := quote_eq_some.mp h
    exact ⟨hlength, fun n hn => by simpa using mem_greedy hn, pairwise_greedy (pairwise_sortTiers _) _, by omega⟩
  · rw [quoteDenominations, sortTiers_congr h, quoteDenominations]
  · have hminimal : ∀ xs, Represents available priceMsats xs → _ := fun xs hx =>
      greedy_minimal (pairwise_sortTiers available) (by simpa [DivisorChain] using hchain)
        ⟨by simpa using hx.tiers, hx.sum⟩
    refine ⟨⟨fun ⟨notes, h⟩ => ?_, fun ⟨xs, hx, hlength⟩ => ?_⟩, fun notes h xs hx => ?_⟩
    · obtain ⟨⟨hres, hlength⟩, rfl⟩ := quote_eq_some.mp h
      exact ⟨_, ⟨fun n hn => mem_sortTiers.mp (mem_greedy hn).1, by omega⟩, hlength⟩
    · exact ⟨_, quote_eq_some.mpr ⟨⟨(hminimal xs hx).1, (hminimal xs hx).2.trans hlength⟩, rfl⟩⟩
    · obtain ⟨-, rfl⟩ := quote_eq_some.mp h
      exact (hminimal xs hx).2

theorem quote_canonical_seven : quoteDenominations 7 [2, 0, 4, 1, 2] = some [4, 2, 1] ∧ DivisorChain [2, 0, 4, 1, 2] ∧
    ∀ xs, Represents [2, 0, 4, 1, 2] 7 xs → 3 ≤ xs.length := by
  have hquote : quoteDenominations 7 [2, 0, 4, 1, 2] = some [4, 2, 1] := by decide
  have hchain : DivisorChain [2, 0, 4, 1, 2] := by
    unfold DivisorChain
    decide
  exact ⟨hquote, hchain, ((quote_canonical 7 [2, 0, 4, 1, 2]).2.2 hchain).2 _ hquote⟩

end Manifold.LockedPayments
