import Mathlib.Data.List.Perm.Subperm
import Manifold.Guardian.MetadataTheorems

/-!
# The guardian-fee split

The payer's side of the fee policy (`crates/mg/core/src/guardian_fee.rs`) and the proposals of the guardians.
-/

namespace Manifold.Guardian.Metadata

open Lib

/-! ## The payer's reading -/

/-- `serde_json` on the versioned list and on a bare account, as the payer reads them. -/
structure PayerCodec extends Codec where
  parseList : String → Option (Nat × List GuardianFeeRecipient)
  parseAccount : String → Option Account

def validateParsedEntries (c : Codec) (previous : Option Nat) (total : Nat) : List GuardianFeeRecipient → Bool
  | [] => total != 0
  | r :: rest =>
    r.weight != 0 && r.account.feeAccount && !previous.any (c.accountId r.account ≤ ·) &&
      decide (total + r.weight < 2 ^ 64) &&
      validateParsedEntries c (some (c.accountId r.account)) (total + r.weight) rest

def parseRecipients (p : PayerCodec) (value : String) : Option (List GuardianFeeRecipient) :=
  match p.parseList value with
  | some (version, rs) =>
    if version ≠ 1 ∨ rs.isEmpty ∨ maxGuardianFeeRecipients < rs.length then none
    else if validateParsedEntries p.toCodec none 0 rs then some rs
    else none
  | none => (p.parseAccount value).map fun account => [⟨account, 1⟩]

def validateFeePolicy (p : PayerCodec) : Option Nat → Option String → Except FeePolicyError Unit
  | none, none => .ok ()
  | some sendPpm, some recipients =>
    if maxSendPpm < sendPpm then .error .sendPpmTooHigh
    else if (parseRecipients p recipients).isNone then .error .invalidRecipients
    else .ok ()
  | _, _ => .error .incomplete

def validateLiveFeePolicySplit (p : PayerCodec) (sendPpm : Nat) (value : String) (guardians : List Account)
    (verificationFee : Account) : Except FeePolicyError Unit :=
  match parseRecipients p value with
  | none => .error .invalidRecipients
  | some rs =>
    if rs.all (·.account.feeAccount) then do
      let canonical ← canonicalProposal p.toCodec sendPpm rs guardians verificationFee
      if canonical ≠ value then .error .invalidRecipients else .ok ()
    else .error .invalidRecipients

def ourShareOf (p : PayerCodec) (value : String) (ours : Nat) : Option (Nat × Nat) := do
  let rs ← parseRecipients p value
  let total ← rs.foldlM (fun total r => if total + r.weight < 2 ^ 64 then some (total + r.weight) else none) 0
  let r ← rs.find? (p.accountId ·.account == ours)
  return (r.weight, total)

/-! ## Canonical lists -/

section canonical

variable {c : Codec} {rs : List GuardianFeeRecipient}

def Increasing (c : Codec) (rs : List GuardianFeeRecipient) : Prop :=
  rs.Pairwise fun a b => c.accountId a.account < c.accountId b.account

def Fits (c : Codec) (r : GuardianFeeRecipient) : Prop :=
  ∃ bytes, c.accountBytes r.account = some bytes ∧ bytes.length ≤ maxGuardianFeeAccountBytes

structure Encodes (c : Codec) (rs : List GuardianFeeRecipient) : Prop where
  accounts : ∀ r ∈ rs, Fits c r
  list : ∃ s, c.recipientsString rs = some s ∧ s.utf8ByteSize ≤ maxGuardianFeeRecipientListBytes

def totalWeight (rs : List GuardianFeeRecipient) : Nat := (rs.map (·.weight)).sum

structure Accumulates (c : Codec) (previous : Option Nat) (total : Nat) (rs : List GuardianFeeRecipient) : Prop where
  above : ∀ id ∈ previous, ∀ r ∈ rs, id < c.accountId r.account
  increasing : Increasing c rs
  weights : ∀ r ∈ rs, r.weight ≠ 0
  bounded : rs ≠ [] → total + totalWeight rs < 2 ^ 64

theorem accumulates_nil {previous total} : Accumulates c previous total [] :=
  ⟨by simp, List.Pairwise.nil, by simp, by simp⟩

theorem accumulates_cons {previous total r} :
    Accumulates c previous total (r :: rs) ↔ previous.any (c.accountId r.account ≤ ·) = false ∧ r.weight ≠ 0 ∧
      total + r.weight < 2 ^ 64 ∧ Accumulates c (some (c.accountId r.account)) (total + r.weight) rs := by
  have hw : totalWeight (r :: rs) = r.weight + totalWeight rs := rfl
  constructor
  · rintro ⟨habove, hinc, hweights, hbound⟩
    have hlt := hbound (List.cons_ne_nil _ _)
    obtain ⟨hhead, htail⟩ := List.pairwise_cons.mp hinc
    refine ⟨?_, hweights r List.mem_cons_self, by omega, ?_, htail, ?_, fun _ => by omega⟩
    · cases previous with
      | none => rfl
      | some id => simpa using habove id rfl r List.mem_cons_self
    · rintro id ⟨⟩ a ha
      exact hhead a ha
    · exact fun a ha => hweights a (List.mem_cons_of_mem _ ha)
  rintro ⟨hprev, hweight, hlt, habove, hinc, hweights, hbound⟩
  have hhead := habove _ rfl
  refine ⟨?_, List.pairwise_cons.mpr ⟨hhead, hinc⟩, List.forall_mem_cons.mpr ⟨hweight, hweights⟩, fun _ => ?_⟩
  · rintro id ⟨⟩
    have hid : id < c.accountId r.account := by simpa using hprev
    exact List.forall_mem_cons.mpr ⟨hid, fun a ha => Nat.lt_trans hid (hhead a ha)⟩
  rcases eq_or_ne rs [] with rfl | hne
  · simpa [totalWeight] using hlt
  · have := hbound hne
    omega

theorem checkRecipients_cons {previous total r t} :
    checkRecipients c previous total (r :: rs) = .ok t ↔
      Fits c r ∧ previous.any (c.accountId r.account ≤ ·) = false ∧ r.weight ≠ 0 ∧ total + r.weight < 2 ^ 64 ∧
        checkRecipients c (some (c.accountId r.account)) (total + r.weight) rs = .ok t := by
  unfold Fits
  simp only [checkRecipients]
  cases c.accountBytes r.account with
  | none => simp
  | some bytes =>
    by_cases hlen : maxGuardianFeeAccountBytes < bytes.length
    · simp [hlen, Nat.not_le.mpr hlen]
    cases previous.any (c.accountId r.account ≤ ·) with
    | true => simp [hlen]
    | false =>
      by_cases hw : r.weight = 0 ∨ 2 ^ 64 ≤ total + r.weight
      · simp only [hlen, hw, if_true, if_false, Bool.false_eq_true, reduceCtorEq, false_iff]
        omega
      · obtain ⟨hpos, hlt⟩ := not_or.mp hw
        simp only [hlen, hw, if_false, Bool.false_eq_true]
        exact ⟨fun h => ⟨⟨bytes, rfl, Nat.not_lt.mp hlen⟩, trivial, hpos, Nat.not_le.mp hlt, h⟩, fun h => h.2.2.2.2⟩

theorem checkRecipients_eq_ok {previous total t} :
    checkRecipients c previous total rs = .ok t ↔
      (∀ r ∈ rs, Fits c r) ∧ Accumulates c previous total rs ∧ t = total + totalWeight rs := by
  induction rs generalizing previous total with
  | nil => simp [checkRecipients, accumulates_nil, totalWeight, eq_comm]
  | cons r rs ih =>
    have hw : total + totalWeight (r :: rs) = total + r.weight + totalWeight rs := (Nat.add_assoc ..).symm
    rw [checkRecipients_cons, accumulates_cons, List.forall_mem_cons, ih, hw]
    tauto

theorem Accumulates.total_pos {total} (h : Accumulates c none total rs) (hne : rs ≠ []) : 0 < totalWeight rs := by
  cases rs with
  | nil => exact absurd rfl hne
  | cons r rs =>
    have hpos := Nat.pos_of_ne_zero (h.weights r List.mem_cons_self)
    exact Nat.lt_of_lt_of_le hpos (Nat.le_add_right _ (totalWeight rs))

theorem canonicalList_eq_ok {value} : canonicalGuardianFeeRecipientList c rs = .ok value ↔
    rs ≠ [] ∧ rs.length ≤ maxGuardianFeeRecipients ∧ Encodes c rs ∧ Accumulates c none 0 rs ∧
      c.recipientsString rs = some value := by
  unfold canonicalGuardianFeeRecipientList
  constructor
  · intro h
    split at h
    · cases h
    rename_i hcount
    obtain ⟨hne, hlen⟩ := not_or.mp hcount
    obtain ⟨total, htotal, h⟩ := bind_eq_ok.mp h
    obtain ⟨hfits, hacc, -⟩ := checkRecipients_eq_ok.mp htotal
    split at h
    · cases h
    split at h
    · cases h
    rename_i s hs
    split at h
    · cases h
    · rename_i hsize
      cases h
      exact ⟨by simpa using hne, Nat.not_lt.mp hlen, ⟨hfits, value, hs, Nat.not_lt.mp hsize⟩, hacc, hs⟩
  rintro ⟨hne, hlen, ⟨hfits, s, hs, hsize⟩, hacc, hvalue⟩
  cases hs.symm.trans hvalue
  have hcount : ¬ (rs.isEmpty = true ∨ maxGuardianFeeRecipients < rs.length) := by simp [hne, hlen]
  rw [if_neg hcount, bind_eq_ok]
  refine ⟨_, checkRecipients_eq_ok.mpr ⟨hfits, hacc, rfl⟩, ?_⟩
  have hpos := hacc.total_pos hne
  simp only [hs, Nat.not_lt.mpr hsize, if_false]
  rw [if_neg (by omega)]

theorem validateParsedEntries_of {previous total} (h : Accumulates c previous total rs)
    (hfee : ∀ r ∈ rs, r.account.feeAccount = true) (htotal : total + totalWeight rs ≠ 0) :
    validateParsedEntries c previous total rs = true := by
  induction rs generalizing previous total with
  | nil => simpa [validateParsedEntries, totalWeight] using htotal
  | cons r rs ih =>
    obtain ⟨hprev, hweight, hlt, hrest⟩ := accumulates_cons.mp h
    rw [List.forall_mem_cons] at hfee
    simp only [validateParsedEntries, hprev, hfee.1, ih hrest hfee.2 (by omega), decide_eq_true hlt]
    simpa using hweight

end canonical

/-! ## The split -/

def splitOf (guardians : List Account) (fa verificationFee : Account) : List GuardianFeeRecipient :=
  guardians.map (⟨·, guardianRecipientWeight⟩) ++
    [⟨fa, faRecipientWeight⟩, ⟨verificationFee, guardianVerificationFeeWeight⟩]

def IsSplit (rs : List GuardianFeeRecipient) (guardians : List Account) (verificationFee : Account) : Prop :=
  verificationFee ∉ guardians ∧
    ∃ fa, fa ∉ guardians ∧ fa ≠ verificationFee ∧ rs.Perm (splitOf guardians fa verificationFee)

section split

variable {c : Codec} {rs : List GuardianFeeRecipient} {guardians : List Account} {verificationFee fa : Account}

theorem mem_splitOf {r} : r ∈ splitOf guardians fa verificationFee ↔
    (r.account ∈ guardians ∧ r.weight = 1) ∨ r = ⟨fa, 4⟩ ∨ r = ⟨verificationFee, 1⟩ := by
  obtain ⟨account, weight⟩ := r
  simp [splitOf, guardianRecipientWeight, faRecipientWeight, guardianVerificationFeeWeight, eq_comm]

theorem accounts_splitOf : (splitOf guardians fa verificationFee).map (·.account) = guardians ++ [fa, verificationFee] := by
  simp [splitOf, Function.comp_def]

theorem isSplit_of_properSplit (hg : guardians.Nodup) (h : properSplit rs guardians verificationFee = true) :
    IsSplit rs guardians verificationFee := by
  simp only [properSplit, Bool.and_eq_true, Bool.not_eq_true', beq_iff_eq, List.all_eq_true, Option.any_eq_true] at h
  obtain ⟨⟨⟨⟨⟨-, hvf⟩, hfee⟩, hfa⟩, hguardians⟩, hlen⟩ := h
  have hvf : verificationFee ∉ guardians := by simpa using hvf
  obtain ⟨r, hr, hcond⟩ := List.countP_pos_iff.mp (Nat.lt_of_lt_of_eq Nat.one_pos hfa.symm)
  simp only [Bool.and_eq_true, bne_iff_ne, ne_eq, Bool.not_eq_true', beq_iff_eq] at hcond
  obtain ⟨⟨hnotfee, hnot⟩, hweight⟩ := hcond
  have hnot : r.account ∉ guardians := by simpa using hnot
  obtain ⟨e, he, heweight⟩ : ∃ e ∈ rs.filter (·.account == verificationFee), e.weight = 1 := by
    have hmem : 1 ∈ (rs.filter (·.account == verificationFee)).map (·.weight) := by rw [hfee]; simp [guardianVerificationFeeWeight]
    simpa using hmem
  obtain ⟨he, heaccount⟩ := List.mem_filter.mp he
  refine ⟨hvf, r.account, hnot, hnotfee, ?_⟩
  -- the split has no repetition and is as long as the list, so it is enough that the list has all of it
  have hnodup : (splitOf guardians r.account verificationFee).Nodup := by
    refine List.Nodup.of_map (·.account) ?_
    rw [accounts_splitOf, List.nodup_append]
    refine ⟨hg, by simp [hnotfee], fun a ha b hb => ?_⟩
    rintro rfl
    simp only [List.mem_cons, List.not_mem_nil, or_false] at hb
    rcases hb with rfl | rfl
    · exact hnot ha
    · exact hvf ha
  have hsub : splitOf guardians r.account verificationFee ⊆ rs := by
    intro x hx
    rcases mem_splitOf.mp hx with ⟨hx, hw⟩ | rfl | rfl
    · obtain ⟨y, hy, hyw⟩ := hguardians x.account hx
      have hya : y.account = x.account := by simpa using List.find?_some hy
      have hxy : x = y := by
        cases x
        cases y
        simp_all [guardianRecipientWeight]
      exact hxy ▸ List.mem_of_find?_eq_some hy
    · rw [show (4 : Nat) = r.weight from hweight.symm]
      exact hr
    have heq : e = ⟨verificationFee, 1⟩ := by
      cases e
      simp_all
    exact heq ▸ he
  refine ((hnodup.subperm hsub).perm_of_length_le ?_).symm
  simp [splitOf, hlen]

theorem properSplit_of_isSplit (hne : guardians ≠ []) (h : IsSplit rs guardians verificationFee) :
    properSplit rs guardians verificationFee = true := by
  obtain ⟨hvf, fa, hfa, hfee, hperm⟩ := h
  have hfilter : rs.filter (·.account == verificationFee) = [⟨verificationFee, 1⟩] := by
    refine List.perm_singleton.mp ((hperm.filter _).trans (.of_eq ?_))
    have hnone : (guardians.map (fun g => (⟨g, 1⟩ : GuardianFeeRecipient))).filter (·.account == verificationFee) = [] := by
      simp only [List.filter_eq_nil_iff, List.mem_map, beq_iff_eq]
      rintro _ ⟨g, hg, rfl⟩ rfl
      exact hvf hg
    simp [splitOf, guardianRecipientWeight, guardianVerificationFeeWeight, hnone, hfee]
  have hcount : rs.countP (fun r => r.account != verificationFee && !guardians.contains r.account &&
      r.weight == faRecipientWeight) = 1 := by
    rw [hperm.countP_eq, splitOf, List.countP_append, List.countP_eq_zero.mpr]
    · simp [hfa, hfee]
    · simp only [List.mem_map]
      rintro _ ⟨g, hg, rfl⟩
      simp [hg]
  have hguardians : guardians.all
      (fun g => (rs.find? (·.account == g)).any (·.weight == guardianRecipientWeight)) = true := by
    refine List.all_eq_true.mpr fun g hg => ?_
    have hmem : (⟨g, 1⟩ : GuardianFeeRecipient) ∈ rs := hperm.mem_iff.mpr (mem_splitOf.mpr (.inl ⟨hg, rfl⟩))
    cases hfind : rs.find? (·.account == g) with
    | none => simpa using List.find?_eq_none.mp hfind _ hmem
    | some r =>
      obtain rfl : r.account = g := by simpa using List.find?_some hfind
      rcases mem_splitOf.mp (hperm.mem_iff.mp (List.mem_of_find?_eq_some hfind)) with ⟨-, hw⟩ | rfl | rfl
      · simp [hw, guardianRecipientWeight]
      · exact absurd hg hfa
      · exact absurd hg hvf
  have hlen : rs.length = guardians.length + 2 := by rw [hperm.length_eq]; simp [splitOf]
  have hcontains : guardians.contains verificationFee = false := by simpa using hvf
  rw [properSplit, hfilter, hcount, hlen, hguardians, hcontains]
  simp [hne, guardianVerificationFeeWeight]

theorem canonicalProposal_eq_ok {sendPpm value} :
    canonicalProposal c sendPpm rs guardians verificationFee = .ok value ↔ sendPpm ≤ maxSendPpm ∧
      canonicalGuardianFeeRecipientList c rs = .ok value ∧ properSplit rs guardians verificationFee = true := by
  unfold canonicalProposal prevalidateGuardianFeeRate
  by_cases hppm : maxSendPpm < sendPpm
  · simp [hppm, Nat.not_le.mpr hppm, bind, Except.bind]
  simp only [hppm, if_false, Nat.not_lt_zero, Nat.not_lt.mp hppm, true_and]
  cases hlist : canonicalGuardianFeeRecipientList c rs with
  | error e => simp [bind, Except.bind, Except.mapError]
  | ok v => cases properSplit rs guardians verificationFee <;> simp [bind, Except.bind, Except.mapError]

theorem Increasing.nodup_ids (h : Increasing c rs) : (rs.map (c.accountId ·.account)).Nodup := by
  rw [List.Nodup, List.pairwise_map]
  exact h.imp Nat.ne_of_lt

theorem sortRecipients_perm : (sortRecipients c rs).Perm rs := List.mergeSort_perm ..

/-- Apart from the order, the list alone decides whether a proposal is refused for its recipients. -/
theorem canonicalProposal_sorted {sendPpm rs' guardians'} (hrs : rs'.Perm rs)
    (hg : guardians'.Perm guardians) :
    canonicalProposal c sendPpm (sortRecipients c rs') guardians' verificationFee =
      canonicalProposal c sendPpm (sortRecipients c rs) guardians verificationFee := by
  have hperm : (sortRecipients c rs').Perm (sortRecipients c rs) :=
    sortRecipients_perm.trans (hrs.trans sortRecipients_perm.symm)
  by_cases hids : ((sortRecipients c rs).map (c.accountId ·.account)).Nodup
  · have hsorted : ∀ l : List GuardianFeeRecipient, (sortRecipients c l).Pairwise
        (fun a b => c.accountId a.account ≤ c.accountId b.account) := by
      intro l
      refine (List.pairwise_mergeSort (fun a b d hab hbd => ?_) (fun a b => ?_) l).imp of_decide_eq_true
      · exact decide_eq_true (Nat.le_trans (of_decide_eq_true hab) (of_decide_eq_true hbd))
      · simpa using Nat.le_total _ _
    have heq : sortRecipients c rs' = sortRecipients c rs := by
      refine hperm.eq_of_pairwise (fun a b ha hb hab hba => ?_) (hsorted rs') (hsorted rs)
      exact List.inj_on_of_nodup_map hids (hperm.mem_iff.mp ha) hb (Nat.le_antisymm hab hba)
    have hcontains : ∀ a, guardians'.contains a = guardians.contains a := fun a => hg.contains_eq
    have hempty : guardians'.isEmpty = guardians.isEmpty := hg.isEmpty_eq
    have hsplit : properSplit (sortRecipients c rs) guardians' verificationFee =
        properSplit (sortRecipients c rs) guardians verificationFee := by
      unfold properSplit
      simp only [hcontains, hempty, hg.length_eq, hg.all_eq]
    rw [heq, canonicalProposal, canonicalProposal, hsplit, hg.length_eq]
  -- a repeated id is refused wherever it stands
  have hfails : ∀ l : List GuardianFeeRecipient, l.Perm (sortRecipients c rs) → ∀ value,
      canonicalGuardianFeeRecipientList c l ≠ .ok value := by
    intro l hl value hok
    have hinc := (canonicalList_eq_ok.mp hok).2.2.2.1.increasing
    exact hids ((hl.map _).nodup_iff.mp hinc.nodup_ids)
  have herror : ∀ l : List GuardianFeeRecipient, l.Perm (sortRecipients c rs) → ∀ gs,
      canonicalProposal c sendPpm l gs verificationFee =
        (prevalidateGuardianFeeRate sendPpm 0).bind fun _ => .error .invalidRecipients := by
    intro l hl gs
    unfold canonicalProposal
    cases hlist : canonicalGuardianFeeRecipientList c l with
    | ok value => exact absurd hlist (hfails l hl value)
    | error e => rfl
  rw [herror _ hperm, herror _ (.refl _)]

theorem canonicalFormationProposal_perm {sendPpm guardians'} (hg : guardians'.Perm guardians) :
    canonicalFormationProposal c sendPpm guardians' fa verificationFee =
      canonicalFormationProposal c sendPpm guardians fa verificationFee := by
  have hrs : (splitOf guardians' fa verificationFee).Perm (splitOf guardians fa verificationFee) :=
    (hg.map _).append_right _
  change (if (splitOf guardians' fa verificationFee).all (·.account.feeAccount) then _ else _) =
    if (splitOf guardians fa verificationFee).all (·.account.feeAccount) then _ else _
  rw [hrs.all_eq]
  exact ite_congr rfl (fun _ => canonicalProposal_sorted hrs hg) fun _ => rfl

end split

section payer

variable {p : PayerCodec} {rs : List GuardianFeeRecipient} {guardians : List Account} {verificationFee : Account}
  {value : String}

def PayerCodec.Inverts (p : PayerCodec) : Prop :=
  ∀ rs s, p.recipientsString rs = some s → p.parseList s = some (1, rs) ∧ p.parseRecipients s = some (1, rs)

theorem parseRecipients_canonical (hp : p.Inverts) (h : canonicalGuardianFeeRecipientList p.toCodec rs = .ok value)
    (hfee : ∀ r ∈ rs, r.account.feeAccount = true) : parseRecipients p value = some rs := by
  obtain ⟨hne, hlen, -, hacc, hs⟩ := canonicalList_eq_ok.mp h
  have hpos := hacc.total_pos hne
  have hvalid := validateParsedEntries_of hacc hfee (by omega)
  simp [parseRecipients, (hp rs value hs).1, hne, Nat.not_lt.mpr hlen, hvalid]

theorem validateLive_eq_ok {sendPpm} (hp : p.Inverts) :
    validateLiveFeePolicySplit p sendPpm value guardians verificationFee = .ok () ↔
      ∃ rs, (∀ r ∈ rs, r.account.feeAccount = true) ∧
        canonicalProposal p.toCodec sendPpm rs guardians verificationFee = .ok value := by
  constructor
  · intro h
    unfold validateLiveFeePolicySplit at h
    split at h
    · cases h
    rename_i rs hrs
    split at h
    · rename_i hfee
      obtain ⟨canonical, hcanonical, h⟩ := bind_eq_ok.mp h
      split at h
      · cases h
      · rename_i heq
        exact ⟨rs, by simpa using hfee, not_not.mp heq ▸ hcanonical⟩
    · cases h
  rintro ⟨rs, hfee, h⟩
  have hparse := parseRecipients_canonical hp (canonicalProposal_eq_ok.mp h).2.1 hfee
  have hall : rs.all (·.account.feeAccount) = true := List.all_eq_true.mpr hfee
  simp [validateLiveFeePolicySplit, hparse, hall, h, bind, Except.bind]

theorem totalWeight_of_isSplit (h : IsSplit rs guardians verificationFee) : totalWeight rs = guardians.length + 5 := by
  obtain ⟨-, fa, -, -, hperm⟩ := h
  rw [totalWeight, (hperm.map _).sum_nat]
  simp [splitOf, guardianRecipientWeight, faRecipientWeight, guardianVerificationFeeWeight, Function.comp_def]

theorem foldlM_weights (rs : List GuardianFeeRecipient) (total : Nat) (h : total + totalWeight rs < 2 ^ 64) :
    rs.foldlM (fun total r => if total + r.weight < 2 ^ 64 then some (total + r.weight) else none) total =
      some (total + totalWeight rs) := by
  induction rs generalizing total with
  | nil => rfl
  | cons r rs ih =>
    have hw : total + totalWeight (r :: rs) = total + r.weight + totalWeight rs := (Nat.add_assoc ..).symm
    rw [hw] at h ⊢
    rw [List.foldlM_cons, if_pos (by omega)]
    exact ih _ h

theorem ourShareOf_guardian {g} (hparse : parseRecipients p value = some rs) (hinc : Increasing p.toCodec rs)
    (hsplit : IsSplit rs guardians verificationFee) (hlen : guardians.length + 5 < 2 ^ 64) (hg : g ∈ guardians) :
    ourShareOf p value (p.accountId g) = some (1, guardians.length + 5) := by
  have htotal := totalWeight_of_isSplit hsplit
  have hfold := foldlM_weights rs 0 (by omega)
  obtain ⟨-, fa, -, -, hperm⟩ := hsplit
  have hmem : (⟨g, 1⟩ : GuardianFeeRecipient) ∈ rs := hperm.mem_iff.mpr (mem_splitOf.mpr (.inl ⟨hg, rfl⟩))
  cases hfind : rs.find? (p.accountId ·.account == p.accountId g) with
  | none => simpa using List.find?_eq_none.mp hfind _ hmem
  | some r =>
    have hid : p.accountId r.account = p.accountId g := by simpa using List.find?_some hfind
    have heq := List.inj_on_of_nodup_map hinc.nodup_ids (List.mem_of_find?_eq_some hfind) hmem hid
    simp only [ourShareOf, hparse, hfold, hfind, heq, htotal, Nat.zero_add, bind, Option.bind_some]
    rfl

/-- A proposal succeeds exactly on the canonical split of its guardians, in whatever order, and what it gives is
accepted by the live check and by the payer, with one share for every guardian. -/
theorem guardian_fee_split (p : PayerCodec) (hp : p.Inverts) (guardians : List Account) (hne : guardians ≠ [])
    (hg : guardians.Nodup) (sendPpm : Nat) (verificationFee : Account) :
    (∀ rs, (∀ r ∈ rs, r.account.feeAccount = true) → Encodes p.toCodec rs →
      ((∃ value, canonicalProposal p.toCodec sendPpm rs guardians verificationFee = .ok value) ↔
        sendPpm ≤ maxSendPpm ∧ Increasing p.toCodec rs ∧ rs.length ≤ maxGuardianFeeRecipients ∧
          IsSplit rs guardians verificationFee)) ∧
    (∀ fa guardians', guardians'.Perm guardians →
      canonicalFormationProposal p.toCodec sendPpm guardians' fa verificationFee =
        canonicalFormationProposal p.toCodec sendPpm guardians fa verificationFee) ∧
    ∀ fa value, canonicalFormationProposal p.toCodec sendPpm guardians fa verificationFee = .ok value →
      validateLiveFeePolicySplit p sendPpm value guardians verificationFee = .ok () ∧
      validateFeePolicy p (some sendPpm) (some value) = .ok () ∧
      ∀ g ∈ guardians, ourShareOf p value (p.accountId g) = some (1, guardians.length + 5) := by
  refine ⟨fun rs hfee henc => ⟨?_, ?_⟩, fun fa guardians' hperm => canonicalFormationProposal_perm hperm, ?_⟩
  · rintro ⟨value, h⟩
    obtain ⟨hppm, hlist, hsplit⟩ := canonicalProposal_eq_ok.mp h
    obtain ⟨-, hlen, -, hacc, -⟩ := canonicalList_eq_ok.mp hlist
    exact ⟨hppm, hacc.increasing, hlen, isSplit_of_properSplit hg hsplit⟩
  · rintro ⟨hppm, hinc, hlen, hsplit⟩
    obtain ⟨value, hs, -⟩ := henc.list
    have htotal := totalWeight_of_isSplit hsplit
    obtain ⟨hvf, fa, hfa, hfafee, hperm⟩ := hsplit
    have hcount : rs.length = guardians.length + 2 := by rw [hperm.length_eq]; simp [splitOf]
    have hweights : ∀ r ∈ rs, r.weight ≠ 0 := fun r hr => by
      rcases mem_splitOf.mp (hperm.mem_iff.mp hr) with ⟨-, hw⟩ | rfl | rfl <;> simp_all
    have hbound : 0 + totalWeight rs < 2 ^ 64 := by
      rw [maxGuardianFeeRecipients] at hlen
      omega
    refine ⟨value, canonicalProposal_eq_ok.mpr ⟨hppm, canonicalList_eq_ok.mpr ⟨?_, hlen, henc, ?_, hs⟩, ?_⟩⟩
    · rintro rfl
      simp at hcount
    · exact ⟨by simp, hinc, hweights, fun _ => hbound⟩
    · exact properSplit_of_isSplit hne ⟨hvf, fa, hfa, hfafee, hperm⟩
  intro fa value h
  unfold canonicalFormationProposal at h
  dsimp only at h
  split at h
  · rename_i hfee
    obtain ⟨hppm, hlist, hsplit⟩ := canonicalProposal_eq_ok.mp h
    have hfee : ∀ r ∈ sortRecipients p.toCodec (splitOf guardians fa verificationFee), r.account.feeAccount = true :=
      fun r hr => List.all_eq_true.mp hfee r (sortRecipients_perm.mem_iff.mp hr)
    obtain ⟨-, hlen, -, hacc, -⟩ := canonicalList_eq_ok.mp hlist
    have hparse := parseRecipients_canonical hp hlist hfee
    have hsplit := isSplit_of_properSplit hg hsplit
    refine ⟨(validateLive_eq_ok hp).mpr ⟨_, hfee, h⟩, ?_, fun g hg => ?_⟩
    · simp [validateFeePolicy, Nat.not_lt.mpr hppm, hparse]
    refine ourShareOf_guardian hparse hacc.increasing hsplit ?_ hg
    have hcount := sortRecipients_perm.length_eq.symm.trans_le hlen
    simp only [maxGuardianFeeRecipients, List.length_append, List.length_map] at hcount
    omega
  · cases h

def holder (key : String) : Account := ⟨.btcDepositor, [key]⟩

def splitFor (fa : String) : List GuardianFeeRecipient :=
  [⟨holder "a", 1⟩, ⟨holder "bb", 1⟩, ⟨holder fa, 4⟩, ⟨holder "dddd", 1⟩]

/-- Prints the splits of two formation authorities. -/
def splitCodec : PayerCodec where
  toCodec :=
    { plainVotes with
      accountId := fun account => (account.keys.map String.length).sum
      recipientsString := fun rs => if rs = splitFor "ccc" then some "c" else if rs = splitFor "xxx" then some "x" else none
      parseRecipients := fun s => some (1, if s = "c" then splitFor "ccc" else splitFor "xxx") }
  parseList s := some (1, if s = "c" then splitFor "ccc" else splitFor "xxx")
  parseAccount _ := none

theorem splitCodec_inverts : splitCodec.Inverts := by
  intro rs s h
  simp only [splitCodec] at h
  split at h
  · next hrs => cases h; exact hrs ▸ ⟨rfl, rfl⟩
  split at h
  · next hrs => cases h; exact hrs ▸ ⟨rfl, rfl⟩
  · cases h

/-- Two guardians, named in either order, get the same list and a share each. -/
theorem guardian_fee_split_two :
    canonicalFormationProposal splitCodec.toCodec 1000 [holder "bb", holder "a"] (holder "ccc") (holder "dddd") = .ok "c" ∧
    ∀ g ∈ [holder "a", holder "bb"], ourShareOf splitCodec "c" (splitCodec.accountId g) = some (1, 7) := by
  obtain ⟨proposal, order, formed⟩ := guardian_fee_split splitCodec splitCodec_inverts [holder "a", holder "bb"] (by decide)
    (by decide) 1000 (holder "dddd")
  have hinc : Increasing splitCodec.toCodec (splitFor "ccc") := by
    unfold Increasing
    decide +kernel
  have hencodes : Encodes splitCodec.toCodec (splitFor "ccc") :=
    ⟨fun r _ => ⟨[], rfl, by decide⟩, "c", by decide +kernel, by decide +kernel⟩
  obtain ⟨value, hvalue⟩ := (proposal (splitFor "ccc") (by decide) hencodes).mpr
    ⟨by decide, hinc, by decide, by decide, holder "ccc", by decide, by decide, .refl _⟩
  have hsorted : sortRecipients splitCodec.toCodec (splitFor "ccc") = splitFor "ccc" :=
    List.mergeSort_of_pairwise (hinc.imp fun h => decide_eq_true (Nat.le_of_lt h))
  have hprinted : canonicalFormationProposal splitCodec.toCodec 1000 [holder "a", holder "bb"] (holder "ccc")
      (holder "dddd") = .ok "c" := by
    obtain ⟨-, hlist, -⟩ := canonicalProposal_eq_ok.mp hvalue
    cases (canonicalList_eq_ok.mp hlist).2.2.2.2
    rw [canonicalFormationProposal]
    exact (if_pos (by decide)).trans (hsorted.symm ▸ hvalue)
  exact ⟨(order _ _ (.swap ..)).trans hprinted, (formed _ _ hprinted).2.2⟩

end payer

end Manifold.Guardian.Metadata
