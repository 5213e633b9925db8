import Manifold.Guardian.Metadata

/-!
# Metadata votes do not conflict
-/

namespace Manifold.Guardian.Metadata

open Lib

variable {c : Codec}

/-! ## Targets -/

section directory

variable {bs bs' : List MgPeerAttestation} {d d' : MgSeatBindings}

theorem invalidValue_eq_ok {ε α : Type} {x : Except ε α} {a : α} : invalidValue x = .ok a ↔ x = .ok a := by
  cases x <;> simp [invalidValue, Except.mapError]

theorem MgSeatBindings.capped_eq_ok (h : capped c d = .ok d') : d' = d := by
  obtain ⟨s, -, h⟩ := bind_eq_ok.mp h
  split at h
  · cases h
  · cases h
    rfl

theorem MgSeatBindings.new_perm (h : new c bs = .ok d) : d.seatBindings.Perm bs := by
  unfold new at h
  split at h
  · cases h
  split at h
  · cases h
  split at h
  · cases h
  rename_i hkeyed
  split at h
  · cases h
  · rw [capped_eq_ok h]
    exact keyedBindings_perm hkeyed

theorem MgSeatBindings.eq_of_perm (h : d.seatBindings.Perm d'.seatBindings) : d = d' := by
  have heq : d.seatBindings = d'.seatBindings := by
    refine h.eq_of_pairwise (fun a b _ _ hab hba => ?_) d.ascending d'.ascending
    obtain ⟨m, n, hm, hn, hlt⟩ := hab
    obtain ⟨n', m', hn', hm', hlt'⟩ := hba
    rw [hm] at hm'
    rw [hn] at hn'
    cases hm'
    cases hn'
    exact absurd hlt (Nat.lt_asymm hlt')
  cases d
  cases d'
  cases heq
  rfl

theorem verifyBinding_eq_ok {federation seen b v} (h : verifyBinding c federation seen b = .ok v) :
    v.guardianFeeAccount = b.attestation.guardianFeeAccount := by
  unfold verifyBinding at h
  dsimp only at h
  repeat' split at h
  all_goals cases h
  rfl

theorem verifyBindings_accounts {federation seen vs} (h : verifyBindings c federation seen bs = .ok vs) :
    guardianFeeBindings vs = bs.map (·.attestation.guardianFeeAccount) := by
  induction bs generalizing seen vs with
  | nil =>
    cases h
    rfl
  | cons b bs ih =>
    obtain ⟨v, hv, h⟩ := bind_eq_ok.mp h
    obtain ⟨vs', hvs, h⟩ := bind_eq_ok.mp h
    cases h
    have hrest := ih hvs
    simp only [guardianFeeBindings, List.map_cons] at hrest ⊢
    rw [verifyBinding_eq_ok hv, hrest]

theorem verifyForFederation_accounts {federation vs} (h : d.verifyForFederation c federation = .ok vs) :
    guardianFeeBindings vs = d.seatBindings.map (·.attestation.guardianFeeAccount) := by
  obtain ⟨verified, hverified, h⟩ := bind_eq_ok.mp h
  split at h
  · cases h
  · cases h
    exact verifyBindings_accounts hverified

end directory

section targets

variable {own own' : Own} {a a' : Answers} {k k' : Option Consensus} {b : MetaConsensusBase} {t t' : Target}

theorem readConsensus_eq_ok {x} (h : readConsensus a k = .ok x) : x = k := by
  obtain ⟨-, -, h⟩ := bind_eq_ok.mp h
  cases k with
  | none =>
    cases h
    rfl
  | some v =>
    simp only [Except.map] at h
    split at h
    · cases h
    · cases h
      rfl

theorem ensureBase_eq_ok {u} (h : ensureBase c b k = .ok u) : MetaConsensusBase.fromConsensus c k = b := by
  unfold ensureBase at h
  split at h
  · assumption
  · cases h

theorem proposeFormationMeta_eq_ok {bs fa fee ppm} (h : proposeFormationMeta c own a k b bs fa fee ppm = .ok t) :
    b = .fromConsensus c k ∧ ∃ fields d directory recipients, consensusFields c k = .ok fields ∧
      MgSeatBindings.new c (bs.map (·.attestation)) = .ok d ∧ d.canonicalString c = .ok directory ∧
      canonicalFormationProposal c ppm (d.seatBindings.map (·.attestation.guardianFeeAccount)) fa fee = .ok recipients ∧
      encodeObject c (formationFields fields directory recipients ppm) = .ok t.encoded := by
  obtain ⟨-, -, h⟩ := bind_eq_ok.mp h
  obtain ⟨-, -, h⟩ := bind_eq_ok.mp h
  obtain ⟨config, -, h⟩ := bind_eq_ok.mp h
  obtain ⟨x, hx, h⟩ := bind_eq_ok.mp h
  cases readConsensus_eq_ok hx
  obtain ⟨fields, hfields, h⟩ := bind_eq_ok.mp h
  split at h
  · cases h
  obtain ⟨_, hbase, h⟩ := bind_eq_ok.mp h
  obtain ⟨federation, -, h⟩ := bind_eq_ok.mp h
  obtain ⟨d, hd, h⟩ := bind_eq_ok.mp h
  obtain ⟨directory, hdirectory, h⟩ := bind_eq_ok.mp h
  obtain ⟨verified, hverified, h⟩ := bind_eq_ok.mp h
  obtain ⟨ownPeer, -, h⟩ := bind_eq_ok.mp h
  obtain ⟨-, -, h⟩ := bind_eq_ok.mp h
  obtain ⟨-, -, h⟩ := bind_eq_ok.mp h
  obtain ⟨recipients, hrecipients, h⟩ := bind_eq_ok.mp h
  obtain ⟨encoded, hencoded, h⟩ := bind_eq_ok.mp h
  cases h
  rw [invalidValue_eq_ok] at hd hdirectory hverified hrecipients
  rw [verifyForFederation_accounts hverified] at hrecipients
  exact ⟨(ensureBase_eq_ok hbase).symm, fields, d, directory, recipients, hfields, hd, hdirectory, hrecipients,
    hencoded⟩

theorem submitMetaPatch_eq_ok {updates} (h : submitMetaPatch c a k b updates = .ok t) :
    b = .fromConsensus c k ∧ ∃ fields, consensusFields c k = .ok fields ∧
      encodeObject c (updates.foldl (fun fs u => Fields.insert u.1 u.2 fs) fields) = .ok t.encoded := by
  obtain ⟨config, -, h⟩ := bind_eq_ok.mp h
  obtain ⟨x, hx, h⟩ := bind_eq_ok.mp h
  cases readConsensus_eq_ok hx
  obtain ⟨_, hbase, h⟩ := bind_eq_ok.mp h
  obtain ⟨fields, hfields, h⟩ := bind_eq_ok.mp h
  obtain ⟨encoded, hencoded, h⟩ := bind_eq_ok.mp h
  cases h
  exact ⟨(ensureBase_eq_ok hbase).symm, fields, hfields, hencoded⟩

theorem submitMetaField_eq_ok {key value} (h : submitMetaField c own a k b key value = .ok t) :
    submitMetaPatch c a k b [(key, .string value)] = .ok t := by
  obtain ⟨-, -, h⟩ := bind_eq_ok.mp h
  obtain ⟨-, -, h⟩ := bind_eq_ok.mp h
  exact h

theorem consensusFields_of_present {fields} (h : presentFields c k = .ok fields) :
    consensusFields c k = .ok fields := by
  cases k with
  | none => cases h
  | some k =>
    cases hparse : c.parseObject k.value with
    | none => simp [presentFields, hparse] at h
    | some fs => simpa [presentFields, consensusFields, hparse] using h

theorem replaceSeatBinding_eq_ok {binding} (h : replaceSeatBinding c own a k b binding = .ok t) :
    b = .fromConsensus c k ∧ ∃ fields directory recipients rebound, consensusFields c k = .ok fields ∧
      stringField fields mgSeatBindingsMetaFieldKey = .ok directory ∧
      stringField fields remittanceAccountMetaKey = .ok recipients ∧
      rebindTransferredSeat c directory recipients binding.attestation = .ok rebound ∧
      encodeObject c (Fields.insert remittanceAccountMetaKey (.string rebound.recipients)
        (Fields.insert mgSeatBindingsMetaFieldKey (.string rebound.seatBindings) fields)) = .ok t.encoded := by
  obtain ⟨config, -, h⟩ := bind_eq_ok.mp h
  obtain ⟨x, hx, h⟩ := bind_eq_ok.mp h
  cases readConsensus_eq_ok hx
  obtain ⟨_, hbase, h⟩ := bind_eq_ok.mp h
  obtain ⟨fields, hfields, h⟩ := bind_eq_ok.mp h
  obtain ⟨directory, hdirectory, h⟩ := bind_eq_ok.mp h
  obtain ⟨recipients, hrecipients, h⟩ := bind_eq_ok.mp h
  obtain ⟨federation, -, h⟩ := bind_eq_ok.mp h
  obtain ⟨previous, -, h⟩ := bind_eq_ok.mp h
  obtain ⟨rebound, hrebound, h⟩ := bind_eq_ok.mp h
  obtain ⟨verified, -, h⟩ := bind_eq_ok.mp h
  obtain ⟨-, -, h⟩ := bind_eq_ok.mp h
  obtain ⟨ownPeer, -, h⟩ := bind_eq_ok.mp h
  obtain ⟨-, -, h⟩ := bind_eq_ok.mp h
  obtain ⟨encoded, hencoded, h⟩ := bind_eq_ok.mp h
  obtain ⟨resets, -, h⟩ := bind_eq_ok.mp h
  cases h
  exact ⟨(ensureBase_eq_ok hbase).symm, fields, directory, recipients, rebound, consensusFields_of_present hfields,
    hdirectory, hrecipients, invalidValue_eq_ok.mp hrebound, hencoded⟩

theorem target_base {r} (h : target c own a k r = .ok t) : r.expectedBase = .fromConsensus c k := by
  cases r with
  | proposeFormationMeta b bs fa fee ppm => exact (proposeFormationMeta_eq_ok h).1
  | submitMetaField b key value => exact (submitMetaPatch_eq_ok (submitMetaField_eq_ok h)).1
  | submitMetaPatch b updates => exact (submitMetaPatch_eq_ok h).1
  | replaceSeatBinding b binding => exact (replaceSeatBinding_eq_ok h).1

inductive SameContents : Request → Request → Prop where
  | refl (r : Request) : SameContents r r
  | formation {b : MetaConsensusBase} {bs bs' : List FormationSeatBinding} {fa fee : Account} {ppm : Nat}
      (h : bs.Perm bs') :
      SameContents (.proposeFormationMeta b bs fa fee ppm) (.proposeFormationMeta b bs' fa fee ppm)

theorem formation_target_eq {bs bs' fa fee ppm} (hbs : bs.Perm bs')
    (hk : consensusFields c k = consensusFields c k')
    (h : proposeFormationMeta c own a k b bs fa fee ppm = .ok t)
    (h' : proposeFormationMeta c own' a' k' b bs' fa fee ppm = .ok t') : t.encoded = t'.encoded := by
  obtain ⟨-, fields, d, directory, recipients, hfields, hd, hdirectory, hrecipients, hencoded⟩ :=
    proposeFormationMeta_eq_ok h
  obtain ⟨-, fields', d', directory', recipients', hfields', hd', hdirectory', hrecipients', hencoded'⟩ :=
    proposeFormationMeta_eq_ok h'
  have hsame : d = d' := MgSeatBindings.eq_of_perm
    ((MgSeatBindings.new_perm hd).trans ((hbs.map _).trans (MgSeatBindings.new_perm hd').symm))
  subst hsame
  cases hfields.symm.trans (hk.trans hfields')
  cases hdirectory.symm.trans hdirectory'
  cases hrecipients.symm.trans hrecipients'
  exact Except.ok.inj (hencoded.symm.trans hencoded')

theorem patch_target_eq {updates} (hk : consensusFields c k = consensusFields c k')
    (h : submitMetaPatch c a k b updates = .ok t) (h' : submitMetaPatch c a' k' b updates = .ok t') :
    t.encoded = t'.encoded := by
  obtain ⟨-, fields, hfields, hencoded⟩ := submitMetaPatch_eq_ok h
  obtain ⟨-, fields', hfields', hencoded'⟩ := submitMetaPatch_eq_ok h'
  cases hfields.symm.trans (hk.trans hfields')
  exact Except.ok.inj (hencoded.symm.trans hencoded')

theorem rebinding_target_eq {binding} (hk : consensusFields c k = consensusFields c k')
    (h : replaceSeatBinding c own a k b binding = .ok t)
    (h' : replaceSeatBinding c own' a' k' b binding = .ok t') : t.encoded = t'.encoded := by
  obtain ⟨-, fields, directory, recipients, rebound, hfields, hdirectory, hrecipients, hrebound, hencoded⟩ :=
    replaceSeatBinding_eq_ok h
  obtain ⟨-, fields', directory', recipients', rebound', hfields', hdirectory', hrecipients', hrebound', hencoded'⟩ :=
    replaceSeatBinding_eq_ok h'
  cases hfields.symm.trans (hk.trans hfields')
  cases hdirectory.symm.trans hdirectory'
  cases hrecipients.symm.trans hrecipients'
  cases hrebound.symm.trans hrebound'
  exact Except.ok.inj (hencoded.symm.trans hencoded')

end targets

/-! ## Votes -/

structure VotesOk (c : Codec) (es : List Event) (w : World) : Prop where
  known : ∀ b v, .submitted b v ∈ es → b = .fromConsensus c w.current ∨ b ∈ w.superseded
  live : MetaConsensusBase.fromConsensus c w.current ∉ w.superseded
  pinned : ∀ v, .submitted (.fromConsensus c w.current) v ∈ es →
    w.metaAdmission = some (.fromConsensus c w.current, c.sha256 v)
  agree : ∀ b v v', .submitted b v ∈ es → .submitted b v' ∈ es → c.sha256 v = c.sha256 v'

section votes

variable {es : List Event} {w : World}

theorem VotesOk.quiet (hok : VotesOk c es w) (out : List Event) (hout : ∀ b v, .submitted b v ∉ out) :
    VotesOk c (es ++ out) w := by
  have hmem : ∀ b v, .submitted b v ∈ es ++ out → .submitted b v ∈ es := fun b v h =>
    (List.mem_append.mp h).resolve_right (hout b v)
  exact ⟨fun b v h => hok.known b v (hmem b v h), hok.live, fun v h => hok.pinned v (hmem _ v h),
    fun b v v' h h' => hok.agree b v v' (hmem b v h) (hmem b v' h')⟩

theorem VotesOk.vote {v pin} (hok : VotesOk c es w)
    (hfor : pinFor w.metaAdmission (.fromConsensus c w.current) (c.sha256 v) = some pin) :
    VotesOk c (es ++ [.submitted (.fromConsensus c w.current) v]) { w with metaAdmission := some pin } := by
  have hpin : pin = (.fromConsensus c w.current, c.sha256 v) := by
    unfold pinFor at hfor
    split at hfor
    · split at hfor
      · rename_i hbase
        split at hfor
        · rename_i hdigest
          cases hfor
          rw [hbase, hdigest]
        · cases hfor
      · cases hfor
        rfl
    · cases hfor
      rfl
  -- an earlier vote on this base was pinned, so its digest was admitted again
  have hold : ∀ v', .submitted (.fromConsensus c w.current) v' ∈ es → c.sha256 v' = c.sha256 v := by
    intro v' hv'
    have hpinned := hok.pinned v' hv'
    simp only [hpinned, pinFor, if_true] at hfor
    split at hfor
    · rename_i heq
      exact heq
    · cases hfor
  have hcases : ∀ b v', .submitted b v' ∈ es ++ [.submitted (.fromConsensus c w.current) v] →
      .submitted b v' ∈ es ∨ b = .fromConsensus c w.current ∧ v' = v := by
    intro b v' h
    simpa using h
  refine ⟨fun b v' h => ?_, hok.live, fun v' h => ?_, fun b v₁ v₂ h₁ h₂ => ?_⟩
  · rcases hcases b v' h with hv' | ⟨rfl, -⟩
    · exact hok.known b v' hv'
    · exact .inl rfl
  · rw [hpin]
    rcases hcases _ v' h with hv' | ⟨-, rfl⟩
    · rw [hold v' hv']
    · rfl
  rcases hcases b v₁ h₁ with hv₁ | ⟨rfl, rfl⟩
  · rcases hcases b v₂ h₂ with hv₂ | ⟨rfl, rfl⟩
    · exact hok.agree b v₁ v₂ hv₁ hv₂
    · exact hold v₁ hv₁
  · rcases hcases _ v₂ h₂ with hv₂ | ⟨-, rfl⟩
    · exact (hold v₂ hv₂).symm
    · rfl

theorem Event.ofResult_ne {b v} (x : Except VerbError Unit) : .submitted b v ≠ Event.ofResult x := by
  cases x <;> simp [Event.ofResult]

theorem VotesOk.submit {v} (hok : VotesOk c es w) (x : Except VerbError Unit) :
    VotesOk c (es ++ (submitAdmittedMetaTarget c w (.fromConsensus c w.current) v x).2)
      (submitAdmittedMetaTarget c w (.fromConsensus c w.current) v x).1 := by
  unfold submitAdmittedMetaTarget
  split
  · exact hok.quiet _ (by simp)
  rename_i pin hfor
  have hquiet := (hok.vote hfor).quiet [.ofResult x] fun b v h =>
    Event.ofResult_ne x (List.mem_singleton.mp h)
  simpa using hquiet

theorem VotesOk.handle (hok : VotesOk c es w) (own : Own) (r : Request) (a : Answers) :
    VotesOk c (es ++ (handle c own w r a).2) (handle c own w r a).1 := by
  unfold Metadata.handle
  split
  · exact hok.quiet _ (by simp)
  rename_i t ht
  rw [target_base ht]
  split
  · exact hok.submit a.submit
  · exact hok.quiet _ (by simp)
  · rename_i peer _ _
    have hreset := (hok.quiet [.resetPeerAvailability peer] (by simp)).submit (v := t.encoded) a.submit
    simpa using hreset

theorem VotesOk.promote {next} (hok : VotesOk c es w)
    (hnew : MetaConsensusBase.fromConsensus c next ∉ .fromConsensus c w.current :: w.superseded) :
    VotesOk c es { w with current := next, superseded := .fromConsensus c w.current :: w.superseded } := by
  refine ⟨fun b v h => .inr (List.mem_cons.mpr (hok.known b v h)), hnew, fun v h => ?_, hok.agree⟩
  exact absurd (List.mem_cons.mpr (hok.known _ v h)) hnew

theorem votesOk_of_reaches (h : (seatLoop c).Reaches es w) : VotesOk c es w := by
  refine Machine.Reaches.induct (I := VotesOk c) ?_ ?_ h
  · rintro w ⟨-, hsuperseded⟩
    exact ⟨by simp, by simp [hsuperseded], by simp, by simp⟩
  intro es w x w' out _ hok hs
  cases x with
  | request own r a =>
    have hhandle : handle c own w r a = (w', out) := Option.some.inj hs
    have hnext := hok.handle own r a
    rwa [hhandle] at hnext
  | promote next =>
    simp only [seatLoop, step] at hs
    split at hs
    · cases hs
    · rename_i hnew
      cases hs
      simpa using hok.promote hnew

end votes

/-- All votes of a seat on one base are for the same bytes, which depend on the base object and the request alone. -/
theorem metadata_votes_agree (c : Codec) (hsha : Function.Injective c.sha256) :
    (∀ es w, (seatLoop c).Reaches es w → ∀ b v v', .submitted b v ∈ es → .submitted b v' ∈ es → v = v') ∧
      ∀ own own' a a' k k' r r' t t', consensusFields c k = consensusFields c k' → SameContents r r' →
        target c own a k r = .ok t → target c own' a' k' r' = .ok t' → t.encoded = t'.encoded := by
  refine ⟨fun es w h b v v' hv hv' => hsha ((votesOk_of_reaches h).agree b v v' hv hv'), ?_⟩
  intro own own' a a' k k' r r' t t' hk hr ht ht'
  cases hr with
  | formation hbs => exact formation_target_eq hbs hk ht ht'
  | refl =>
    cases r with
    | proposeFormationMeta b bs fa fee ppm => exact formation_target_eq (.refl bs) hk ht ht'
    | submitMetaField b key value => exact patch_target_eq hk (submitMetaField_eq_ok ht) (submitMetaField_eq_ok ht')
    | submitMetaPatch b updates => exact patch_target_eq hk ht ht'
    | replaceSeatBinding b binding => exact rebinding_target_eq hk ht ht'

def plainVotes : Codec where
  sha256 bytes := bytes
  parseObject _ := some []
  canonicalObject fields := some (fields.map (fun f => UInt8.ofNat f.1.length))
  directoryString _ := some "directory"
  parseDirectory _ := none
  accountBytes _ := some []
  recipientsString _ := some "recipients"
  parseRecipients _ := none
  accountId account := account.keys.length
  attested _ := true
  federationId _ := "federation"
  federationConfigHash _ := []
  endpointKey url := some url
  endpointProofMessage _ := some []
  endorses _ _ _ := true
  validatorFor _ := some ⟨100, fun _ => true⟩

/-- Two votes on one base, the second of them refused, and the first one again. -/
def votingRun : List Action :=
  let own : Own := ⟨"key", none, 0⟩
  let answers : Answers := ⟨.ok ⟨[(1, "meta")], [], none⟩, .ok (), .ok "0", .ok (), .ok ()⟩
  [.request own (.submitMetaField .absent "name" "one") answers,
   .request own (.submitMetaField .absent "icon_url" "two") answers,
   .request own (.submitMetaField .absent "name" "one") answers]

theorem metadata_votes_agree_example :
    ((seatLoop plainVotes).exec {} votingRun).map (·.2) =
        some [.submitted .absent [4], .answered none, .answered (some .metaTargetConflict), .submitted .absent [4],
          .answered none] ∧
      ∀ r ∈ (seatLoop plainVotes).exec {} votingRun, ∀ b v v', .submitted b v ∈ r.2 → .submitted b v' ∈ r.2 →
        v = v' := by
  refine ⟨by decide +kernel, fun r hr => ?_⟩
  exact (metadata_votes_agree plainVotes fun _ _ h => h).1 r.2 r.1
    (Machine.reaches_of_exec (M := seatLoop plainVotes) ⟨rfl, rfl⟩ hr)

end Manifold.Guardian.Metadata
