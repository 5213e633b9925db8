import Manifold.Liquidity.Lemmas.Revocation

/-! What each stage of the trust pipeline establishes when it does not reject. -/

namespace Manifold.Liquidity

open Pipeline

/-! ## Results of a pipeline -/

/-- From some checks on, the pipeline ends with the value. -/
def Yields {α : Type} (p : Pipeline α) (a : α) : Prop := ∃ c c', p.exec c = (.ok a, c')

variable {α β ε : Type}

theorem exec_bind (p : Pipeline α) (f : α → Pipeline β) (c : PipelineChecks) :
    (p >>= f : Pipeline β).exec c =
      match p.exec c with
      | (.ok a, c') => (f a).exec c'
      | (.error e, c') => (.error e, c') := by
  show (do let r ← p.run; ExceptT.bindCont f r : StateM PipelineChecks (Except Rejection β)) c = _
  simp only [bind, StateT.bind, exec, ExceptT.run]
  rcases p c with ⟨_ | a, c'⟩ <;> rfl

theorem Yields.bind {p : Pipeline α} {f : α → Pipeline β} {b : β} (h : Yields (p >>= f) b) :
    ∃ a, Yields p a ∧ Yields (f a) b := by
  obtain ⟨c, c', h⟩ := h
  rw [exec_bind] at h
  rcases hp : p.exec c with ⟨e | a, c₁⟩
  · rw [hp] at h
    cases h
  · rw [hp] at h
    exact ⟨a, ⟨c, c₁, hp⟩, c₁, c', h⟩

theorem Yields.pure {a b} (h : Yields (Pure.pure a : Pipeline α) b) : a = b := by
  obtain ⟨c, c', h⟩ := h
  cases h
  rfl

theorem Yields.throw {e b} : ¬ Yields (MonadExcept.throw e : Pipeline α) b := by
  rintro ⟨c, c', h⟩
  cases h

theorem Yields.ofExcept {reject : ε → Rejection} {r : Except ε α} {a : α}
    (h : Yields (Pipeline.ofExcept reject r) a) : r = .ok a := by
  cases r with
  | ok b => rw [h.pure]
  | error e => exact absurd h Yields.throw

theorem Yields.require {condition code reason u} (h : Yields (Pipeline.require condition code reason) u) :
    condition = true := by
  unfold Pipeline.require at h
  split at h
  · assumption
  · exact absurd h Yields.throw

/-! ## Badges and authorities -/

section

variable {v : Verifier} {x : VerificationAnswers}

def HoldsBadge (v : Verifier) (verifier : v.sdk.Context) (envelope : HolderAuthorizationEnvelope)
    (identity : Pubkey) (now : Timestamp) : Prop :=
  ∃ badge, verifyHolderTrustEnvelope v.sdk verifier envelope identity now = .ok badge ∧
    v.minimumTrustLevel ≤ badge.trustLevel

theorem verifyHolderTrustEnvelope_ok {sdk c envelope identity now badge} :
    verifyHolderTrustEnvelope sdk c envelope identity now = .ok badge ↔
      sdk.verifyCredentialAuthorizationAtTime c envelope.signedCredential envelope.holderAuthorization now =
        .ok () ∧ envelope.holderAuthorization.subjectPubkey = identity ∧
      sdk.parseTrustScoreBadgeV1 envelope.signedCredential = .ok badge := by
  unfold verifyHolderTrustEnvelope
  constructor
  · intro h
    split at h
    · cases h
    rename_i hv
    split at h
    · cases h
    rename_i hsubject
    split at h
    · cases h
    · rename_i hparse
      cases h
      exact ⟨hv, not_not.1 hsubject, hparse⟩
  · rintro ⟨hv, hsubject, hparse⟩
    simp [hv, hsubject, hparse]

theorem verifyMgPeerBadge_ok {sdk minimum c envelope identity now badge}
    (h : verifyMgPeerBadge sdk minimum c envelope identity now = .ok badge) :
    verifyHolderTrustEnvelope sdk c envelope identity now = .ok badge ∧ minimum ≤ badge.trustLevel := by
  unfold verifyMgPeerBadge at h
  cases hb : verifyHolderTrustEnvelope sdk c envelope identity now with
  | error error =>
    rw [hb] at h
    cases h
  | ok b =>
    by_cases hlevel : b.trustLevel < minimum
    · simp only [hb, bind, Except.bind, requireTrustLevel, if_pos hlevel] at h
      cases h
    · simp only [hb, bind, Except.bind, requireTrustLevel, if_neg hlevel] at h
      cases h
      exact ⟨rfl, Nat.le_of_not_lt hlevel⟩

theorem HoldsBadge.extends {c c'} (hc : Extends v.sdk c c') {envelope identity now}
    (h : HoldsBadge v c' envelope identity now) : HoldsBadge v c envelope identity now := by
  obtain ⟨badge, hb, hlevel⟩ := h
  obtain ⟨hv, hsubject, hparse⟩ := verifyHolderTrustEnvelope_ok.1 hb
  exact ⟨badge, verifyHolderTrustEnvelope_ok.2 ⟨hc.verifies hv, hsubject, hparse⟩, hlevel⟩

def Loaded (v : Verifier) (authorities : List IssuerAuthority) (verifier : v.sdk.Context) : Prop :=
  addAuthorities v v.sdk.new authorities = .ok verifier

theorem Yields.loadAuthorities {authorities : List IssuerAuthority} {c : v.sdk.Context}
    (h : Yields (Liquidity.loadAuthorities v authorities) c) : Loaded v authorities c := h.ofExcept

/-! ## The gate, the preview and the directory -/

/-- The attestation names the federation of the invite, and its signer holds a badge of an installed issuer, not
revoked in a fresh lookup. -/
def Endorsed (v : Verifier) (x : VerificationAnswers) (request : VerificationRequest)
    (federationId : FederationId) : Prop :=
  ∃ endorsement statement authorities verifier,
    request.mgEndorsement = some endorsement ∧ endorsement.attestation.verify v.codec = .ok statement ∧
    v.codec.inviteFederation request.inviteCode = .ok federationId ∧ statement.federationId = federationId ∧
    x.gateAuthorities = .ok authorities ∧ Loaded v authorities verifier ∧
    (∃ a ∈ authorities, a.issuerIdPubkey = endorsement.trust.signedCredential.issuerIdPubkey) ∧
    HoldsBadge v verifier endorsement.trust statement.mgPubkey x.gateNow ∧
    FreshlyUnrevoked v.sdk x.gateFetch authorities verifier endorsement.trust.signedCredential.issuerIdPubkey
      endorsement.trust.holderAuthorization.credentialDigest

theorem Yields.verifyEndorsementStatement {request endorsement r}
    (h : Yields (Liquidity.verifyEndorsementStatement v request endorsement) r) :
    endorsement.attestation.verify v.codec = .ok r.1 ∧
      v.codec.inviteFederation request.inviteCode = .ok r.2 ∧ r.1.federationId = r.2 := by
  obtain ⟨statement, hstatement, h⟩ := h.bind
  obtain ⟨federationId, hinvite, h⟩ := h.bind
  obtain ⟨_, hsame, h⟩ := h.bind
  obtain rfl := h.pure
  exact ⟨hstatement.ofExcept, hinvite.ofExcept, of_decide_eq_true hsame.require⟩

theorem Yields.runAdmissionGate (laws : v.sdk.Lawful) {request f}
    (h : Yields (Liquidity.runAdmissionGate v x request) f) : Endorsed v x request f := by
  unfold Liquidity.runAdmissionGate at h
  split at h
  · exact absurd h Yields.throw
  rename_i endorsement hendorsement
  obtain ⟨⟨statement, federationId⟩, hstatement, h⟩ := h.bind
  obtain ⟨authorities, hauthorities, h⟩ := h.bind
  obtain ⟨_, hinstalled, h⟩ := h.bind
  obtain ⟨verifier, hverifier, h⟩ := h.bind
  obtain ⟨first, hfirst, h⟩ := h.bind
  obtain ⟨_, _, h⟩ := h.bind
  obtain ⟨_, _, h⟩ := h.bind
  obtain ⟨_, havailable, h⟩ := h.bind
  obtain ⟨badge, hbadge, h⟩ := h.bind
  obtain ⟨_, _, h⟩ := h.bind
  obtain rfl := h.pure
  obtain ⟨hsigned, hinvite, hsame⟩ := hstatement.verifyEndorsementStatement
  obtain ⟨henvelope, hlevel⟩ := verifyMgPeerBadge_ok hfirst.ofExcept
  -- the second pass ran in the context that the lookup left
  obtain ⟨hv, _, _⟩ := verifyHolderTrustEnvelope_ok.1 (verifyMgPeerBadge_ok hbadge.ofExcept).1
  have hunavailable := havailable.require
  refine ⟨endorsement, statement, authorities, verifier, hendorsement, hsigned, hinvite, hsame,
    hauthorities.ofExcept, hverifier.loadAuthorities, ?_, ⟨first, henvelope, hlevel⟩, ?_⟩
  · simpa using hinstalled.require
  · exact stage_unrevoked laws (by simpa using hunavailable) (by simp) hv

structure Previewed (x : VerificationAnswers) (request : VerificationRequest) (admitted : FederationId)
    (preview : FederationPreview) : Prop where
  answered : x.preview = .ok preview
  admitted : preview.federationId = admitted
  federationId : request.federationId = preview.federationId
  federationConfigHash : request.federationConfigHash = preview.federationConfigHash
  network : request.network = preview.network

theorem Yields.previewFederation {request admitted preview}
    (h : Yields (Liquidity.previewFederation x request admitted) preview) :
    Previewed x request admitted preview := by
  obtain ⟨p, hp, h⟩ := h.bind
  obtain ⟨_, hdetails, h⟩ := h.bind
  obtain ⟨_, _, h⟩ := h.bind
  obtain ⟨_, _, h⟩ := h.bind
  obtain rfl := h.pure
  have hall := hdetails.require
  simp only [Bool.and_eq_true, decide_eq_true_eq] at hall
  obtain ⟨⟨⟨hadmitted, hid⟩, hhash⟩, hnetwork⟩ := hall
  exact ⟨hp.ofExcept, hadmitted, hid, hhash, hnetwork⟩

structure SeatVerified (codec : Codec) (federation : FederationSeats) (b : VerifiedSeatBinding) : Prop where
  signed : ∃ statement, b.attestation.verify codec = .ok statement ∧ statement.mgPubkey = b.mgPubkey ∧
    statement.peerId = b.peerId ∧ statement.federationId = federation.federationId ∧
    statement.federationConfigHash = federation.federationConfigHash
  seat : ⟨b.peerId, b.guardianIdentity⟩ ∈ federation.seats

structure DirectoryVerifies (codec : Codec) (federation : FederationSeats)
    (verified : List VerifiedSeatBinding) : Prop where
  each : ∀ b ∈ verified, SeatVerified codec federation b
  covers : ∀ seat ∈ federation.seats, ∃ b ∈ verified, b.peerId = seat.peerId

theorem verifySeat_ok {codec federation accounts} {binding : MgPeerAttestation} {b}
    (h : binding.verifySeat codec federation accounts = .ok b) : SeatVerified codec federation b := by
  unfold MgPeerAttestation.verifySeat at h
  split at h
  · cases h
  rename_i statement hsigned
  split at h
  · cases h
  rename_i hid
  split at h
  · cases h
  rename_i hhash
  split at h
  · cases h
  rename_i seat hseat
  have hmem := List.mem_of_find?_eq_some hseat
  have hpeer := List.find?_some hseat
  rw [decide_eq_true_eq] at hpeer
  split at h
  · cases h
  rename_i hguardian
  split at h
  · cases h
  split at h
  · cases h
  cases h
  refine ⟨⟨statement, hsigned, rfl, rfl, not_not.1 hid, not_not.1 hhash⟩, ?_⟩
  rw [← hpeer, not_not.1 hguardian]
  exact hmem

theorem verifySeats_ok {codec federation bindings accounts verified}
    (h : verifySeats codec federation accounts bindings = .ok verified) :
    ∀ b ∈ verified, SeatVerified codec federation b := by
  induction bindings generalizing accounts verified with
  | nil =>
    cases h
    simp
  | cons binding rest ih =>
    unfold verifySeats at h
    cases hb : binding.verifySeat codec federation accounts with
    | error error =>
      rw [hb] at h
      cases h
    | ok b =>
      simp only [hb, bind, Except.bind] at h
      cases hrest : verifySeats codec federation (b.guardianFeeAccount.id :: accounts) rest with
      | error error =>
        rw [hrest] at h
        cases h
      | ok others =>
        rw [hrest] at h
        cases h
        intro b' hb'
        rcases List.mem_cons.1 hb' with rfl | hmem
        · exact verifySeat_ok hb
        · exact ih hrest b' hmem

theorem verifyForFederation_ok {codec} {bindings : MgSeatBindings} {federation verified}
    (h : bindings.verifyForFederation codec federation = .ok verified) :
    DirectoryVerifies codec federation verified := by
  unfold MgSeatBindings.verifyForFederation at h
  cases hseats : verifySeats codec federation [] bindings.seatBindings with
  | error error =>
    rw [hseats] at h
    cases h
  | ok vs =>
    simp only [hseats, bind, Except.bind] at h
    split at h
    · cases h
    rename_i hnone
    cases h
    refine ⟨verifySeats_ok hseats, fun seat hseat => ?_⟩
    have hbound := List.find?_eq_none.1 hnone seat hseat
    simpa using hbound

structure DirectoryRead (v : Verifier) (preview : FederationPreview) (verified : List VerifiedSeatBinding) : Prop where
  read : ∃ value bindings, preview.mgSeatBindingsMetadata = some value ∧
    MgSeatBindings.parseCanonical v.codec value = .ok bindings ∧
    bindings.verifyForFederation v.codec preview.federationSeats = .ok verified
  verifies : DirectoryVerifies v.codec preview.federationSeats verified

theorem Yields.readSeatBindings {preview verified}
    (h : Yields (Liquidity.readSeatBindings v preview) verified) : DirectoryRead v preview verified := by
  unfold Liquidity.readSeatBindings at h
  split at h
  · exact absurd h Yields.throw
  rename_i value hvalue
  obtain ⟨bindings, hparse, h⟩ := h.bind
  obtain ⟨vs, hverify, h⟩ := h.bind
  obtain ⟨_, _, h⟩ := h.bind
  obtain rfl := h.pure
  exact ⟨⟨value, bindings, hvalue, hparse.ofExcept, hverify.ofExcept⟩, verifyForFederation_ok hverify.ofExcept⟩

/-! ## Trust material and badges -/

def CarriedFor (v : Verifier) (x : VerificationAnswers) (material : List GetMgTrustMaterialResponse)
    (identity : Pubkey) (envelope : HolderAuthorizationEnvelope) : Prop :=
  ∃ response ∈ material, ∃ verified,
    response.verifyForMgAge v.codec identity x.now mgTrustMaterialMaxAgeSecs = .ok verified ∧
    envelope ∈ verified.holderAuthorizations

theorem Yields.resolveIdentities {material operators resolved}
    (h : Yields (Liquidity.resolveIdentities v x material operators) resolved) :
    ∀ r ∈ resolved, ∀ envelope ∈ r.holderAuthorizations, CarriedFor v x material r.mgPubkey envelope := by
  induction operators generalizing resolved with
  | nil =>
    obtain rfl := Yields.pure h
    simp
  | cons mg rest ih =>
    unfold Liquidity.resolveIdentities at h
    split at h
    · obtain ⟨_, _, h⟩ := h.bind
      exact ih h
    rename_i response hresponse
    obtain ⟨verified, hverified, h⟩ := h.bind
    obtain ⟨_, _, h⟩ := h.bind
    obtain ⟨others, hothers, h⟩ := h.bind
    obtain rfl := h.pure
    intro r hr envelope he
    rcases List.mem_cons.1 hr with rfl | hmem
    · exact ⟨response, List.mem_of_find?_eq_some hresponse, verified, hverified.ofExcept, he⟩
    · exact ih hothers r hmem envelope he

theorem Yields.resolveTrustMaterial {request operators resolved}
    (h : Yields (Liquidity.resolveTrustMaterial v x request operators) resolved) :
    ∃ material, request.mgTrustMaterial = some material ∧
      ∀ c ∈ candidatesOf resolved, CarriedFor v x material c.mgPubkey c.envelope := by
  unfold Liquidity.resolveTrustMaterial at h
  split at h
  · exact absurd h Yields.throw
  rename_i material hmaterial
  split at h
  · exact absurd h Yields.throw
  refine ⟨material, hmaterial, fun c hc => ?_⟩
  simp only [candidatesOf, List.mem_flatMap, List.mem_map] at hc
  obtain ⟨r, hr, envelope, he, rfl⟩ := hc
  exact h.resolveIdentities r hr envelope he

theorem Yields.selectCandidates {accepted installed cs selected}
    (h : Yields (Liquidity.selectCandidates accepted installed cs) selected) :
    ∀ c ∈ selected, c ∈ cs ∧ c.issuer ∈ accepted ∧ c.issuer ∈ installed := by
  induction cs generalizing selected with
  | nil =>
    obtain rfl := Yields.pure h
    simp
  | cons c rest ih =>
    have hskip : ∀ {selected}, Yields (Liquidity.selectCandidates accepted installed rest) selected →
        ∀ c' ∈ selected, c' ∈ c :: rest ∧ c'.issuer ∈ accepted ∧ c'.issuer ∈ installed := by
      intro selected hrest c' hc'
      obtain ⟨hmem, hissuer⟩ := ih hrest c' hc'
      exact ⟨List.mem_cons_of_mem c hmem, hissuer⟩
    unfold Liquidity.selectCandidates at h
    split at h
    · obtain ⟨_, _, h⟩ := h.bind
      exact hskip h
    rename_i haccepted
    split at h
    · obtain ⟨_, _, h⟩ := h.bind
      exact hskip h
    rename_i hinstalled
    obtain ⟨others, hothers, h⟩ := h.bind
    obtain rfl := h.pure
    intro c' hc'
    rcases List.mem_cons.1 hc' with rfl | hmem
    · exact ⟨List.mem_cons_self, by simpa using haccepted, by simpa using hinstalled⟩
    · exact hskip hothers c' hmem

theorem Yields.verifyCandidates {c cs trusted} (h : Yields (Liquidity.verifyCandidates v x c cs) trusted) :
    ∀ t ∈ trusted, ∃ candidate ∈ cs, candidate.mgPubkey = t.2 ∧
      HoldsBadge v c candidate.envelope candidate.mgPubkey x.now := by
  induction cs generalizing trusted with
  | nil =>
    obtain rfl := Yields.pure h
    simp
  | cons candidate rest ih =>
    unfold Liquidity.verifyCandidates at h
    split at h
    · obtain ⟨_, _, h⟩ := h.bind
      exact absurd h Yields.throw
    rename_i badge hbadge
    obtain ⟨_, _, h⟩ := h.bind
    obtain ⟨others, hothers, h⟩ := h.bind
    obtain rfl := h.pure
    intro t ht
    rcases List.mem_cons.1 ht with rfl | hmem
    · obtain ⟨henvelope, hlevel⟩ := verifyMgPeerBadge_ok hbadge
      exact ⟨candidate, List.mem_cons_self, rfl, badge, henvelope, hlevel⟩
    · obtain ⟨candidate', hmem', hc'⟩ := ih hothers t hmem
      exact ⟨candidate', List.mem_cons_of_mem _ hmem', hc'⟩

/-- An accepted, installed issuer issued a badge of at least the minimum level for the identity, and its first
answering relay revoked none of it. -/
def Vouched (v : Verifier) (x : VerificationAnswers) (policies : List AcceptedAttesterPolicy)
    (material : List GetMgTrustMaterialResponse) (authorities : List IssuerAuthority)
    (verifier : v.sdk.Context) (identity : Pubkey) : Prop :=
  ∃ envelope, CarriedFor v x material identity envelope ∧
    (∃ p ∈ policies, p.attesterPubkey = envelope.signedCredential.issuerIdPubkey) ∧
    (∃ a ∈ authorities, a.issuerIdPubkey = envelope.signedCredential.issuerIdPubkey) ∧
    HoldsBadge v verifier envelope identity x.now ∧
    FreshlyUnrevoked v.sdk x.fetch authorities verifier envelope.signedCredential.issuerIdPubkey
      envelope.holderAuthorization.credentialDigest

theorem Yields.evaluatePolicies {policies preview operators trusted policy}
    (h : Yields (Liquidity.evaluatePolicies policies preview operators trusted) policy) :
    policy ∈ policies ∧ policy.verificationRequirement.satisfied
      (operators.filter (trusted.map (·.2)).contains).length operators.length
      preview.consensusThreshold = true := by
  unfold Liquidity.evaluatePolicies at h
  simp only at h
  split at h
  · rename_i p hfind
    obtain rfl := Yields.pure h
    have hsatisfied := List.find?_some hfind
    exact ⟨List.mem_of_find?_eq_some hfind, hsatisfied⟩
  · exact absurd h Yields.throw

theorem Yields.evaluateTrust (laws : v.sdk.Lawful) {policies preview operators material advertisements policy}
    (hcarried : ∀ c ∈ candidatesOf advertisements, CarriedFor v x material c.mgPubkey c.envelope)
    (h : Yields (Liquidity.evaluateTrust v x policies preview operators advertisements) policy) :
    policy ∈ policies ∧ ∃ authorities verifier pooled, x.authorities = .ok authorities ∧
      Loaded v authorities verifier ∧
      (∀ identity ∈ pooled, Vouched v x policies material authorities verifier identity) ∧
      policy.verificationRequirement.satisfied (operators.filter (List.contains pooled)).length operators.length
        preview.consensusThreshold = true := by
  obtain ⟨authorities, hauthorities, h⟩ := h.bind
  obtain ⟨candidates, hselect, h⟩ := h.bind
  obtain ⟨verifier, hverifier, h⟩ := h.bind
  obtain ⟨_, _, h⟩ := h.bind
  obtain ⟨_, havailable, h⟩ := h.bind
  obtain ⟨trusted, htrusted, h⟩ := h.bind
  obtain ⟨hpolicy, hsatisfied⟩ := h.evaluatePolicies
  refine ⟨hpolicy, authorities, verifier, trusted.map (·.2), hauthorities.ofExcept,
    hverifier.loadAuthorities, ?_, hsatisfied⟩
  intro identity hidentity
  obtain ⟨t, ht, rfl⟩ := List.mem_map.1 hidentity
  obtain ⟨candidate, hmem, hid, hbadge⟩ := htrusted.verifyCandidates t ht
  obtain ⟨hcandidate, haccepted, hinstalled⟩ := hselect.selectCandidates candidate hmem
  obtain ⟨badge, hb, hlevel⟩ := hbadge
  obtain ⟨hv, _, _⟩ := verifyHolderTrustEnvelope_ok.1 hb
  have hunavailable := havailable.require
  rw [← hid]
  refine ⟨candidate.envelope, hcarried candidate hcandidate, by simpa [Candidate.issuer] using haccepted,
    by simpa [Candidate.issuer] using hinstalled, ?_, ?_⟩
  · exact HoldsBadge.extends (lookupIssuers_extends laws x.fetch authorities _ verifier) ⟨badge, hb, hlevel⟩
  · refine stage_unrevoked laws (by simpa using hunavailable) ?_ hv
    rw [List.mem_eraseDups]
    exact List.mem_map.2 ⟨candidate, hmem, rfl⟩

end

end Manifold.Liquidity
