import Mathlib.Data.Finset.Card
import Manifold.Liquidity.Lemmas.Verification

/-!
# Soundness of the trust pipeline
-/

namespace Manifold.Liquidity

open Pipeline

variable {v : Verifier} {x : VerificationAnswers} {policies : List AcceptedAttesterPolicy}

/-! ## The order of the trust material -/

def directoryEntries (operators : List Pubkey) (material : List GetMgTrustMaterialResponse) :
    List GetMgTrustMaterialResponse :=
  material.filter (fun r => operators.contains r.material.mgPubkey)

theorem repeatedIdentity_eq_none {operators material seen} :
    repeatedIdentity operators seen material = none ↔
      ((directoryEntries operators material).map (·.material.mgPubkey)).Nodup ∧
        ∀ r ∈ directoryEntries operators material, r.material.mgPubkey ∉ seen := by
  induction material generalizing seen with
  | nil => simp [repeatedIdentity, directoryEntries]
  | cons r rest ih =>
    by_cases hop : r.material.mgPubkey ∈ operators
    · have hentries : directoryEntries operators (r :: rest) = r :: directoryEntries operators rest := by
        simp [directoryEntries, hop]
      rw [hentries]
      by_cases hseen : r.material.mgPubkey ∈ seen
      · have hfound : repeatedIdentity operators seen (r :: rest) = some r.material.mgPubkey := by
          simp [repeatedIdentity, hop, hseen]
        simp [hfound, hseen]
      have hnext : repeatedIdentity operators seen (r :: rest) =
          repeatedIdentity operators (r.material.mgPubkey :: seen) rest := by
        simp [repeatedIdentity, hop, hseen]
      simp only [hnext, ih, List.map_cons, List.nodup_cons, List.mem_map, List.mem_cons, not_or,
        not_exists, not_and, forall_eq_or_imp]
      constructor
      · rintro ⟨hnodup, hne⟩
        exact ⟨⟨fun r' hr' => (hne r' hr').1, hnodup⟩, hseen, fun r' hr' => (hne r' hr').2⟩
      · rintro ⟨⟨hne, hnodup⟩, _, hold⟩
        exact ⟨hnodup, fun r' hr' => ⟨hne r' hr', hold r' hr'⟩⟩
    have hentries : directoryEntries operators (r :: rest) = directoryEntries operators rest := by
      simp [directoryEntries, hop]
    have hnext : repeatedIdentity operators seen (r :: rest) = repeatedIdentity operators seen rest := by
      simp [repeatedIdentity, hop]
    rw [hentries, hnext, ih]

/-- The list names `mg` more than once. -/
def Repeated (material : List GetMgTrustMaterialResponse) (mg : Pubkey) : Prop :=
  2 ≤ (material.map (·.material.mgPubkey)).count mg

/-- `mg` is the identity of `operators` that the list repeats first. -/
def FirstRepeated (operators : List Pubkey) (material : List GetMgTrustMaterialResponse) (mg : Pubkey) : Prop :=
  mg ∈ operators ∧ ∃ before r after, material = before ++ r :: after ∧ r.material.mgPubkey = mg ∧
    mg ∈ before.map (·.material.mgPubkey) ∧ ((directoryEntries operators before).map (·.material.mgPubkey)).Nodup

theorem repeatedIdentity_eq_some {operators material seen mg} (h : repeatedIdentity operators seen material = some mg) :
    mg ∈ operators ∧ ∃ before r after, material = before ++ r :: after ∧ r.material.mgPubkey = mg ∧
      (mg ∈ seen ∨ mg ∈ before.map (·.material.mgPubkey)) ∧ repeatedIdentity operators seen before = none := by
  induction material generalizing seen with
  | nil => cases h
  | cons r rest ih =>
    by_cases hop : r.material.mgPubkey ∈ operators
    · by_cases hseen : r.material.mgPubkey ∈ seen
      · simp only [repeatedIdentity, List.contains_iff_mem, hop, hseen, if_true] at h
        cases h
        exact ⟨hop, [], r, rest, rfl, rfl, .inl hseen, rfl⟩
      simp only [repeatedIdentity, List.contains_iff_mem, hop, hseen, if_true, if_false] at h
      obtain ⟨hmg, before, r', after, rfl, hr', hmem, hnone⟩ := ih h
      refine ⟨hmg, r :: before, r', after, rfl, hr', ?_, by simp [repeatedIdentity, hop, hseen, hnone]⟩
      rw [List.mem_cons] at hmem
      rw [List.map_cons, List.mem_cons]
      tauto
    simp only [repeatedIdentity, List.contains_iff_mem, hop, if_false] at h
    obtain ⟨hmg, before, r', after, rfl, hr', hmem, hnone⟩ := ih h
    exact ⟨hmg, r :: before, r', after, rfl, hr', hmem.imp_right (List.mem_cons_of_mem _),
      by simp [repeatedIdentity, hop, hnone]⟩

theorem firstRepeated {operators material mg} (h : repeatedIdentity operators [] material = some mg) :
    FirstRepeated operators material mg := by
  obtain ⟨hop, before, r, after, hlist, hr, hmem, hnone⟩ := repeatedIdentity_eq_some h
  exact ⟨hop, before, r, after, hlist, hr, hmem.resolve_left List.not_mem_nil, (repeatedIdentity_eq_none.1 hnone).1⟩

theorem FirstRepeated.repeated {operators material mg} (h : FirstRepeated operators material mg) :
    Repeated material mg := by
  obtain ⟨-, before, r, after, rfl, rfl, hmem, -⟩ := h
  have hpos := List.count_pos_iff.2 hmem
  simp only [Repeated, List.map_append, List.map_cons, List.count_append, List.count_cons_self]
  omega

theorem repeatedIdentity_perm {operators material material'} (h : material'.Perm material) :
    repeatedIdentity operators [] material' = none ↔ repeatedIdentity operators [] material = none := by
  have hentries : (directoryEntries operators material').Perm (directoryEntries operators material) :=
    h.filter _
  simp only [repeatedIdentity_eq_none, (hentries.map _).nodup_iff, hentries.mem_iff]

theorem directoryEntries_inj {operators material} (h : repeatedIdentity operators [] material = none) {r r'}
    (hr : r ∈ material) (hr' : r' ∈ material) (hop : r.material.mgPubkey ∈ operators)
    (heq : r.material.mgPubkey = r'.material.mgPubkey) : r = r' := by
  refine List.inj_on_of_nodup_map (repeatedIdentity_eq_none.1 h).1 ?_ ?_ heq
  · exact List.mem_filter.2 ⟨hr, by simpa using hop⟩
  · exact List.mem_filter.2 ⟨hr', by simpa [← heq] using hop⟩

theorem responseFor_perm {operators material material'} (hperm : material'.Perm material)
    (hnone : repeatedIdentity operators [] material = none) {mg} (hmg : mg ∈ operators) :
    responseFor material' mg = responseFor material mg := by
  unfold responseFor
  cases h : material.find? (fun r => r.material.mgPubkey = mg) with
  | none =>
    rw [List.find?_eq_none] at h ⊢
    exact fun r hr => h r (hperm.mem_iff.1 hr)
  | some r =>
    cases h' : material'.find? (fun r => r.material.mgPubkey = mg) with
    | none =>
      have hr := hperm.mem_iff.2 (List.mem_of_find?_eq_some h)
      exact absurd (List.find?_some h) (List.find?_eq_none.1 h' r hr)
    | some r' =>
      have hkey := List.find?_some h
      have hkey' := List.find?_some h'
      rw [decide_eq_true_eq] at hkey hkey'
      have hr' := hperm.mem_iff.1 (List.mem_of_find?_eq_some h')
      rw [directoryEntries_inj hnone hr' (List.mem_of_find?_eq_some h) (hkey'.symm ▸ hmg)
        (hkey'.trans hkey.symm)]

theorem resolveIdentities_congr {material material' operators}
    (h : ∀ mg ∈ operators, responseFor material' mg = responseFor material mg) :
    resolveIdentities v x material' operators = resolveIdentities v x material operators := by
  induction operators with
  | nil => rfl
  | cons mg rest ih =>
    unfold resolveIdentities
    rw [h mg List.mem_cons_self, ih (fun mg' hmg' => h mg' (List.mem_cons_of_mem mg hmg'))]

/-- The identities of the seat directory that the federation's preview carries. -/
def Directory (v : Verifier) (x : VerificationAnswers) (operators : List Pubkey) : Prop :=
  ∃ preview verified, x.preview = .ok preview ∧ DirectoryRead v preview verified ∧ operators = operatorsOf verified

section order

variable {request : VerificationRequest} {material material' : List GetMgTrustMaterialResponse}

/-- The runs are the same, or each is refused for the identity that its list repeats first. -/
def SameRun (v : Verifier) (x : VerificationAnswers) (material material' : List GetMgTrustMaterialResponse) {α : Type}
    (r r' : Except Rejection α × PipelineChecks) : Prop :=
  r' = r ∨ ∃ operators mg mg' c, Directory v x operators ∧ FirstRepeated operators material mg ∧
    FirstRepeated operators material' mg' ∧ r = (.error (repeatedEntry mg), c) ∧ r' = (.error (repeatedEntry mg'), c)

theorem SameRun.bind {α β : Type} {p : Pipeline α} {f g : α → Pipeline β}
    (h : ∀ a c, Yields p a → SameRun v x material material' ((f a).exec c) ((g a).exec c)) (c : PipelineChecks) :
    SameRun v x material material' ((p >>= f : Pipeline β).exec c) ((p >>= g : Pipeline β).exec c) := by
  rw [exec_bind, exec_bind]
  rcases hp : p.exec c with ⟨e | a, c'⟩
  · exact .inl rfl
  · exact h a c' ⟨c, c', hp⟩

theorem resolveTrustMaterial_perm {β : Type} (hm : request.mgTrustMaterial = some material)
    (hperm : material'.Perm material) {operators : List Pubkey} (hdir : Directory v x operators)
    (f : List ResolvedTrustMaterial → Pipeline β) (c : PipelineChecks) :
    SameRun v x material material' ((resolveTrustMaterial v x request operators >>= f : Pipeline β).exec c)
      ((resolveTrustMaterial v x { request with mgTrustMaterial := some material' } operators >>= f :
        Pipeline β).exec c) := by
  unfold resolveTrustMaterial
  simp only [hm]
  cases hnone : repeatedIdentity operators [] material with
  | none =>
    rw [(repeatedIdentity_perm hperm).2 hnone, resolveIdentities_congr (fun mg hmg => responseFor_perm hperm hnone hmg)]
    exact .inl rfl
  | some mg =>
    cases hnone' : repeatedIdentity operators [] material' with
    | none =>
      rw [(repeatedIdentity_perm hperm).1 hnone'] at hnone
      cases hnone
    | some mg' => exact .inr ⟨operators, mg, mg', c, hdir, firstRepeated hnone, firstRepeated hnone', rfl, rfl⟩

theorem runPipeline_perm (hm : request.mgTrustMaterial = some material) (hperm : material'.Perm material) :
    SameRun v x material material' ((runPipeline v x policies request).exec {})
      ((runPipeline v x policies { request with mgTrustMaterial := some material' }).exec {}) := by
  refine SameRun.bind (fun admitted c _ => ?_) {}
  refine SameRun.bind (fun preview c hpreview => ?_) c
  refine SameRun.bind (fun verified c hread => ?_) c
  have hdir : Directory v x (operatorsOf verified) :=
    ⟨preview, verified, hpreview.previewFederation.answered, hread.readSeatBindings, rfl⟩
  exact resolveTrustMaterial_perm hm hperm hdir _ c

/-- The outcomes of a list and of a permutation of it are the same, or each is a rejection that names the identity of
the directory that its list repeats first, and these differ. -/
def SameOutcome (v : Verifier) (x : VerificationAnswers) (material material' : List GetMgTrustMaterialResponse)
    (o o' : VerificationOutcome) : Prop :=
  o' = o ∨ ∃ operators mg mg', Directory v x operators ∧ FirstRepeated operators material mg ∧
    FirstRepeated operators material' mg' ∧ mg ≠ mg' ∧
    o.rejection = some (repeatedEntry mg) ∧ o'.rejection = some (repeatedEntry mg') ∧
    o'.summary = { o.summary with failureReason := some (repeatedEntry mg').2 }

theorem verify_perm (hm : request.mgTrustMaterial = some material) (hperm : material'.Perm material) :
    SameOutcome v x material material' (verify v x policies request)
      (verify v x policies { request with mgTrustMaterial := some material' }) := by
  unfold verify
  have hrun : SameRun v x material material' ((runPipeline v x policies request).exec {}) _ := runPipeline_perm hm hperm
  rcases hrun with hsame | ⟨operators, mg, mg', c, hdir, hfirst, hfirst', h, h'⟩
  · rw [hsame]
    exact .inl rfl
  rw [h, h']
  by_cases hmg : mg = mg'
  · exact .inl (hmg ▸ rfl)
  · exact .inr ⟨operators, mg, mg', hdir, hfirst, hfirst', hmg, rfl, rfl, rfl⟩

end order

/-! ## Soundness -/

def identities (verified : List VerifiedSeatBinding) : Finset Pubkey := (verified.map (·.mgPubkey)).toFinset

theorem operatorsOf_nodup (verified : List VerifiedSeatBinding) : (operatorsOf verified).Nodup :=
  (List.perm_insertionSort _ _).nodup_iff.2 (List.nodup_dedup _)

theorem operatorsOf_toFinset (verified : List VerifiedSeatBinding) :
    (operatorsOf verified).toFinset = identities verified := by
  ext identity
  simp [operatorsOf, identities]

def VerificationRequirement.Demands (requirement : VerificationRequirement) (trusted all : Finset Pubkey)
    (threshold : Nat) : Prop :=
  match requirement with
  | .allTrusted => trusted = all
  | .consensusMajorityTrusted => threshold ≤ trusted.card

theorem satisfied_demands {requirement : VerificationRequirement} {verified pooled threshold trusted}
    (h : requirement.satisfied ((operatorsOf verified).filter (List.contains pooled)).length
      (operatorsOf verified).length threshold = true) (hsub : trusted ⊆ identities verified)
    (hpooled : ∀ identity ∈ identities verified, identity ∈ pooled → identity ∈ trusted) :
    requirement.Demands trusted (identities verified) threshold := by
  have hcount : ((operatorsOf verified).filter (List.contains pooled)).length ≤ trusted.card := by
    rw [← List.toFinset_card_of_nodup ((operatorsOf_nodup verified).filter _)]
    refine Finset.card_le_card fun identity hid => ?_
    simp only [List.mem_toFinset, List.mem_filter, List.contains_iff_mem] at hid
    refine hpooled identity ?_ hid.2
    rw [← operatorsOf_toFinset]
    exact List.mem_toFinset.2 hid.1
  have hall : (operatorsOf verified).length = (identities verified).card := by
    rw [← operatorsOf_toFinset, List.toFinset_card_of_nodup (operatorsOf_nodup verified)]
  cases requirement with
  | allTrusted =>
    simp only [VerificationRequirement.satisfied, decide_eq_true_eq] at h
    exact Finset.eq_of_subset_of_card_le hsub (by omega)
  | consensusMajorityTrusted =>
    simp only [VerificationRequirement.satisfied, decide_eq_true_eq] at h
    exact Nat.le_trans h hcount

open scoped Classical in
def Admitted (v : Verifier) (x : VerificationAnswers) (policies : List AcceptedAttesterPolicy)
    (request : VerificationRequest) (policy : AcceptedAttesterPolicy) : Prop :=
  ∃ federationId preview verified material authorities verifier,
    Endorsed v x request federationId ∧ Previewed x request federationId preview ∧
    DirectoryRead v preview verified ∧ request.mgTrustMaterial = some material ∧
    x.authorities = .ok authorities ∧ Loaded v authorities verifier ∧ policy ∈ policies ∧
    policy.verificationRequirement.Demands
      ((identities verified).filter (Vouched v x policies material authorities verifier))
      (identities verified) preview.consensusThreshold

open scoped Classical in
theorem Yields.runPipeline (laws : v.sdk.Lawful) {request policy}
    (h : Yields (Liquidity.runPipeline v x policies request) policy) :
    Admitted v x policies request policy := by
  obtain ⟨federationId, hgate, h⟩ := h.bind
  obtain ⟨preview, hpreview, h⟩ := h.bind
  obtain ⟨verified, hread, h⟩ := h.bind
  obtain ⟨advertisements, hresolve, h⟩ := h.bind
  obtain ⟨material, hmaterial, hcarried⟩ := hresolve.resolveTrustMaterial
  obtain ⟨hpolicy, authorities, verifier, pooled, hauthorities, hloaded, hvouched, hsatisfied⟩ :=
    h.evaluateTrust laws hcarried
  refine ⟨federationId, preview, verified, material, authorities, verifier, hgate.runAdmissionGate laws,
    hpreview.previewFederation, hread.readSeatBindings, hmaterial, hauthorities, hloaded, hpolicy, ?_⟩
  refine satisfied_demands hsatisfied (Finset.filter_subset _ _) fun identity hid hpool => ?_
  exact Finset.mem_filter.2 ⟨hid, hvouched identity hpool⟩

/-! ## Two seats, one issuer -/

def plainSdk : Sdk where
  Context := List IssuerAuthority × List SignedRevocation
  new := ([], [])
  addIssuerAuthority c a := .ok (a :: c.1, c.2)
  addRevocation c r := if r.document = "signed" then .ok (c.1, r :: c.2) else .error "bad proof"
  verifyCredentialAuthorizationAtTime c cred auth _ :=
    if c.2.any (fun r => r.issuerIdPubkey = cred.issuerIdPubkey && r.credentialDigest = auth.credentialDigest) then
      .error "credential revoked"
    else if c.1.any (fun a => a.issuerIdPubkey = cred.issuerIdPubkey) then .ok ()
    else .error "untrusted issuer"
  parseTrustScoreBadgeV1 _ := .ok ⟨3⟩

theorem plainSdk_added {c c' r} (h : plainSdk.addRevocation c r = .ok c') : c' = (c.1, r :: c.2) := by
  simp only [plainSdk] at h
  split at h
  · exact (Except.ok.inj h).symm
  · cases h

theorem plainSdk_lawful : plainSdk.Lawful where
  revokes := by
    intro c c' r cred auth now hadd hv hissuer hdigest
    cases plainSdk_added hadd
    simp [plainSdk, hissuer, hdigest] at hv
  antitone := by
    intro c c' r cred auth now hadd hv
    cases plainSdk_added hadd
    simp only [plainSdk, List.any_cons, Bool.or_eq_true] at hv ⊢
    split at hv
    · cases hv
    · rename_i hnone
      rw [if_neg (fun h => hnone (.inr h))]
      exact hv
  independent := by
    intro c c' r e hadd
    cases plainSdk_added hadd
    simp only [plainSdk]
    split <;> rfl

def seatAttestation (peer mg : String) : MgPeerAttestation :=
  ⟨⟨mg, "federation", "hash", peer, "guardian-" ++ peer, ⟨"account-" ++ peer, .btcDepositor, true⟩, 0⟩, "signed"⟩

def plainCodec : Codec where
  parsePubkey := some
  xonly _ := true
  verifySchnorr signature _ _ := signature = "signed"
  attestationDigest _ := some "digest"
  materialDigest _ := some "digest"
  responseBytes _ := some 100
  apiUrlsBytes _ := some 100
  parsePeerId s := if s = "0" then some 0 else if s = "1" then some 1 else none
  parseSeatBindings _ := some [seatAttestation "0" "alice", seatAttestation "1" "bob"]
  seatBindingsString _ := some "directory"
  inviteFederation _ := .ok "federation"

def twoSeatVerifier : Verifier := ⟨plainSdk, plainCodec, 2⟩

/-- The first relay of the issuer is down, the second knows of no revocation. -/
def secondRelayAnswers : RevocationFetcher := fun n _ => if n = 0 then .error "relay unreachable" else .ok []

def issuerAuthority : IssuerAuthority := ⟨"issuer", [⟨"nostr", "relay-0"⟩, ⟨"nostr", "relay-1"⟩], "document"⟩

def twoSeatAnswers : VerificationAnswers where
  now := 0
  gateNow := 0
  gateNowAgain := 0
  gateAuthorities := .ok [issuerAuthority]
  authorities := .ok [issuerAuthority]
  trySpend _ := true
  gateFetch := secondRelayAnswers
  fetch := secondRelayAnswers
  preview := .ok
    { federationId := "federation"
      federationConfigHash := "hash"
      network := .bitcoin
      peers := [⟨"0", "guardian-0"⟩, ⟨"1", "guardian-1"⟩]
      consensusThreshold := 2
      mgSeatBindingsMetadata := some "directory"
      moduleKinds := [] }

def badgeOf (mg : Pubkey) : HolderAuthorizationEnvelope := ⟨⟨"badge-" ++ mg, mg, "document"⟩, ⟨"issuer", "document"⟩⟩

def materialOf (mg : Pubkey) : GetMgTrustMaterialResponse := ⟨⟨mg, 0, ["iroh://" ++ mg], [badgeOf mg]⟩, "signed"⟩

def twoSeatRequest (material : List GetMgTrustMaterialResponse) : VerificationRequest where
  inviteCode := "invite"
  federationId := "federation"
  federationConfigHash := "hash"
  fleetSeatHints := []
  network := .bitcoin
  stabilityMinAmount := 0
  mgEndorsement := some ⟨seatAttestation "0" "alice", badgeOf "alice"⟩
  mgTrustMaterial := some material

def bothTrusted : List AcceptedAttesterPolicy := [⟨"issuer", .allTrusted⟩]

/-- Two identities repeated: the reason names whichever the list repeats first. -/
theorem repeated_entry_named_by_order :
    [materialOf "bob", materialOf "bob", materialOf "alice", materialOf "alice"].Perm
      [materialOf "alice", materialOf "alice", materialOf "bob", materialOf "bob"] ∧
    (verify twoSeatVerifier twoSeatAnswers bothTrusted (twoSeatRequest
      [materialOf "alice", materialOf "alice", materialOf "bob", materialOf "bob"])).rejection =
        some (repeatedEntry "alice") ∧
    (verify twoSeatVerifier twoSeatAnswers bothTrusted (twoSeatRequest
      [materialOf "bob", materialOf "bob", materialOf "alice", materialOf "alice"])).rejection =
        some (repeatedEntry "bob") ∧
    repeatedEntry "alice" ≠ repeatedEntry "bob" :=
  ⟨by decide +kernel, by decide +kernel, by decide +kernel, by decide +kernel⟩

/-- A request that is not rejected is admitted under one of the policies. A permutation of its trust material changes
at most which identity a rejection names: the one repeated first, and nothing if the list repeats no two identities of
the directory. -/
theorem verification_sound_any_order (laws : v.sdk.Lawful) (request : VerificationRequest) :
    ((verify v x policies request).rejection = none →
      ∃ policy, (verify v x policies request).summary.acceptedAttesterPolicy = some policy ∧
        Admitted v x policies request policy) ∧
    ∀ material material', request.mgTrustMaterial = some material → material'.Perm material →
      (verify v x policies { request with mgTrustMaterial := some material' }).rejection.map (·.1) =
        (verify v x policies request).rejection.map (·.1) ∧
      SameOutcome v x material material' (verify v x policies request)
        (verify v x policies { request with mgTrustMaterial := some material' }) ∧
      ((∀ operators, Directory v x operators → ∀ mg ∈ operators, ∀ mg' ∈ operators,
          Repeated material mg → Repeated material mg' → mg = mg') →
        verify v x policies { request with mgTrustMaterial := some material' } = verify v x policies request) := by
  refine ⟨fun hnone => ?_, fun material material' hm hperm => ?_⟩
  · unfold verify at hnone ⊢
    rcases hrun : (runPipeline v x policies request).exec {} with ⟨⟨code, reason⟩ | policy, c⟩
    · rw [hrun] at hnone
      cases hnone
    · exact ⟨policy, rfl, Yields.runPipeline laws ⟨{}, c, hrun⟩⟩
  have hsame : SameOutcome v x material material' (verify v x policies request) _ := verify_perm hm hperm
  refine ⟨?_, hsame, fun hone => ?_⟩
  · rcases hsame with heq | ⟨operators, mg, mg', -, -, -, -, h, h', -⟩
    · rw [heq]
    · rw [h, h']
      rfl
  rcases hsame with heq | ⟨operators, mg, mg', hdir, hfirst, hfirst', hne, -⟩
  · exact heq
  have hrepeated : Repeated material mg' := by
    rw [Repeated, ← (hperm.map _).count_eq]
    exact hfirst'.repeated
  exact absurd (hone operators hdir mg hfirst.1 mg' hfirst'.1 hfirst.repeated hrepeated) hne

/-- Two seats are admitted in either order, and a single repeated entry is refused alike wherever it stands. -/
theorem two_seats_any_order :
    (∃ policy, Admitted twoSeatVerifier twoSeatAnswers bothTrusted
      (twoSeatRequest [materialOf "alice", materialOf "bob"]) policy) ∧
    (verify twoSeatVerifier twoSeatAnswers bothTrusted
      (twoSeatRequest [materialOf "bob", materialOf "alice"])).rejection.map (·.1) = none ∧
    verify twoSeatVerifier twoSeatAnswers bothTrusted
        (twoSeatRequest [materialOf "alice", materialOf "bob", materialOf "alice"]) =
      verify twoSeatVerifier twoSeatAnswers bothTrusted
        (twoSeatRequest [materialOf "alice", materialOf "alice", materialOf "bob"]) := by
  have hnone : (verify twoSeatVerifier twoSeatAnswers bothTrusted
      (twoSeatRequest [materialOf "alice", materialOf "bob"])).rejection = none := by decide +kernel
  have hall := @verification_sound_any_order twoSeatVerifier twoSeatAnswers bothTrusted plainSdk_lawful
  obtain ⟨hsound, horder⟩ := hall (twoSeatRequest [materialOf "alice", materialOf "bob"])
  obtain ⟨policy, -, hadmitted⟩ := hsound hnone
  obtain ⟨hcode, -⟩ := horder _ [materialOf "bob", materialOf "alice"] rfl (by decide +kernel)
  rw [hnone] at hcode
  obtain ⟨-, -, halike⟩ := (hall (twoSeatRequest [materialOf "alice", materialOf "alice", materialOf "bob"])).2 _
    [materialOf "alice", materialOf "bob", materialOf "alice"] rfl (by decide +kernel)
  refine ⟨⟨policy, hadmitted⟩, hcode, halike fun _ _ mg _ mg' _ h h' => ?_⟩
  have honly : ∀ mg, Repeated [materialOf "alice", materialOf "alice", materialOf "bob"] mg → mg = "alice" := by
    intro mg h
    by_contra hne
    simp only [Repeated, materialOf, List.map_cons, List.map_nil, List.count_cons, List.count_nil, beq_iff_eq,
      if_neg (Ne.symm hne)] at h
    split at h <;> omega
  rw [honly mg h, honly mg' h']

end Manifold.Liquidity
