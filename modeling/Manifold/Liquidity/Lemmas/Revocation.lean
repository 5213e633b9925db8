import Manifold.Liquidity.Verification

/-! What the revocation stage leaves behind: a context that verifies no credential a relay revoked. -/

namespace Manifold.Liquidity

structure Extends (sdk : Sdk) (c c' : sdk.Context) : Prop where
  verifies : ∀ {cred auth now}, sdk.verifyCredentialAuthorizationAtTime c' cred auth now = .ok () →
    sdk.verifyCredentialAuthorizationAtTime c cred auth now = .ok ()
  accepts : ∀ e, (sdk.addRevocation c' e).isOk = (sdk.addRevocation c e).isOk

theorem Extends.refl {sdk} (c : sdk.Context) : Extends sdk c c := ⟨id, fun _ => rfl⟩

theorem Extends.trans {sdk c₁ c₂ c₃} (h : Extends sdk c₁ c₂) (h' : Extends sdk c₂ c₃) : Extends sdk c₁ c₃ :=
  ⟨fun hv => h.verifies (h'.verifies hv), fun e => (h'.accepts e).trans (h.accepts e)⟩

theorem Sdk.Lawful.extends {sdk} (laws : sdk.Lawful) {c c' r} (h : sdk.addRevocation c r = .ok c') : Extends sdk c c' :=
  ⟨laws.antitone h, fun _ => laws.independent h⟩

theorem addRevocations_extends {sdk} (laws : sdk.Lawful) (issuer : Pubkey) (rs : List SignedRevocation)
    (c : sdk.Context) : Extends sdk c (addRevocations sdk issuer c rs) := by
  induction rs generalizing c with
  | nil => exact .refl c
  | cons r rest ih =>
    unfold addRevocations
    split
    · exact ih c
    split
    · rename_i c' hadd
      exact (laws.extends hadd).trans (ih c')
    · exact ih c

theorem addRevocations_revokes {sdk : Sdk} (laws : sdk.Lawful) {issuer rs c} {e : SignedRevocation}
    (he : e ∈ rs) (hissuer : e.issuerIdPubkey = issuer) (hok : (sdk.addRevocation c e).isOk = true)
    {cred : SignedCredential} {auth : HolderAuthorization} {now} (hcred : cred.issuerIdPubkey = issuer)
    (hv : sdk.verifyCredentialAuthorizationAtTime (addRevocations sdk issuer c rs) cred auth now = .ok ()) :
    e.credentialDigest ≠ auth.credentialDigest := by
  induction rs generalizing c with
  | nil => cases he
  | cons r rest ih =>
    unfold addRevocations at hv
    rcases List.mem_cons.1 he with rfl | hrest
    · rw [if_neg (by simp [hissuer])] at hv
      cases hadd : sdk.addRevocation c e with
      | error error => simp [hadd, Except.isOk, Except.toBool] at hok
      | ok c' =>
        rw [hadd] at hv
        have hv' := (addRevocations_extends laws issuer rest c').verifies hv
        exact (laws.revokes hadd hv' (hcred.trans hissuer.symm)).symm
    split at hv
    · exact ih hrest hok hv
    split at hv
    · rename_i c' hadd
      exact ih hrest ((laws.independent hadd).trans hok) hv
    · exact ih hrest hok hv

def FirstAnswer (fetch : RevocationFetcher) (issuer : Pubkey) (digests : List String) (n : Nat)
    (relays : List String) (events : List SignedRevocation) : Prop :=
  ∃ k relay, relays[k]? = some relay ∧ fetch (n + k) ⟨relay, issuer, digests⟩ = .ok events ∧
    ∀ j < k, ∀ earlier, relays[j]? = some earlier → ∃ error, fetch (n + j) ⟨earlier, issuer, digests⟩ = .error error

theorem queryRelays_ok {fetch issuer digests relays n last events}
    (h : queryRelays fetch issuer digests n relays last = .ok events) :
    FirstAnswer fetch issuer digests n relays events := by
  induction relays generalizing n last with
  | nil => cases h
  | cons relay rest ih =>
    unfold queryRelays at h
    cases hf : fetch n ⟨relay, issuer, digests⟩ with
    | ok events' =>
      rw [hf] at h
      obtain rfl : events' = events := Except.ok.inj h
      exact ⟨0, relay, rfl, hf, fun j hj => absurd hj (Nat.not_lt_zero j)⟩
    | error error =>
      rw [hf] at h
      obtain ⟨k, relay', hk, hanswer, hearlier⟩ := ih h
      refine ⟨k + 1, relay', hk, ?_, ?_⟩
      · rw [← Nat.add_right_comm] at hanswer
        exact hanswer
      intro j hj earlier hget
      cases j with
      | zero =>
        obtain rfl : relay = earlier := Option.some.inj hget
        exact ⟨error, hf⟩
      | succ j =>
        obtain ⟨error', he⟩ := hearlier j (Nat.lt_of_succ_lt_succ hj) earlier hget
        rw [← Nat.add_right_comm] at he
        exact ⟨error', he⟩

/-- The authority of the issuer lists a relay that answered, and nothing it returned revokes the
credential in the sight of the context. -/
def FreshlyUnrevoked (sdk : Sdk) (fetch : RevocationFetcher) (authorities : List IssuerAuthority)
    (verifier : sdk.Context) (issuer : Pubkey) (digest : String) : Prop :=
  ∃ authority ∈ authorities, authority.issuerIdPubkey = issuer ∧
    ∃ digests events, digest ∈ digests ∧ FirstAnswer fetch issuer digests 0 authority.relayLocations events ∧
      ∀ e ∈ events, e.issuerIdPubkey = issuer → (sdk.addRevocation verifier e).isOk = true → e.credentialDigest ≠ digest

theorem lookupIssuer_ok {sdk fetch authorities c c' issuer digests}
    (h : lookupIssuer sdk fetch authorities c issuer digests = .ok c') :
    ∃ authority ∈ authorities, authority.issuerIdPubkey = issuer ∧
      ∃ events, FirstAnswer fetch issuer digests.eraseDups 0 authority.relayLocations events ∧
        c' = addRevocations sdk issuer c events := by
  unfold lookupIssuer at h
  split at h
  · cases h
  rename_i authority hfind
  have hmem := List.mem_of_find?_eq_some hfind
  have hissuer := List.find?_some hfind
  split at h
  · cases h
  split at h
  · cases h
  · rename_i events hquery
    exact ⟨authority, hmem, of_decide_eq_true hissuer, events, queryRelays_ok hquery, (Except.ok.inj h).symm⟩

theorem lookupIssuer_extends {sdk} (laws : sdk.Lawful) {fetch authorities c c' issuer digests}
    (h : lookupIssuer sdk fetch authorities c issuer digests = .ok c') : Extends sdk c c' := by
  obtain ⟨_, _, _, events, _, rfl⟩ := lookupIssuer_ok h
  exact addRevocations_extends laws issuer events c

theorem lookupIssuers_extends {sdk} (laws : sdk.Lawful) (fetch : RevocationFetcher)
    (authorities : List IssuerAuthority) (groups : List (Pubkey × List String)) (c : sdk.Context) :
    Extends sdk c (lookupIssuers sdk fetch authorities c groups).1 := by
  induction groups generalizing c with
  | nil => exact .refl c
  | cons group rest ih =>
    unfold lookupIssuers
    split
    · rename_i c' hlookup
      exact (lookupIssuer_extends laws hlookup).trans (ih c')
    · exact ih c

theorem lookupIssuers_each {sdk} (laws : sdk.Lawful) {fetch authorities groups c}
    (h : (lookupIssuers sdk fetch authorities c groups).2 = []) {group} (hg : group ∈ groups) :
    ∃ c₁ c₂, Extends sdk c c₁ ∧ lookupIssuer sdk fetch authorities c₁ group.1 group.2 = .ok c₂ ∧
      Extends sdk c₂ (lookupIssuers sdk fetch authorities c groups).1 := by
  induction groups generalizing c with
  | nil => cases hg
  | cons g rest ih =>
    unfold lookupIssuers at h ⊢
    cases hlookup : lookupIssuer sdk fetch authorities c g.1 g.2 with
    | error detail =>
      simp only [hlookup] at h
      cases h
    | ok c' =>
      simp only [hlookup] at h ⊢
      rcases List.mem_cons.1 hg with rfl | hrest
      · exact ⟨c, c', .refl c, hlookup, lookupIssuers_extends laws fetch authorities rest c'⟩
      · obtain ⟨c₁, c₂, h₁, h₂, h₃⟩ := ih h hrest
        exact ⟨c₁, c₂, (lookupIssuer_extends laws hlookup).trans h₁, h₂, h₃⟩

/-! ## Groups -/

def Asked (groups : List (Pubkey × List String)) (issuer : Pubkey) (digest : String) : Prop :=
  ∃ digests, (issuer, digests) ∈ groups ∧ digest ∈ digests

theorem asked_addToGroup (groups : List (Pubkey × List String)) (issuer : Pubkey) (digest : String) :
    Asked (addToGroup issuer digest groups) issuer digest := by
  induction groups with
  | nil => exact ⟨[digest], by simp [addToGroup], by simp⟩
  | cons g rest ih =>
    unfold addToGroup
    split
    · rename_i hg
      exact ⟨g.2 ++ [digest], by simp [hg], by simp⟩
    · obtain ⟨digests, hmem, hd⟩ := ih
      exact ⟨digests, List.mem_cons_of_mem _ hmem, hd⟩

theorem Asked.addToGroup {groups issuer digest} (h : Asked groups issuer digest) (i : Pubkey) (d : String) :
    Asked (addToGroup i d groups) issuer digest := by
  induction groups with
  | nil => exact absurd h (by simp [Asked])
  | cons g rest ih =>
    obtain ⟨digests, hmem, hd⟩ := h
    unfold Liquidity.addToGroup
    rcases List.mem_cons.1 hmem with rfl | hrest
    · split
      · exact ⟨digests ++ [d], List.mem_cons_self, List.mem_append_left _ hd⟩
      · exact ⟨digests, List.mem_cons_self, hd⟩
    split
    · exact ⟨digests, List.mem_cons_of_mem _ hrest, hd⟩
    · obtain ⟨digests', hmem', hd'⟩ := ih ⟨digests, hrest, hd⟩
      exact ⟨digests', List.mem_cons_of_mem _ hmem', hd'⟩

theorem asked_groupByIssuer {required issuer digest} (h : (issuer, digest) ∈ required) :
    Asked (groupByIssuer required) issuer digest := by
  -- over every list of groups the fold starts from
  suffices hfold : ∀ groups, (issuer, digest) ∈ required ∨ Asked groups issuer digest →
      Asked (required.foldl (fun groups r => addToGroup r.1 r.2 groups) groups) issuer digest from
    hfold [] (.inl h)
  clear h
  induction required with
  | nil =>
    rintro groups (h | h)
    · cases h
    · exact h
  | cons r rest ih =>
    rintro groups (h | h)
    · rcases List.mem_cons.1 h with rfl | hrest
      · exact ih _ (.inr (asked_addToGroup groups issuer digest))
      · exact ih _ (.inl hrest)
    · exact ih _ (.inr (h.addToGroup r.1 r.2))

theorem stage_unrevoked {sdk} (laws : sdk.Lawful) {fetch authorities c required}
    (h : (runRevocationStage sdk fetch c authorities required).unavailable = false) {cred auth now}
    (hreq : (cred.issuerIdPubkey, auth.credentialDigest) ∈ required)
    (hv : sdk.verifyCredentialAuthorizationAtTime
      (runRevocationStage sdk fetch c authorities required).verifier cred auth now = .ok ()) :
    FreshlyUnrevoked sdk fetch authorities c cred.issuerIdPubkey auth.credentialDigest := by
  have hnone : (lookupIssuers sdk fetch authorities c (groupByIssuer required)).2 = [] := by
    simpa [runRevocationStage] using h
  obtain ⟨digests, hgroup, hdigest⟩ := asked_groupByIssuer hreq
  obtain ⟨c₁, c₂, h₁, hlookup, h₂⟩ := lookupIssuers_each laws hnone hgroup
  obtain ⟨authority, hmem, hissuer, events, hanswer, rfl⟩ := lookupIssuer_ok hlookup
  refine ⟨authority, hmem, hissuer, digests.eraseDups, events, by simpa using hdigest, hanswer, ?_⟩
  intro e he heissuer hok
  exact addRevocations_revokes laws he heissuer ((h₁.accepts e).trans hok) rfl (h₂.verifies hv)

end Manifold.Liquidity
