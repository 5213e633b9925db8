import Manifold.Push.Lemmas.Outbox
import Manifold.Push.Lemmas.Registrations

/-!
# Ownership of push tokens
-/

namespace Manifold.Push

open Lib

/-! ## Which rows a step changes -/

section frames

variable {env : Env} {s t : Store}

theorem owned_markInvalid {now d reason db} (h : Owned db) :
    Owned (markInvalidTokenAndDisableRegistration now d reason db) ∧
      (markInvalidTokenAndDisableRegistration now d reason db).owners = db.owners := by
  unfold markInvalidTokenAndDisableRegistration
  split
  · exact ⟨h.update (f := fun r => r.disabled now (some reason)) (fun _ => rfl) (fun _ => rfl) rfl rfl, rfl⟩
  · exact ⟨h, rfl⟩

theorem Owned.congr {db db'} (h : Owned db) (hregs : db'.registrations = db.registrations)
    (howners : db'.owners = db.owners) : Owned db' :=
  h.update (p := fun _ => false) (f := id) (fun _ => rfl) (fun _ => rfl)
    (hregs.trans (Table.update_eq_self fun _ _ => rfl).symm) howners

theorem owned_of_resume {p x q out} (h : resume env s p x = some (t, q, out)) (ho : Owned s.db) :
    Owned t.db ∧ t.db.owners = s.db.owners := by
  unfold resume at h
  split at h
  · unfold claimDue at h
    split at h
    · cases h
    · obtain ⟨r, -, h⟩ := Option.map_eq_some_iff.mp h
      cases h
      exact ⟨ho.congr rfl rfl, rfl⟩
  · split at h
    · cases h
    · cases h
      exact ⟨ho, rfl⟩
  · cases h
    exact ⟨ho, rfl⟩
  · cases h
    exact ⟨ho.congr rfl rfl, rfl⟩
  · cases h
    exact ⟨ho.congr rfl rfl, rfl⟩
  · cases h
    exact owned_markInvalid ho
  · cases h
    exact ⟨ho, rfl⟩
  · cases h
    exact ⟨ho.congr rfl rfl, rfl⟩
  · cases h
    exact ⟨ho, rfl⟩
  · rename_i a now ids
    cases h
    obtain ⟨rows, hrows⟩ := applyAdmin_frame s a now ids
    simp only [Store.put, hrows]
    exact ⟨ho.congr rfl rfl, trivial⟩
  · cases h

theorem purgeTerminalInTransaction_frame
    (now : Int) (n : Nat) (tie : Hook → Nat) (tie' : Tombstone → Nat) (db : Db) :
    (purgeTerminalInTransaction now n tie tie' db).registrations = db.registrations ∧
      (purgeTerminalInTransaction now n tie tie' db).owners = db.owners := by
  unfold purgeTerminalInTransaction
  split
  · exact ⟨rfl, rfl⟩
  · simp only [deleteHooks, purgeExpiredInTransaction]
    split <;> exact ⟨rfl, rfl⟩

theorem admitHook_frame (env : Env) (now cutoff : Int) (req : CreateHookRequest) (limits : AdmissionLimits)
    (draw : HookDraw) (tie : Hook → Nat) (tie' : Tombstone → Nat) (db : Db) :
    (admitHook env now cutoff req limits draw tie tie' db).2.registrations = db.registrations ∧
      (admitHook env now cutoff req limits draw tie tie' db).2.owners = db.owners := by
  unfold admitHook
  dsimp only
  split
  · exact ⟨rfl, rfl⟩
  · split
    · exact purgeTerminalInTransaction_frame ..
    · exact ⟨rfl, rfl⟩

theorem acceptInvocation_frame (env : Env) (production : Bool) (now : Int) (p : InvocationPolicy) (i : Invocation)
    (db : Db) :
    (acceptInvocation env production now p i db).2.registrations = db.registrations ∧
      (acceptInvocation env production now p i db).2.owners = db.owners := by
  rcases acceptInvocation_cases env production now p i db with ⟨h, r, -, he⟩ | ⟨hsame, -⟩
  · exact ⟨he.registrations, he.owners⟩
  · rw [hsame]
    exact ⟨rfl, rfl⟩

end frames

/-! ## Refusals -/

section refusals

variable {req : RegisterRequest} {cutoff : Int} {db : Db} {limits : AdmissionLimits}

theorem admissionRefusal_none (h : admissionRefusal req cutoff db limits = none) :
    tokenConflicts req db = false ∧
      (0 < limits.maxActivePerRecipient → projectedRecipient req cutoff db ≤ limits.maxActivePerRecipient) ∧
      (0 < limits.maxActiveGlobal → projectedGlobal req cutoff db ≤ limits.maxActiveGlobal) ∧
      (0 < limits.maxTotalRows → projectedRows req db ≤ limits.maxTotalRows) := by
  unfold admissionRefusal at h
  split at h
  · cases h
  rename_i hfree
  split at h
  · cases h
  split at h
  · cases h
  · split at h
    · cases h
    · exact ⟨Bool.eq_false_iff.mpr hfree, fun _ => by omega, fun _ => by omega, fun _ => by omega⟩

theorem admissionRefusal_some {refusal} (h : admissionRefusal req cutoff db limits = some refusal) :
    refusal ≠ .registered ∧
      (refusal = .recipientCapacityExceeded →
        0 < limits.maxActivePerRecipient ∧ limits.maxActivePerRecipient < projectedRecipient req cutoff db) ∧
      (refusal = .globalCapacityExceeded →
        0 < limits.maxActiveGlobal ∧ limits.maxActiveGlobal < projectedGlobal req cutoff db) ∧
      (refusal = .globalRowCapacityExceeded →
        0 < limits.maxTotalRows ∧ limits.maxTotalRows < projectedRows req db) := by
  unfold admissionRefusal at h
  split at h
  · cases h
    simp
  split at h
  · cases h
    simpa using ‹_ ∧ _›
  split at h
  · cases h
    simpa using ‹_ ∧ _›
  split at h
  · cases h
    simpa using ‹_ ∧ _›
  · cases h

end refusals

/-! ## The owner rows -/

section owners

variable {db : Db}

theorem purgeOrphans_owners_subset (cutoff : Int) (n : Nat) :
    (purgeOrphanedTokenOwners cutoff n db).owners ⊆ db.owners := by
  unfold purgeOrphanedTokenOwners
  split
  · exact List.Subset.refl _
  · exact fun o ho => List.mem_of_mem_filter ho

theorem reclaimed_owner {cutoff n tie o} (h : Owned db) (ho : o ∈ db.owners)
    (hgone : o ∉ (purgeStaleInTransaction cutoff n tie db).owners) :
    o.updatedAt < cutoff ∧ ∀ r ∈ db.registrations, r.fcmToken = o.fcmToken → r.lastSeenAt < cutoff := by
  unfold purgeStaleInTransaction purgeOrphanedTokenOwners at hgone
  split at hgone
  · exact absurd ho hgone
  simp only [List.mem_filter, ho, true_and, Bool.not_eq_true', Bool.not_eq_false, List.any_eq_true, beq_iff_eq] at hgone
  obtain ⟨v, hv, hvt⟩ := hgone
  have hv := List.mem_mergeSort.mp (List.mem_of_mem_take hv)
  simp only [List.mem_filter, Bool.and_eq_true, decide_eq_true_eq, Db.orphaned, Bool.not_eq_true', List.any_eq_false,
    beq_iff_eq] at hv
  obtain ⟨hmem, hstale, horphan⟩ := hv
  have hsame : v = o := h.owners.eq hmem ho hvt
  subst hsame
  refine ⟨hstale, fun r hr htok => ?_⟩
  -- the registration is gone, so it was a victim of the first purge
  by_contra hfresh
  refine horphan r ⟨hr, fun w hw hroute => ?_⟩ htok
  obtain ⟨hw, hseen⟩ := List.mem_filter.mp (List.mem_mergeSort.mp (List.mem_of_mem_take hw))
  have hvictim : w = r := h.routes.eq hw hr (Prod.ext hroute.1 hroute.2)
  exact hfresh (hvictim ▸ decide_eq_true_eq.mp hseen)

theorem purgeInTransaction_owners_subset (cutoff : Int) (n : Nat) (tie : Registration → Nat) :
    (purgeStaleInTransaction cutoff n tie db).owners ⊆ db.owners := by
  unfold purgeStaleInTransaction
  split
  · exact List.Subset.refl _
  · exact purgeOrphans_owners_subset cutoff n

theorem mem_registeredOwners_back {req now o} (h : o ∈ registeredOwners req db now) :
    (o.fcmToken = req.fcmToken ∧ o.recipientId = req.recipientId ∧ o.installationId = req.installationId) ∨
      o ∈ db.owners := by
  unfold registeredOwners at h
  split at h
  · obtain ⟨o₀, ho₀, rfl⟩ := Table.mem_update.mp h
    split
    · rename_i htok
      exact .inl ⟨beq_iff_eq.mp htok, rfl, rfl⟩
    · exact .inr (releasedOwners_sublist.subset ho₀)
  rcases Lib.mem_snoc.mp h with h | rfl
  · exact .inr (releasedOwners_sublist.subset h)
  · exact .inl ⟨rfl, rfl, rfl⟩

theorem admitInstallation_owner {req cutoff now limits tie} (h : Owned db) {o o'} (ho : o ∈ db.owners)
    (ho' : o' ∈ (admitInstallation req cutoff db now limits tie).2.owners) (htok : o'.fcmToken = o.fcmToken)
    (hrec : o'.recipientId ≠ o.recipientId) :
    o'.installationId = o.installationId ∨
      o.updatedAt < cutoff ∧ ∀ r ∈ db.registrations, r.fcmToken = o.fcmToken → r.lastSeenAt < cutoff := by
  have hold : o' ∉ db.owners := fun hmem => hrec (h.owners.eq hmem ho htok ▸ rfl)
  unfold admitInstallation at ho'
  dsimp only at ho'
  split at ho'
  · exact absurd ho' hold
  rename_i hnone
  rcases mem_registeredOwners_back ho' with ⟨htok', hrec', hinst'⟩ | hmem
  · by_cases hkept : o ∈ (purgeStaleInTransaction cutoff limits.reclamationBatchSize tie db).owners
    · left
      have howner : tokenOwner req (purgeStaleInTransaction cutoff limits.reclamationBatchSize tie db) = some o := by
        unfold tokenOwner
        rw [← htok', htok]
        exact (h.purgeInTransaction cutoff _ tie).owners.lookup hkept
      have hfree := (admissionRefusal_none hnone).1
      simp only [tokenConflicts, howner, Option.any_some, Bool.or_eq_false_iff, Bool.and_eq_false_iff,
        bne_eq_false_iff_eq] at hfree
      rcases hfree.1 with hsame | hsame
      · exact absurd (hrec'.trans hsame.symm) hrec
      · exact hinst'.trans hsame.symm
    · exact .inr (reclaimed_owner h ho hkept)
  · exact absurd (purgeInTransaction_owners_subset _ _ _ hmem) hold

end owners

/-! ## Runs -/

section runs

variable {env : Env} {production : Bool} {es : List (Service.Note Event)} {s : Server Store Phase}

theorem owned_of_outside {st t b out} (h : outside env production st b = some (t, out)) (ho : Owned st.db) :
    Owned t.db ∧ (t.db.owners ⊆ st.db.owners ∨ ∃ req cutoff limits tie, b = .admitInstallation req cutoff limits tie ∧
      t.db = (admitInstallation req cutoff st.db st.clock limits tie).2) := by
  cases b with
  | tick later =>
    simp only [outside] at h
    split at h
    · cases h
      exact ⟨ho, .inl (List.Subset.refl _)⟩
    · cases h
  | restart | expire | purgeTombstones | purgeHooks | revoke =>
    cases h
    exact ⟨ho.congr rfl rfl, .inl (List.Subset.refl _)⟩
  | purgeRetained cutoff idempotencyCutoff =>
    cases h
    exact ⟨(ho.dropRows _).congr rfl rfl, .inl (List.Subset.refl _)⟩
  | purgeStale cutoff =>
    cases h
    exact ⟨ho.purgeStale cutoff, .inl (purgeOrphans_owners_subset cutoff _)⟩
  | admitInstallation req cutoff limits tie =>
    simp only [outside] at h
    split at h
    · cases h
      refine ⟨?_, .inr ⟨req, cutoff, limits, tie, rfl, rfl⟩⟩
      simp only [Store.put, admitInstallation]
      split
      · exact ho
      · exact (ho.purgeInTransaction cutoff _ tie).register
    · cases h
  | deleteInstallation recipientId installationId =>
    cases h
    exact ⟨ho.delete recipientId installationId, .inl fun o ho => List.mem_of_mem_filter ho⟩
  | disableInstallation recipientId installationId reason =>
    cases h
    exact ⟨ho.update (f := fun r => r.disabled st.clock reason) (fun _ => rfl) (fun _ => rfl) rfl rfl,
      .inl (List.Subset.refl _)⟩
  | disableIfTokenMatches recipientId installationId fcmToken reason =>
    cases h
    exact ⟨ho.update (f := fun r => r.disabled st.clock reason) (fun _ => rfl) (fun _ => rfl) rfl rfl,
      .inl (List.Subset.refl _)⟩
  | admitHook req cutoff limits draw tie tombstoneTie =>
    cases h
    obtain ⟨hregs, howners⟩ := admitHook_frame env st.clock cutoff req limits draw tie tombstoneTie st.db
    exact ⟨ho.congr hregs howners, .inl (howners ▸ List.Subset.refl _)⟩
  | invoke p i =>
    cases h
    obtain ⟨hregs, howners⟩ := acceptInvocation_frame env production st.clock p i st.db
    exact ⟨ho.congr hregs howners, .inl (howners ▸ List.Subset.refl _)⟩

theorem owned_of_reaches (h : (runs env production).Reaches es s) : Owned s.shared.db := by
  refine Machine.Reaches.inv (I := fun s : Server Store Phase => Owned s.shared.db) ?_ ?_ h
  · rintro s ⟨⟨hdb, -⟩, -⟩
    rw [hdb]
    exact .empty
  intro s a t out ho hs
  cases steps_of_runs hs with
  | begin | drop => exact ho
  | resume number x p t q out hg hp hres => exact (owned_of_resume hres ho).1
  | outside b t out hg hb => exact (owned_of_outside hb ho).1

theorem tokens_owned_within_limits (h : (runs env production).Reaches es s) :
    -- each token is carried by at most one registration
    (∀ r ∈ s.shared.db.registrations, ∀ r' ∈ s.shared.db.registrations, r.fcmToken = r'.fcmToken → r = r') ∧
    -- its owner row names the same recipient and installation
    (∀ r ∈ s.shared.db.registrations, ∃ o ∈ s.shared.db.owners, o.fcmToken = r.fcmToken ∧
      o.recipientId = r.recipientId ∧ o.installationId = r.installationId) ∧
    -- another recipient gets the token for that installation, or once the row and its registrations were stale
    (∀ a t out, (runs env production).step s a = some (t, out) → ∀ o ∈ s.shared.db.owners, ∀ o' ∈ t.shared.db.owners,
      o'.fcmToken = o.fcmToken → o'.recipientId ≠ o.recipientId → o'.installationId = o.installationId ∨
        ∃ req cutoff limits tie, a = .outside (.admitInstallation req cutoff limits tie) ∧ o.updatedAt < cutoff ∧
          ∀ r ∈ s.shared.db.registrations, r.fcmToken = o.fcmToken → r.lastSeenAt < cutoff) ∧
    ∀ req cutoff limits tie, cutoff ≤ s.shared.clock →
      -- an admitted registration leaves the counts within the limits that are set
      ((admitInstallation req cutoff s.shared.db s.shared.clock limits tie).1 = .registered →
        ∀ db, db = (admitInstallation req cutoff s.shared.db s.shared.clock limits tie).2 →
          (0 < limits.maxActivePerRecipient →
            activeCount cutoff (some req.recipientId) db ≤ limits.maxActivePerRecipient) ∧
          (0 < limits.maxActiveGlobal → activeCount cutoff none db ≤ limits.maxActiveGlobal) ∧
          (0 < limits.maxTotalRows → physicalCount db ≤ limits.maxTotalRows)) ∧
      -- a refusal for capacity means that the registration would have exceeded the limit
      ∀ db, db = register req (purgeStaleInTransaction cutoff limits.reclamationBatchSize tie s.shared.db)
          s.shared.clock →
        ((admitInstallation req cutoff s.shared.db s.shared.clock limits tie).1 = .recipientCapacityExceeded →
          0 < limits.maxActivePerRecipient ∧
            limits.maxActivePerRecipient < activeCount cutoff (some req.recipientId) db) ∧
        ((admitInstallation req cutoff s.shared.db s.shared.clock limits tie).1 = .globalCapacityExceeded →
          0 < limits.maxActiveGlobal ∧ limits.maxActiveGlobal < activeCount cutoff none db) ∧
        ((admitInstallation req cutoff s.shared.db s.shared.clock limits tie).1 = .globalRowCapacityExceeded →
          0 < limits.maxTotalRows ∧ limits.maxTotalRows < physicalCount db) := by
  have ho := owned_of_reaches h
  refine ⟨fun r hr r' hr' => ho.tokens.eq hr hr', ho.owned, ?_, ?_⟩
  · intro a t out hs o hmem o' hmem' htok hrec
    have hnew : ¬ t.shared.db.owners ⊆ s.shared.db.owners := fun hsub =>
      hrec (ho.owners.eq (hsub hmem') hmem htok ▸ rfl)
    cases steps_of_runs hs with
    | begin | drop => exact absurd (List.Subset.refl _) hnew
    | resume number x p t q out hg hp hres =>
      exact absurd ((owned_of_resume hres ho).2 ▸ List.Subset.refl _) hnew
    | outside b t out hg hb =>
      rcases (owned_of_outside hb ho).2 with hsub | ⟨req, cutoff, limits, tie, rfl, ht⟩
      · exact absurd hsub hnew
      have hmem' : o' ∈ t.db.owners := hmem'
      rw [ht] at hmem'
      rcases admitInstallation_owner ho hmem hmem' htok hrec with hinst | hstale
      · exact .inl hinst
      · exact .inr ⟨req, cutoff, limits, tie, rfl, hstale⟩
  intro req cutoff limits tie hcutoff
  have hpurged := ho.purgeInTransaction cutoff limits.reclamationBatchSize tie
  have hrecipient := activeCount_recipient req hpurged hcutoff
  have hglobal := activeCount_global req hpurged hcutoff
  have hrows := physicalCount_register req s.shared.clock hpurged
  unfold admitInstallation
  dsimp only
  split
  · rename_i refusal hrefusal
    obtain ⟨hne, hcapacity⟩ := admissionRefusal_some hrefusal
    refine ⟨fun he => absurd he hne, ?_⟩
    rintro db rfl
    rw [hrecipient, hglobal, hrows]
    exact hcapacity
  rename_i hnone
  refine ⟨fun _ => ?_, by simp⟩
  rintro db rfl
  rw [hrecipient, hglobal, hrows]
  exact (admissionRefusal_none hnone).2

/-- Ten minutes after its registration, a token whose owner is stale goes to another recipient and installation. -/
def staleTokenRun : List (Turn Call Choice Outside) :=
  [.outside (.tick 1000),
   .outside (.admitInstallation ⟨"alice", "phone", "token", none⟩ 400 ⟨0, 0, 0, 0⟩ (fun _ => 0)),
   .outside (.tick 1600),
   .outside (.admitInstallation ⟨"bob", "tablet", "token", none⟩ 1500 ⟨0, 0, 0, 1⟩ (fun _ => 0))]

/-- The owner row names the phone, and the token is given to another recipient for the tablet. -/
theorem stale_token_changes_installation :
    ((runs plainEnv true).exec { shared := {} } (staleTokenRun.take 3)).map (fun r => r.1.shared.db.owners) =
        some [⟨"token", "alice", "phone", 1000⟩] ∧
      ((runs plainEnv true).exec { shared := {} } staleTokenRun).map (fun r => r.1.shared.db.owners) =
        some [⟨"token", "bob", "tablet", 1600⟩] := by
  decide +kernel

def capped : AdmissionLimits := ⟨1, 3, 6, 0⟩

def cappedRun : List (Turn Call Choice Outside) :=
  [.outside (.tick 1000),
   .outside (.admitInstallation ⟨"alice", "phone", "token", none⟩ 900 capped (fun _ => 0)),
   .outside (.admitInstallation ⟨"bob", "tablet", "other", none⟩ 900 capped (fun _ => 0))]

/-- One more installation is within the limits for a new recipient, and not for one that has its own. -/
theorem tokens_owned_within_limits_capped :
    (plainRun cappedRun).map (fun r =>
        (r.1.shared.db.registrations.map (·.fcmToken), r.1.shared.db.owners.map (·.recipientId))) =
      some (["token", "other"], ["alice", "bob"]) ∧
    ∀ r ∈ plainRun cappedRun,
      (∀ reg ∈ r.1.shared.db.registrations, ∀ reg' ∈ r.1.shared.db.registrations,
        reg.fcmToken = reg'.fcmToken → reg = reg') ∧
      (∀ reg ∈ r.1.shared.db.registrations, ∃ o ∈ r.1.shared.db.owners, o.fcmToken = reg.fcmToken ∧
        o.recipientId = reg.recipientId ∧ o.installationId = reg.installationId) ∧
      (∀ db, db = (admitInstallation ⟨"carol", "watch", "third", none⟩ 900 r.1.shared.db r.1.shared.clock capped
          (fun _ => 0)).2 → activeCount 900 (some "carol") db ≤ 1 ∧ activeCount 900 none db ≤ 3 ∧ physicalCount db ≤ 6) ∧
      ∀ db, db = register ⟨"alice", "watch", "third", none⟩ (purgeStaleInTransaction 900 0 (fun _ => 0) r.1.shared.db)
        r.1.shared.clock → 1 < activeCount 900 (some "alice") db := by
  refine ⟨by decide +kernel, fun r hr => ?_⟩
  have hanswers : ∀ r ∈ plainRun cappedRun, 900 ≤ r.1.shared.clock ∧
      (admitInstallation ⟨"carol", "watch", "third", none⟩ 900 r.1.shared.db r.1.shared.clock capped
        (fun _ => 0)).1 = .registered ∧
      (admitInstallation ⟨"alice", "watch", "third", none⟩ 900 r.1.shared.db r.1.shared.clock capped
        (fun _ => 0)).1 = .recipientCapacityExceeded := by
    decide +kernel
  obtain ⟨hclock, hcarol, halice⟩ := hanswers r hr
  obtain ⟨honce, howned, -, hlimits⟩ := tokens_owned_within_limits (plainRun_reaches hr)
  refine ⟨honce, howned, fun db hdb => ?_, fun db hdb => ?_⟩
  · obtain ⟨hrecipient, hglobal, hrows⟩ := (hlimits _ 900 capped _ hclock).1 hcarol db hdb
    exact ⟨hrecipient (by decide), hglobal (by decide), hrows (by decide)⟩
  · exact (((hlimits _ 900 capped _ hclock).2 db hdb).1 halice).2

end runs

end Manifold.Push
