import Manifold.Push.Registrations

/-!
# Registrations and the owners of their tokens
-/

namespace Manifold.Push

open Lib

/-- Routes and tokens are keys, and every token in use has an owner that names the route. -/
structure Owned (db : Db) : Prop where
  routes : Table.Keyed (·.route) db.registrations
  tokens : Table.Keyed (·.fcmToken) db.registrations
  owners : Table.Keyed (·.fcmToken) db.owners
  owned : ∀ r ∈ db.registrations, ∃ o ∈ db.owners, o.fcmToken = r.fcmToken ∧
    o.recipientId = r.recipientId ∧ o.installationId = r.installationId

@[simp] theorem Registration.at_iff {recipientId installationId} {r : Registration} :
    r.at recipientId installationId = true ↔ r.recipientId = recipientId ∧ r.installationId = installationId := by
  simp [Registration.at, Registration.route]

@[simp] theorem TokenOwner.names_iff {recipientId installationId} {o : TokenOwner} :
    o.names recipientId installationId = true ↔ o.recipientId = recipientId ∧ o.installationId = installationId := by
  simp [TokenOwner.names]

/-! ## Disabling and purges -/

section purges

variable {db db' : Db}

theorem Owned.empty : Owned {} := ⟨List.nodup_nil, List.nodup_nil, List.nodup_nil, by simp⟩

theorem Owned.update {p f} (h : Owned db) (hroute : ∀ r, (f r).route = r.route)
    (htoken : ∀ r, (f r).fcmToken = r.fcmToken) (hregs : db'.registrations = Table.update p f db.registrations)
    (howners : db'.owners = db.owners) : Owned db' := by
  refine ⟨?_, ?_, howners ▸ h.owners, fun r hr => ?_⟩
  · rw [hregs]
    exact h.routes.update fun r _ => hroute r
  · rw [hregs]
    exact h.tokens.update fun r _ => htoken r
  rw [hregs] at hr
  obtain ⟨r₀, hr₀, rfl⟩ := Table.mem_update.mp hr
  obtain ⟨o, ho, htok, hrec, hinst⟩ := h.owned r₀ hr₀
  refine ⟨o, howners ▸ ho, ?_⟩
  split
  · have hr' := hroute r₀
    simp only [Registration.route, Prod.mk.injEq] at hr'
    exact ⟨htok.trans (htoken r₀).symm, hrec.trans hr'.1.symm, hinst.trans hr'.2.symm⟩
  · exact ⟨htok, hrec, hinst⟩

theorem Owned.shrink (keep : Registration → Bool) (keepOwner : TokenOwner → Bool) (h : Owned db)
    (hregs : db'.registrations = db.registrations.filter keep) (howners : db'.owners = db.owners.filter keepOwner)
    (hfree : ∀ o ∈ db.owners, keepOwner o = false → ∀ r ∈ db'.registrations, r.fcmToken ≠ o.fcmToken) :
    Owned db' := by
  refine ⟨?_, ?_, ?_, fun r hr => ?_⟩
  · rw [hregs]
    exact h.routes.filter
  · rw [hregs]
    exact h.tokens.filter
  · rw [howners]
    exact h.owners.filter
  have hr₀ := hr
  rw [hregs] at hr₀
  obtain ⟨o, ho, htok, hroute⟩ := h.owned r (List.mem_of_mem_filter hr₀)
  refine ⟨o, ?_, htok, hroute⟩
  rw [howners, List.mem_filter]
  refine ⟨ho, ?_⟩
  by_contra hdrop
  exact hfree o ho (by simpa using hdrop) r hr htok.symm

theorem Owned.purgeOrphans (h : Owned db) (cutoff : Int) (n : Nat) : Owned (purgeOrphanedTokenOwners cutoff n db) := by
  unfold purgeOrphanedTokenOwners
  split
  · exact h
  refine h.shrink (fun _ => true) _ (by simp) rfl fun o ho hdrop r hr htok => ?_
  -- the victim with the token of `o` is an orphan, but `r` carries the token
  simp only [Bool.not_eq_false', List.any_eq_true, beq_iff_eq] at hdrop
  obtain ⟨v, hv, hvt⟩ := hdrop
  have hv := List.mem_mergeSort.mp (List.mem_of_mem_take hv)
  simp only [List.mem_filter, Bool.and_eq_true, Db.orphaned, Bool.not_eq_true', List.any_eq_false, beq_iff_eq] at hv
  exact hv.2.2 r hr (htok.trans hvt.symm)

theorem Owned.dropRows (h : Owned db) (keep : Registration → Bool) :
    Owned { db with registrations := db.registrations.filter keep } :=
  h.shrink keep (fun _ => true) rfl (by simp) (by simp)

theorem Owned.purgeStale (h : Owned db) (cutoff : Int) : Owned (purgeStale cutoff db) :=
  (h.dropRows _).purgeOrphans cutoff unboundedBatch

theorem Owned.purgeInTransaction (h : Owned db) (cutoff : Int) (n : Nat) (tie : Registration → Nat) :
    Owned (purgeStaleInTransaction cutoff n tie db) := by
  unfold purgeStaleInTransaction
  split
  · exact h
  · exact (h.dropRows _).purgeOrphans cutoff n

theorem Owned.delete (h : Owned db) (recipientId installationId : String) :
    Owned (deleteInstallation recipientId installationId db) := by
  refine h.shrink _ _ rfl rfl fun o ho hdrop r hr htok => ?_
  obtain ⟨hr, hkeep⟩ := List.mem_filter.mp hr
  obtain ⟨o', ho', htok', hrec, hinst⟩ := h.owned r hr
  -- the owner of the token of `r` is `o`, which names the deleted route
  have hsame : o' = o := h.owners.eq ho' ho (htok'.trans htok)
  simp only [Bool.not_eq_false', TokenOwner.names_iff] at hdrop
  simp only [Bool.not_eq_true', ← Bool.not_eq_true, Registration.at_iff] at hkeep
  exact hkeep ⟨hrec ▸ hsame ▸ hdrop.1, hinst ▸ hsame ▸ hdrop.2⟩

end purges

/-! ## Admission -/

section admission

variable {req : RegisterRequest} {db : Db} {now : Int}

theorem token_detached (h : Owned db) {r} (hr : r ∈ detachedRows req db) (htok : r.fcmToken = req.fcmToken) :
    r.at req.recipientId req.installationId = true := by
  unfold detachedRows at hr
  split at hr
  · simp [htok] at hr
  rename_i hsame
  have hl : tokenRegistration req db = some r := by
    unfold tokenRegistration
    rw [← htok]
    exact h.tokens.lookup hr
  simp only [tokenRegistrationIsOtherRoute, hl, Option.any_some, Bool.or_eq_true, bne_iff_ne, not_or, not_not] at hsame
  exact Registration.at_iff.mpr hsame

theorem detachedRows_sublist : (detachedRows req db).Sublist db.registrations := by
  unfold detachedRows
  split
  · exact List.filter_sublist
  · exact List.Sublist.refl _

theorem mem_registeredRows {r} (hr : r ∈ registeredRows req db now) :
    (r.route = (req.recipientId, req.installationId) ∧ r.fcmToken = req.fcmToken) ∨
      r ∈ detachedRows req db ∧ r.at req.recipientId req.installationId = false := by
  unfold registeredRows upsertRegistration at hr
  split at hr
  · obtain ⟨r₀, hr₀, rfl⟩ := Table.mem_update.mp hr
    split
    · rename_i hat
      exact .inl ⟨by simpa [Registration.route, refreshed] using hat, rfl⟩
    · rename_i hat
      exact .inr ⟨hr₀, Bool.eq_false_iff.mpr hat⟩
  rename_i hnone
  rcases List.mem_append.mp hr with hr | hr
  · refine .inr ⟨hr, ?_⟩
    simp only [Bool.not_eq_true, List.any_eq_false] at hnone
    exact hnone r hr
  · rw [List.mem_singleton.mp hr]
    exact .inl ⟨rfl, rfl⟩

theorem registeredRows_routes (h : Owned db) : Table.Keyed (·.route) (registeredRows req db now) := by
  have hk : Table.Keyed (·.route) (detachedRows req db) := h.routes.sublist (detachedRows_sublist.map _)
  unfold registeredRows upsertRegistration
  split
  · exact hk.update fun r _ => rfl
  rename_i hnone
  refine hk.append fun r hr he => hnone ?_
  rw [List.any_eq_true]
  exact ⟨r, hr, by simpa [newRegistration, Registration.route] using he⟩

theorem registeredRows_tokens (h : Owned db) : Table.Keyed (·.fcmToken) (registeredRows req db now) := by
  have hk : Table.Keyed (·.fcmToken) (detachedRows req db) := h.tokens.sublist (detachedRows_sublist.map _)
  have hroutes : Table.Keyed (·.route) (detachedRows req db) := h.routes.sublist (detachedRows_sublist.map _)
  unfold registeredRows upsertRegistration
  split
  · unfold Table.Keyed Table.update
    rw [List.map_map]
    refine List.Nodup.map_on ?_ (List.Nodup.of_map _ hroutes)
    intro r hr r' hr' he
    simp only [Function.comp_apply] at he
    by_cases hat : r.at req.recipientId req.installationId = true <;>
      by_cases hat' : r'.at req.recipientId req.installationId = true
    · exact hroutes.eq hr hr' ((decide_eq_true_eq.mp hat).trans (decide_eq_true_eq.mp hat').symm)
    · simp only [hat, hat', if_true, if_false, Bool.false_eq_true] at he
      exact absurd (token_detached h hr' he.symm) hat'
    · simp only [hat, hat', if_true, if_false, Bool.false_eq_true] at he
      exact absurd (token_detached h hr he) hat
    · simp only [hat, hat', if_false, Bool.false_eq_true] at he
      exact hk.eq hr hr' he
  rename_i hnone
  refine hk.append fun r hr he => hnone ?_
  rw [List.any_eq_true]
  exact ⟨r, hr, token_detached h hr he⟩

theorem mem_releasedOwners {o} (ho : o ∈ db.owners)
    (hkeep : o.fcmToken = req.fcmToken ∨ o.names req.recipientId req.installationId = false) :
    o ∈ releasedOwners req db := by
  unfold releasedOwners
  split
  · refine List.mem_filter.mpr ⟨ho, ?_⟩
    rcases hkeep with htok | hnames
    · simp only [Bool.not_eq_true', Bool.and_eq_false_iff]
      left
      cases hold : targetOldToken req db with
      | none => rfl
      | some old =>
        have hne := (Option.filter_eq_some_iff.mp hold).2
        simpa [htok] using hne
    · simp [hnames]
  · exact ho

theorem releasedOwners_sublist : (releasedOwners req db).Sublist db.owners := by
  unfold releasedOwners
  split
  · exact List.filter_sublist
  · exact List.Sublist.refl _

theorem registeredOwners_keyed (h : Owned db) : Table.Keyed (·.fcmToken) (registeredOwners req db now) := by
  have hk : Table.Keyed (·.fcmToken) (releasedOwners req db) := h.owners.sublist (releasedOwners_sublist.map _)
  unfold registeredOwners
  split
  · exact hk.update fun o _ => rfl
  · rename_i hnone
    rw [Option.not_isSome_iff_eq_none] at hnone
    exact hk.append fun o ho => Table.lookup_eq_none.mp hnone o (releasedOwners_sublist.subset ho)

theorem mem_registeredOwners (req : RegisterRequest) (db : Db) (now : Int) :
    (∃ o ∈ registeredOwners req db now, o.fcmToken = req.fcmToken ∧ o.recipientId = req.recipientId ∧
        o.installationId = req.installationId) ∧
      ∀ o ∈ releasedOwners req db, o.fcmToken ≠ req.fcmToken → o ∈ registeredOwners req db now := by
  unfold registeredOwners
  split
  · rename_i hsome
    obtain ⟨o, ho⟩ := Option.isSome_iff_exists.mp hsome
    obtain ⟨hmem, htok⟩ := Table.lookup_mem ho
    refine ⟨⟨_, Table.mem_update.mpr ⟨o, mem_releasedOwners hmem (.inl htok), rfl⟩, ?_⟩, fun o' ho' hne => ?_⟩
    · simp [htok]
    · exact Table.mem_update.mpr ⟨o', ho', by simp [hne]⟩
  · exact ⟨⟨_, List.mem_append_right _ List.mem_cons_self, rfl, rfl, rfl⟩, fun o ho _ => List.mem_append_left _ ho⟩

theorem Owned.register (h : Owned db) : Owned (register req db now) := by
  refine ⟨registeredRows_routes h, registeredRows_tokens h, registeredOwners_keyed h, fun r hr => ?_⟩
  rcases mem_registeredRows hr with ⟨hroute, htok⟩ | ⟨hmem, hat⟩
  · obtain ⟨o, ho, htok', hrec, hinst⟩ := (mem_registeredOwners req db now).1
    simp only [Registration.route, Prod.mk.injEq] at hroute
    exact ⟨o, ho, htok'.trans htok.symm, hrec.trans hroute.1.symm, hinst.trans hroute.2.symm⟩
  obtain ⟨o, ho, htok, hrec, hinst⟩ := h.owned r (detachedRows_sublist.subset hmem)
  -- the owner names another route, so that it is not released
  refine ⟨o, (mem_registeredOwners req db now).2 o (mem_releasedOwners ho (.inr ?_)) ?_, htok, hrec, hinst⟩
  · rw [Bool.eq_false_iff] at hat ⊢
    simpa [hrec, hinst] using hat
  rw [htok]
  intro he
  rw [token_detached h hmem he] at hat
  cases hat

/-! ## Counts -/

theorem upsertRegistration_countP {q rows} (hk : Table.Keyed (·.route) rows)
    (hnew : q (newRegistration req now) = true)
    (hrefreshed : ∀ r, r.at req.recipientId req.installationId = true → q (refreshed req now r) = true) :
    (upsertRegistration req now rows).countP q =
      rows.countP (fun r => !r.at req.recipientId req.installationId && q r) + 1 := by
  unfold upsertRegistration
  split
  · rename_i hany
    rw [Table.countP_update_split, Nat.add_comm]
    congr 1
    have hcount : rows.countP (fun r => r.at req.recipientId req.installationId && q (refreshed req now r)) =
        rows.countP (fun r => decide (r.route = (req.recipientId, req.installationId)) && true) :=
      List.countP_congr fun r _ => by
        simp only [Bool.and_eq_true, and_true, decide_eq_true_eq]
        exact ⟨fun h => decide_eq_true_eq.mp h.1, fun h => ⟨decide_eq_true_eq.mpr h, hrefreshed r (decide_eq_true_eq.mpr h)⟩⟩
    rw [hcount, hk.countP_lookup]
    obtain ⟨r, hr, hat⟩ := List.any_eq_true.mp hany
    rw [← decide_eq_true_eq.mp hat, hk.lookup hr]
    rfl
  rename_i hnone
  rw [List.countP_append, List.countP_singleton, if_pos hnew]
  congr 1
  refine List.countP_congr fun r hr => ?_
  simp only [Bool.not_eq_true, List.any_eq_false] at hnone
  rw [hnone r hr, Bool.not_false, Bool.true_and]

theorem registeredRows_countP (req : RegisterRequest) (now : Int) {q} (h : Owned db)
    (hnew : q (newRegistration req now) = true)
    (hrefreshed : ∀ r, r.at req.recipientId req.installationId = true → q (refreshed req now r) = true) :
    ((target req db).any q).toNat +
    (tokenRegistrationIsOtherRoute req db && (tokenRegistration req db).any q).toNat ≤ db.registrations.countP q ∧
      (registeredRows req db now).countP q + (((target req db).any q).toNat +
        (tokenRegistrationIsOtherRoute req db && (tokenRegistration req db).any q).toNat) =
      db.registrations.countP q + 1 := by
  have hroutes : Table.Keyed (·.route) (detachedRows req db) := h.routes.sublist (detachedRows_sublist.map _)
  rw [registeredRows, upsertRegistration_countP hroutes hnew hrefreshed]
  -- split off the target, then the other route of the token
  have htarget : db.registrations.countP (fun r => r.at req.recipientId req.installationId && q r) =
      ((target req db).any q).toNat := h.routes.countP_lookup _
  have htoken : db.registrations.countP (fun r => decide (r.fcmToken = req.fcmToken) &&
      (!r.at req.recipientId req.installationId && q r)) =
        ((tokenRegistration req db).any (fun r => !r.at req.recipientId req.installationId && q r)).toNat :=
    h.tokens.countP_lookup _
  have hsplit := Table.countP_split (p := fun r => r.at req.recipientId req.installationId) (q := q) (t := db.registrations)
  have hsplit' := Table.countP_split (p := fun r => decide (r.fcmToken = req.fcmToken))
    (q := fun r => !r.at req.recipientId req.installationId && q r) (t := db.registrations)
  cases hother : tokenRegistrationIsOtherRoute req db with
  | false =>
    have hrows : detachedRows req db = db.registrations := by simp [detachedRows, hother]
    rw [hrows, Bool.false_and, Bool.toNat_false]
    exact ⟨by omega, by omega⟩
  | true =>
    have hrows : (detachedRows req db).countP (fun r => !r.at req.recipientId req.installationId && q r) =
        db.registrations.countP (fun r => !decide (r.fcmToken = req.fcmToken) &&
          (!r.at req.recipientId req.installationId && q r)) := by
      rw [detachedRows, if_pos hother, List.countP_filter]
      refine List.countP_congr fun r _ => ?_
      simp only [Bool.and_eq_true, bne_iff_ne, Bool.not_eq_true', decide_eq_false_iff_not, ne_eq]
      exact and_comm
    have hany : (tokenRegistration req db).any (fun r => !r.at req.recipientId req.installationId && q r) =
        (tokenRegistration req db).any q := by
      unfold tokenRegistrationIsOtherRoute at hother
      cases hr : tokenRegistration req db with
      | none => rfl
      | some r =>
        have hat : r.at req.recipientId req.installationId = false := by
          rw [Bool.eq_false_iff, Ne, Registration.at_iff]
          rintro ⟨hrec, hinst⟩
          simp [hr, hrec, hinst] at hother
        simp [hat]
    rw [hrows, Bool.true_and]
    rw [hany] at htoken
    exact ⟨by omega, by omega⟩

theorem registeredOwners_length (req : RegisterRequest) (db : Db) (now : Int) :
    (releasesTargetOldOwner req db).toNat ≤ db.owners.length ∧
      (registeredOwners req db now).length + (releasesTargetOldOwner req db).toNat =
        db.owners.length + (tokenOwner req db).isNone.toNat := by
  have hreleased : (releasedOwners req db).length + (releasesTargetOldOwner req db).toNat = db.owners.length := by
    unfold releasedOwners
    cases hrel : releasesTargetOldOwner req db with
    | false => simp
    | true =>
      unfold releasesTargetOldOwner at hrel
      cases hold : targetOldToken req db with
      | none => simp [hold] at hrel
      | some old =>
        have hcount : db.owners.countP (fun o => o.fcmToken == old && o.names req.recipientId req.installationId) =
            1 := by simpa [hold] using hrel
        have hlength := List.length_eq_countP_add_countP
          (fun o : TokenOwner => o.fcmToken == old && o.names req.recipientId req.installationId) (l := db.owners)
        have hfilter : (db.owners.filter (fun o =>
            !((some old).any (· == o.fcmToken) && o.names req.recipientId req.installationId))).length =
              db.owners.countP (fun o =>
                decide ¬(o.fcmToken == old && o.names req.recipientId req.installationId) = true) := by
          rw [← List.countP_eq_length_filter]
          refine List.countP_congr fun o _ => ?_
          rw [Option.any_some, Bool.beq_comm]
          simp only [Bool.not_eq_true', decide_eq_true_eq, Bool.not_eq_true]
        rw [if_pos rfl, hfilter, Bool.toNat_true]
        omega
  unfold registeredOwners
  cases tokenOwner req db with
  | none =>
    simp only [Option.isSome_none, Bool.false_eq_true, if_false, List.length_append, List.length_singleton,
      Option.isNone_none, Bool.toNat_true]
    exact ⟨by omega, by omega⟩
  | some o =>
    simp only [Option.isSome_some, if_true, Table.update, List.length_map, Option.isNone_some, Bool.toNat_false]
    exact ⟨by omega, by omega⟩

theorem activeCount_recipient (req : RegisterRequest) (h : Owned db) {cutoff} (hcutoff : cutoff ≤ now) :
    activeCount cutoff (some req.recipientId) (register req db now) = projectedRecipient req cutoff db := by
  have hcount := registeredRows_countP req now h
    (q := fun r => (some req.recipientId).all (· == r.recipientId) && r.active cutoff)
    (by simp [newRegistration, Registration.active, hcutoff])
    (fun r hr => by simp [refreshed, Registration.active, hcutoff, (Registration.at_iff.mp hr).1])
  have htarget : (target req db).any (fun r => (some req.recipientId).all (· == r.recipientId) && r.active cutoff) =
      targetIsActive req cutoff db := by
    unfold targetIsActive
    cases ht : target req db with
    | none => rfl
    | some r =>
      have hroute := (Table.lookup_mem ht).2
      simp only [Registration.route, Prod.mk.injEq] at hroute
      simp [hroute.1]
  have htoken : (tokenRegistrationIsOtherRoute req db && (tokenRegistration req db).any
      (fun r => (some req.recipientId).all (· == r.recipientId) && r.active cutoff)) =
        (tokenRegistrationIsOtherRoute req db && tokenRegistrationBelongsToRecipient req db &&
          tokenRegistrationIsActive req cutoff db) := by
    unfold tokenRegistrationBelongsToRecipient tokenRegistrationIsActive
    cases tokenRegistration req db with
    | none => simp
    | some r => simp [Bool.and_assoc, Bool.beq_comm]
  rw [htarget, htoken] at hcount
  simp only [activeCount, projectedRecipient, removedRecipientActive, register] at hcount ⊢
  omega

theorem activeCount_global (req : RegisterRequest) (h : Owned db) {cutoff} (hcutoff : cutoff ≤ now) :
    activeCount cutoff none (register req db now) = projectedGlobal req cutoff db := by
  have hcount := registeredRows_countP req now h (q := fun r => r.active cutoff)
    (by simp [newRegistration, Registration.active, hcutoff])
    (fun r _ => by simp [refreshed, Registration.active, hcutoff])
  simp only [activeCount, projectedGlobal, removedGlobalActive, register, Option.all_none, Bool.true_and,
    targetIsActive, tokenRegistrationIsActive] at hcount ⊢
  omega

theorem physicalCount_register (req : RegisterRequest) (now : Int) (h : Owned db) :
    physicalCount (register req db now) = projectedRows req db := by
  have hrows := registeredRows_countP req now h (q := fun _ => true) rfl (fun _ _ => rfl)
  have howners := registeredOwners_length req db now
  have hother : (tokenRegistrationIsOtherRoute req db && (tokenRegistration req db).any (fun _ => true)) =
      tokenRegistrationIsOtherRoute req db := by
    unfold tokenRegistrationIsOtherRoute
    cases tokenRegistration req db <;> simp
  have htarget : ((target req db).any (fun _ => true)).toNat + (target req db).isNone.toNat = 1 := by
    cases target req db <;> rfl
  rw [hother] at hrows
  simp only [List.countP_true] at hrows
  simp only [physicalCount, projectedRows, register] at hrows howners ⊢
  omega

end admission

end Manifold.Push
