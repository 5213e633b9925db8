import Manifold.Liquidity.Setup

/-!
# What a setup writer has read and computes
-/

namespace Manifold.Liquidity

/-- The row was stored at some time, and it is the stored one if the revision is still the same. -/
structure Snapshot (db : Db) (stored : StoredSetup) : Prop where
  old : stored.revision ≤ db.setup.revision
  same : stored.revision = db.setup.revision → stored = db.setup

def SetupMoves (db db' : Db) : Prop :=
  db'.setup = db.setup ∨ db.setup.revision < db'.setup.revision

theorem Snapshot.now (db : Db) : Snapshot db db.setup := ⟨le_refl _, fun _ => rfl⟩

theorem Snapshot.moves {db db' stored} (h : Snapshot db stored) (hm : SetupMoves db db') : Snapshot db' stored := by
  rcases hm with he | hlt
  · exact ⟨he ▸ h.old, fun heq => he ▸ h.same (he ▸ heq)⟩
  · refine ⟨h.old.trans hlt.le, fun heq => ?_⟩
    exact absurd (heq ▸ h.old) (Nat.not_le.mpr hlt)

namespace SetupVerb

def candidate (stored : StoredSetup) (hasPassword : Bool) : SetupVerb → Option SetupConfig
  | .applySetupConfig _ _ request =>
    match ensureGatewayIdentityUnchanged stored.config request, setupConfigToView request hasPassword with
    | .ok _, .ok config => some config
    | _, _ => none
  | .updateProviderConfig _ patch => stored.config.map (fun config => applyProviderPatch config patch)
  | _ => none

def computed (stored : StoredSetup) (hasPassword : Bool) (validation : SetupValidationSummary) (verb : SetupVerb) :
    Option StoredSetup :=
  match verb with
  | .refreshPasswordFlag present =>
    (stored.config.bind (refreshed present)).map (fun config =>
      ⟨some config, stored.ready, stored.revision + 1, some (stored.validation.getD ⟨.notRun, []⟩)⟩)
  | .adoptIrohAddress nodeId =>
    (stored.config.bind (adopted nodeId)).map (fun config =>
      ⟨some config, stored.ready, stored.revision + 1, some (stored.validation.getD ⟨.passed, []⟩)⟩)
  | verb =>
    (verb.candidate stored hasPassword).map (fun config =>
      ⟨some (verb.normalizeAdvertisedEndpoint stored.config config), statusFromValidation validation,
        stored.revision + 1, some validation⟩)

def identityKept (stored : StoredSetup) : SetupVerb → Prop
  | .applySetupConfig _ _ request => ensureGatewayIdentityUnchanged stored.config request = .ok ()
  | _ => True

def Writes (db : Db) (stored : StoredSetup) (verb : SetupVerb) (row : StoredSetup) : Prop :=
  stored.revision < db.setup.revision ∨ ∃ hasPassword validation, verb.computed stored hasPassword validation = some row

end SetupVerb

def SetupPhase.Holds (db : Db) (verb : SetupVerb) : SetupPhase → Prop
  | .load _ => True
  | .settled stored | .credential stored | .password stored => Snapshot db stored ∧ verb.identityKept stored
  | .normalize stored config => Snapshot db stored ∧ ∃ hasPassword, verb.candidate stored hasPassword = some config
  | .validate stored config =>
    Snapshot db stored ∧ ∀ validation, verb.Writes db stored
      ⟨some config, statusFromValidation validation, stored.revision + 1, some validation⟩
  | .write _ stored config ready validation =>
    Snapshot db stored ∧ verb.Writes db stored ⟨some config, ready, stored.revision + 1, some validation⟩

section

variable {db db' : Db} {verb : SetupVerb} {phase : SetupPhase} {stored : StoredSetup}

theorem SetupVerb.Writes.moves {row} (h : verb.Writes db stored row) (hm : SetupMoves db db') :
    verb.Writes db' stored row := by
  rcases h with hlt | h
  · left
    rcases hm with he | hm
    · rw [he]; exact hlt
    · exact hlt.trans hm
  · exact .inr h

theorem SetupPhase.Holds.moves (h : phase.Holds db verb) (hm : SetupMoves db db') : phase.Holds db' verb := by
  cases phase with
  | load _ => trivial
  | settled | credential | password | normalize => exact ⟨h.1.moves hm, h.2⟩
  | validate _ _ => exact ⟨h.1.moves hm, fun validation => (h.2 validation).moves hm⟩
  | write => exact ⟨h.1.moves hm, h.2.moves hm⟩

theorem SetupVerb.start_holds (h : verb.start = some phase) : phase.Holds db verb := by
  cases verb with
  | applySetupConfig fixtures nodeId request =>
    simp only [start] at h
    split at h <;> cases h
    trivial
  | updateProviderConfig | refreshPasswordFlag | adoptIrohAddress => cases h; trivial

/-! ## One await -/

theorem SetupVerb.derive_holds {attempts validation config} (hsnap : Snapshot db stored)
    (h : derive attempts stored validation config = .inl phase)
    (hc : ∀ c, config = some c → ∃ hasPassword v, verb.computed stored hasPassword v =
      some ⟨some c, stored.ready, stored.revision + 1, some (stored.validation.getD validation)⟩) :
    phase.Holds db verb := by
  cases config with
  | none => cases h
  | some c =>
    cases h
    exact ⟨hsnap, .inr (hc c rfl)⟩

theorem SetupVerb.loaded_holds {attempts} (hsnap : Snapshot db stored)
    (h : verb.loaded attempts stored = .inl phase) : phase.Holds db verb := by
  cases verb with
  | applySetupConfig fixtures nodeId request =>
    simp only [loaded] at h
    split at h
    · cases h
    · rename_i hid
      cases h
      exact ⟨hsnap, hid⟩
  | updateProviderConfig nodeId patch =>
    simp only [loaded] at h
    split at h
    · cases h; exact ⟨hsnap, trivial⟩
    · cases h
  | refreshPasswordFlag | adoptIrohAddress =>
    refine derive_holds hsnap h fun c hc => ⟨true, ⟨.passed, []⟩, ?_⟩
    simp only [computed, hc, Option.map_some]

theorem SetupVerb.afterSettled_holds (hsnap : Snapshot db stored) (hid : verb.identityKept stored)
    (h : verb.afterSettled stored = .inl phase) : phase.Holds db verb := by
  cases verb with
  | updateProviderConfig nodeId patch =>
    simp only [afterSettled] at h
    split at h
    · rename_i config hc
      cases h
      exact ⟨hsnap, true, by simp [candidate, hc]⟩
    · cases h
  | applySetupConfig | refreshPasswordFlag | adoptIrohAddress => cases h; exact ⟨hsnap, hid⟩

theorem SetupVerb.candidate_writes {hasPassword config} (hsnap : Snapshot db stored)
    (h : verb.candidate stored hasPassword = some config) (validation : SetupValidationSummary) :
    verb.Writes db stored ⟨some (verb.normalizeAdvertisedEndpoint db.setup.config config),
      statusFromValidation validation, stored.revision + 1, some validation⟩ := by
  rcases Nat.lt_or_ge stored.revision db.setup.revision with hlt | hge
  · exact .inl hlt
  have he := hsnap.same (le_antisymm hsnap.old hge)
  refine .inr ⟨hasPassword, validation, ?_⟩
  cases verb with
  | applySetupConfig | updateProviderConfig => simp [computed, h, ← he]
  | refreshPasswordFlag | adoptIrohAddress => cases h

theorem SetupVerb.lostFence_holds {attempts} (h : verb.lostFence attempts = .inl phase) : phase.Holds db verb := by
  cases verb with
  | applySetupConfig | updateProviderConfig => cases h
  | refreshPasswordFlag | adoptIrohAddress =>
    simp only [lostFence] at h
    split at h <;> cases h
    trivial

theorem SetupVerb.resume_db (h : phase.Holds db verb) (x : SetupChoice) :
    (verb.resume db x phase).1 = db ∨
      ∃ row, (verb.resume db x phase).1 = { db with setup := row } ∧
        (∃ hasPassword validation, verb.computed db.setup hasPassword validation = some row) ∧
        verb.policySettled db db.setup = .ok () := by
  unfold resume
  split
  · exact .inl rfl
  cases phase with
  | load | normalize | validate => exact .inl rfl
  | settled | credential => dsimp only; split <;> exact .inl rfl
  | password stored =>
    dsimp only
    split
    · split <;> exact .inl rfl
    · exact .inl rfl
  | write attempts stored config ready validation =>
    dsimp only
    unfold write
    split
    · exact .inl rfl
    rename_i hsettled
    split
    · exact .inl rfl
    rename_i db' hw
    right
    unfold Db.tryUpsertSetupState at hw
    split at hw
    · rename_i hrev
      cases hw
      have he := h.1.same hrev.symm
      refine ⟨_, rfl, ?_, he ▸ hsettled⟩
      rcases h.2 with hlt | hc
      · exact absurd hrev (Nat.ne_of_gt hlt)
      · rw [← he]; exact hc
    · cases hw

theorem SetupVerb.computed_revision {hasPassword validation row}
    (h : verb.computed stored hasPassword validation = some row) : row.revision = stored.revision + 1 := by
  cases verb <;> simp only [computed, Option.map_eq_some_iff] at h <;> obtain ⟨_, _, rfl⟩ := h <;> rfl

theorem SetupVerb.resume_moves (h : phase.Holds db verb) (x : SetupChoice) :
    SetupMoves db (verb.resume db x phase).1 := by
  rcases verb.resume_db h x with he | ⟨row, he, ⟨_, _, hc⟩, -⟩
  · rw [he]; exact .inl rfl
  rw [he]
  refine .inr ?_
  rw [computed_revision hc]
  exact Nat.lt_succ_self _

theorem SetupVerb.resume_holds {x next}
    (h : phase.Holds db verb) (hn : (verb.resume db x phase).2 = .inl next) :
    next.Holds (verb.resume db x phase).1 verb := by
  suffices hnow : next.Holds db verb from hnow.moves (verb.resume_moves h x)
  unfold resume at hn
  split at hn
  · cases hn
  cases phase with
  | load attempts => exact loaded_holds (Snapshot.now db) hn
  | settled stored =>
    dsimp only at hn
    split at hn
    · cases hn
    · exact afterSettled_holds h.1 h.2 hn
  | credential stored =>
    dsimp only at hn
    split at hn <;> cases hn
    exact h
  | password stored =>
    dsimp only at hn
    split at hn
    · split at hn
      · cases hn
      rename_i _ fixtures nodeId request _ config hview
      cases hn
      have hid : ensureGatewayIdentityUnchanged stored.config request = .ok () := h.2
      exact ⟨h.1, x.secretStored, by simp only [candidate, hid, hview]⟩
    · cases hn
  | normalize stored config =>
    cases hn
    obtain ⟨hsnap, hasPassword, hc⟩ := h
    exact ⟨hsnap, candidate_writes hsnap hc⟩
  | validate stored config =>
    cases hn
    exact ⟨h.1, h.2 x.validation⟩
  | write attempts stored config ready validation =>
    dsimp only at hn
    unfold write at hn
    split at hn
    · cases hn
    · split at hn
      · exact lostFence_holds hn
      · cases hn

/-! ## What a computed row keeps -/

def SameGateway (c c' : SetupConfig) : Prop := c'.gatewayId = c.gatewayId ∧ c'.adminUrl = c.adminUrl

theorem SameGateway.trans {a b c} (h₁ : SameGateway a b) (h₂ : SameGateway b c) : SameGateway a c :=
  ⟨h₂.1.trans h₁.1, h₂.2.trans h₁.2⟩

end

end Manifold.Liquidity
