import Manifold.Push.Invoke

/-!
# What an invocation does
-/

namespace Manifold.Push

open Lib

def roomForKey (now : Int) (p : InvocationPolicy) (i : Invocation) (db : Db) : List Tombstone :=
  if i.idempotencyKey.isNone then db.tombstones
  else (purgeExpiredInTransaction now p.idempotencyReclamationBatchSize i.tie db).tombstones

structure Enqueues (env : Env) (production : Bool) (now : Int) (p : InvocationPolicy) (i : Invocation) (h : Hook)
    (r : Registration) (db db' : Db) : Prop where
  hook : Table.lookup (·.hookId) i.hookId db.hooks = some h
  secret : h.hookSecretHash = env.hashHex i.hookSecret
  newKey : replayedTargetCount i db = none
  target : eligibleInstallation h.recipientId h.installationId (registrationCutoff now p) db = some r
  used : ∃ h' ∈ db.hooks, h'.hookId = i.hookId ∧ h'.usable production now = true
  hooks : db'.hooks =
    Table.update (fun h => h.hookId == i.hookId && h.usable production now) (·.used production now) db.hooks
  events : ∃ json, db'.events = db.events ++ [newEvent now i h.recipientId json]
  freshEvent : ∀ e ∈ db.events, e.eventId ≠ i.eventId
  tombstones : db'.tombstones =
    roomForKey now p i db ++ i.idempotencyKey.toList.map (fun key => tombstoneOf i.hookId key 1 now h.expiresAt)
  outbox : ∃ json, db'.outbox = db.outbox ++ [newDelivery now i.eventId i.outboxId json r]
  freshRow : ∀ r' ∈ db.outbox, r'.outboxId ≠ i.outboxId
  registrations : db'.registrations = db.registrations
  owners : db'.owners = db.owners

theorem Enqueues.usable {env production now p i h r db db'} (he : Enqueues env production now p i h r db db')
    (hk : Table.Keyed (·.hookId) db.hooks) : h.usable production now = true := by
  obtain ⟨h', hmem', hid', husable⟩ := he.used
  obtain ⟨hmem, hid⟩ := Table.lookup_mem he.hook
  have hsame : h' = h := hk.eq hmem' hmem (hid'.trans hid.symm)
  exact hsame ▸ husable

section stages

variable {env : Env} {production : Bool} {now : Int} {p : InvocationPolicy} {i : Invocation} {db db' : Db}

theorem reserveKey_eq_ok (h : reserveKey now p i db = .ok db') :
    db' = { db with tombstones := roomForKey now p i db } := by
  unfold reserveKey at h
  unfold roomForKey
  split at h
  · rename_i hnone
    cases h
    simp [hnone]
  rename_i hsome
  dsimp only at h
  split at h
  · cases h
    rw [if_neg hsome]
    unfold purgeExpiredInTransaction
    split <;> rfl
  · cases h

theorem useHook_eq_ok (h : useHook env production now i db = .ok db') :
    (∃ h ∈ db.hooks, h.hookId = i.hookId ∧ h.usable production now = true) ∧
      db' = { db with
        hooks := Table.update (fun h => h.hookId == i.hookId && h.usable production now) (·.used production now) db.hooks } := by
  unfold useHook at h
  split at h
  · rename_i hany
    cases h
    simp only [List.any_eq_true, Bool.and_eq_true, beq_iff_eq] at hany
    exact ⟨hany, rfl⟩
  · cases h

theorem insertEvent_eq_ok {e} (h : insertEvent e db = .ok db') :
    (∀ e' ∈ db.events, e'.eventId ≠ e.eventId) ∧ db' = { db with events := db.events ++ [e] } := by
  unfold insertEvent at h
  split at h
  · rename_i hi
    cases h
    simp only [EventRow.insertable, Bool.not_eq_true', List.any_eq_false, Bool.or_eq_true, beq_iff_eq, not_or] at hi
    exact ⟨fun e' he' => (hi e' he').1, rfl⟩
  · cases h

theorem recordKey_eq_ok {n expiresAt} (h : recordKey now i n expiresAt db = .ok db') :
    db' = { db with
      tombstones := db.tombstones ++ i.idempotencyKey.toList.map (fun key => tombstoneOf i.hookId key n now expiresAt) } := by
  unfold recordKey at h
  split at h
  · rename_i hkey
    cases h
    simp [hkey]
  rename_i key hkey
  split at h
  · cases h
  · cases h
    simp [hkey]

theorem insertDelivery_eq_ok {r} (h : insertDelivery r db = .ok db') :
    (∀ r' ∈ db.outbox, r'.outboxId ≠ r.outboxId) ∧ db' = { db with outbox := db.outbox ++ [r] } := by
  unfold insertDelivery at h
  split at h
  · cases h
  rename_i hi
  cases h
  simp only [List.any_eq_true, not_exists, not_and, Bool.or_eq_true, beq_iff_eq, not_or] at hi
  exact ⟨fun r' hr' => (hi r' hr').1, rfl⟩

theorem enqueue_eq_ok {h data r} (he : enqueue env now p i h data r db = .ok db') :
    (∀ e ∈ db.events, e.eventId ≠ i.eventId) ∧ (∀ r' ∈ db.outbox, r'.outboxId ≠ i.outboxId) ∧ ∃ json,
      db' = { db with
        events := db.events ++ [newEvent now i h.recipientId json]
        tombstones := db.tombstones ++ i.idempotencyKey.toList.map (fun key => tombstoneOf i.hookId key 1 now h.expiresAt)
        outbox := db.outbox ++ [newDelivery now i.eventId i.outboxId json r] } := by
  simp only [enqueue, bind_eq_ok] at he
  obtain ⟨-, -, -, -, -, -, -, -, db₁, h₁, -, -, db₂, h₂, -, -, h₃⟩ := he
  obtain ⟨hevent, rfl⟩ := insertEvent_eq_ok h₁
  have h₂ := recordKey_eq_ok h₂
  subst h₂
  obtain ⟨hrow, rfl⟩ := insertDelivery_eq_ok h₃
  exact ⟨hevent, hrow, env.encode (notificationFromHookAndRequest i h data), rfl⟩

theorem acceptNew_eq_ok {h data outcome} (hhook : Table.lookup (·.hookId) i.hookId db.hooks = some h)
    (hsecret : h.hookSecretHash = env.hashHex i.hookSecret) (hkey : replayedTargetCount i db = none)
    (ha : acceptNew env production now p i h data db = .ok (outcome, db')) :
    outcome = ⟨1, true⟩ ∧ ∃ r, Enqueues env production now p i h r db db' := by
  simp only [acceptNew, bind_eq_ok] at ha
  obtain ⟨-, -, -, -, r, hr, -, -, db₁, h₁, -, -, -, -, db₂, h₂, db₃, h₃, -, -, hdone⟩ := ha
  cases hdone
  have h₁ := reserveKey_eq_ok h₁
  subst h₁
  obtain ⟨hused, rfl⟩ := useHook_eq_ok h₂
  obtain ⟨hevent, hrow, json, rfl⟩ := enqueue_eq_ok h₃
  refine ⟨rfl, r, ?_⟩
  exact {
    hook := hhook
    secret := hsecret
    newKey := hkey
    target := by
      unfold eligibleTarget at hr
      split at hr
      · rename_i r' hr'
        cases hr
        exact hr'
      · cases hr
    used := hused
    hooks := rfl
    events := ⟨json, rfl⟩
    freshEvent := hevent
    tombstones := rfl
    outbox := ⟨json, rfl⟩
    freshRow := hrow
    registrations := rfl
    owners := rfl }

end stages

section invocation

variable {env : Env} {production : Bool} {now : Int} {p : InvocationPolicy} {i : Invocation} {db : Db}

theorem authenticate_eq_ok {h data} (ha : authenticate env i db = .ok (h, data)) :
    Table.lookup (·.hookId) i.hookId db.hooks = some h ∧ h.hookSecretHash = env.hashHex i.hookSecret := by
  unfold authenticate at ha
  split at ha
  · cases ha
  rename_i h' hh'
  split at ha
  · rename_i hs
    split at ha
    · cases ha
      exact ⟨hh', hs⟩
    · cases ha
  · cases ha

theorem acceptInvocation_cases (env : Env) (production : Bool) (now : Int) (p : InvocationPolicy) (i : Invocation)
    (db : Db) :
    (∃ h r, (acceptInvocation env production now p i db).1 = .ok ⟨1, true⟩ ∧
        Enqueues env production now p i h r db (acceptInvocation env production now p i db).2) ∨
      (acceptInvocation env production now p i db).2 = db ∧
        ∀ o, (acceptInvocation env production now p i db).1 = .ok o → o.enqueuedRows = false := by
  unfold acceptInvocation
  split
  · rename_i outcome db' hbody
    simp only [invocationBody, bind_eq_ok] at hbody
    obtain ⟨-, -, ⟨h, data⟩, hauth, -, -, -, -, hbody⟩ := hbody
    obtain ⟨hhook, hsecret⟩ := authenticate_eq_ok hauth
    split at hbody
    · unfold Invocation.attempt at hbody
      split at hbody
      · cases hbody
      cases hbody
      refine .inr ⟨rfl, fun o ho => ?_⟩
      cases ho
      rfl
    · rename_i hnew
      obtain ⟨rfl, r, he⟩ := acceptNew_eq_ok hhook hsecret hnew hbody
      exact .inl ⟨h, r, rfl, he⟩
  · exact .inr ⟨rfl, fun o ho => by cases ho⟩

end invocation

end Manifold.Push
