import Manifold.Lib.Window
import Manifold.Push.Lemmas.Hooks

/-!
# Hooks are used within their policy
-/

namespace Manifold.Push

open Lib

/-! ## The uses of a hook -/

def hookLife (hookId : String) (es : List Event) : List Event := Trace.since (· == .hookCreated hookId) es

def Event.isUse (hookId : String) : Event → Bool
  | .enqueued h _ _ _ _ => h == hookId
  | _ => false

def Event.useOf (hookId : String) : Event → Option Window.Use
  | .enqueued h _ _ now (some start) => if h = hookId then some ⟨now, start⟩ else none
  | _ => none

def useNumber (hookId : String) (es : List Event) : Nat := (hookLife hookId es).countP (·.isUse hookId)

def uses (hookId : String) (es : List Event) : List Window.Use := (hookLife hookId es).filterMap (·.useOf hookId)

section uses

variable {hookId : String} {es out : List Event}

theorem hookLife_append (h : .hookCreated hookId ∉ out) : hookLife hookId (es ++ out) = hookLife hookId es ++ out :=
  Trace.since_append fun e he => by
    rw [beq_eq_false_iff_ne]
    rintro rfl
    exact h he

theorem isUse_of_useOf {e : Event} (h : e.isUse hookId = false) : e.useOf hookId = none := by
  cases e with
  | enqueued h' key n now start =>
    simp only [Event.isUse, beq_eq_false_iff_ne] at h
    cases start <;> simp [Event.useOf, h]
  | _ => rfl

theorem uses_append (hc : .hookCreated hookId ∉ out) (hu : ∀ e ∈ out, e.isUse hookId = false) :
    uses hookId (es ++ out) = uses hookId es ∧ useNumber hookId (es ++ out) = useNumber hookId es := by
  have hnone : out.filterMap (·.useOf hookId) = [] :=
    List.filterMap_eq_nil_iff.mpr fun e he => isUse_of_useOf (hu e he)
  have hzero : out.countP (·.isUse hookId) = 0 :=
    List.countP_eq_zero.mpr fun e he => Bool.eq_false_iff.mp (hu e he)
  constructor
  · rw [uses, hookLife_append hc, List.filterMap_append, hnone, List.append_nil, uses]
  · rw [useNumber, hookLife_append hc, List.countP_append, hzero, Nat.add_zero, useNumber]

theorem uses_quiet (h : ∀ e ∈ out, e.onHook = false) :
    uses hookId (es ++ out) = uses hookId es ∧ useNumber hookId (es ++ out) = useNumber hookId es := by
  refine uses_append (fun hc => ?_) fun e he => ?_
  · cases h _ hc
  · have := h e he
    cases e <;> first | rfl | cases this

theorem uses_created (hookId : String) (es : List Event) : uses hookId (es ++ [.hookCreated hookId]) = [] ∧
    useNumber hookId (es ++ [.hookCreated hookId]) = 0 := by
  simp [uses, useNumber, hookLife, Trace.since_snoc]

theorem uses_enqueued
    (hookId : String) (es : List Event) (o : String) (key : Option String) (n : Nat) (now start : Int) :
    uses hookId (es ++ [.inserted o, .enqueued hookId key n now (some start)]) = uses hookId es ++ [⟨now, start⟩] ∧
      useNumber hookId (es ++ [.inserted o, .enqueued hookId key n now (some start)]) = useNumber hookId es + 1 := by
  have hc : .hookCreated hookId ∉ [Event.inserted o, .enqueued hookId key n now (some start)] := by simp
  constructor
  · rw [uses, hookLife_append hc, List.filterMap_append]
    simp [Event.useOf, uses]
  · rw [useNumber, hookLife_append hc, List.countP_append]
    simp [Event.isUse, useNumber]

end uses

/-! ## The counters -/

structure HookOk (env : Env) (production : Bool) (clock : Int) (es : List Event) (h : Hook) : Prop where
  count : (useNumber h.hookId es : Int) = h.useCount
  recorded : (uses h.hookId es).length = useNumber h.hookId es
  maxUses : ∀ m, h.maxUses = some m → h.useCount ≤ m
  window : ∃ w, h.rateLimitWindowSeconds = some w ∧ 0 < w
  maxRequests : ∃ m, h.rateLimitMaxRequests = some m ∧ 0 < m
  decodes : (env.decodeData h.content.dataJson).isSome = true
  tracks : ∀ w m, h.effectiveWindow production = some w → h.effectiveMaxRequests production = some m →
    Window.Tracks w m h.rateLimitWindowStartedAt h.rateLimitCount clock (uses h.hookId es)

section counters

variable {env : Env} {production : Bool} {clock : Int} {es out : List Event} {h : Hook}

theorem effective_positive (production : Bool) (hwindow : ∃ w, h.rateLimitWindowSeconds = some w ∧ 0 < w)
    (hmax : ∃ m, h.rateLimitMaxRequests = some m ∧ 0 < m) :
    (∃ w, h.effectiveWindow production = some w ∧ 0 < w) ∧ ∃ m, h.effectiveMaxRequests production = some m ∧ 0 < m := by
  obtain ⟨w, hw, hwpos⟩ := hwindow
  obtain ⟨m, hm, hmpos⟩ := hmax
  constructor
  · unfold Hook.effectiveWindow
    split
    · exact ⟨_, rfl, by decide⟩
    · exact ⟨w, hw, hwpos⟩
  unfold Hook.effectiveMaxRequests
  split
  · exact ⟨_, rfl, by decide⟩
  · exact ⟨m, hm, hmpos⟩

theorem HookOk.limited (hok : HookOk env production clock es h) : h.unlimited production = false := by
  obtain ⟨w, hw, -⟩ := hok.window
  obtain ⟨m, hm, -⟩ := hok.maxRequests
  simp [Hook.unlimited, hw, hm]

theorem HookOk.later {clock'} (hok : HookOk env production clock es h) (hle : clock ≤ clock')
    (hsame : uses h.hookId (es ++ out) = uses h.hookId es ∧ useNumber h.hookId (es ++ out) = useNumber h.hookId es) :
    HookOk env production clock' (es ++ out) h := by
  obtain ⟨huses, hnumber⟩ := hsame
  refine ⟨?_, ?_, hok.maxUses, hok.window, hok.maxRequests, hok.decodes, fun w m hw hm => ?_⟩
  · rw [hnumber]
    exact hok.count
  · rw [huses, hnumber]
    exact hok.recorded
  · rw [huses]
    exact (hok.tracks w m hw hm).later hle

theorem hookOk_of_unused (es : List Event) (hu : h.Unused env) :
    HookOk env production clock (es ++ [.hookCreated h.hookId]) h := by
  obtain ⟨huses, hnumber⟩ := uses_created h.hookId es
  refine ⟨?_, ?_, fun m hm => ?_, hu.window, hu.maxRequests, hu.decodes, fun w m hw hm => ?_⟩
  · rw [hnumber, hu.useCount]
    rfl
  · rw [huses, hnumber]
    rfl
  · rw [hu.useCount]
    exact Int.le_of_lt (hu.maxUses m hm)
  obtain ⟨-, m', hm', hpos⟩ := effective_positive production hu.window hu.maxRequests
  rw [hm] at hm'
  cases hm'
  rw [huses, hu.started]
  exact Window.Tracks.nil (Int.le_of_lt hpos)

theorem usable_iff {now} : h.usable production now = true ↔
    h.revokedAt = none ∧ (∀ x, h.expiresAt = some x → now < x) ∧ (∀ m, h.maxUses = some m → h.useCount < m) ∧
      (h.unlimited production = true ∨ h.windowOver production now = true ∨
        ∃ m, h.effectiveMaxRequests production = some m ∧ h.rateLimitCount < m) := by
  simp only [Hook.usable, Bool.and_eq_true, Bool.or_eq_true, Option.isNone_iff_eq_none, Option.all_eq_true,
    decide_eq_true_eq, Option.any_eq_true, and_assoc, or_assoc]

theorem HookOk.tracks_used (hok : HookOk env production clock es h) (husable : h.usable production clock = true) :
    ∃ start, (h.used production clock).rateLimitWindowStartedAt = some start ∧
      ∀ w m, h.effectiveWindow production = some w → h.effectiveMaxRequests production = some m →
        Window.Tracks w m (some start) (h.used production clock).rateLimitCount clock
          (uses h.hookId es ++ [⟨clock, start⟩]) := by
  obtain ⟨⟨w, hw, hwpos⟩, m, hm, hmpos⟩ := effective_positive production hok.window hok.maxRequests
  have htracks := hok.tracks w m hw hm
  have hlimited := hok.limited
  cases hover : h.windowOver production clock with
  | true =>
    refine ⟨clock, by simp [Hook.used, hover], fun w' m' hw' hm' => ?_⟩
    rw [hw] at hw'
    rw [hm] at hm'
    cases hw'
    cases hm'
    have hcount : (h.used production clock).rateLimitCount = 1 := by simp [Hook.used, hover, hlimited]
    rw [hcount]
    refine htracks.renew hwpos hmpos fun x hx => ?_
    simpa [Hook.windowOver, hx, hw] using hover
  | false =>
    cases hs : h.rateLimitWindowStartedAt with
    | none => simp [Hook.windowOver, hs] at hover
    | some x =>
      refine ⟨x, by simp [Hook.used, hover, hlimited, hs], fun w' m' hw' hm' => ?_⟩
      rw [hw] at hw'
      rw [hm] at hm'
      cases hw'
      cases hm'
      have hcount : (h.used production clock).rateLimitCount = h.rateLimitCount + 1 := by
        simp [Hook.used, hover, hlimited]
      have hroom : h.rateLimitCount < m := by
        obtain ⟨-, -, -, hrate⟩ := usable_iff.mp husable
        rw [hlimited, hover] at hrate
        simpa [hm] using hrate
      have hopen : clock < x + w := by simpa [Hook.windowOver, hs, hw] using hover
      rw [hcount]
      rw [hs] at htracks
      exact htracks.again hopen hroom

theorem HookOk.used (hok : HookOk env production clock es h) (husable : h.usable production clock = true) :
    ∃ start, (h.used production clock).rateLimitWindowStartedAt = some start ∧ ∀ o key n,
      HookOk env production clock (es ++ [.inserted o, .enqueued h.hookId key n clock (some start)])
        (h.used production clock) := by
  obtain ⟨start, hstart, htracks⟩ := hok.tracks_used husable
  refine ⟨start, hstart, fun o key n => ?_⟩
  obtain ⟨huses, hnumber⟩ := uses_enqueued h.hookId es o key n clock start
  have hid : (h.used production clock).hookId = h.hookId := rfl
  refine ⟨?_, ?_, fun m hm => ?_, hok.window, hok.maxRequests, hok.decodes, fun w m hw hm => ?_⟩
  · rw [hid, hnumber, Int.natCast_add, hok.count]
    rfl
  · rw [hid, huses, hnumber, List.length_append, hok.recorded]
    rfl
  · obtain ⟨-, -, hmax, -⟩ := usable_iff.mp husable
    exact Int.add_one_le_of_lt (hmax m hm)
  · rw [hid, huses, hstart]
    exact htracks w m hw hm

end counters

/-! ## Runs -/

def Remembers (es : List Event) (t : Tombstone) : Prop :=
  ∃ now start, .enqueued t.hookId (some t.callerIdempotencyKey) t.targetCount.toNat now start ∈ es

structure HooksOk (env : Env) (production : Bool) (es : List Event) (s : Store) : Prop where
  keyed : Table.Keyed (·.hookId) s.db.hooks
  hooks : ∀ h ∈ s.db.hooks, HookOk env production s.clock es h
  tombstones : ∀ t ∈ s.db.tombstones, Remembers es t

section steps

variable {env : Env} {production : Bool} {s t : Store} {es out : List Event}

theorem HooksOk.remembers (hok : HooksOk env production es s) (hsub : t.db.tombstones ⊆ s.db.tombstones) :
    ∀ x ∈ t.db.tombstones, Remembers (es ++ out) x := by
  intro x hx
  obtain ⟨now, start, hmem⟩ := hok.tombstones x (hsub hx)
  exact ⟨now, start, List.mem_append_left _ hmem⟩

theorem roomForKey_subset {now p i db} : roomForKey now p i db ⊆ db.tombstones := by
  unfold roomForKey
  split
  · exact List.Subset.refl _
  · exact purgeExpiredInTransaction_tombstones ..

theorem HooksOk.enqueue {p i h r} (hok : HooksOk env production es s) (hclock : t.clock = s.clock)
    (he : Enqueues env production s.clock p i h r s.db t.db) :
    HooksOk env production
      (es ++ [.inserted i.outboxId, .enqueued i.hookId i.idempotencyKey 1 s.clock (windowStartOf i.hookId t.db)]) t := by
  obtain ⟨hmem, hid⟩ := Table.lookup_mem he.hook
  have husable := he.usable hok.keyed
  obtain ⟨start, hstart, hused⟩ := (hok.hooks h hmem).used husable
  have hwindow : windowStartOf i.hookId t.db = some start := by
    have hlookup : Table.lookup (·.hookId) i.hookId t.db.hooks = (Table.lookup (·.hookId) i.hookId s.db.hooks).map
        (fun h => if h.hookId == i.hookId && h.usable production s.clock then h.used production s.clock else h) := by
      rw [he.hooks]
      exact Table.lookup_update fun _ _ => rfl
    rw [he.hook] at hlookup
    simp [windowStartOf, hlookup, hid, husable, hstart]
  rw [hwindow]
  refine ⟨?_, fun h' hh' => ?_, fun x hx => ?_⟩
  · rw [he.hooks]
    exact hok.keyed.update fun _ _ => rfl
  · rw [he.hooks] at hh'
    obtain ⟨h₀, hh₀, rfl⟩ := Table.mem_update.mp hh'
    by_cases hsame : h₀.hookId = i.hookId
    · have heq : h₀ = h := hok.keyed.eq hh₀ hmem (hsame.trans hid.symm)
      subst heq
      rw [if_pos (by simp [hid, husable]), hclock, ← hid]
      exact hused _ _ _
    · rw [if_neg (by simp [hsame]), hclock]
      refine (hok.hooks h₀ hh₀).later (Int.le_refl _) (uses_append (by simp) ?_)
      simp [Event.isUse, Ne.symm hsame]
  rw [he.tombstones, List.mem_append] at hx
  rcases hx with hx | hx
  · obtain ⟨now, start', hm⟩ := hok.tombstones x (roomForKey_subset hx)
    exact ⟨now, start', List.mem_append_left _ hm⟩
  obtain ⟨key, hkey, rfl⟩ := List.mem_map.mp hx
  rw [Option.mem_toList] at hkey
  refine ⟨s.clock, some start, List.mem_append_right _ ?_⟩
  simp [tombstoneOf, Option.mem_def.mp hkey]

theorem HooksOk.step (hok : HooksOk env production es s) (hs : HookStep env production s t out) :
    HooksOk env production (es ++ out) t := by
  cases hs with
  | keep clock hooks tombstones quiet =>
    refine ⟨hooks ▸ hok.keyed, fun h hh => ?_, hok.remembers tombstones⟩
    exact (hok.hooks h (hooks ▸ hh)).later clock (uses_quiet quiet)
  | drop clock hooks tombstones =>
    refine ⟨hooks ▸ hok.keyed.filter, fun h hh => ?_, hok.remembers tombstones⟩
    rw [hooks] at hh
    exact (hok.hooks h (List.mem_of_mem_filter hh)).later (Int.le_of_eq clock.symm) (uses_quiet (by simp))
  | revoke clock hooks tombstones =>
    refine ⟨hooks ▸ hok.keyed.update fun _ _ => rfl, fun h hh => ?_, hok.remembers tombstones⟩
    rw [hooks] at hh
    obtain ⟨h₀, hh₀, rfl⟩ := Table.mem_update.mp hh
    have hlater : HookOk env production t.clock (es ++ []) h₀ :=
      (hok.hooks h₀ hh₀).later (Int.le_of_eq clock.symm) (uses_quiet (by simp))
    split
    · exact ⟨hlater.count, hlater.recorded, hlater.maxUses, hlater.window, hlater.maxRequests, hlater.decodes,
        hlater.tracks⟩
    · exact hlater
  | create clock hooks fresh unused tombstones =>
    refine ⟨hooks ▸ hok.keyed.filter.append fresh, fun h hh => ?_, hok.remembers tombstones⟩
    rw [hooks, List.mem_append, List.mem_singleton] at hh
    rcases hh with hh | rfl
    · refine (hok.hooks h (List.mem_of_mem_filter hh)).later (Int.le_of_eq clock.symm) (uses_append ?_ ?_)
      · simpa using fresh h hh
      · simp [Event.isUse]
    · exact hookOk_of_unused es unused
  | enqueue clock he => exact hok.enqueue clock he

def Ended (hookId : String) (s : Store) : Prop := ∀ h ∈ s.db.hooks, h.hookId = hookId → h.terminated s.clock = true

theorem terminated_later {h : Hook} {now now'} (ht : h.terminated now = true) (hle : now ≤ now') :
    h.terminated now' = true := by
  simp only [Hook.terminated, Bool.or_eq_true, Option.any_eq_true, decide_eq_true_eq] at ht ⊢
  rcases ht with ⟨x, hx, hxle⟩ | hrevoked
  · exact .inl ⟨x, hx, Int.le_trans hxle hle⟩
  · exact .inr hrevoked

theorem not_terminated_of_usable {h : Hook} {now} (hu : h.usable production now = true) : h.terminated now = false := by
  obtain ⟨hrevoked, hexpires, -, -⟩ := usable_iff.mp hu
  simp only [Hook.terminated, hrevoked, Option.isSome_none, Bool.or_false, Option.any_eq_false, decide_eq_false_iff_not,
    Int.not_le]
  exact hexpires

theorem HookStep.ended {hookId} (hs : HookStep env production s t out) (hend : Ended hookId s)
    (hnew : .hookCreated hookId ∉ out) : Ended hookId t ∧ ∀ e ∈ out, e.isUse hookId = false := by
  cases hs with
  | keep clock hooks tombstones quiet =>
    refine ⟨fun h hh hid => terminated_later (hend h (hooks ▸ hh) hid) clock, fun e he => ?_⟩
    have := quiet e he
    cases e <;> first | rfl | cases this
  | drop clock hooks =>
    refine ⟨fun h hh hid => ?_, by simp⟩
    rw [hooks] at hh
    exact clock ▸ hend h (List.mem_of_mem_filter hh) hid
  | revoke clock hooks =>
    refine ⟨fun h hh hid => ?_, by simp⟩
    rw [hooks] at hh
    obtain ⟨h₀, hh₀, rfl⟩ := Table.mem_update.mp hh
    rw [clock]
    split
    · simp [Hook.terminated]
    · rename_i hp
      rw [if_neg hp] at hid
      exact hend h₀ hh₀ hid
  | create clock hooks fresh unused =>
    refine ⟨fun h hh hid => ?_, by simp [Event.isUse]⟩
    rw [hooks, List.mem_append, List.mem_singleton] at hh
    rcases hh with hh | rfl
    · exact clock ▸ hend h (List.mem_of_mem_filter hh) hid
    · simp [hid] at hnew
  | @enqueue p i h r clock he =>
    obtain ⟨h', hh', hid', husable⟩ := he.used
    have hother : i.hookId ≠ hookId := fun hsame => by
      have hcontra := hend h' hh' (hid'.trans hsame)
      rw [not_terminated_of_usable husable] at hcontra
      cases hcontra
    refine ⟨fun h hh hid => ?_, by simp [Event.isUse, hother]⟩
    rw [he.hooks] at hh
    obtain ⟨h₀, hh₀, rfl⟩ := Table.mem_update.mp hh
    rw [clock]
    split
    · rename_i hp
      rw [if_pos hp] at hid
      simp only [Bool.and_eq_true, beq_iff_eq] at hp
      exact absurd (hp.1.symm.trans hid) hother
    · rename_i hp
      rw [if_neg hp] at hid
      exact hend h₀ hh₀ hid

end steps

section runs

variable {env : Env} {production : Bool} {es : List (Service.Note Event)} {s : Server Store Phase}

theorem hookStep_of_step {a t out} (h : (runs env production).step s a = some (t, out)) :
    HookStep env production s.shared t.shared (log out) := by
  cases steps_of_runs h with
  | begin | drop => exact .keep (Int.le_refl _) rfl (List.Subset.refl _) (by simp [log])
  | resume number x p t q out hg hp hres =>
    rw [log_map]
    exact hookStep_of_resume hres
  | outside b t out hg hb =>
    rw [log_map]
    exact hookStep_of_outside hb

theorem hooksOk_of_reaches (h : (runs env production).Reaches es s) : HooksOk env production (log es) s.shared := by
  refine Machine.Reaches.induct
    (I := fun es (s : Server Store Phase) => HooksOk env production (log es) s.shared) ?_ ?_ h
  · rintro s ⟨⟨hdb, -⟩, -⟩
    refine ⟨?_, ?_, ?_⟩ <;> simp [hdb, Table.Keyed]
  · intro es s a t out hr hok hs
    rw [log_append]
    exact hok.step (hookStep_of_step hs)

theorem ended_never_used {hookId fs t} (h : (runs env production).Run s fs t) (hend : Ended hookId s.shared)
    (hnew : .hookCreated hookId ∉ log fs) :
    Ended hookId t.shared ∧ ∀ e ∈ log fs, e.isUse hookId = false := by
  induction h with
  | nil => exact ⟨hend, by simp [log]⟩
  | snoc a hrun hs ih =>
    rw [log_append, List.mem_append, not_or] at hnew
    obtain ⟨hended, hunused⟩ := ih hnew.1
    obtain ⟨hended', hunused'⟩ := (hookStep_of_step hs).ended hended hnew.2
    refine ⟨hended', fun e he => ?_⟩
    rw [log_append] at he
    rcases List.mem_append.mp he with he | he
    · exact hunused e he
    · exact hunused' e he

theorem replayedTargetCount_of_retained {i db key tomb} (hkey : i.idempotencyKey = some key)
    (ht : tomb ∈ db.tombstones) (hat : tomb.at i.hookId key = true) :
    ∃ first, (first ∈ db.tombstones ∧ first.hookId = i.hookId ∧ first.callerIdempotencyKey = key) ∧
      replayedTargetCount i db = some first.targetCount.toNat := by
  have hfound : (db.tombstones.find? (·.at i.hookId key)).isSome = true := List.find?_isSome.mpr ⟨tomb, ht, hat⟩
  obtain ⟨first, hfirst⟩ := Option.isSome_iff_exists.mp hfound
  have hfat : first.at i.hookId key = true := List.find?_some hfirst
  simp only [Tombstone.at, Bool.and_eq_true, beq_iff_eq] at hfat
  refine ⟨first, ⟨List.mem_of_find?_eq_some hfirst, hfat⟩, ?_⟩
  simp [replayedTargetCount, hkey, retainedTargetCount, hfirst]

theorem retained_key_answer (production : Bool) (p : InvocationPolicy) {i now db h n}
    (hhook : Table.lookup (·.hookId) i.hookId db.hooks = some h)
    (hsecret : h.hookSecretHash = env.hashHex i.hookSecret)
    (hdecodes : (env.decodeData h.content.dataJson).isSome = true) (hactive : h.terminated now = false)
    (hfails : ∀ st, i.fails st = false) (hn : replayedTargetCount i db = some n) :
    (acceptInvocation env production now p i db).1 = .ok ⟨n, false⟩ := by
  obtain ⟨data, hdata⟩ := Option.isSome_iff_exists.mp hdecodes
  have hattempt : ∀ st, i.attempt st = .ok () := fun st => by simp [Invocation.attempt, hfails]
  have hauth : authenticate env i db = .ok (h, data) := by simp [authenticate, hhook, hsecret, hdata]
  have hclass : classifyHookCapabilityTerminated h now = none := by
    simp only [Hook.terminated, Bool.or_eq_false_iff] at hactive
    simp [classifyHookCapabilityTerminated, hactive.1, hactive.2]
  have hbody : invocationBody env production now p i db = .ok (⟨n, false⟩, db) := by
    simp [invocationBody, hattempt, hauth, hclass, hn, Bind.bind, Except.bind, refuse, Except.map]
  simp [acceptInvocation, hbody]

theorem hooks_used_within_policy (h : (runs env production).Reaches es s) :
    -- the uses of a hook since it was admitted keep to its maximum and to the effective windows
    (∀ hook ∈ s.shared.db.hooks,
      (∀ m, hook.maxUses = some m → (useNumber hook.hookId (log es) : Int) ≤ m) ∧
      (uses hook.hookId (log es)).length = useNumber hook.hookId (log es) ∧
      ∃ w m, hook.effectiveWindow production = some w ∧ hook.effectiveMaxRequests production = some m ∧
        Window.Within w m (uses hook.hookId (log es))) ∧
    (∀ p i result db, acceptInvocation env production s.shared.clock p i s.shared.db = (result, db) →
      -- an invocation that enqueues writes all of it, before revocation and expiry; any other writes nothing
      ((∃ hook r, result = .ok ⟨1, true⟩ ∧ Enqueues env production s.shared.clock p i hook r s.shared.db db ∧
          hook.terminated s.shared.clock = false) ∨
        db = s.shared.db ∧ ∀ o, result = .ok o → o.enqueuedRows = false) ∧
      (∀ e, result = .error e → db = s.shared.db) ∧
      -- a key that is remembered is not enqueued again, and is answered as it was first while the hook has not ended
      ∀ key tomb, i.idempotencyKey = some key → tomb ∈ s.shared.db.tombstones → tomb.at i.hookId key = true →
        db = s.shared.db ∧ (∀ o, result = .ok o → o.enqueuedRows = false) ∧
        ∃ n, (∃ now start, .enqueued i.hookId (some key) n now start ∈ log es) ∧
          ∀ hook, Table.lookup (·.hookId) i.hookId s.shared.db.hooks = some hook →
            hook.hookSecretHash = env.hashHex i.hookSecret → hook.terminated s.shared.clock = false →
            (∀ st, i.fails st = false) → result = .ok ⟨n, false⟩) ∧
    -- nothing is enqueued from revocation or expiry on
    ∀ hookId fs t, Ended hookId s.shared → (runs env production).Run s fs t → .hookCreated hookId ∉ log fs →
      ∀ e ∈ log fs, e.isUse hookId = false := by
  have hok := hooksOk_of_reaches h
  refine ⟨fun hook hmem => ?_, fun p i result db hr => ?_, fun hookId fs t hend hrun hnew => ?_⟩
  · have hhook := hok.hooks hook hmem
    refine ⟨fun m hm => hhook.count ▸ hhook.maxUses m hm, hhook.recorded, ?_⟩
    obtain ⟨⟨w, hw, -⟩, m, hm, -⟩ := effective_positive production hhook.window hhook.maxRequests
    exact ⟨w, m, hw, hm, (hhook.tracks w m hw hm).within⟩
  · have hcases := acceptInvocation_cases env production s.shared.clock p i s.shared.db
    rw [hr] at hcases
    refine ⟨?_, fun e he => ?_, fun key tomb hkey ht hat => ?_⟩
    · refine hcases.imp_left fun ⟨hook, r, hres, he⟩ => ?_
      exact ⟨hook, r, hres, he, not_terminated_of_usable (he.usable hok.keyed)⟩
    · rcases hcases with ⟨hook, r, hres, -⟩ | ⟨hsame, -⟩
      · exact absurd (he.symm.trans hres) (by simp)
      · exact hsame
    obtain ⟨first, ⟨hmem, hhookId, hcaller⟩, hn⟩ := replayedTargetCount_of_retained hkey ht hat
    have hnothing : db = s.shared.db ∧ ∀ o, result = .ok o → o.enqueuedRows = false := by
      rcases hcases with ⟨hook, r, -, he⟩ | hsame
      · exact absurd (hn.symm.trans he.newKey) (by simp)
      · exact hsame
    obtain ⟨now, start, hevent⟩ := hok.tombstones first hmem
    rw [hhookId, hcaller] at hevent
    refine ⟨hnothing.1, hnothing.2, _, ⟨now, start, hevent⟩, fun hook hhook hsecret hactive hfails => ?_⟩
    have hdecodes := (hok.hooks hook (Table.lookup_mem hhook).1).decodes
    have hanswer := retained_key_answer production p hhook hsecret hdecodes hactive hfails hn
    rwa [hr] at hanswer
  · exact (ended_never_used hrun hend hnew).2

def revokedRun : List (Turn Call Choice Outside) :=
  hookSetup (some 5) ++ [plainInvocation (some "key") "event" "row", .outside (.revoke "hook" "alice")]

/-- The key is remembered, and its repetition is refused because the hook is revoked. -/
theorem revoked_hook_forgets_answer :
    ((runs plainEnv true).exec { shared := {} } revokedRun).map (fun r =>
        r.1.shared.db.tombstones.map (fun t => (t.at "hook" "key", t.targetCount))) = some [(true, 1)] ∧
      ((runs plainEnv true).exec { shared := {} } revokedRun).map (fun r =>
        match (acceptInvocation plainEnv true r.1.shared.clock ⟨0, 0, 0, 0, 100⟩
            ⟨"hook", "secret", some "key", [], true, true, "again", "again", fun _ => 0, fun _ => false⟩
            r.1.shared.db).1 with
        | .ok _ => none
        | .error e => some e) = some (some ⟨410, "hook_revoked", "hook revoked"⟩) := by
  decide +kernel

def repeatedRun : List (Turn Call Choice Outside) :=
  hookSetup (some 5) ++ [plainInvocation (some "key") "event" "row", plainInvocation (some "key") "again" "repeated",
    .outside (.tick 1030), plainInvocation none "later" "other"]

/-- A repeated key is no use of the hook, and once the hook is revoked there is none. -/
theorem hooks_used_within_policy_repeated :
    (plainRun repeatedRun).map (fun r =>
        (useNumber "hook" (log r.2), r.1.shared.db.hooks.map (·.maxUses), r.1.shared.db.outbox.map (·.outboxId))) =
      some (2, [some 5], ["row", "other"]) ∧
    (∀ r ∈ plainRun repeatedRun,
      (∀ hook ∈ r.1.shared.db.hooks, (∀ m, hook.maxUses = some m → (useNumber hook.hookId (log r.2) : Int) ≤ m) ∧
        ∃ w m, hook.effectiveWindow true = some w ∧ hook.effectiveMaxRequests true = some m ∧
          Window.Within w m (uses hook.hookId (log r.2))) ∧
      ∀ p i, i.hookId = "hook" → i.idempotencyKey = some "key" →
        (acceptInvocation plainEnv true r.1.shared.clock p i r.1.shared.db).2 = r.1.shared.db) ∧
    ∀ r ∈ plainRun revokedRun, ∀ fs t, (runs plainEnv true).Run r.1 fs t →
      .hookCreated "hook" ∉ log fs → ∀ e ∈ log fs, e.isUse "hook" = false := by
  have htomb : ∀ r ∈ plainRun repeatedRun,
      ∃ tomb ∈ r.1.shared.db.tombstones, tomb.at "hook" "key" = true := by
    decide +kernel
  have hended : ∀ r ∈ plainRun revokedRun,
      ∀ h ∈ r.1.shared.db.hooks, h.hookId = "hook" → h.terminated r.1.shared.clock = true := by
    decide +kernel
  refine ⟨by decide +kernel, fun r hr => ⟨fun hook hmem => ?_, fun p i hhook hkey => ?_⟩, fun r hr fs t => ?_⟩
  · obtain ⟨hmax, -, hwindow⟩ := (hooks_used_within_policy (plainRun_reaches hr)).1 hook hmem
    exact ⟨hmax, hwindow⟩
  · obtain ⟨tomb, htomb, hat⟩ := htomb r hr
    exact (((hooks_used_within_policy (plainRun_reaches hr)).2.1 p i _ _ rfl).2.2 "key" tomb hkey htomb (hhook ▸ hat)).1
  · exact (hooks_used_within_policy (plainRun_reaches hr)).2.2 "hook" fs t (hended r hr)

end runs

end Manifold.Push
