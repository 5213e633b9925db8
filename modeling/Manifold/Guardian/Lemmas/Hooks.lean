import Manifold.Guardian.Hooks

/-!
# What the rows of completion hooks stand for
-/

namespace Manifold.Guardian.Hooks

open Lib

/-! ## Seat ids -/

@[simp] theorem seatIdOfBytes_seatIdBytes (seatId : QuoteId) : seatIdOfBytes (seatIdBytes seatId) = some seatId := by
  have hlt : seatId.toNat % 256 ^ 32 = seatId.toNat := Nat.mod_eq_of_lt seatId.isLt
  rw [seatIdBytes, seatIdOfBytes, if_pos (length_bigEndian 32 _), ofBigEndian_bigEndian, hlt, BitVec.ofNat_toNat,
    BitVec.setWidth_eq]

theorem seatIdBytes_inj {a b} (h : seatIdBytes a = seatIdBytes b) : a = b := by
  have hs : some a = some b := by rw [← seatIdOfBytes_seatIdBytes a, h, seatIdOfBytes_seatIdBytes]
  exact Option.some.inj hs

/-! ## States of a hook -/

inductive Hook where
  | notConfigured
  | pending (callback : DkgCompletionCallback) (attempts : UInt32) (nextAttemptAtMs : Int)
      (lastReason : Option CompletionCallbackReason)
  | operatorBlocked (callback : DkgCompletionCallback) (attempts : UInt32) (reason : CompletionCallbackReason)
  | delivered (attempts : UInt32) (atMs : Int)
  | terminal (attempts : UInt32) (atMs : Int) (reason : CompletionCallbackReason)

namespace Hook

def attempts : Hook → UInt32
  | .notConfigured => 0
  | .pending _ attempts _ _ | .operatorBlocked _ attempts _ | .delivered attempts _ | .terminal attempts _ _ =>
    attempts

def callback : Hook → Option DkgCompletionCallback
  | .pending callback _ _ _ | .operatorBlocked callback _ _ => some callback
  | _ => none

def status : Hook → CompletionCallbackStatus
  | .notConfigured => .notConfigured
  | .pending _ attempts next reason => .pending attempts next reason
  | .operatorBlocked _ attempts reason => .operatorBlocked attempts reason
  | .delivered attempts atMs => .delivered attempts atMs
  | .terminal attempts atMs reason => .terminal attempts atMs reason

def reason : Hook → Option CompletionCallbackReason
  | .pending _ _ _ reason => reason
  | .operatorBlocked _ _ reason | .terminal _ _ reason => some reason
  | _ => none

def row (json : CallbackJson) (seatId : QuoteId) : Hook → CompletionCallbackRow
  | .notConfigured =>
    { quoteId := seatIdBytes seatId, callback := none, status := "not_configured", nextAttemptAtMs := none }
  | .pending callback attempts next reason =>
    { quoteId := seatIdBytes seatId, callback := some (json.encode callback), status := "pending"
      attempts := attempts.toNat, nextAttemptAtMs := some next, reason := reason.map (·.asStr) }
  | .operatorBlocked callback attempts reason =>
    { quoteId := seatIdBytes seatId, callback := some (json.encode callback), status := "operator_blocked"
      attempts := attempts.toNat, nextAttemptAtMs := none, reason := some reason.asStr }
  | .delivered attempts atMs =>
    { quoteId := seatIdBytes seatId, callback := none, status := "delivered", attempts := attempts.toNat
      nextAttemptAtMs := none, completedAtMs := some atMs }
  | .terminal attempts atMs reason =>
    { quoteId := seatIdBytes seatId, callback := none, status := "terminal", attempts := attempts.toNat
      nextAttemptAtMs := none, reason := some reason.asStr, completedAtMs := some atMs }

variable {json : CallbackJson} {seatId : QuoteId}

@[simp] theorem row_quoteId (h : Hook) : (h.row json seatId).quoteId = seatIdBytes seatId := by
  cases h <;> rfl

@[simp] theorem row_attempts (h : Hook) : (h.row json seatId).attempts = h.attempts.toNat := by
  cases h <;> rfl

@[simp] theorem row_callback (h : Hook) : (h.row json seatId).callback = h.callback.map json.encode := by
  cases h <;> rfl

end Hook

/-! ## The decoder -/

@[simp] theorem decode_encode (json : CallbackJson) (callback : DkgCompletionCallback) :
    json.decode (json.encode callback) = .ok callback := by
  simp [CallbackJson.decode, CallbackJson.encode, json.parse_print, DkgCompletionCallback.new,
    callback.url_bounded, callback.key_bounded]

section decode

variable {json : CallbackJson} {seatId : QuoteId} {key : String}

theorem decodeCallback_row (h : Hook) : (h.row json seatId).decodeCallback key json = .ok h.callback := by
  cases h <;> simp [CompletionCallbackRow.decodeCallback, Hook.row, Hook.callback]

theorem parseAttempts_row (h : Hook) : (h.row json seatId).parseAttempts key = .ok h.attempts := by
  have hlt : ((h.attempts.toNat : Nat) : Int) < 4294967296 := by
    have := h.attempts.toNat_lt
    omega
  simp [CompletionCallbackRow.parseAttempts, hlt]

theorem parseReason_row (h : Hook) : (h.row json seatId).parseReason key = .ok h.reason := by
  cases h with
  | pending callback attempts next reason =>
    cases reason <;> simp [CompletionCallbackRow.parseReason, Hook.row, Hook.reason]
  | _ => simp [CompletionCallbackRow.parseReason, Hook.row, Hook.reason]

theorem parseStatus_row (h : Hook) : (h.row json seatId).parseCompletionCallbackStatus key = .ok h.status := by
  rw [CompletionCallbackRow.parseCompletionCallbackStatus, parseAttempts_row, parseReason_row]
  cases h <;> rfl

theorem decode_row (h : Hook) : (h.row json seatId).decode json = .ok ⟨seatId, h.callback, h.status⟩ := by
  rw [CompletionCallbackRow.decode, decodeCallback_row, parseStatus_row, Hook.row_quoteId, seatIdOfBytes_seatIdBytes]
  cases h <;> rfl

end decode

/-! ## Steps -/

namespace Hook

inductive Step : Hook → Hook → Prop where
  | start (c : DkgCompletionCallback) (a : UInt32) (n n' : Int) (r : Option CompletionCallbackReason) :
      Step (.pending c a n r) (.pending c (nextAttempt a) n' none)
  | resume (c : DkgCompletionCallback) (a : UInt32) (n : Int) (r : CompletionCallbackReason) :
      Step (.operatorBlocked c a r) (.pending c (nextAttempt a) n none)
  | retry (c : DkgCompletionCallback) (a : UInt32) (n : Int) (r : Option CompletionCallbackReason)
      (r' : CompletionCallbackReason) : Step (.pending c a n r) (.pending c a n (some r'))
  | block (c : DkgCompletionCallback) (a : UInt32) (n : Int) (r : Option CompletionCallbackReason)
      (r' : CompletionCallbackReason) : Step (.pending c a n r) (.operatorBlocked c a r')
  | reblock (c : DkgCompletionCallback) (a : UInt32) (r r' : CompletionCallbackReason) :
      Step (.operatorBlocked c a r) (.operatorBlocked c a r')
  | deliver (c : DkgCompletionCallback) (a : UInt32) (n : Int) (r : Option CompletionCallbackReason) (atMs : Int) :
      Step (.pending c a n r) (.delivered a atMs)
  | reject (c : DkgCompletionCallback) (a : UInt32) (n : Int) (r : Option CompletionCallbackReason) (atMs : Int)
      (r' : CompletionCallbackReason) : Step (.pending c a n r) (.terminal a atMs r')
  | giveUp (c : DkgCompletionCallback) (a : UInt32) (r : CompletionCallbackReason) (atMs : Int)
      (r' : CompletionCallbackReason) : Step (.operatorBlocked c a r) (.terminal a atMs r')

abbrev Steps : Hook → Hook → Prop := Relation.ReflTransGen Step

def Carries : Option DkgCompletionCallback → Hook → Prop
  | none, .notConfigured => True
  | some c, .pending c' _ _ _ => c' = c
  | some c, .operatorBlocked c' _ _ => c' = c
  | some _, .delivered _ _ => True
  | some _, .terminal _ _ _ => True
  | _, _ => False

theorem toNat_nextAttempt (a : UInt32) : (nextAttempt a).toNat = min (a.toNat + 1) 4294967295 := by
  have hlt : min (a.toNat + 1) 4294967295 < 2 ^ 32 := by omega
  exact UInt32.toNat_ofNat_of_lt' hlt

theorem min_attempts (a : UInt32) : min ((a.toNat : Int) + 1) 4294967295 = (nextAttempt a).toNat := by
  rw [toNat_nextAttempt]
  omega

variable {h h' : Hook}

theorem Step.attempts_le (hs : Step h h') : h.attempts.toNat ≤ h'.attempts.toNat := by
  cases hs with
  | start c a n n' r =>
    have := a.toNat_lt
    simp only [attempts, toNat_nextAttempt]
    omega
  | resume c a n r =>
    have := a.toNat_lt
    simp only [attempts, toNat_nextAttempt]
    omega
  | _ => exact Nat.le_refl _

theorem Step.carries (hs : Step h h') {choice} (hc : Carries choice h) : Carries choice h' := by
  cases choice with
  | none => cases hs <;> cases hc
  | some c => cases hs <;> first | exact hc | trivial

theorem Steps.attempts_le (hs : Steps h h') : h.attempts.toNat ≤ h'.attempts.toNat := by
  induction hs with
  | refl => exact Nat.le_refl _
  | tail _ hs ih => exact ih.trans hs.attempts_le

theorem Steps.carries (hs : Steps h h') {choice} (hc : Carries choice h) : Carries choice h' := by
  induction hs with
  | refl => exact hc
  | tail _ hs ih => exact hs.carries ih

theorem Step.callback_isSome (hs : Step h h') : h.callback.isSome = true := by
  cases hs <;> rfl

theorem Steps.eq_of_settled (hs : Steps h h') (hn : h.callback = none) : h' = h := by
  induction hs with
  | refl => rfl
  | tail _ hs ih =>
    subst ih
    have := hs.callback_isSome
    simp [hn] at this

theorem Step.callback_eq (hs : Step h h') : h'.callback = h.callback ∨ h'.callback = none := by
  cases hs <;> simp [callback]

theorem Steps.callback_eq (hs : Steps h h') : h'.callback = h.callback ∨ h'.callback = none := by
  induction hs with
  | refl => exact .inl rfl
  | tail _ hs ih =>
    rcases hs.callback_eq with he | he
    · rwa [he]
    · exact .inr he

end Hook

/-! ## Tables of hooks -/

variable {json : CallbackJson} {t t' u : CallbackTable} {seatId : QuoteId}

def Sound (json : CallbackJson) (t : CallbackTable) : Prop :=
  ∀ r ∈ t.rows, ∃ seatId h, r = Hook.row json seatId h

def Follows (json : CallbackJson) (t t' : CallbackTable) : Prop :=
  ∀ seatId h, Hook.row json seatId h ∈ t.rows → ∃ h', Hook.row json seatId h' ∈ t'.rows ∧ Hook.Steps h h'

theorem Follows.refl : Follows json t t := fun _ h hm => ⟨h, hm, .refl⟩

theorem Follows.trans (h₁ : Follows json t t') (h₂ : Follows json t' u) : Follows json t u := by
  intro seatId h hm
  obtain ⟨h', hm', hs⟩ := h₁ seatId h hm
  obtain ⟨h'', hm'', hs'⟩ := h₂ seatId h' hm'
  exact ⟨h'', hm'', hs.trans hs'⟩

structure Evolved (json : CallbackJson) (t t' : CallbackTable) : Prop where
  sound : Sound json t'
  follows : Follows json t t'
  keys : ∀ r' ∈ t'.rows, ∃ r ∈ t.rows, r.quoteId = r'.quoteId

theorem Evolved.refl (hs : Sound json t) : Evolved json t t := ⟨hs, .refl, fun r hr => ⟨r, hr, rfl⟩⟩

theorem update_evolved {p f hf n} (hs : Sound json t) (hmove : ∀ seatId h, p (Hook.row json seatId h) = true →
      ∃ h', f (Hook.row json seatId h) = Hook.row json seatId h' ∧ Hook.Step h h')
    (hu : t.update p f hf = .ok (t', n)) : Evolved json t t' := by
  have hrows : t'.rows = Lib.Table.update p f t.rows := by
    unfold CallbackTable.update at hu
    split at hu
    · cases hu
      rfl
    · cases hu
  -- what becomes of the row of a hook
  have hrow : ∀ seatId h, ∃ h', (if p (Hook.row json seatId h) then f (Hook.row json seatId h)
      else Hook.row json seatId h) = Hook.row json seatId h' ∧ Hook.Steps h h' := by
    intro seatId h
    by_cases hp : p (Hook.row json seatId h) = true
    · obtain ⟨h', he, hstep⟩ := hmove seatId h hp
      exact ⟨h', by rw [if_pos hp, he], .single hstep⟩
    · exact ⟨h, by rw [if_neg hp], .refl⟩
  constructor
  · intro r' hr'
    rw [hrows] at hr'
    obtain ⟨r, hr, rfl⟩ := Lib.Table.mem_update.mp hr'
    obtain ⟨seatId, h, rfl⟩ := hs r hr
    obtain ⟨h', he, -⟩ := hrow seatId h
    exact ⟨seatId, h', he⟩
  · intro seatId h hm
    obtain ⟨h', he, hsteps⟩ := hrow seatId h
    refine ⟨h', ?_, hsteps⟩
    rw [hrows, ← he]
    exact Lib.Table.mem_update.mpr ⟨_, hm, rfl⟩
  intro r' hr'
  rw [hrows] at hr'
  obtain ⟨r, hr, rfl⟩ := Lib.Table.mem_update.mp hr'
  refine ⟨r, hr, ?_⟩
  by_cases hp : p r = true <;> simp [hp, hf]

variable {db : Db}

theorem updateCallbacks_evolved {p f hf} (hs : Sound json db.callbacks)
    (hmove : ∀ seatId h, p (Hook.row json seatId h) = true →
      ∃ h', f (Hook.row json seatId h) = Hook.row json seatId h' ∧ Hook.Step h h') :
    Evolved json db.callbacks (db.updateCallbacks p f hf).1.callbacks := by
  unfold Db.updateCallbacks
  split
  · exact .refl hs
  · rename_i hu
    exact update_evolved hs hmove hu

theorem attemptStarted_evolved (seatId : QuoteId) (hs : Sound json db.callbacks) (next : Int) :
    Evolved json db.callbacks (db.recordCompletionCallbackAttemptStarted seatId next).1.callbacks := by
  refine updateCallbacks_evolved hs fun seatId h hp => ?_
  cases h with
  | pending c a n r =>
    exact ⟨.pending c (nextAttempt a) next none, by simp [Db.startAttempt, Hook.row, Hook.min_attempts],
      .start c a n next r⟩
  | operatorBlocked c a r =>
    exact ⟨.pending c (nextAttempt a) next none, by simp [Db.startAttempt, Hook.row, Hook.min_attempts],
      .resume c a next r⟩
  | _ => simp [Hook.row] at hp

theorem retryReason_evolved (seatId : QuoteId) (hs : Sound json db.callbacks) (reason : CompletionCallbackReason) :
    Evolved json db.callbacks (db.recordCompletionCallbackRetryReason seatId reason).1.callbacks := by
  refine updateCallbacks_evolved hs fun seatId h hp => ?_
  cases h with
  | pending c a n r => exact ⟨.pending c a n (some reason), rfl, .retry c a n r reason⟩
  | _ => simp [Hook.row] at hp

theorem operatorBlocked_evolved
    (seatId : QuoteId) (hs : Sound json db.callbacks) (reason : CompletionCallbackReason) :
    Evolved json db.callbacks (db.recordCompletionCallbackOperatorBlocked seatId reason).1.callbacks := by
  refine updateCallbacks_evolved hs fun seatId h hp => ?_
  cases h with
  | pending c a n r => exact ⟨.operatorBlocked c a reason, rfl, .block c a n r reason⟩
  | operatorBlocked c a r => exact ⟨.operatorBlocked c a reason, rfl, .reblock c a r reason⟩
  | _ => simp [Hook.row] at hp

theorem completed_evolved
    (seatId : QuoteId) (hs : Sound json db.callbacks) (outcome : CompletionCallbackOutcome) (now : Int) :
    Evolved json db.callbacks (db.recordCompletionCallbackCompleted seatId outcome now).1.callbacks := by
  refine updateCallbacks_evolved hs fun seatId h hp => ?_
  cases h with
  | pending c a n r =>
    cases outcome with
    | delivered => exact ⟨.delivered a now, rfl, .deliver c a n r now⟩
    | terminal reason => exact ⟨.terminal a now reason, rfl, .reject c a n r now reason⟩
  | _ => simp [Hook.row] at hp

theorem decommissionSeat_evolved (seatId : QuoteId) (hs : Sound json db.callbacks) (now : Int) :
    Evolved json db.callbacks (db.decommissionSeat seatId now).1.callbacks := by
  unfold Db.decommissionSeat
  dsimp only
  split
  · exact .refl hs
  split
  · exact .refl hs
  rename_i hu
  refine update_evolved hs (fun seatId h hp => ?_) hu
  cases h with
  | pending c a n r => exact ⟨.terminal a now .decommissioned, rfl, .reject c a n r now .decommissioned⟩
  | operatorBlocked c a r =>
    exact ⟨.terminal a now .decommissioned, rfl, .giveUp c a r now .decommissioned⟩
  | _ => simp [Hook.row, Db.isResumable] at hp

theorem handler_evolved {env e x r db' out} (hs : Sound env.json db.callbacks)
    (h : handler env e db x = some (r, db', out)) :
    Evolved env.json db.callbacks db'.callbacks ∧ out = [] := by
  -- a failed write leaves the database
  have hdb : ∀ {α : Type} (tx : Db × Except DbError α), Evolved env.json db.callbacks tx.1.callbacks →
      Evolved env.json db.callbacks (onDb db x tx).2.1.callbacks ∧ (onDb db x tx).2.2 = [] := by
    intro α tx htx
    unfold onDb
    split
    · exact ⟨.refl hs, rfl⟩
    · exact ⟨htx, rfl⟩
  cases e with
  | nowMs | isAvailable | spawn => cases h; exact ⟨.refl hs, rfl⟩
  | deliverableCompletionCallbacks =>
    have he := Option.some.inj h
    have hr := hdb (db, db.deliverableCompletionCallbacks env.json) (.refl hs)
    rwa [he] at hr
  | attemptStarted seatId next =>
    have he := Option.some.inj h
    have hr := hdb _ (attemptStarted_evolved seatId hs next)
    rwa [he] at hr
  | retryReason seatId reason =>
    have he := Option.some.inj h
    have hr := hdb _ (retryReason_evolved seatId hs reason)
    rwa [he] at hr
  | operatorBlocked seatId reason =>
    have he := Option.some.inj h
    have hr := hdb _ (operatorBlocked_evolved seatId hs reason)
    rwa [he] at hr
  | completed seatId outcome =>
    have he := Option.some.inj h
    have hr := hdb _ (completed_evolved seatId hs outcome x.now)
    rwa [he] at hr

/-! ## First choices -/

def Event.choiceOf (seatId : QuoteId) : Event → Option (Option DkgCompletionCallback)
  | .chosen id callback => if id = seatId then some callback else none
  | .refused _ => none

def firstChoice (es : List Event) (seatId : QuoteId) : Option (Option DkgCompletionCallback) :=
  es.findSome? (Event.choiceOf seatId)

theorem firstChoice_append (es out : List Event) (seatId : QuoteId) :
    firstChoice (es ++ out) seatId = (firstChoice es seatId).or (firstChoice out seatId) := by
  simp [firstChoice, List.findSome?_append]

structure Chosen (json : CallbackJson) (es : List Event) (t : CallbackTable) : Prop where
  sound : Sound json t
  absent : ∀ seatId, firstChoice es seatId = none → ∀ r ∈ t.rows, r.quoteId ≠ seatIdBytes seatId
  first : ∀ seatId choice, firstChoice es seatId = some choice →
    ∃ h, Hook.row json seatId h ∈ t.rows ∧ Hook.Carries choice h

variable {es : List Event}

theorem Chosen.evolved (hc : Chosen json es t) (he : Evolved json t t') : Chosen json es t' := by
  refine ⟨he.sound, ?_, ?_⟩
  · intro seatId hnone r' hr' hid
    obtain ⟨r, hr, hq⟩ := he.keys r' hr'
    exact hc.absent seatId hnone r hr (hq.trans hid)
  intro seatId choice hsome
  obtain ⟨h, hm, hcar⟩ := hc.first seatId choice hsome
  obtain ⟨h', hm', hsteps⟩ := he.follows seatId h hm
  exact ⟨h', hm', hsteps.carries hcar⟩

def Hook.ofChoice (now : Int) : Option DkgCompletionCallback → Hook
  | none => .notConfigured
  | some callback => .pending callback 0 now none

theorem firstRow_eq (callback : Option DkgCompletionCallback) (now : Int) :
    firstRow json seatId callback now = Hook.row json seatId (Hook.ofChoice now callback) := by
  cases callback <;> rfl

theorem Hook.carries_ofChoice (now : Int) (callback : Option DkgCompletionCallback) :
    Carries callback (ofChoice now callback) := by
  cases callback
  · trivial
  · rfl

theorem choiceOf_chosen (seatId id : QuoteId) (callback : Option DkgCompletionCallback) :
    firstChoice [.chosen id callback] seatId = if id = seatId then some callback else none := by
  unfold firstChoice Event.choiceOf
  by_cases hid : id = seatId <;> simp [hid]

theorem insertOrIgnore_cases {r} (h : t.insertOrIgnore r = .ok t') :
    (t' = t ∧ ∃ r₀ ∈ t.rows, r₀.quoteId = r.quoteId) ∨
      (t'.rows = t.rows ++ [r] ∧ ∀ r₀ ∈ t.rows, r₀.quoteId ≠ r.quoteId) := by
  unfold CallbackTable.insertOrIgnore at h
  split at h
  · rename_i hk
    cases h
    exact .inl ⟨rfl, hk⟩
  rename_i hk
  split at h
  · cases h
    exact .inr ⟨rfl, fun r₀ hr₀ he => hk ⟨r₀, hr₀, he⟩⟩
  · cases h

theorem Chosen.insert (hc : Chosen json es t) {callback now}
    (h : t.insertOrIgnore (firstRow json seatId callback now) = .ok t') :
    Chosen json (es ++ [.chosen seatId callback]) t' ∧ Follows json t t' := by
  rw [firstRow_eq] at h
  rcases insertOrIgnore_cases h with ⟨rfl, r₀, hr₀, hq⟩ | ⟨hrows, hnew⟩
  · -- the seat has a first choice already
    rw [Hook.row_quoteId] at hq
    have hsome : ∃ choice, firstChoice es seatId = some choice := by
      cases hf : firstChoice es seatId with
      | none => exact absurd hq (hc.absent seatId hf r₀ hr₀)
      | some choice => exact ⟨choice, rfl⟩
    have hsame : ∀ id, firstChoice (es ++ [.chosen seatId callback]) id = firstChoice es id := by
      intro id
      rw [firstChoice_append, choiceOf_chosen]
      by_cases hid : seatId = id
      · subst hid
        obtain ⟨choice, hf⟩ := hsome
        simp [hf]
      · simp [hid]
    refine ⟨⟨hc.sound, ?_, ?_⟩, .refl⟩
    · intro id
      rw [hsame]
      exact hc.absent id
    · intro id
      rw [hsame]
      exact hc.first id
  have hmem : ∀ r, r ∈ t'.rows ↔ r ∈ t.rows ∨ r = Hook.row json seatId (Hook.ofChoice now callback) := by
    simp [hrows]
  have hold : firstChoice es seatId = none := by
    cases hf : firstChoice es seatId with
    | none => rfl
    | some choice =>
      obtain ⟨h₀, hm, -⟩ := hc.first seatId choice hf
      exact absurd (by simp) (hnew _ hm)
  refine ⟨⟨?_, ?_, ?_⟩, fun id h₀ hm => ⟨h₀, (hmem _).mpr (.inl hm), .refl⟩⟩
  · intro r hr
    rcases (hmem r).mp hr with hr | rfl
    · exact hc.sound r hr
    · exact ⟨seatId, _, rfl⟩
  · intro id hnone r hr hq
    rw [firstChoice_append, choiceOf_chosen] at hnone
    obtain ⟨hes, hid⟩ := Option.or_eq_none_iff.mp hnone
    rcases (hmem r).mp hr with hr | rfl
    · exact hc.absent id hes r hr hq
    · rw [Hook.row_quoteId] at hq
      simp [seatIdBytes_inj hq] at hid
  intro id choice hsome
  rw [firstChoice_append, choiceOf_chosen] at hsome
  by_cases hid : seatId = id
  · subst hid
    simp only [hold, Option.none_or, if_true, Option.some.injEq] at hsome
    subst hsome
    exact ⟨_, (hmem _).mpr (.inr rfl), Hook.carries_ofChoice now callback⟩
  · simp only [hid, if_false, Option.or_none] at hsome
    obtain ⟨h₀, hm, hcar⟩ := hc.first id choice hsome
    exact ⟨h₀, (hmem _).mpr (.inl hm), hcar⟩

/-! ## Runs -/

structure StepOk (json : CallbackJson) (es out : List Event) (t t' : CallbackTable) : Prop where
  chosen : Chosen json (es ++ out) t'
  follows : Follows json t t'
  accepted : ∀ e, .refused e ∉ out

theorem StepOk.same (hc : Chosen json es t) : StepOk json es [] t t := ⟨by simpa using hc, .refl, by simp⟩

theorem StepOk.evolved (hc : Chosen json es t) (he : Evolved json t t') : StepOk json es [] t t' :=
  ⟨by simpa using hc.evolved he, he.follows, by simp⟩

variable {env : Env}

theorem commitWithCallback_ok {α : Type} {store : Store} {callback : Option DkgCompletionCallback} {now : Int}
    {a : α} (hc : Chosen env.json es db.callbacks) :
    StepOk env.json es (db.commitWithCallback env store seatId callback now a).2.2 db.callbacks
      (db.commitWithCallback env store seatId callback now a).1.callbacks := by
  unfold Db.commitWithCallback
  split
  · exact .same hc
  rename_i hinstall
  unfold installIn at hinstall
  split at hinstall
  · obtain ⟨hchosen, hfollows⟩ := hc.insert hinstall
    exact ⟨hchosen, hfollows, by simp⟩
  · cases hinstall

theorem write_ok (w : Write) (hc : Chosen env.json es db.callbacks) :
    StepOk env.json es (w.run env db).2 db.callbacks (w.run env db).1.callbacks := by
  cases w with
  | installCompletionCallback seatId callback now => exact commitWithCallback_ok hc
  | recordDkgInputs seatId codes callback now =>
    simp only [Write.run, Db.recordDkgInputs]
    split
    · exact .same hc
    · exact commitWithCallback_ok hc
  | admitTransfer signed verified callback now =>
    simp only [Write.run]
    unfold Db.admitTransfer
    split
    · exact .same hc
    dsimp only
    split
    · exact .same hc
    · exact .same hc
    · split
      · exact .same hc
      · exact commitWithCallback_ok hc
  | decommissionSeat seatId now => exact .evolved hc (decommissionSeat_evolved seatId hc.sound now)
  | elsewhere store => exact .same hc

theorem decodeAll_ok {rows} (hs : ∀ r ∈ rows, ∃ seatId h, r = Hook.row json seatId h) :
    ∃ records, Db.decodeAll json rows = .ok records := by
  induction rows with
  | nil => exact ⟨[], rfl⟩
  | cons r rows ih =>
    obtain ⟨seatId, h, rfl⟩ := hs r (by simp)
    obtain ⟨records, hr⟩ := ih fun r' hr' => hs r' (by simp [hr'])
    refine ⟨⟨seatId, h.callback, h.status⟩ :: records, ?_⟩
    unfold Db.decodeAll at hr ⊢
    rw [List.mapM_cons, decode_row, hr]
    rfl

theorem validate_ok (hs : Sound json db.callbacks) : db.validateCompletionCallbacks json = .ok () := by
  obtain ⟨records, hr⟩ := decodeAll_ok hs
  rw [Db.validateCompletionCallbacks, hr]
  rfl

theorem step_ok {s s' a out} (hc : Chosen env.json es s.db.callbacks) (h : step env s a = some (s', out)) :
    StepOk env.json es out s.db.callbacks s'.db.callbacks := by
  have hworker : ∀ {f : Worker → Option Worker}, s.onWorker f = some (s', out) →
      StepOk env.json es out s.db.callbacks s'.db.callbacks := by
    intro f hf
    obtain ⟨w, -, he⟩ := Option.map_eq_some_iff.mp hf
    cases he
    exact .same hc
  cases a with
  | write w => cases h; exact write_ok w hc
  | boot config =>
    simp only [step, State.boot, validate_ok hc.sound] at h
    split at h
    · cases h
    · cases h
      exact .same hc
  | wake | join | rest => exact hworker h
  | crash => cases h; exact .same hc
  | answer x =>
    obtain ⟨⟨w', db', out'⟩, hw, he⟩ := Option.map_eq_some_iff.mp h
    cases he
    obtain ⟨w, -, ha⟩ := Option.bind_eq_some_iff.mp hw
    unfold Worker.answer at ha
    split at ha
    · obtain ⟨⟨r, db'', out''⟩, hr, he⟩ := Option.map_eq_some_iff.mp ha
      cases he
      obtain ⟨hev, hout⟩ := handler_evolved hc.sound hr
      subst hout
      exact .evolved hc hev
    · cases ha

theorem reaches_chosen {s} (h : (machine env).Reaches es s) :
    Chosen env.json es s.db.callbacks ∧ ∀ e, .refused e ∉ es := by
  refine Lib.Machine.Reaches.induct (I := fun es s => Chosen env.json es s.db.callbacks ∧ ∀ e, .refused e ∉ es)
    ?_ ?_ h
  · intro s hinit
    have hempty : s.db.callbacks.rows = [] := by rw [hinit.1]; rfl
    refine ⟨⟨?_, ?_, ?_⟩, by simp⟩
    · intro r hr
      simp [hempty] at hr
    · intro seatId _ r hr
      simp [hempty] at hr
    · intro seatId choice hsome
      cases hsome
  intro es s a s' out _ hc hstep
  have hok := step_ok hc.1 hstep
  refine ⟨hok.chosen, fun e he => ?_⟩
  rcases List.mem_append.mp he with he | he
  · exact hc.2 e he
  · exact hok.accepted e he

theorem run_follows {s s' fs} (h : (machine env).Reaches es s) (hrun : (machine env).Run s fs s') :
    Follows env.json s.db.callbacks s'.db.callbacks := by
  induction hrun with
  | nil => exact .refl
  | snoc a hr hs ih => exact ih.trans (step_ok (reaches_chosen (h.run hr)).1 hs).follows

end Manifold.Guardian.Hooks
