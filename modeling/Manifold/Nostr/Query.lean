import Mathlib.Algebra.GroupWithZero.Nat
import Mathlib.Data.List.Nodup

/-! A query over several relays: one complete answer is enough, and no other relay hides or spoils it. -/

namespace Manifold.Nostr

structure Event where
  id : String
  /-- The length of the event's JSON. -/
  bytes : Nat

inductive RelayMessage where
  | event (subscriptionId : String) (event : Event)
  | endOfStoredEvents (subscriptionId : String)
  | closed (subscriptionId : String)
  | other

/-- A relay and its message; `none` is a failure of the stream. -/
abbrev Notification := Option (String × RelayMessage)

inductive Ending where
  | deadline | ended

inductive ResourceCapPolicy where
  | failClosed | completeAtCap
deriving DecidableEq

structure Query where
  subscriptionId : String
  subscribed : List String
  count : Nat
  perEventBytes : Nat
  aggregateBytes : Nat
  capPolicy : ResourceCapPolicy

structure Collected where
  pendingRelays : List String
  seenEventIds : List String
  events : List Event
  retainedBytes : Nat
  completeRelays : Nat

abbrev Answer := Except String (List Event)

def settle (s : Collected) (stoppedBecause : String) : Answer :=
  if 0 < s.completeRelays then .ok s.events else .error stoppedBecause

def finish : Ending → Except Answer Collected → Answer
  | _, .error answer => answer
  | .deadline, .ok s => settle s "deadline elapsed before EOSE"
  | .ended, .ok s => settle s "notification stream ended before EOSE"

namespace Query

variable (q : Query)

/-- An error is a return from the loop. -/
def onEvent (s : Collected) (event : Event) : Except Answer Collected :=
  if event.id ∈ s.seenEventIds then .ok s
  else
    let s := { s with seenEventIds := event.id :: s.seenEventIds }
    if s.events.length = q.count then .error (settle s "candidate count exceeded the local bound")
    else if q.perEventBytes < event.bytes then .error (settle s "candidate exceeded the per-event byte bound")
    else if q.aggregateBytes < s.retainedBytes + event.bytes then
      .error (match q.capPolicy with
        | .completeAtCap => .ok s.events
        | .failClosed => settle s "candidates exceeded the aggregate byte bound")
    else
      let s := { s with retainedBytes := s.retainedBytes + event.bytes, events := s.events ++ [event] }
      if q.capPolicy = .completeAtCap ∧ s.events.length = q.count then .error (.ok s.events) else .ok s

def onNotification (s : Collected) : Notification → Except Answer Collected
  | none => .error (settle s "notification stream failed before EOSE")
  | some (_, .event id event) => if id = q.subscriptionId then q.onEvent s event else .ok s
  | some (relay, .endOfStoredEvents id) =>
    if id = q.subscriptionId then
      let s := if relay ∈ s.pendingRelays then
        { s with pendingRelays := s.pendingRelays.filter (· ≠ relay), completeRelays := s.completeRelays + 1 } else s
      if s.pendingRelays.isEmpty then .error (.ok s.events) else .ok s
    else .ok s
  | some (relay, .closed id) =>
    if id = q.subscriptionId then
      let s := { s with pendingRelays := s.pendingRelays.filter (· ≠ relay) }
      if s.pendingRelays.isEmpty then .error (settle s "relay closed the subscription before EOSE") else .ok s
    else .ok s
  | some (_, .other) => .ok s

def start : Collected := ⟨q.subscribed, [], [], 0, 0⟩

def listen (s : Collected) (notes : List Notification) : Except Answer Collected := notes.foldlM q.onNotification s

/-- `collect_subscription_notifications_complete_capped`. -/
def collect (notes : List Notification) (ending : Ending) : Answer :=
  if q.subscribed.isEmpty then .error "no relay accepted the subscription"
  else finish ending (q.listen q.start notes)

/-- Distinct events within the bounds. -/
structure Kept (events : List Event) : Prop where
  ids : (events.map (·.id)).Nodup
  count : events.length ≤ q.count
  each : ∀ e ∈ events, e.bytes ≤ q.perEventBytes
  total : (events.map (·.bytes)).sum ≤ q.aggregateBytes

/-- A subscribed relay ended its stored answer, and every event it had sent is there. -/
def HasAnswer (notes : List Notification) (events : List Event) : Prop :=
  ∃ relay ∈ q.subscribed, ∃ before after, notes = before ++ some (relay, .endOfStoredEvents q.subscriptionId) :: after ∧
    ∀ e, some (relay, .event q.subscriptionId e) ∈ before →
      ∃ e' ∈ events, e'.id = e.id ∧ ∃ sender, some (sender, .event q.subscriptionId e') ∈ notes

/-- The query still listens after these notifications. -/
structure Listening (done : List Notification) (s : Collected) : Prop where
  kept : q.Kept s.events
  bytes : s.retainedBytes = (s.events.map (·.bytes)).sum
  seen : ∀ id, id ∈ s.seenEventIds ↔ id ∈ s.events.map (·.id)
  heard : ∀ relay e, some (relay, .event q.subscriptionId e) ∈ done → e.id ∈ s.events.map (·.id)
  sent : ∀ e ∈ s.events, ∃ relay, some (relay, .event q.subscriptionId e) ∈ done
  pending : s.pendingRelays ≠ [] ∧ ∀ relay ∈ s.pendingRelays, relay ∈ q.subscribed
  complete : 0 < s.completeRelays → ∃ relay ∈ q.subscribed, some (relay, .endOfStoredEvents q.subscriptionId) ∈ done
  waits : ∀ relay ∈ q.subscribed, some (relay, .closed q.subscriptionId) ∉ done →
    relay ∈ s.pendingRelays ∨ 0 < s.completeRelays

/-- What a stretch of notifications may lead to from `s`. -/
def Sound (done : List Notification) (s : Collected) : Except Answer Collected → Prop
  | .ok s' => q.Listening done s' ∧ s.completeRelays ≤ s'.completeRelays
  | .error (.ok events) => q.Kept events ∧ (q.capPolicy = .failClosed → q.HasAnswer done events)
  | .error (.error _) => s.completeRelays = 0

variable {q} {done : List Notification} {s : Collected}

theorem HasAnswer.append {events} (h : q.HasAnswer done events) (more : List Notification) :
    q.HasAnswer (done ++ more) events := by
  obtain ⟨relay, hrelay, before, after, rfl, hsent⟩ := h
  refine ⟨relay, hrelay, before, after ++ more, by simp, fun e he => ?_⟩
  obtain ⟨e', he', hid, sender, hsender⟩ := hsent e he
  exact ⟨e', he', hid, sender, List.mem_append_left _ hsender⟩

theorem Listening.hasAnswer (h : q.Listening done s) {relay} (hrelay : relay ∈ q.subscribed)
    (hdone : some (relay, .endOfStoredEvents q.subscriptionId) ∈ done) : q.HasAnswer done s.events := by
  obtain ⟨before, after, hsplit⟩ := List.append_of_mem hdone
  refine ⟨relay, hrelay, before, after, hsplit, fun e he => ?_⟩
  obtain ⟨e', he', hid⟩ := List.mem_map.1 (h.heard relay e (hsplit ▸ List.mem_append_left _ he))
  exact ⟨e', he', hid, h.sent e' he'⟩

theorem settle_sound (h : q.Listening done s) (more : List Notification) (why : String) :
    q.Sound (done ++ more) s (.error (settle s why)) := by
  unfold settle
  split
  · rename_i hcomplete
    obtain ⟨relay, hrelay, hdone⟩ := h.complete hcomplete
    exact ⟨h.kept, fun _ => (h.hasAnswer hrelay hdone).append more⟩
  · exact Nat.eq_zero_of_not_pos ‹_›

/-- A notification adds nothing to hear of where it carries no new event. -/
theorem Listening.skip (h : q.Listening done s) {n}
    (hn : ∀ relay e, n = some (relay, .event q.subscriptionId e) → e.id ∈ s.events.map (·.id)) :
    q.Listening (done ++ [n]) s where
  __ := h
  heard relay e he := (List.mem_append.1 he).elim (h.heard relay e) fun h => hn relay e (List.mem_singleton.1 h).symm
  sent e he := (h.sent e he).imp fun _ => List.mem_append_left _
  complete hc := (h.complete hc).imp fun _ h => ⟨h.1, List.mem_append_left _ h.2⟩
  waits relay hr hc := h.waits relay hr fun hd => hc (List.mem_append_left _ hd)

theorem Kept.push {events} (h : q.Kept events) {e} (hnew : e.id ∉ events.map (·.id))
    (hcount : events.length ≠ q.count) (hbytes : e.bytes ≤ q.perEventBytes)
    (htotal : (events.map (·.bytes)).sum + e.bytes ≤ q.aggregateBytes) : q.Kept (events ++ [e]) where
  ids := by simpa [List.nodup_append, h.ids] using fun e' he' hid => hnew (List.mem_map.2 ⟨e', he', hid⟩)
  count := by simpa using Nat.succ_le_of_lt (Nat.lt_of_le_of_ne h.count hcount)
  each e' he' := (List.mem_append.1 he').elim (h.each e') fun he => List.mem_singleton.1 he ▸ hbytes
  total := by simpa using htotal

theorem onEvent_sound (h : q.Listening done s) (relay : String) (e : Event) :
    q.Sound (done ++ [some (relay, .event q.subscriptionId e)]) s (q.onEvent s e) := by
  unfold onEvent
  split
  · rename_i hseen
    refine ⟨h.skip ?_, Nat.le_refl _⟩
    rintro relay' e' ⟨⟩
    exact (h.seen e.id).1 hseen
  rename_i hnew
  rw [h.seen] at hnew
  dsimp only
  split
  · exact settle_sound h _ _
  rename_i hcount
  split
  · exact settle_sound h _ _
  rename_i hbytes
  split
  · split
    · exact ⟨h.kept, by simp [*]⟩
    · exact settle_sound h _ _
  rename_i htotal
  have hkept := h.kept.push hnew hcount (Nat.le_of_not_lt hbytes) (h.bytes ▸ Nat.le_of_not_lt htotal)
  split
  · rename_i hcap
    exact ⟨hkept, by simp [hcap.1]⟩
  · refine ⟨⟨hkept, by simp [h.bytes], ?_, ?_, ?_, h.pending, ?_, ?_⟩, Nat.le_refl _⟩
    · simp [h.seen, or_comm, eq_comm]
    · intro relay' e' he
      rw [List.map_append, List.mem_append]
      rcases List.mem_append.1 he with hdone | hlast
      · exact .inl (h.heard relay' e' hdone)
      · simp_all
    · intro e' he
      rcases List.mem_append.1 he with hold | hlast
      · exact (h.sent e' hold).imp fun _ => List.mem_append_left _
      · exact ⟨relay, by simp_all⟩
    · exact fun hc => (h.complete hc).imp fun _ h => ⟨h.1, List.mem_append_left _ h.2⟩
    · exact fun relay hr hc => h.waits relay hr fun hd => hc (List.mem_append_left _ hd)

theorem onNotification_sound (h : q.Listening done s) (n : Notification) :
    q.Sound (done ++ [n]) s (q.onNotification s n) := by
  have hskip (hn : ∀ relay e, n ≠ some (relay, .event q.subscriptionId e)) : q.Listening (done ++ [n]) s :=
    h.skip fun relay e he => absurd he (hn relay e)
  unfold onNotification
  split
  · exact settle_sound h _ _
  · split
    · rename_i relay id e hid
      subst hid
      exact onEvent_sound h relay e
    · exact ⟨hskip (by simp_all), Nat.le_refl _⟩
  · rename_i relay id
    split
    · rename_i hid
      subst hid
      have hs := hskip (by simp)
      by_cases hrelay : relay ∈ s.pendingRelays
      · have hlast := h.pending.2 relay hrelay
        simp only [hrelay, if_true]
        split
        · exact ⟨h.kept, fun _ => hs.hasAnswer hlast (by simp)⟩
        · refine ⟨{ hs with
            pending := ⟨by simp_all, fun r hr => h.pending.2 r (List.mem_of_mem_filter hr)⟩
            complete := fun _ => ⟨relay, hlast, by simp⟩
            waits := fun _ _ _ => .inr (Nat.succ_pos _) }, Nat.le_succ _⟩
      · simp only [hrelay, if_false]
        rw [if_neg (by simpa using h.pending.1)]
        exact ⟨hs, Nat.le_refl _⟩
    · exact ⟨hskip (by simp), Nat.le_refl _⟩
  · rename_i relay id
    split
    · rename_i hid
      subst hid
      have hs := hskip (by simp)
      dsimp only
      split
      · exact settle_sound h _ _
      · refine ⟨{ hs with
          pending := ⟨by simp_all, fun r hr => h.pending.2 r (List.mem_of_mem_filter hr)⟩
          waits := fun r hr hc => (hs.waits r hr hc).imp_left fun hm => List.mem_filter.2 ⟨hm, ?_⟩ }, Nat.le_refl _⟩
        exact decide_eq_true fun he => hc (by simp [he])
    · exact ⟨hskip (by simp), Nat.le_refl _⟩
  · exact ⟨hskip (by simp), Nat.le_refl _⟩

theorem Sound.trans {s' x} (hc : s.completeRelays ≤ s'.completeRelays)
    (h : q.Sound done s' x) : q.Sound done s x := by
  rcases x with (why | events) | s''
  · exact Nat.eq_zero_of_le_zero (Nat.le_trans hc (Nat.le_of_eq h))
  · exact h
  · exact ⟨h.1, Nat.le_trans hc h.2⟩

theorem listen_sound (h : q.Listening done s) (notes : List Notification) :
    q.Sound (done ++ notes) s (q.listen s notes) := by
  induction notes generalizing done s with
  | nil => exact ⟨by simpa using h, Nat.le_refl _⟩
  | cons n rest ih =>
    have hstep := onNotification_sound h n
    rw [listen, List.foldlM_cons, List.append_cons]
    rcases hn : q.onNotification s n with (why | events) | s' <;> rw [hn] at hstep
    · exact hstep
    · exact ⟨hstep.1, fun hp => (hstep.2 hp).append rest⟩
    · exact (ih hstep.1).trans hstep.2

theorem Sound.finish {x} (h : q.Sound done s x) (ending : Ending) : q.Sound done s (.error (finish ending x)) := by
  rcases x with answer | s'
  · exact h
  · have hsettle why := (settle_sound h.1 [] why).trans h.2
    rw [List.append_nil] at hsettle
    cases ending <;> exact hsettle _

theorem listening_start (h : q.subscribed ≠ []) : q.Listening [] q.start where
  kept := ⟨.nil, Nat.zero_le _, nofun, Nat.zero_le _⟩
  bytes := rfl
  seen := by simp [start]
  heard := nofun
  sent := nofun
  pending := ⟨h, fun _ hr => hr⟩
  complete := nofun
  waits _ hr _ := .inl hr

/-- An answer once complete stays a success, whatever follows. -/
theorem finish_listen_ok (h : q.Listening done s) (hc : 0 < s.completeRelays) (notes : List Notification)
    (ending : Ending) : ∃ events, Nostr.finish ending (q.listen s notes) = .ok events := by
  have hs := (listen_sound h notes).finish ending
  rcases hf : Nostr.finish ending (q.listen s notes) with why | events
  · rw [hf] at hs
    exact absurd hs (Nat.ne_of_gt hc)
  · exact ⟨events, rfl⟩

theorem onNotification_unasked (h : q.Listening done s) {relay message} (hrelay : relay ∉ q.subscribed)
    (hm : message = .endOfStoredEvents q.subscriptionId ∨ message = .closed q.subscriptionId) :
    q.onNotification s (some (relay, message)) = .ok s := by
  have hpending : relay ∉ s.pendingRelays := fun hr => hrelay (h.pending.2 relay hr)
  have hfilter : s.pendingRelays.filter (· ≠ relay) = s.pendingRelays :=
    List.filter_eq_self.2 fun r hr => decide_eq_true fun he => hpending (he ▸ hr)
  have hnonempty := List.isEmpty_eq_false_iff.2 h.pending.1
  rcases hm with rfl | rfl <;> simp only [onNotification, hpending, hfilter, hnonempty, if_true, if_false] <;> rfl

/-- A relay that ends its stored answer makes the query a success. -/
theorem finish_listen_ended (h : q.Listening done s) {relay} (hrelay : relay ∈ s.pendingRelays)
    (notes : List Notification) (ending : Ending) :
    ∃ events, Nostr.finish ending
      (q.onNotification s (some (relay, .endOfStoredEvents q.subscriptionId)) >>= (q.listen · notes)) = .ok events := by
  have hstep := onNotification_sound h (some (relay, .endOfStoredEvents q.subscriptionId))
  simp only [onNotification, hrelay, if_true] at hstep ⊢
  split at hstep
  · rw [if_pos ‹_›]
    exact ⟨_, rfl⟩
  · rw [if_neg ‹_›]
    exact finish_listen_ok hstep.1 (Nat.succ_pos _) notes ending

/-- A success under the fail-closed policy holds a complete answer and every success is within the bounds; while the
query listens, the end of the answer of a relay that has not closed makes it a success, whatever follows; a relay that
was not asked changes nothing by ending or closing. -/
theorem complete_query_is_complete (q : Query) :
    (∀ notes ending events, q.collect notes ending = .ok events →
      q.Kept events ∧ (q.capPolicy = .failClosed → q.HasAnswer notes events)) ∧
    (∀ notes relay rest ending, relay ∈ q.subscribed → some (relay, .closed q.subscriptionId) ∉ notes →
      (q.listen q.start notes).isOk = true →
      ∃ events, q.collect (notes ++ some (relay, .endOfStoredEvents q.subscriptionId) :: rest) ending = .ok events) ∧
    ∀ notes relay message rest ending, relay ∉ q.subscribed →
      (message = .endOfStoredEvents q.subscriptionId ∨ message = .closed q.subscriptionId) →
      q.collect (notes ++ some (relay, message) :: rest) ending = q.collect (notes ++ rest) ending := by
  by_cases hsub : q.subscribed = []
  · simp [collect, hsub]
  have hsound notes : q.Sound notes q.start (q.listen q.start notes) := listen_sound (listening_start hsub) notes
  simp only [collect, List.isEmpty_eq_false_iff.2 hsub, Bool.false_eq_true, if_false, listen, List.foldlM_append]
  refine ⟨?_, ?_, ?_⟩
  · intro notes ending events hok
    have hs := (hsound notes).finish ending
    rw [listen, hok] at hs
    exact hs
  · intro notes relay rest ending hrelay hclosed hok
    have hs := hsound notes
    rw [listen] at hs
    rcases hl : notes.foldlM q.onNotification q.start with answer | s <;> rw [hl] at hs hok
    · cases hok
    change ∃ events, Nostr.finish ending (q.listen s (some (relay, .endOfStoredEvents q.subscriptionId) :: rest)) = _
    rcases hs.1.waits relay hrelay hclosed with hp | hc
    · exact finish_listen_ended hs.1 hp rest ending
    · exact finish_listen_ok hs.1 hc _ ending
  · intro notes relay message rest ending hrelay hmessage
    have hs := hsound notes
    rw [listen] at hs
    rcases hl : notes.foldlM q.onNotification q.start with answer | s <;> rw [hl] at hs
    · rfl
    · change Nostr.finish ending (q.onNotification s _ >>= (q.listen · rest)) = _
      rw [onNotification_unasked hs.1 hrelay hmessage]
      rfl

def twoRelays : Query := ⟨"sub", ["near", "far"], 2, 10, 100, .failClosed⟩

def nearAnswers : List Notification :=
  [some ("near", .event "sub" ⟨"old", 5⟩), some ("stranger", .closed "sub"), some ("far", .event "sub" ⟨"new", 8⟩)]

/-- One relay answers and the other goes on to an event that is too long. -/
theorem complete_query_is_complete_spoiled :
    twoRelays.collect (nearAnswers ++ [some ("near", .endOfStoredEvents "sub"), some ("far", .event "sub" ⟨"long", 11⟩)])
        .ended = .ok [⟨"old", 5⟩, ⟨"new", 8⟩] ∧
      (∀ rest ending, ∃ events,
        twoRelays.collect (nearAnswers ++ some ("near", .endOfStoredEvents "sub") :: rest) ending = .ok events ∧
          twoRelays.Kept events ∧
          twoRelays.HasAnswer (nearAnswers ++ some ("near", .endOfStoredEvents "sub") :: rest) events) ∧
      ∀ rest ending, twoRelays.collect (nearAnswers ++ some ("stranger", .endOfStoredEvents "sub") :: rest) ending =
        twoRelays.collect (nearAnswers ++ rest) ending := by
  obtain ⟨within, survives, unasked⟩ := complete_query_is_complete twoRelays
  refine ⟨rfl, fun rest ending => ?_, fun rest ending => unasked _ _ _ rest ending (by decide) (.inl rfl)⟩
  obtain ⟨events, hok⟩ := survives nearAnswers "near" rest ending (by decide) (by simp [nearAnswers, twoRelays]) rfl
  exact ⟨events, hok, (within _ _ _ hok).imp_right fun h => h rfl⟩

end Query

end Manifold.Nostr
