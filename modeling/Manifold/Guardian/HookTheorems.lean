import Manifold.Guardian.Lemmas.Hooks
import Manifold.Guardian.TransferTheorems

/-!
# Completion hooks stay readable and settle once
-/

namespace Manifold.Guardian.Hooks

variable {env : Env}

def CompletionCallbackRow.settled (r : CompletionCallbackRow) : Bool :=
  ["not_configured", "delivered", "terminal"].contains r.status

/-- The row of a seat holds the first choice: none is not configured, a callback is kept as it was given
until it is delivered or ended. -/
def CompletionCallbackRow.Holds (json : CallbackJson) (choice : Option DkgCompletionCallback)
    (r : CompletionCallbackRow) : Prop :=
  match choice with
  | none => r.status = "not_configured"
  | some callback => r.callback = some (json.encode callback) ∨ r.status = "delivered" ∨ r.status = "terminal"

theorem Hook.holds_of_carries {choice h json seatId} (hc : Carries choice h) :
    (h.row json seatId).Holds json choice := by
  cases choice with
  | none => cases h <;> first | rfl | cases hc
  | some callback =>
    cases h with
    | pending c a n r => cases hc; exact .inl rfl
    | operatorBlocked c a r => cases hc; exact .inl rfl
    | delivered a atMs => exact .inr (.inl rfl)
    | terminal a atMs r => exact .inr (.inr rfl)
    | notConfigured => cases hc

theorem Hook.settled_iff {h : Hook} {json seatId} : (h.row json seatId).settled = true ↔ h.callback = none := by
  cases h <;> simp [row, CompletionCallbackRow.settled, callback]

/-- In every state that daemons and their restarts reach: validation passes, every row decodes, has a bearer exactly
when it is pending or blocked, and holds the first choice made for its seat. From there on the row stays, its counter
does not decrease, a settled row does not change, and a bearer is kept or dropped. -/
theorem completion_callbacks_settle_once {es : List Event} {s : State} (hreach : (machine env).Reaches es s) :
    (∀ e, .refused e ∉ es) ∧ s.db.validateCompletionCallbacks env.json = .ok () ∧
    (∀ seatId choice, firstChoice es seatId = some choice →
      ∃ row ∈ s.db.callbacks.rows, row.quoteId = seatIdBytes seatId ∧ row.Holds env.json choice) ∧
    ∀ row ∈ s.db.callbacks.rows,
      (∃ seatId choice, row.quoteId = seatIdBytes seatId ∧ firstChoice es seatId = some choice) ∧
      (∃ record, row.decode env.json = .ok record) ∧
      (row.callback.isSome = true ↔ row.status = "pending" ∨ row.status = "operator_blocked") ∧
      0 ≤ row.attempts ∧ row.attempts ≤ u32Max ∧
      ∀ fs s', (machine env).Run s fs s' → ∃ row' ∈ s'.db.callbacks.rows, row'.quoteId = row.quoteId ∧
        row.attempts ≤ row'.attempts ∧ (row.settled = true → row' = row) ∧
        (row'.callback = row.callback ∨ row'.callback = none) := by
  obtain ⟨hchosen, haccepted⟩ := reaches_chosen hreach
  refine ⟨haccepted, validate_ok hchosen.sound, ?_, ?_⟩
  · intro seatId choice hfirst
    obtain ⟨h, hm, hcarries⟩ := hchosen.first seatId choice hfirst
    exact ⟨_, hm, Hook.row_quoteId h, Hook.holds_of_carries hcarries⟩
  intro row hrow
  obtain ⟨seatId, h, rfl⟩ := hchosen.sound row hrow
  have hlt := h.attempts.toNat_lt
  refine ⟨?_, ⟨_, decode_row h⟩, by cases h <;> simp [Hook.row], by simp, ?_, ?_⟩
  · cases hf : firstChoice es seatId with
    | none => exact absurd (Hook.row_quoteId h) (hchosen.absent seatId hf _ hrow)
    | some choice => exact ⟨seatId, choice, Hook.row_quoteId h, hf⟩
  · simp only [Hook.row_attempts, u32Max]
    omega
  intro fs s' hrun
  obtain ⟨h', hm', hsteps⟩ := run_follows hreach hrun seatId h hrow
  refine ⟨_, hm', by simp, ?_, ?_, ?_⟩
  · simpa using hsteps.attempts_le
  · intro hsettled
    rw [hsteps.eq_of_settled (Hook.settled_iff.mp hsettled)]
  · rcases hsteps.callback_eq with he | he
    · exact .inl (by simp [he])
    · exact .inr (by simp [he])

/-! ## A run -/

def parseMarked : List Char → Option (List Char × List Char)
  | 'x' :: c :: rest => (parseMarked rest).map (fun r => (c :: r.1, r.2))
  | 'y' :: rest => some ([], rest)
  | _ => none

theorem parseMarked_append (url key : List Char) :
    parseMarked (url.flatMap (fun c => ['x', c]) ++ 'y' :: key) = some (url, key) := by
  induction url with
  | nil => rfl
  | cons c url ih => simp [parseMarked, ih]

def markedJson : CallbackJson where
  print url key := String.ofList (url.toList.flatMap (fun c => ['x', c]) ++ 'y' :: key.toList)
  parse text := (parseMarked text.toList).map (fun r => (String.ofList r.1, String.ofList r.2))
  parse_print url key := by simp [parseMarked_append]

def hookEnv : Env := ⟨markedJson, plainCodec, fun _ => 0⟩

def hookCallback : DkgCompletionCallback := ⟨"https://push/hooks/a/b", "once", by decide +kernel, by decide +kernel⟩

def hookConfig : Config where
  gatewayOrigin := some { origin := "push", pathSegments := some [""] }
  retryBaseMs := 15000
  parseUrl _ := some { origin := "push", pathSegments := some ["hooks", "a", "b"] }
  sha256Head _ := 7

def hookStart : State := ⟨⟨sellingHost, .empty⟩, none⟩

/-- A ceremony chooses a callback, a restart of it chooses none, and the formed seat's hook is delivered
by a daemon started later. -/
def hookRun : List Act :=
  [.write (.recordDkgInputs 10 ["code"] (some hookCallback) 5), .write (.recordDkgInputs 10 ["code"] none 6),
    .write (.elsewhere (sellingHost.recordFormed 10 "native" 7).store), .boot hookConfig, .wake, .answer {},
    .answer { now := 8 }, .answer {}, .answer { now := 8 }, .answer {}, .answer { taskId := 3 }, .rest,
    .join 3 (some .delivered), .answer { now := 9 }, .rest]

theorem completion_callbacks_settle_once_delivered :
    ((machine hookEnv).exec hookStart hookRun).map (fun r =>
      (firstChoice r.2 10, r.1.db.callbacks.rows.map (fun r => (r.callback, r.status, r.attempts)))) =
      some (some (some hookCallback), [(none, "delivered", 1)]) ∧
    ∀ r ∈ (machine hookEnv).exec hookStart hookRun, ∀ row ∈ r.1.db.callbacks.rows,
      ∃ record, row.decode hookEnv.json = .ok record :=
  ⟨by decide +kernel, fun _ hr row hrow =>
    ((completion_callbacks_settle_once (Lib.Machine.reaches_of_exec ⟨rfl, rfl⟩ hr)).2.2.2 row hrow).2.1⟩

end Manifold.Guardian.Hooks
