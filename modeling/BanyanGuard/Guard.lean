import BanyanGuard.Lifecycle
import BanyanGuard.License

/-!
# `Check` over every interleaving

Each step of a `Lifecycle` moves the shared state machine by a run of its transitions, so
LOCKED and BANNED stay final under every interleaving, and the Guard reads INIT exactly until
a verified `Start`.  With one such `Start`, an interleaving is a stuttering copy of the
sequential loop of `startHeartbeat`.
-/

namespace BanyanGuard

/-- `State.String`. -/
def State.string : State → String
  | .init => "INIT"
  | .active => "ACTIVE"
  | .grace => "GRACE"
  | .locked => "LOCKED"
  | .banned => "BANNED"

/-- `Check`: nil while ACTIVE or GRACE, else the sentinel for the state. -/
def check : State → Option GoError
  | .active | .grace => none
  | .locked => some (.sentinel .errLocked)
  | .banned => some (.sentinel .errBanned)
  | .init => some (.sentinel .errNotActivated)

@[simp] theorem check_eq_notActivated_iff (s : State) :
    check s = some (.sentinel .errNotActivated) ↔ s = .init := by
  cases s <;> decide

@[simp] theorem check_eq_locked_iff (s : State) :
    check s = some (.sentinel .errLocked) ↔ s = .locked := by
  cases s <;> decide

@[simp] theorem check_eq_banned_iff (s : State) :
    check s = some (.sentinel .errBanned) ↔ s = .banned := by
  cases s <;> decide

/-- The state an iteration leaves the machine in, whether the loop goes on or returns. -/
def Iteration.sm : Iteration → State
  | .next ls => ls.sm
  | .done sm => sm

theorem heartbeatIteration_sm (cfg : Config) (ls : LoopState) (b : Beat) :
    ∃ events, (heartbeatIteration cfg ls b).sm = runEvents ls.sm events := by
  cases outcome : b.outcome with
  | ok => exact ⟨[.heartbeatOK], by rw [heartbeatIteration_ok cfg ls outcome]; rfl⟩
  | kill => exact ⟨[.kill], by rw [heartbeatIteration_kill cfg ls outcome]; rfl⟩
  | transient =>
    rw [heartbeatIteration_transient cfg ls outcome]
    split
    · exact ⟨[.heartbeatFail, .gracePeriodExpired], rfl⟩
    · exact ⟨[.heartbeatFail], rfl⟩

namespace Lifecycle

variable {cfg : Config}

theorem step_sm {g g' : Lifecycle} {e : GuardEvent} (stepped : g.step cfg e = some g') :
    ∃ events, g'.sm = runEvents g.sm events := by
  cases e with
  | start verified =>
    simp only [step] at stepped
    split at stepped <;> cases stepped
    · exact ⟨[.verifySuccess], rfl⟩
    · exact ⟨[], rfl⟩
  | stop =>
    simp only [step] at stepped
    split at stepped <;> cases stepped <;> exact ⟨[], rfl⟩
  | fire i | done i =>
    simp only [step] at stepped
    repeat' split at stepped
    all_goals cases stepped <;> exact ⟨[], rfl⟩
  | beat i b =>
    simp only [step] at stepped
    split at stepped
    · rename_i graceStart _
      obtain ⟨events, moved⟩ := heartbeatIteration_sm cfg ⟨g.sm, graceStart⟩ b
      split at stepped <;> rename_i iterated <;> cases stepped <;> rw [iterated] at moved <;>
        exact ⟨events, moved⟩
    · cases stepped

theorem run_sm : ∀ (events : List GuardEvent) {g g' : Lifecycle}, g.run cfg events = some g' →
    ∃ transitions, g'.sm = runEvents g.sm transitions
  | [], _, _, ran => by cases ran; exact ⟨[], rfl⟩
  | _ :: events, _, _, ran => by
    obtain ⟨_, stepped, rest⟩ := run_cons_eq_some ran
    obtain ⟨first, moved⟩ := step_sm stepped
    obtain ⟨later, moved'⟩ := run_sm events rest
    exact ⟨first ++ later, by rw [moved', moved, runEvents_append]⟩

/-- The machine is in INIT and no goroutine was started. -/
def Dormant (g : Lifecycle) : Prop := g.sm = .init ∧ ∀ i, g.loops i = none

theorem step_dormant {g g' : Lifecycle} {e : GuardEvent} (dormant : g.Dormant)
    (stepped : g.step cfg e = some g') :
    e = .start true ∧ g'.sm = .active ∨ e ≠ .start true ∧ g'.Dormant := by
  obtain ⟨init, idle⟩ := dormant
  cases e with
  | start verified =>
    cases verified <;> simp only [step, Bool.false_eq_true, if_false, if_true] at stepped <;>
      cases stepped
    · exact .inr ⟨by simp, init, idle⟩
    · exact .inl ⟨rfl, by rw [init]; rfl⟩
  | stop =>
    simp only [step] at stepped
    split at stepped <;> cases stepped <;> exact .inr ⟨by simp, init, idle⟩
  | fire i | done i | beat i b => simp [step, idle] at stepped

theorem run_dormant : ∀ (events : List GuardEvent) {g g' : Lifecycle}, g.Dormant →
    g.run cfg events = some g' →
      (GuardEvent.start true ∉ events → g'.Dormant) ∧
        (GuardEvent.start true ∈ events → g'.sm ≠ .init)
  | [], _, _, dormant, ran => by cases ran; exact ⟨fun _ => dormant, by simp⟩
  | e :: events, _, _, dormant, ran => by
    obtain ⟨_, stepped, rest⟩ := run_cons_eq_some ran
    rcases step_dormant dormant stepped with ⟨rfl, active⟩ | ⟨other, dormant₁⟩
    · obtain ⟨transitions, moved⟩ := run_sm events rest
      refine ⟨by simp, fun _ => ?_⟩
      rw [moved]
      exact runEvents_ne_init (by rw [active]; decide) transitions
    · simpa [Ne.symm other] using run_dormant events dormant₁ rest

end Lifecycle

/-- From `New`, `Check` returns `ErrNotActivated` exactly until a `Start` whose license
verified, whatever the goroutines do. -/
theorem check_not_activated_until_verified (cfg : Config) {events : List GuardEvent}
    {g : Lifecycle} (ran : Lifecycle.new.run cfg events = some g) :
    check g.sm = some (.sentinel .errNotActivated) ↔ GuardEvent.start true ∉ events := by
  obtain ⟨dormant, activated⟩ := Lifecycle.run_dormant events ⟨rfl, fun _ => rfl⟩ ran
  rw [check_eq_notActivated_iff]
  exact ⟨fun init started => activated started init, fun notStarted => (dormant notStarted).1⟩

/-- A failed `Start` and a `Stop` leave a new Guard not activated. -/
theorem check_not_activated_after_failed_start :
    let cfg : Config :=
      ⟨"", "demo", "app", ⟨3⟩, ⟨false, false, "", "", 0, false, false, false⟩, []⟩
    ∃ g, Lifecycle.new.run cfg [.start false, .stop] = some g ∧
      (check g.sm = some (.sentinel .errNotActivated) ↔
        GuardEvent.start true ∉ [GuardEvent.start false, .stop]) := by
  intro cfg
  exact ⟨_, rfl, check_not_activated_until_verified cfg rfl⟩

/-- Once `Check` returns `ErrBanned` it returns nothing else, and once it returns `ErrLocked`
it returns `ErrLocked` or `ErrBanned`, through every interleaving. -/
theorem check_lock_and_ban_are_final (cfg : Config) {g g' : Lifecycle}
    {events : List GuardEvent} (ran : g.run cfg events = some g') :
    (check g.sm = some (.sentinel .errBanned) → check g'.sm = some (.sentinel .errBanned)) ∧
    (check g.sm = some (.sentinel .errLocked) →
      check g'.sm = some (.sentinel .errLocked) ∨ check g'.sm = some (.sentinel .errBanned)) := by
  obtain ⟨transitions, moved⟩ := Lifecycle.run_sm events ran
  simp only [check_eq_banned_iff, check_eq_locked_iff, moved]
  exact ⟨fun banned => banned ▸ runEvents_banned transitions,
    fun locked => locked ▸ runEvents_locked transitions⟩

/-- A banned Guard started again, whose new goroutine gets a successful heartbeat, stays banned. -/
theorem check_ban_survives_restart :
    let cfg : Config :=
      ⟨"", "demo", "app", ⟨3⟩, ⟨false, false, "", "", 0, false, false, false⟩, []⟩
    let g : Lifecycle := { Lifecycle.new with sm := .banned }
    let events : List GuardEvent :=
      [.start true, .fire 0, .beat 0 ⟨.ok ⟨"ok", false, []⟩, 0, 0⟩]
    ∃ g', g.run cfg events = some g' ∧
      (check g.sm = some (.sentinel .errBanned) → check g'.sm = some (.sentinel .errBanned)) ∧
      (check g.sm = some (.sentinel .errLocked) →
        check g'.sm = some (.sentinel .errLocked) ∨
          check g'.sm = some (.sentinel .errBanned)) := by
  intro cfg g events
  exact ⟨_, rfl, @check_lock_and_ban_are_final cfg g _ events rfl⟩

/-- The heartbeat a step acts on, if it is a goroutine's beat. -/
def GuardEvent.beat? : GuardEvent → Option Beat
  | .beat _ b => some b
  | _ => none

/-- The state the loop is in, or returned in. -/
def LoopResult.sm : LoopResult → State
  | .running ls => ls.sm
  | .exited sm _ => sm

/-- The loop after one more wake. -/
def LoopResult.feed (cfg : Config) : LoopResult → Beat → LoopResult
  | .running ls, b =>
    match heartbeatIteration cfg ls b with
    | .next ls' => .running ls'
    | .done sm => .exited sm []
  | .exited sm unobserved, b => .exited sm (unobserved ++ [b])

theorem startHeartbeat_append_singleton (cfg : Config) (b : Beat) :
    ∀ (beats : List Beat) (ls : LoopState),
      startHeartbeat cfg ls (beats ++ [b]) = (startHeartbeat cfg ls beats).feed cfg b
  | [], ls => by
    cases iterated : heartbeatIteration cfg ls b <;>
      simp only [List.nil_append, startHeartbeat, LoopResult.feed, iterated]
  | b' :: beats, ls => by
    simp only [List.cons_append, startHeartbeat]
    split
    · exact startHeartbeat_append_singleton cfg b beats _
    · rfl

/-- Goroutine `c` is where the loop is, with the loop's `graceStart`, or has returned. -/
def PhaseMatches : Option LoopPhase → LoopResult → Prop
  | some (.waiting graceStart), .running ls => graceStart = ls.graceStart
  | some (.sending graceStart), .running ls => graceStart = ls.graceStart
  | some .exited, _ => True
  | _, _ => False

namespace Lifecycle

variable {cfg : Config}

/-- The Guard agrees with `r`, the sequential loop of its only goroutine `c`. -/
def Follows (g : Lifecycle) (c : Nat) (r : LoopResult) : Prop :=
  g.sm = r.sm ∧ (∀ i, i ≠ c → g.loops i = none) ∧ PhaseMatches (g.loops c) r

theorem step_follows {g g' : Lifecycle} {c : Nat} {r : LoopResult} {e : GuardEvent}
    (follows : g.Follows c r) (other : e ≠ .start true) (stepped : g.step cfg e = some g') :
    g'.Follows c (e.beat?.elim r (r.feed cfg)) := by
  obtain ⟨sm, solo, phase⟩ := follows
  have only : ∀ {i phase}, g.loops i = some phase → i = c := fun {i} {_} found =>
    Decidable.byContradiction fun other => by simp [solo i other] at found
  cases e with
  | start verified =>
    cases verified
    · simp only [step, Bool.false_eq_true, if_false, Option.some.injEq] at stepped
      subst stepped
      exact ⟨sm, solo, phase⟩
    · exact absurd rfl other
  | stop =>
    simp only [step] at stepped
    split at stepped <;> cases stepped <;> exact ⟨sm, solo, phase⟩
  | fire i =>
    simp only [step] at stepped
    split at stepped
    · rename_i graceStart waiting
      obtain rfl := only waiting
      cases stepped
      rw [waiting] at phase
      cases r with
      | exited => exact phase.elim
      | running ls =>
        exact ⟨sm, fun i other => by simp [Function.update_noteq other, solo i other],
          by simpa [PhaseMatches] using phase⟩
    · cases stepped
  | done i =>
    simp only [step] at stepped
    split at stepped
    · rename_i graceStart waiting
      obtain rfl := only waiting
      split at stepped <;> cases stepped
      exact ⟨sm, fun i other => by simp [Function.update_noteq other, solo i other],
        by simp [PhaseMatches]⟩
    · cases stepped
  | beat i b =>
    simp only [step] at stepped
    split at stepped
    · rename_i graceStart sending
      obtain rfl := only sending
      rw [sending] at phase
      cases r with
      | exited => exact phase.elim
      | running ls =>
        obtain ⟨lsSm, lsGraceStart⟩ := ls
        simp only [PhaseMatches] at phase
        simp only [LoopResult.sm] at sm
        subst phase sm
        simp only [GuardEvent.beat?, Option.elim_some, LoopResult.feed]
        cases iterated : heartbeatIteration cfg ⟨g.sm, graceStart⟩ b <;>
          simp only [iterated] at stepped ⊢ <;> cases stepped <;>
          exact ⟨rfl, fun i other => by simp [Function.update_noteq other, solo i other],
            by simp [PhaseMatches]⟩
    · cases stepped

theorem run_follows (c : Nat) (ls : LoopState) :
    ∀ (events : List GuardEvent) (beats : List Beat) {g g' : Lifecycle},
      g.Follows c (startHeartbeat cfg ls beats) → GuardEvent.start true ∉ events →
      g.run cfg events = some g' →
      g'.Follows c (startHeartbeat cfg ls (beats ++ events.filterMap GuardEvent.beat?))
  | [], beats, _, _, follows, _, ran => by cases ran; simpa using follows
  | e :: events, beats, _, _, follows, single, ran => by
    obtain ⟨_, stepped, rest⟩ := run_cons_eq_some ran
    have follows₁ := step_follows follows (fun same => single (same ▸ List.mem_cons_self _ _))
      stepped
    have fed : e.beat?.elim (startHeartbeat cfg ls beats) ((startHeartbeat cfg ls beats).feed cfg)
        = startHeartbeat cfg ls (beats ++ e.beat?.toList) := by
      cases e.beat? <;> simp [startHeartbeat_append_singleton]
    rw [fed] at follows₁
    have later :=
      run_follows c ls events _ follows₁ (fun mem => single (List.mem_cons_of_mem _ mem))
      rest
    have beats₁ : (e :: events).filterMap GuardEvent.beat? =
        e.beat?.toList ++ events.filterMap GuardEvent.beat? := by
      cases found : e.beat? <;> simp [List.filterMap_cons, found]
    rwa [beats₁, ← List.append_assoc]

theorem run_append {g g' : Lifecycle} {events events' : List GuardEvent}
    (ran : g.run cfg (events ++ events') = some g') :
    ∃ g₁, g.run cfg events = some g₁ ∧ g₁.run cfg events' = some g' := by
  induction events generalizing g with
  | nil => exact ⟨g, rfl, ran⟩
  | cons e events inductionHypothesis =>
    obtain ⟨g₂, stepped, rest⟩ := run_cons_eq_some ran
    obtain ⟨g₁, before, after⟩ := inductionHypothesis rest
    exact ⟨g₁, by simp [run, stepped, before], after⟩

end Lifecycle

/-- With one verified `Start`, however failed `Start`s and `Stop`s interleave with its
goroutine, the Guard is where `startHeartbeat` is over the heartbeats the goroutine acted on. -/
theorem single_start_follows_loop (cfg : Config) {pre events : List GuardEvent}
    {g : Lifecycle} (single : GuardEvent.start true ∉ pre ++ events)
    (ran : Lifecycle.new.run cfg (pre ++ .start true :: events) = some g) :
    g.sm = (startHeartbeat cfg ⟨.active, none⟩ (events.filterMap GuardEvent.beat?)).sm := by
  obtain ⟨g₀, before, after⟩ := Lifecycle.run_append ran
  obtain ⟨init, idle⟩ :=
    (Lifecycle.run_dormant pre ⟨rfl, fun _ => rfl⟩ before).1 fun mem =>
      single (List.mem_append_left _ mem)
  obtain ⟨g₁, stepped, rest⟩ := Lifecycle.run_cons_eq_some after
  simp only [Lifecycle.step, if_true, Option.some.injEq] at stepped
  subst stepped
  have follows := Lifecycle.run_follows g₀.contexts ⟨.active, none⟩ events [] ?started
    (fun mem => single (List.mem_append_right _ mem)) rest
  · rw [List.nil_append] at follows
    exact follows.1
  case started =>
    refine ⟨show onVerifySuccess g₀.sm = .active by rw [init]; rfl, fun i other => ?_,
      by simp [PhaseMatches, startHeartbeat]⟩
    simp [Function.update_noteq other, idle i]

/-- A `Stop` after the goroutine's first failed heartbeat leaves the Guard in GRACE. -/
theorem single_start_follows_loop_across_stop :
    let cfg : Config :=
      ⟨"", "demo", "app", ⟨3⟩, ⟨false, false, "", "", 0, false, false, false⟩, []⟩
    let pre : List GuardEvent := [.start false, .stop]
    let events : List GuardEvent :=
      [.fire 1, .beat 1 ⟨.error (.plain "timeout"), 0, 0⟩, .stop, .start false, .done 1]
    GuardEvent.start true ∉ pre ++ events ∧
      ∃ g, Lifecycle.new.run cfg (pre ++ .start true :: events) = some g ∧
        g.sm = (startHeartbeat cfg ⟨.active, none⟩ (events.filterMap GuardEvent.beat?)).sm := by
  intro cfg pre events
  have single : GuardEvent.start true ∉ pre ++ events := by simp [pre, events]
  exact ⟨single, _, rfl, single_start_follows_loop cfg single rfl⟩

/-- The error `Start` returns: `verifyLicense`'s, wrapped. -/
def startError (P : Primitives) (publicKey : List UInt8) (cached : Except GoError CachedLicense)
    (reply : Except GoError VerifyResponse) : Option GoError :=
  (verifyLicense P publicKey cached reply).1.map (.wrapped "license verification failed: %w")

theorem GoError.existsUnique_is {err : GoError} {s : Sentinel} (is : ∀ t, err.is t = (s == t)) :
    ∃! t, err.is t :=
  ⟨s, by simp [is], fun t (found : err.is t) => by
    rw [is, beq_iff_eq] at found
    exact found.symm⟩

theorem startError_names_one_sentinel (P : Primitives) (publicKey : List UInt8)
    (cached : Except GoError CachedLicense) (reply : Except GoError VerifyResponse) :
    ∀ err ∈ startError P publicKey cached reply, (∃! s, err.is s) ∧
      ∀ requestErr, reply = .error requestErr → ∀ s, err.is s ↔ s = .errNetworkError := by
  intro err returned
  simp only [startError, Option.mem_def, Option.map_eq_some'] at returned
  obtain ⟨inner, verified, rfl⟩ := returned
  unfold verifyLicense at verified
  split at verified
  · cases verified
  rcases reply with requestErr | resp
  · cases verified
    exact ⟨GoError.existsUnique_is fun _ => rfl, fun _ _ s => by
      rw [GoError.is_wrapped, GoError.is_tagged, beq_iff_eq]; exact eq_comm⟩
  · dsimp only at verified
    split at verified
    · cases verified
      refine ⟨?_, fun _ failed => by cases failed⟩
      unfold licenseError
      split_ifs <;> exact GoError.existsUnique_is fun _ => rfl
    · cases verified

end BanyanGuard
