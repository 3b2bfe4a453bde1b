import BanyanGuard.StateMachine
import BanyanGuard.Update.Dispatch

/-!
# The heartbeat loop

`sendHeartbeat` turns a reply into `nil`, `ErrBanned` after its own `OnKill`, or a network
error.  A wake of the goroutine is one `Beat`: the reply and the two clock readings a failed
iteration takes, `time.Now()` for `graceStart` and the later one inside `time.Since`.  The
run is characterized by `expectedRun`, which reads it off the beats alone.
-/

namespace BanyanGuard

/-- What `sendHeartbeat` leaves: the state after its `OnKill`, its error, the attempts started. -/
structure HeartbeatResult where
  sm : State
  err : Option GoError
  started : List UpdateAttempt

/-- `sendHeartbeat`, given what `postJSON` returned. -/
def sendHeartbeat (cfg : Config) (sm : State) (reply : Except GoError HeartbeatResponse) :
    HeartbeatResult :=
  match reply with
  | .error err => ⟨sm, some (.tagged .errNetworkError err), []⟩
  | .ok resp =>
    if resp.status = "kill" then ⟨onKill sm, some (.sentinel .errBanned), []⟩
    else if cfg.ota.enabled && !resp.updateFrozen then
      ⟨sm, none,
        (resp.updates.filter (·.updateAvailable)).flatMap (handleUpdateNotification cfg)⟩
    else ⟨sm, none, []⟩

theorem started_sendHeartbeat (cfg : Config) (sm : State) (resp : HeartbeatResponse) :
    (sendHeartbeat cfg sm (.ok resp)).started =
      if resp.status ≠ "kill" ∧ cfg.ota.enabled ∧ cfg.ota.autoUpdate ∧
          resp.updateFrozen = false then
        (resp.updates.filter (·.updateAvailable)).filterMap (notifiedAttempt cfg)
      else [] := by
  have routed : handleUpdateNotification cfg =
      fun u => if cfg.ota.autoUpdate then (notifiedAttempt cfg u).toList else [] :=
    funext (handleUpdateNotification_eq cfg)
  simp only [sendHeartbeat, routed]
  by_cases kill : resp.status = "kill"
  · simp [kill]
  by_cases auto : cfg.ota.autoUpdate <;>
    by_cases enabled : cfg.ota.enabled <;> by_cases frozen : resp.updateFrozen <;>
    simp [kill, auto, enabled, frozen, List.filterMap_eq_flatMap_toList]

/-- One wake of the heartbeat goroutine: the reply to its heartbeat and the clock. -/
structure Beat where
  reply : Except GoError HeartbeatResponse
  /-- What `time.Now()` returns if the iteration sets `graceStart`. -/
  now : Int
  /-- The reading `time.Since(graceStart)` takes, after `now`. -/
  since : Int

inductive Outcome where
  | ok | kill | transient
  deriving DecidableEq, Repr

def Beat.outcome (b : Beat) : Outcome :=
  match b.reply with
  | .error _ => .transient
  | .ok resp => if resp.status = "kill" then .kill else .ok

def Beat.transient (b : Beat) : Bool := b.outcome == .transient

/-- The goroutine's variables; `none` is the zero `time.Time`. -/
structure LoopState where
  sm : State
  graceStart : Option Int
  deriving DecidableEq, Repr

inductive Iteration where
  | next (ls : LoopState)
  | done (sm : State)
  deriving DecidableEq, Repr

/-- One iteration of the `for` loop after the timer fired. -/
def heartbeatIteration (cfg : Config) (ls : LoopState) (b : Beat) : Iteration :=
  let r := sendHeartbeat cfg ls.sm b.reply
  match r.err with
  | none => .next ⟨onHeartbeatOK r.sm, none⟩
  | some err =>
    if isFatalError err then .done (onKill r.sm)
    else
      let sm := onHeartbeatFail r.sm
      let graceStart := ls.graceStart.getD b.now
      if b.since - graceStart > cfg.gracePolicy.maxOfflineDuration then
        .done (onGracePeriodExpired sm)
      else .next ⟨sm, some graceStart⟩

inductive LoopResult where
  /-- Still looping, waiting for the next wake. -/
  | running (ls : LoopState)
  /-- Returned in state `sm`; the beats in `unobserved` were never sent. -/
  | exited (sm : State) (unobserved : List Beat)

/-- The goroutine of `startHeartbeat`, over the wakes it gets (none cancelled). -/
def startHeartbeat (cfg : Config) : LoopState → List Beat → LoopResult
  | ls, [] => .running ls
  | ls, b :: bs =>
    match heartbeatIteration cfg ls b with
    | .next ls' => startHeartbeat cfg ls' bs
    | .done sm => .exited sm bs

section Iteration

variable (cfg : Config) (sm : State) {b : Beat}

theorem sendHeartbeat_of_ok (ok : b.outcome = .ok) :
    (sendHeartbeat cfg sm b.reply).sm = sm ∧ (sendHeartbeat cfg sm b.reply).err = none := by
  rcases b with ⟨_ | resp, _, _⟩
  · simp [Beat.outcome] at ok
  · simp only [Beat.outcome, ite_eq_right_iff, reduceCtorEq, imp_false] at ok
    simp only [sendHeartbeat, if_neg ok]
    split <;> simp

theorem sendHeartbeat_of_kill (kill : b.outcome = .kill) :
    sendHeartbeat cfg sm b.reply = ⟨.banned, some (.sentinel .errBanned), []⟩ := by
  rcases b with ⟨_ | resp, _, _⟩
  · simp [Beat.outcome] at kill
  · simp only [Beat.outcome, ite_eq_left_iff, reduceCtorEq, imp_false, not_not] at kill
    simp [sendHeartbeat, kill]

theorem sendHeartbeat_of_transient (transient : b.outcome = .transient) :
    ∃ err, sendHeartbeat cfg sm b.reply = ⟨sm, some (.tagged .errNetworkError err), []⟩ := by
  rcases b with ⟨err | resp, _, _⟩
  · exact ⟨err, rfl⟩
  · simp only [Beat.outcome] at transient
    split at transient <;> simp at transient

variable (ls : LoopState)

theorem heartbeatIteration_ok (ok : b.outcome = .ok) :
    heartbeatIteration cfg ls b = .next ⟨onHeartbeatOK ls.sm, none⟩ := by
  obtain ⟨sm, err⟩ := sendHeartbeat_of_ok cfg ls.sm ok
  simp [heartbeatIteration, sm, err]

theorem heartbeatIteration_kill (kill : b.outcome = .kill) :
    heartbeatIteration cfg ls b = .done .banned := by
  simp [heartbeatIteration, sendHeartbeat_of_kill cfg ls.sm kill, isFatalError]

theorem heartbeatIteration_transient (transient : b.outcome = .transient) :
    heartbeatIteration cfg ls b =
      if b.since - ls.graceStart.getD b.now > cfg.gracePolicy.maxOfflineDuration then
        .done (onGracePeriodExpired (onHeartbeatFail ls.sm))
      else .next ⟨onHeartbeatFail ls.sm, some (ls.graceStart.getD b.now)⟩ := by
  obtain ⟨err, sent⟩ := sendHeartbeat_of_transient cfg ls.sm transient
  simp [heartbeatIteration, sent]

end Iteration

/-- The `time.Now()` reading of the first beat of the run of failures ending the list. -/
def failureRunStart (beats : List Beat) : Option Int :=
  ((beats.reverse.takeWhile Beat.transient).getLast?).map Beat.now

/-- `b`, after `pre`, is a failure whose `time.Since` reading has passed its run's start. -/
def expiresAt (maxOffline : Int) (pre : List Beat) (b : Beat) : Bool :=
  b.transient && (failureRunStart (pre ++ [b])).any (fun start => b.since - start > maxOffline)

/-- The first kill or expired failure, with the beats before and after it. -/
def firstExit (maxOffline : Int) (pre : List Beat) :
    List Beat → Option (List Beat × Beat × List Beat)
  | [] => none
  | b :: post =>
    if b.outcome = .kill ∨ expiresAt maxOffline pre b then some (pre, b, post)
    else firstExit maxOffline (pre ++ [b]) post

/-- BANNED at a first kill, LOCKED at a first expired failure, else GRACE or ACTIVE. -/
def expectedRun (maxOffline : Int) (beats : List Beat) : LoopResult :=
  match firstExit maxOffline [] beats with
  | some (_, b, post) => .exited (if b.outcome = .kill then .banned else .locked) post
  | none =>
    .running ⟨if beats.getLast?.map Beat.outcome = some .transient then .grace else .active,
      failureRunStart beats⟩

theorem failureRunStart_snoc_transient (pre : List Beat) {b : Beat} (transient : b.transient) :
    failureRunStart (pre ++ [b]) = some ((failureRunStart pre).getD b.now) := by
  unfold failureRunStart
  rw [List.reverse_append, List.reverse_singleton, List.singleton_append,
    List.takeWhile_cons_of_pos transient, List.getLast?_cons]
  cases (pre.reverse.takeWhile Beat.transient).getLast? <;> rfl

theorem failureRunStart_snoc_steady (pre : List Beat) {b : Beat} (steady : b.transient = false) :
    failureRunStart (pre ++ [b]) = none := by
  simp [failureRunStart, List.takeWhile_cons_of_neg, steady]

theorem failureRunStart_isSome (beats : List Beat) :
    (failureRunStart beats).isSome = (beats.getLast?.map Beat.outcome == some .transient) := by
  rw [← List.head?_reverse, failureRunStart]
  cases beats.reverse with
  | nil => rfl
  | cons b rest =>
    cases steady : b.transient <;>
      simp_all [List.takeWhile_cons_of_neg, Beat.transient]

/-- The state after `beats` without an exit. -/
def graceOrActive (beats : List Beat) : State :=
  if (failureRunStart beats).isSome then .grace else .active

/-- The loop variables after `pre` are those `expectedRun` reads off `pre`. -/
def Tracks (pre : List Beat) (ls : LoopState) : Prop :=
  ls.graceStart = failureRunStart pre ∧ ls.sm = graceOrActive pre

theorem tracks_nil : Tracks [] ⟨.active, none⟩ := ⟨rfl, rfl⟩

theorem heartbeatIteration_of_tracks (cfg : Config) {pre : List Beat} {ls : LoopState}
    (tracks : Tracks pre ls) (b : Beat) :
    heartbeatIteration cfg ls b =
      if b.outcome = .kill ∨ expiresAt cfg.gracePolicy.maxOfflineDuration pre b then
        .done (if b.outcome = .kill then .banned else .locked)
      else .next ⟨graceOrActive (pre ++ [b]), failureRunStart (pre ++ [b])⟩ := by
  obtain ⟨graceStart, sm⟩ := tracks
  have smGraceOrActive : onHeartbeatOK ls.sm = .active ∧ onHeartbeatFail ls.sm = .grace := by
    rw [sm, graceOrActive]; split <;> simp
  cases outcome : b.outcome with
  | kill => simp [heartbeatIteration_kill cfg ls outcome]
  | ok =>
    have steady : b.transient = false := by simp [Beat.transient, outcome]
    simp [heartbeatIteration_ok cfg ls outcome, expiresAt, steady, graceOrActive,
      failureRunStart_snoc_steady pre steady, smGraceOrActive.1]
  | transient =>
    have transient : b.transient := by simp [Beat.transient, outcome]
    rw [heartbeatIteration_transient cfg ls outcome, smGraceOrActive.2, graceStart]
    simp [expiresAt, transient, graceOrActive, failureRunStart_snoc_transient pre transient]

theorem startHeartbeat_of_tracks (cfg : Config) (rest : List Beat) :
    ∀ {pre : List Beat} {ls : LoopState}, Tracks pre ls →
      startHeartbeat cfg ls rest =
        match firstExit cfg.gracePolicy.maxOfflineDuration pre rest with
        | some (_, b, post) => .exited (if b.outcome = .kill then .banned else .locked) post
        | none => .running ⟨graceOrActive (pre ++ rest), failureRunStart (pre ++ rest)⟩ := by
  induction rest with
  | nil =>
    rintro pre ⟨sm, graceStart⟩ ⟨tracksGraceStart, tracksSm⟩
    simp_all [startHeartbeat, firstExit]
  | cons b post inductionHypothesis =>
    intro pre ls tracks
    rw [startHeartbeat, heartbeatIteration_of_tracks cfg tracks b, firstExit]
    by_cases exits : b.outcome = .kill ∨ expiresAt cfg.gracePolicy.maxOfflineDuration pre b
    · simp only [if_pos exits]
    · simp only [if_neg exits]
      rw [@inductionHypothesis (pre ++ [b]) _ ⟨rfl, rfl⟩]
      simp only [List.append_assoc, List.singleton_append]

/-- The loop started in ACTIVE exits BANNED at the first kill, LOCKED at the first failure whose
`time.Since` reading is more than `MaxOfflineDuration` past the `time.Now()` reading of the
first failure of its run, that failure included, and is otherwise in GRACE or ACTIVE by the
last outcome.  BANNED is never left; LOCKED is entered only from GRACE. -/
theorem startHeartbeat_characterization (cfg : Config) :
    (∀ beats, startHeartbeat cfg ⟨.active, none⟩ beats =
      expectedRun cfg.gracePolicy.maxOfflineDuration beats) ∧
    (∀ beats sm unobserved,
      startHeartbeat cfg ⟨.active, none⟩ beats = .exited sm unobserved →
      sm = .banned ∨ sm = .locked) ∧
    (∀ events, runEvents .banned events = .banned) ∧
    (∀ (e : Event) (s : State), e.apply s = .locked → s = .grace ∨ s = .locked) := by
  have run : ∀ beats, startHeartbeat cfg ⟨.active, none⟩ beats =
      expectedRun cfg.gracePolicy.maxOfflineDuration beats := by
    intro beats
    rw [startHeartbeat_of_tracks cfg beats tracks_nil, expectedRun, List.nil_append,
      graceOrActive, failureRunStart_isSome]
    split <;> simp
  refine ⟨run, ?_, runEvents_banned, fun _ _ => Event.apply_eq_locked⟩
  intro beats sm unobserved exited
  rw [run, expectedRun] at exited
  split at exited
  · injection exited with exitState
    rw [← exitState]
    split <;> simp
  · cases exited

/-- Two failures five units apart under `MaxOfflineDuration = 3` lock at the second. -/
theorem startHeartbeat_locks_at_expiry :
    let cfg : Config :=
      ⟨"", "", "", ⟨3⟩, ⟨true, true, "", "", 0, false, false, false⟩, []⟩
    let beats : List Beat :=
      [⟨.error (.plain "timeout"), 0, 0⟩, ⟨.error (.plain "timeout"), 5, 5⟩]
    startHeartbeat cfg ⟨.active, none⟩ beats = .exited .locked [] ∧
      (State.locked = .banned ∨ State.locked = .locked) := by
  intro cfg beats
  exact ⟨rfl, (startHeartbeat_characterization cfg).2.1 beats .locked [] rfl⟩

/-- One failure under `MaxOfflineDuration = 1` locks when its `time.Since` reading is two units
past its `time.Now()` reading, and stays in GRACE when they agree. -/
theorem startHeartbeat_locks_at_first_failure :
    (Config.setDefaults
        ⟨"", "", "", ⟨1⟩, ⟨true, true, "", "", 0, false, false, false⟩, []⟩).gracePolicy =
      ⟨1⟩ ∧
    startHeartbeat
        (Config.setDefaults ⟨"", "", "", ⟨1⟩, ⟨true, true, "", "", 0, false, false, false⟩, []⟩)
        ⟨.active, none⟩ [⟨.error (.plain "timeout"), 0, 2⟩] = .exited .locked [] ∧
    startHeartbeat
        (Config.setDefaults ⟨"", "", "", ⟨1⟩, ⟨true, true, "", "", 0, false, false, false⟩, []⟩)
        ⟨.active, none⟩ [⟨.error (.plain "timeout"), 0, 0⟩] = .running ⟨.grace, some 0⟩ :=
  ⟨rfl, rfl, rfl⟩

end BanyanGuard
