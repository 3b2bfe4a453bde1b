import BanyanGuard.Heartbeat

/-!
# Start, Stop and the heartbeat goroutines

`Start` stores a fresh cancel function in `g.cancel` before it verifies, and starts a
goroutine on that context when the license verifies.  `Stop` cancels that one context.  A
goroutine's `select` takes a ready case, at random when both are; with no clock for the
timer, its case can be taken at every wait, and `ctx.Done()` once the context is cancelled.
-/

namespace BanyanGuard

/-- Where a heartbeat goroutine is. -/
inductive LoopPhase where
  /-- Blocked in the `select`, with its `graceStart`. -/
  | waiting (graceStart : Option Int)
  /-- It took the timer case: its heartbeat is in flight. -/
  | sending (graceStart : Option Int)
  | exited
  deriving DecidableEq, Repr

/-- A Guard between steps: the shared state machine, the number of contexts `Start` made
(numbered in order), which of them are cancelled, the one whose cancel function
`g.cancel` holds, and the goroutine started on each. -/
structure Lifecycle where
  sm : State
  contexts : Nat
  cancelled : Nat → Bool
  cancel : Option Nat
  loops : Nat → Option LoopPhase

inductive GuardEvent where
  /-- `Start`, with whether `verifyLicense` returned nil. -/
  | start (verified : Bool)
  | stop
  /-- Goroutine `i` takes the timer case of its `select`. -/
  | fire (i : Nat)
  /-- Goroutine `i` takes the `ctx.Done()` case and returns. -/
  | done (i : Nat)
  /-- Goroutine `i` gets the reply to its heartbeat and acts on it. -/
  | beat (i : Nat) (b : Beat)

namespace Lifecycle

/-- A Guard as `New` returns it. -/
def new : Lifecycle := ⟨.init, 0, fun _ => false, none, fun _ => none⟩

/-- Goroutine `i` moves to `phase`. -/
def setLoop (g : Lifecycle) (i : Nat) (phase : LoopPhase) : Lifecycle :=
  { g with loops := Function.update g.loops i (some phase) }

/-- The cancel function of context `i` is called. -/
def cancelContext (g : Lifecycle) (i : Nat) : Lifecycle :=
  { g with cancelled := Function.update g.cancelled i true }

/-- One step, or `none` when it cannot happen. -/
def step (cfg : Config) (g : Lifecycle) : GuardEvent → Option Lifecycle
  | .start verified =>
    let made := { g with contexts := g.contexts + 1, cancel := some g.contexts }
    if verified then
      some ({ made with sm := onVerifySuccess g.sm }.setLoop g.contexts (.waiting none))
    else some (made.cancelContext g.contexts)
  | .stop =>
    match g.cancel with
    | some i => some (g.cancelContext i)
    | none => some g
  | .fire i =>
    match g.loops i with
    | some (.waiting graceStart) => some (g.setLoop i (.sending graceStart))
    | _ => none
  | .done i =>
    match g.loops i with
    | some (.waiting _) => if g.cancelled i then some (g.setLoop i .exited) else none
    | _ => none
  | .beat i b =>
    match g.loops i with
    | some (.sending graceStart) =>
      match heartbeatIteration cfg ⟨g.sm, graceStart⟩ b with
      | .next ls => some ({ g with sm := ls.sm }.setLoop i (.waiting ls.graceStart))
      | .done sm => some ({ g with sm := sm }.setLoop i .exited)
    | _ => none

/-- The Guard after a run of steps, when each can happen in turn. -/
def run (cfg : Config) : Lifecycle → List GuardEvent → Option Lifecycle
  | g, [] => some g
  | g, e :: es => (g.step cfg e).bind (run cfg · es)

theorem run_cons_eq_some {cfg : Config} {g g' : Lifecycle} {e : GuardEvent}
    {es : List GuardEvent} (ran : g.run cfg (e :: es) = some g') :
    ∃ g₁, g.step cfg e = some g₁ ∧ g₁.run cfg es = some g' :=
  Option.bind_eq_some.mp ran

@[simp] theorem setLoop_loops (g : Lifecycle) (i : Nat) (phase : LoopPhase) :
    (g.setLoop i phase).loops = Function.update g.loops i (some phase) := rfl

@[simp] theorem setLoop_cancelled (g : Lifecycle) (i : Nat) (phase : LoopPhase) :
    (g.setLoop i phase).cancelled = g.cancelled := rfl

@[simp] theorem cancelContext_loops (g : Lifecycle) (i : Nat) :
    (g.cancelContext i).loops = g.loops := rfl

@[simp] theorem cancelContext_cancelled (g : Lifecycle) (i c : Nat) :
    (g.cancelContext i).cancelled c = (c = i || g.cancelled c) := by
  by_cases same : c = i <;> simp [cancelContext, Function.update_apply, same]

variable {cfg : Config}

theorem step_cancelled {g g' : Lifecycle} {e : GuardEvent} {c : Nat}
    (cancelled : g.cancelled c) (stepped : g.step cfg e = some g') : g'.cancelled c := by
  cases e <;> simp only [step] at stepped <;> repeat' split at stepped
  all_goals cases stepped <;> simp [cancelled]

theorem run_cancelled {c : Nat} :
    ∀ (events : List GuardEvent) {g g' : Lifecycle}, g.cancelled c →
      g.run cfg events = some g' → g'.cancelled c
  | [], _, _, cancelled, ran => by cases ran; exact cancelled
  | _ :: events, _, _, cancelled, ran => by
    obtain ⟨_, stepped, rest⟩ := run_cons_eq_some ran
    exact run_cancelled events (step_cancelled cancelled stepped) rest

theorem step_done_of_cancelled {g : Lifecycle} {c : Nat} {graceStart : Option Int}
    (cancelled : g.cancelled c) (waiting : g.loops c = some (.waiting graceStart)) :
    g.step cfg (.done c) = some (g.setLoop c .exited) := by
  simp [step, waiting, cancelled]

/-- The cancel function `g.cancel` holds is that of the last context made. -/
def LastContext (g : Lifecycle) : Prop :=
  g.cancel = if g.contexts = 0 then none else some (g.contexts - 1)

theorem step_lastContext {g g' : Lifecycle} {e : GuardEvent} (last : g.LastContext)
    (stepped : g.step cfg e = some g') : g'.LastContext := by
  cases e with
  | start verified =>
    simp only [step] at stepped
    split at stepped <;> cases stepped <;> simp [LastContext, setLoop, cancelContext]
  | stop =>
    simp only [step] at stepped
    split at stepped <;> cases stepped <;> exact last
  | fire i | done i | beat i b =>
    simp only [step] at stepped
    repeat' split at stepped
    all_goals cases stepped <;> exact last

theorem run_lastContext :
    ∀ (events : List GuardEvent) {g g' : Lifecycle}, g.LastContext →
      g.run cfg events = some g' →
      g'.LastContext := by
  intro events
  induction events with
  | nil => intro g g' last ran; cases ran; exact last
  | cons e events inductionHypothesis =>
    intro g g' last ran
    obtain ⟨g₁, stepped, rest⟩ := run_cons_eq_some ran
    exact inductionHypothesis (step_lastContext last stepped) rest

end Lifecycle

/-- `Stop` cancels the context of the most recent `Start`, whether that `Start` succeeded or
not, and no other.  From then on that context stays cancelled, and whenever its goroutine
waits in the `select` it can return. -/
theorem stop_cancels_last_start (cfg : Config) :
    (∀ events (g : Lifecycle), Lifecycle.new.run cfg events = some g →
      g.cancel = if g.contexts = 0 then none else some (g.contexts - 1)) ∧
    ∀ (g : Lifecycle) c events g', g.cancel = some c → g.run cfg (.stop :: events) = some g' →
      (∀ c', c' ≠ c → (g.step cfg .stop).map (·.cancelled c') = some (g.cancelled c')) ∧
      g'.cancelled c ∧ ∀ graceStart, g'.loops c = some (.waiting graceStart) →
        g'.step cfg (.done c) = some (g'.setLoop c .exited) := by
  refine ⟨fun events g ran => Lifecycle.run_lastContext events (g := .new) rfl ran, ?_⟩
  intro g c events g' last ran
  obtain ⟨g₁, stopped, rest⟩ := Lifecycle.run_cons_eq_some ran
  simp only [Lifecycle.step, last, Option.some.injEq] at stopped
  subst stopped
  have cancelled := Lifecycle.run_cancelled events (c := c) (by simp) rest
  exact ⟨fun c' other => by simp [Lifecycle.step, last, other], cancelled,
    fun _ waiting => Lifecycle.step_done_of_cancelled cancelled waiting⟩

/-- Under `MaxOfflineDuration = 3`: `Stop` after two `Start`s, or after a verified and a failed
one, leaves the first goroutine running; a cancelled goroutine still sends heartbeats; and
two goroutines lock the Guard at a failure whose run, in the Guard's order, has just begun. -/
theorem restart_escapes_stop :
    let cfg : Config :=
      ⟨"", "demo", "app", ⟨3⟩, ⟨false, false, "", "", 0, false, false, false⟩, []⟩
    ((Lifecycle.new.run cfg [.start true, .start true, .stop, .fire 0,
        .beat 0 ⟨.error (.plain "timeout"), 0, 0⟩]).map
        fun g => (g.sm, g.loops 0, g.loops 1, g.cancelled 0)) =
      some (.grace, some (.waiting (some 0)), some (.waiting none), false) ∧
    ((Lifecycle.new.run cfg [.start true, .start false, .stop]).map
        fun g => (g.loops 0, g.cancelled 0)) = some (some (.waiting none), false) ∧
    ((Lifecycle.new.run cfg [.start true, .stop, .fire 0,
        .beat 0 ⟨.error (.plain "timeout"), 0, 0⟩, .fire 0,
        .beat 0 ⟨.error (.plain "timeout"), 1, 1⟩]).map
        fun g => (g.sm, g.loops 0, g.cancelled 0)) =
      some (.grace, some (.waiting (some 0)), true) ∧
    ((Lifecycle.new.run cfg [.start true, .start true,
        .fire 0, .beat 0 ⟨.error (.plain "timeout"), 0, 0⟩,
        .fire 1, .beat 1 ⟨.ok ⟨"ok", false, []⟩, 1, 1⟩,
        .fire 0, .beat 0 ⟨.error (.plain "timeout"), 5, 5⟩]).map (·.sm)) = some .locked ∧
    expectedRun 3 [⟨.error (.plain "timeout"), 0, 0⟩, ⟨.ok ⟨"ok", false, []⟩, 1, 1⟩,
        ⟨.error (.plain "timeout"), 5, 5⟩] = .running ⟨.grace, some 5⟩ := by
  intro cfg
  exact ⟨rfl, rfl, rfl, rfl, rfl⟩

end BanyanGuard
