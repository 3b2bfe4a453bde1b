import BanyanGuard.Config

/-!
# The authorization state machine

Each transition method is one atomic update.  BANNED is absorbing, and LOCKED is entered
only from GRACE and left only to BANNED.
-/

namespace BanyanGuard

inductive State where
  | init | active | grace | locked | banned
  deriving DecidableEq, Repr

def onVerifySuccess : State → State
  | .init | .grace => .active
  | s => s

def onHeartbeatOK : State → State
  | .grace | .active => .active
  | s => s

def onHeartbeatFail : State → State
  | .active => .grace
  | s => s

def onKill (_ : State) : State := .banned

def onGracePeriodExpired : State → State
  | .grace => .locked
  | s => s

/-- The transition methods, as events. -/
inductive Event where
  | verifySuccess | heartbeatOK | heartbeatFail | kill | gracePeriodExpired
  deriving DecidableEq, Repr

def Event.apply : Event → State → State
  | .verifySuccess => onVerifySuccess
  | .heartbeatOK => onHeartbeatOK
  | .heartbeatFail => onHeartbeatFail
  | .kill => onKill
  | .gracePeriodExpired => onGracePeriodExpired

/-- The state after a sequence of transitions. -/
def runEvents (s : State) (events : List Event) : State := events.foldl (fun s e => e.apply s) s

@[simp] theorem runEvents_nil (s : State) : runEvents s [] = s := rfl

@[simp] theorem runEvents_cons (s : State) (e : Event) (events : List Event) :
    runEvents s (e :: events) = runEvents (e.apply s) events := rfl

theorem Event.apply_banned (e : Event) : e.apply .banned = .banned := by
  cases e <;> rfl

theorem runEvents_banned (events : List Event) : runEvents .banned events = .banned := by
  induction events with
  | nil => rfl
  | cons e events inductionHypothesis => rw [runEvents_cons, e.apply_banned, inductionHypothesis]

theorem Event.apply_eq_locked {e : Event} {s : State} (locked : e.apply s = .locked) :
    s = .grace ∨ s = .locked := by
  cases e <;> cases s <;> simp_all [apply, onVerifySuccess, onHeartbeatOK, onHeartbeatFail,
    onKill, onGracePeriodExpired]

theorem Event.apply_locked {e : Event} (moved : e.apply .locked ≠ .locked) : e = .kill := by
  cases e <;> simp_all [apply, onVerifySuccess, onHeartbeatOK, onHeartbeatFail,
    onGracePeriodExpired]

theorem runEvents_append (s : State) (events events' : List Event) :
    runEvents s (events ++ events') = runEvents (runEvents s events) events' :=
  List.foldl_append _ _ _ _

theorem Event.apply_ne_init (e : Event) {s : State} (started : s ≠ .init) :
    e.apply s ≠ .init := by
  cases e <;> cases s <;> first | exact absurd rfl started | decide

theorem runEvents_ne_init {s : State} (started : s ≠ .init) (events : List Event) :
    runEvents s events ≠ .init := by
  induction events generalizing s with
  | nil => exact started
  | cons e events inductionHypothesis => exact inductionHypothesis (e.apply_ne_init started)

theorem runEvents_locked (events : List Event) :
    runEvents .locked events = .locked ∨ runEvents .locked events = .banned := by
  induction events with
  | nil => exact .inl rfl
  | cons e events inductionHypothesis =>
    rw [runEvents_cons]
    by_cases moved : e.apply .locked = .locked
    · rw [moved]; exact inductionHypothesis
    · obtain rfl := Event.apply_locked moved
      exact .inr (runEvents_banned events)

@[simp] theorem onHeartbeatOK_active : onHeartbeatOK .active = .active := rfl
@[simp] theorem onHeartbeatOK_grace : onHeartbeatOK .grace = .active := rfl
@[simp] theorem onHeartbeatFail_active : onHeartbeatFail .active = .grace := rfl
@[simp] theorem onHeartbeatFail_grace : onHeartbeatFail .grace = .grace := rfl
@[simp] theorem onGracePeriodExpired_grace : onGracePeriodExpired .grace = .locked := rfl
@[simp] theorem onKill_eq (s : State) : onKill s = .banned := rfl

end BanyanGuard
