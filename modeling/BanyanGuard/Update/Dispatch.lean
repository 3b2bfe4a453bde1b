import BanyanGuard.Config

/-!
# Routing of update notifications

The primary component goes to `updateBackend`, the first managed component with the slug to
`updateManagedBackend` or `updateFrontend` by its strategy.
-/

namespace BanyanGuard

/-- An update goroutine started by `go g.f(...)`. -/
inductive UpdateAttempt where
  | updateBackend (u : UpdateInfo)
  | updateManagedBackend (mc : ManagedComponent) (u : UpdateInfo)
  | updateFrontend (mc : ManagedComponent) (u : UpdateInfo)
  deriving DecidableEq, Repr

namespace UpdateAttempt

def info : UpdateAttempt → UpdateInfo
  | updateBackend u | updateManagedBackend _ u | updateFrontend _ u => u

/-- The component whose version record and target the attempt is about. -/
def slug (cfg : Config) : UpdateAttempt → String
  | updateBackend _ => cfg.componentSlug
  | updateManagedBackend mc _ | updateFrontend mc _ => mc.slug

end UpdateAttempt

/-- The strategy switch of `handleUpdateNotification` (and of `UpdatePlugin`). -/
def routeManaged (mc : ManagedComponent) (u : UpdateInfo) : UpdateAttempt :=
  if mc.strategy = UpdateStrategy.updateBackend then .updateManagedBackend mc u
  else .updateFrontend mc u

/-- `findManagedComponent`: the first managed component with the slug. -/
def findManagedComponent (cfg : Config) (slug : String) : Option ManagedComponent :=
  cfg.managedComponents.find? (·.slug = slug)

def handleUpdateNotification (cfg : Config) (u : UpdateInfo) : List UpdateAttempt :=
  if u.component = cfg.componentSlug then
    if cfg.ota.autoUpdate then [.updateBackend u] else []
  else
    match findManagedComponent cfg u.component with
    | some mc => if cfg.ota.autoUpdate then [routeManaged mc u] else []
    | none => []

theorem findManagedComponent_slug {cfg : Config} {slug : String} {mc : ManagedComponent}
    (found : findManagedComponent cfg slug = some mc) : mc.slug = slug := by
  simpa using List.find?_some found

theorem handleUpdateNotification_attempt {cfg : Config} {u : UpdateInfo} {a : UpdateAttempt}
    (started : a ∈ handleUpdateNotification cfg u) :
    a.slug cfg = u.component ∧ a.info = u := by
  unfold handleUpdateNotification at started
  split at started
  · split at started <;> simp_all [UpdateAttempt.slug, UpdateAttempt.info]
  · split at started
    · rename_i mc found
      split at started
      · simp only [List.mem_singleton] at started
        subst started
        unfold routeManaged
        split <;> simp [UpdateAttempt.slug, UpdateAttempt.info, findManagedComponent_slug found]
      · simp at started
    · simp at started

/-- The attempt a notification is routed to, if any. -/
def notifiedAttempt (cfg : Config) (u : UpdateInfo) : Option UpdateAttempt :=
  if u.component = cfg.componentSlug then some (.updateBackend u)
  else (findManagedComponent cfg u.component).map (routeManaged · u)

theorem handleUpdateNotification_eq (cfg : Config) (u : UpdateInfo) :
    handleUpdateNotification cfg u =
      if cfg.ota.autoUpdate then (notifiedAttempt cfg u).toList else [] := by
  unfold handleUpdateNotification notifiedAttempt
  split
  · split <;> simp_all
  · split <;> split <;> simp_all

end BanyanGuard
