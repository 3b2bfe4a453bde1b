import Mathlib.Data.List.Basic

/-!
# Errors

The sentinel errors, the errors `fmt.Errorf` builds from them, and `errors.Is`: `%w` wraps
its operand, while an error printed with `%v` survives only as text.
-/

namespace BanyanGuard

/-- The package's sentinel errors, with those the updater and `UpdatePlugin` return. -/
inductive Sentinel where
  | errLicenseInvalid | errLicenseExpired | errLicenseSuspended | errMachineBanned
  | errMaxMachinesExceeded | errProjectNotAuthorized | errUpdateFrozen | errNetworkError
  | errInvalidServerResponse | errNotActivated | errLocked | errBanned
  | errCDKNotFound | errCDKAlreadyUsed | errCDKRevoked
  | errUpdateDownload | errUpdateVerify | errUpdateApply | errUpdateRollback
  | errPluginNotFound | errPluginOTADisabled | errNoPluginUpdate | errPluginNotManaged
  deriving DecidableEq, Repr

/-- A Go `error` as the SDK and its libraries build it. -/
inductive GoError where
  /-- A sentinel, compared by identity. -/
  | sentinel (s : Sentinel)
  /-- `errors.New` or `fmt.Errorf` without `%w`: an error of its own. -/
  | plain (format : String)
  /-- `fmt.Errorf(format, ...)` with one `%w` operand `inner`. -/
  | wrapped (format : String) (inner : GoError)
  /-- As `wrapped`, with an error `cause` printed by `%v`, which `Unwrap` does not return. -/
  | wrappedCause (format : String) (inner cause : GoError)
  /-- `go-selfupdate`'s `rollbackErr`: the apply error and the error of the failed
  rollback.  It has no `Unwrap` method. -/
  | rollback (err rerr : GoError)
  deriving DecidableEq, Repr

namespace GoError

/-- `errors.Is(err, target)` for a sentinel: follow `Unwrap` to an error equal to it. -/
def is : GoError → Sentinel → Bool
  | sentinel s, target => s == target
  | plain _, _ => false
  | wrapped _ inner, target => inner.is target
  | wrappedCause _ inner _, target => inner.is target
  | rollback _ _, _ => false

@[simp] theorem is_sentinel (s target : Sentinel) : (sentinel s).is target = (s == target) := rfl

@[simp] theorem is_wrapped (format : String) (inner : GoError) (target : Sentinel) :
    (wrapped format inner).is target = inner.is target := rfl

@[simp] theorem is_wrappedCause (format : String) (inner cause : GoError) (target : Sentinel) :
    (wrappedCause format inner cause).is target = inner.is target := rfl

@[simp] theorem is_plain (format : String) (target : Sentinel) : (plain format).is target = false :=
  rfl

@[simp] theorem is_rollback (err rerr : GoError) (target : Sentinel) :
    (rollback err rerr).is target = false := rfl

/-- `fmt.Errorf("%w: %v", s, cause)`, the shape of almost every error of the updater. -/
def tagged (s : Sentinel) (cause : GoError) : GoError := wrappedCause "%w: %v" (sentinel s) cause

@[simp] theorem is_tagged (s : Sentinel) (cause : GoError) (target : Sentinel) :
    (tagged s cause).is target = (s == target) := rfl

end GoError

/-- `isFatalError` compares with `==`, so a wrapped sentinel is never fatal. -/
def isFatalError (err : GoError) : Bool :=
  err == .sentinel .errBanned || err == .sentinel .errLicenseSuspended ||
    err == .sentinel .errMachineBanned

@[simp] theorem isFatalError_tagged (s : Sentinel) (cause : GoError) :
    isFatalError (.tagged s cause) = false := by
  simp [isFatalError, GoError.tagged]

end BanyanGuard
