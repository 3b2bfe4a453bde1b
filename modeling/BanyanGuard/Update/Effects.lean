import BanyanGuard.Fs
import BanyanGuard.Config

/-!
# What an update attempt does

An attempt is read off its effects, in order: callbacks, requests, file operations that
succeeded and version writes.  Progress fractions are kept as tenths.
-/

namespace BanyanGuard

/-- A version record of the Guard. -/
inductive VersionRecord where
  | primary
  | managed (slug : String)
  deriving DecidableEq, Repr

/-- `g.version` and `g.managedVersions`; a missing key reads as the empty string. -/
structure Versions where
  version : String
  managedVersions : String → String

namespace Versions

def get (vs : Versions) : VersionRecord → String
  | .primary => vs.version
  | .managed slug => vs.managedVersions slug

def set (vs : Versions) : VersionRecord → String → Versions
  | .primary, v => { vs with version := v }
  | .managed slug, v => { vs with managedVersions := Function.update vs.managedVersions slug v }

@[simp] theorem get_set_self (vs : Versions) (r : VersionRecord) (v : String) :
    (vs.set r v).get r = v := by
  cases r <;> simp [get, set]

@[simp] theorem get_set_of_ne (vs : Versions) {r r' : VersionRecord} (v : String)
    (other : r' ≠ r) :
    (vs.set r v).get r' = vs.get r' := by
  cases r <;> cases r' <;> simp_all [get, set, Function.update_apply]

end Versions

inductive UpdateEffect where
  /-- `OnUpdateProgress(component, stage, tenths / 10)`. -/
  | progress (component stage : String) (tenths : Nat)
  /-- `OnUpdateFailure(component, err)`. -/
  | failure (component : String) (err : GoError)
  /-- `OnUpdateResult(component, oldVersion, newVersion, success, err)`. -/
  | result (component oldVersion newVersion : String) (success : Bool) (err : Option GoError)
  /-- `POST /api/v1/update/download` for `component` at `version`. -/
  | requestDownload (component version os arch : String)
  /-- The `GET` of the artifact. -/
  | fetch (url : String)
  /-- `applyBackendBinaryWithSelfupdate(tmpPath, targetPath)` is called while the temp
  file holds `content`. -/
  | apply (tmpPath targetPath : String) (content : List UInt8)
  | fs (op : FsOp)
  /-- The write of a version record under `g.mu`. -/
  | setVersion (record : VersionRecord) (version : String)
  /-- `mc.PostUpdate()` is called. -/
  | postUpdate (component : String)
  deriving DecidableEq, Repr

namespace OTAConfig

variable (ota : OTAConfig) (component : String)

/-- The `OnUpdateProgress` call, made when the callback is set. -/
def progress (stage : String) (tenths : Nat) : List UpdateEffect :=
  if ota.onUpdateProgress then [.progress component stage tenths] else []

/-- The `OnUpdateFailure` call, made when the callback is set. -/
def failure (err : GoError) : List UpdateEffect :=
  if ota.onUpdateFailure then [.failure component err] else []

/-- The `OnUpdateResult` call, made when the callback is set. -/
def result (oldVersion newVersion : String) (success : Bool) (err : Option GoError) :
    List UpdateEffect :=
  if ota.onUpdateResult then [.result component oldVersion newVersion success err] else []

@[simp] theorem mem_progress {stage : String} {tenths : Nat} {e : UpdateEffect} :
    e ∈ ota.progress component stage tenths ↔
      ota.onUpdateProgress ∧ e = .progress component stage tenths := by
  unfold progress; split <;> simp_all

@[simp] theorem mem_failure {err : GoError} {e : UpdateEffect} :
    e ∈ ota.failure component err ↔ ota.onUpdateFailure ∧ e = .failure component err := by
  unfold failure; split <;> simp_all

@[simp] theorem mem_result {oldVersion newVersion : String} {success : Bool}
    {err : Option GoError} {e : UpdateEffect} :
    e ∈ ota.result component oldVersion newVersion success err ↔
      ota.onUpdateResult ∧ e = .result component oldVersion newVersion success err := by
  unfold result; split <;> simp_all

end OTAConfig

namespace UpdateEffect

/-- The file operation of an effect. -/
@[simp] def fsOp? : UpdateEffect → Option FsOp
  | .fs op => some op
  | _ => none

/-- The file operations of a trace. -/
def fsOps (trace : List UpdateEffect) : List FsOp := trace.filterMap fsOp?

@[simp] theorem fsOps_nil : fsOps [] = [] := rfl

@[simp] theorem fsOps_append (trace trace' : List UpdateEffect) :
    fsOps (trace ++ trace') = fsOps trace ++ fsOps trace' := List.filterMap_append _ _ _

@[simp] theorem fsOps_cons (e : UpdateEffect) (trace : List UpdateEffect) :
    fsOps (e :: trace) = e.fsOp?.toList ++ fsOps trace := by
  cases file : e.fsOp? <;> simp only [fsOps, List.filterMap_cons, file] <;> rfl

theorem mem_fsOps {op : FsOp} {trace : List UpdateEffect} :
    op ∈ fsOps trace ↔ fs op ∈ trace := by
  simp only [fsOps, List.mem_filterMap]
  constructor
  · rintro ⟨e, mem, found⟩
    cases e <;> simp_all
  · exact fun mem => ⟨_, mem, rfl⟩

@[simp] theorem fsOps_map_fs (ops : List FsOp) : fsOps (ops.map fs) = ops := by
  simp [fsOps, List.filterMap_map, Function.comp_def]

/-- The component a download request is for. -/
@[simp] def requested? : UpdateEffect → Option String
  | .requestDownload component .. => some component
  | _ => none

/-- The components of the download requests of a trace, in order. -/
def requests (trace : List UpdateEffect) : List String := trace.filterMap requested?

@[simp] theorem requests_nil : requests [] = [] := rfl

@[simp] theorem requests_append (trace trace' : List UpdateEffect) :
    requests (trace ++ trace') = requests trace ++ requests trace' := List.filterMap_append _ _ _

@[simp] theorem requests_cons (e : UpdateEffect) (trace : List UpdateEffect) :
    requests (e :: trace) = e.requested?.toList ++ requests trace := by
  cases found : e.requested? <;> simp only [requests, List.filterMap_cons, found] <;> rfl

@[simp] theorem requests_map_fs (ops : List FsOp) : requests (ops.map fs) = [] := by
  simp [requests, List.filterMap_map, Function.comp_def]

/-- The version records after a trace. -/
def versionsAfter (vs : Versions) (trace : List UpdateEffect) : Versions :=
  trace.foldl (fun vs e => match e with | .setVersion r v => vs.set r v | _ => vs) vs

/-- The fraction a progress callback reports, in tenths. -/
@[simp] def fraction : UpdateEffect → Option Nat
  | .progress _ _ tenths => some tenths
  | _ => none

/-- The progress fractions reported, in tenths, in order. -/
def fractions (trace : List UpdateEffect) : List Nat := trace.filterMap fraction

/-- The failure and result callbacks and the version writes. -/
@[simp] def isReport : UpdateEffect → Bool
  | .failure .. | .result .. | .setVersion .. => true
  | _ => false

/-- The apply step, a rename and the version write. -/
@[simp] def isInstall : UpdateEffect → Bool
  | .apply .. | .setVersion .. | .fs (.rename ..) => true
  | _ => false

theorem not_mem_of_filter_isInstall {trace : List UpdateEffect} {e : UpdateEffect}
    (install : e.isInstall) (none : trace.filter isInstall = []) : e ∉ trace := fun mem => by
  simpa [none] using List.mem_filter.mpr ⟨mem, install⟩

theorem mem_of_mem_append_of_filter_isInstall {pre rest : List UpdateEffect} {e : UpdateEffect}
    (mem : e ∈ pre ++ rest) (install : e.isInstall) (none : pre.filter isInstall = []) :
    e ∈ rest :=
  (List.mem_append.mp mem).resolve_left (not_mem_of_filter_isInstall install none)

theorem mem_of_filter_isInstall_eq {trace part : List UpdateEffect} {e : UpdateEffect}
    (mem : e ∈ trace) (install : e.isInstall)
    (same : trace.filter isInstall = part.filter isInstall) : e ∈ part :=
  (List.mem_filter.mp (same ▸ List.mem_filter.mpr ⟨mem, install⟩)).1

/-- The outcome an attempt reports, in order. -/
def reports (trace : List UpdateEffect) : List UpdateEffect := trace.filter isReport

theorem mem_reports {trace : List UpdateEffect} {e : UpdateEffect} :
    e ∈ reports trace ↔ e ∈ trace ∧ e.isReport := List.mem_filter

@[simp] theorem reports_nil : reports [] = [] := rfl

@[simp] theorem reports_append (trace trace' : List UpdateEffect) :
    reports (trace ++ trace') = reports trace ++ reports trace' := List.filter_append _ _

@[simp] theorem reports_cons (e : UpdateEffect) (trace : List UpdateEffect) :
    reports (e :: trace) = if e.isReport then e :: reports trace else reports trace := by
  unfold reports; split <;> simp_all

@[simp] theorem reports_map_fs (ops : List FsOp) : reports (ops.map fs) = [] := by
  simp [reports, List.filter_map, Function.comp_def, isReport]

@[simp] theorem fractions_nil : fractions [] = [] := rfl

@[simp] theorem fractions_append (trace trace' : List UpdateEffect) :
    fractions (trace ++ trace') = fractions trace ++ fractions trace' := List.filterMap_append _ _ _

@[simp] theorem fractions_cons (e : UpdateEffect) (trace : List UpdateEffect) :
    fractions (e :: trace) = e.fraction.toList ++ fractions trace := by
  cases reported : e.fraction <;> simp only [fractions, List.filterMap_cons, reported] <;> rfl

@[simp] theorem fractions_map_fs (ops : List FsOp) : fractions (ops.map fs) = [] := by
  simp [fractions, List.filterMap_map, Function.comp_def]

@[simp] theorem versionsAfter_nil (vs : Versions) : versionsAfter vs [] = vs := rfl

theorem versionsAfter_cons (vs : Versions) (e : UpdateEffect) (trace : List UpdateEffect) :
    versionsAfter vs (e :: trace) =
      versionsAfter (match e with | .setVersion r v => vs.set r v | _ => vs) trace := rfl

end UpdateEffect

namespace OTAConfig

variable (ota : OTAConfig) (component : String)

@[simp] theorem reports_progress (stage : String) (tenths : Nat) :
    UpdateEffect.reports (ota.progress component stage tenths) = [] := by
  unfold progress; split <;> rfl

@[simp] theorem reports_failure (err : GoError) :
    UpdateEffect.reports (ota.failure component err) = ota.failure component err := by
  unfold failure; split <;> rfl

@[simp] theorem reports_result (oldVersion newVersion : String) (success : Bool)
    (err : Option GoError) :
    UpdateEffect.reports (ota.result component oldVersion newVersion success err) =
      ota.result component oldVersion newVersion success err := by
  unfold result; split <;> rfl

@[simp] theorem filter_isInstall_progress (stage : String) (tenths : Nat) :
    (ota.progress component stage tenths).filter UpdateEffect.isInstall = [] := by
  unfold progress; split <;> rfl

@[simp] theorem filter_isInstall_failure (err : GoError) :
    (ota.failure component err).filter UpdateEffect.isInstall = [] := by
  unfold failure; split <;> rfl

@[simp] theorem filter_isInstall_result (oldVersion newVersion : String) (success : Bool)
    (err : Option GoError) :
    (ota.result component oldVersion newVersion success err).filter UpdateEffect.isInstall =
      [] := by
  unfold result; split <;> rfl

@[simp] theorem fsOps_progress (stage : String) (tenths : Nat) :
    UpdateEffect.fsOps (ota.progress component stage tenths) = [] := by
  unfold progress; split <;> rfl

@[simp] theorem fsOps_failure (err : GoError) :
    UpdateEffect.fsOps (ota.failure component err) = [] := by
  unfold failure; split <;> rfl

@[simp] theorem fsOps_result (oldVersion newVersion : String) (success : Bool)
    (err : Option GoError) :
    UpdateEffect.fsOps (ota.result component oldVersion newVersion success err) = [] := by
  unfold result; split <;> rfl

@[simp] theorem requests_progress (stage : String) (tenths : Nat) :
    UpdateEffect.requests (ota.progress component stage tenths) = [] := by
  unfold progress; split <;> rfl

@[simp] theorem requests_failure (err : GoError) :
    UpdateEffect.requests (ota.failure component err) = [] := by
  unfold failure; split <;> rfl

@[simp] theorem requests_result (oldVersion newVersion : String) (success : Bool)
    (err : Option GoError) :
    UpdateEffect.requests (ota.result component oldVersion newVersion success err) = [] := by
  unfold result; split <;> rfl

@[simp] theorem fractions_progress (stage : String) (tenths : Nat) :
    UpdateEffect.fractions (ota.progress component stage tenths) =
      if ota.onUpdateProgress then [tenths] else [] := by
  unfold progress; split <;> rfl

@[simp] theorem fractions_failure (err : GoError) :
    UpdateEffect.fractions (ota.failure component err) = [] := by
  unfold failure; split <;> rfl

@[simp] theorem fractions_result (oldVersion newVersion : String) (success : Bool)
    (err : Option GoError) :
    UpdateEffect.fractions (ota.result component oldVersion newVersion success err) = [] := by
  unfold result; split <;> rfl

end OTAConfig

end BanyanGuard
