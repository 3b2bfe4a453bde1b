import BanyanGuard.Update.Effects
import BanyanGuard.Update.Stream
import BanyanGuard.Trust

/-!
# Binary updates

`updateBinaryComponent` and its stages, the outcome of each call read from `BinaryEnv`.
`update.Apply` of `go-selfupdate` is not in the repository: `updateApply` follows its
source for `Options` with only `TargetPath` and `OldSavePath`.
-/

namespace BanyanGuard

/-- The outcomes of the calls `update.Apply` makes. -/
structure ApplyEnv where
  /-- `io.ReadAll` of the opened temp file. -/
  readAll : Option GoError
  /-- `os.OpenFile` of the staging path. -/
  openNew : Option GoError
  /-- `io.Copy` into the staging file: the bytes written before its error. -/
  copyNew : Option (Nat × GoError)
  /-- `os.Rename(target, old)`. -/
  renameOld : Option GoError
  /-- `os.Rename(new, target)`. -/
  renameNew : Option GoError
  /-- `os.Rename(old, target)`, the rollback. -/
  renameBack : Option GoError

/-- Where `update.Apply` stages the new binary: `.<base>.new` beside the target. -/
def stagingPath (target : String) : String :=
  Filepath.join [Filepath.dir target, "." ++ Filepath.base target ++ ".new"]

/-- `update.Apply(newBinary, Options{TargetPath: target, OldSavePath: old})`. -/
def updateApply (env : ApplyEnv) (content : List UInt8) (target old : String) :
    List FsOp × Option GoError :=
  match env.readAll, env.openNew, env.copyNew with
  | some err, _, _ | none, some err, _ => ([], some err)
  | none, none, some (written, err) =>
    ([.writeFile (stagingPath target) (content.take written) true], some err)
  | none, none, none =>
    let staged := [FsOp.writeFile (stagingPath target) content true, .remove old]
    match env.renameOld, env.renameNew, env.renameBack with
    | some err, _, _ => (staged, some err)
    | none, none, _ => (staged ++ [.rename target old, .rename (stagingPath target) target], none)
    | none, some err, none => (staged ++ [.rename target old, .rename old target], some err)
    | none, some err, some rerr => (staged ++ [.rename target old], some (.rollback err rerr))

/-- `update.RollbackError`. -/
def rollbackError : GoError → Option GoError
  | .rollback _ rerr => some rerr
  | _ => none

/-- The reply to `POST /api/v1/update/download` on the binary path. -/
structure DownloadMeta where
  downloadURL : String
  sha256 : String
  signature : String
  error : String
  deriving DecidableEq, Repr

structure HttpResponse where
  statusCode : Nat
  body : Body

/-- The outcomes of the external calls of one binary update. -/
structure BinaryEnv where
  /-- `postJSON` to `/api/v1/update/download`. -/
  downloadMeta : Except GoError DownloadMeta
  /-- `http.NewRequestWithContext`. -/
  newRequest : Option GoError
  /-- `g.httpClient.Do`. -/
  response : Except GoError HttpResponse
  /-- `os.CreateTemp`: the temp file's name. -/
  tempFile : Except GoError String
  /-- The room left on the temp file's device. -/
  space : Nat
  /-- `os.Open(tmpPath)` in `applyBackendBinaryWithSelfupdate`. -/
  openTemp : Option GoError
  apply : ApplyEnv

/-- `requestDownloadMeta`: a reply with an error code is an error. -/
def requestDownloadMeta (reply : Except GoError DownloadMeta) : Except GoError DownloadMeta :=
  match reply with
  | .error err => .error err
  | .ok resp => if resp.error ≠ "" then .error (.plain "server error: %s") else .ok resp

/-- `downloadArtifactWithProgress`: effects, and the temp file, its content and the digest. -/
def downloadArtifactWithProgress (P : Primitives) (serverURL : String) (env : BinaryEnv)
    (downloadURL : String) (maxBytes : Int) :
    List UpdateEffect × Except GoError (String × List UInt8 × String) :=
  match env.newRequest with
  | some err => ([], .error (.wrapped "create request: %w" err))
  | none =>
    let fetched := [UpdateEffect.fetch (serverURL ++ downloadURL)]
    match env.response with
    | .error err => (fetched, .error (.wrapped "download failed: %w" err))
    | .ok resp =>
      if resp.statusCode ≠ 200 then (fetched, .error (.plain "download failed with status %d"))
      else match env.tempFile with
        | .error err => (fetched, .error (.wrapped "create temp file: %w" err))
        | .ok tmpPath =>
          let limited := resp.body.limit maxBytes
          match copyToFileAndHasher limited.ending env.space limited.chunks ([], []) with
          | (some err, file, _) =>
            (fetched ++ [.fs (.createTemp tmpPath file), .fs (.remove tmpPath)],
              .error (.wrapped "copy failed: %w" err))
          | (none, file, hashed) =>
            (fetched ++ [.fs (.createTemp tmpPath file)],
              .ok (tmpPath, file, encodeToString (P.sum256 hashed)))

/-- `applyBackendBinaryWithSelfupdate(tmpPath, targetPath)`, the temp file holding `content`. -/
def applyBackendBinaryWithSelfupdate (env : BinaryEnv) (content : List UInt8)
    (targetPath : String) : List FsOp × Option GoError :=
  match env.openTemp with
  | some err => ([], some (.wrapped "open temp file: %w" err))
  | none =>
    let applied := updateApply env.apply content targetPath (targetPath ++ ".bak")
    (applied.1, applied.2.map fun err =>
      match rollbackError err with
      | some rerr =>
        .wrappedCause "%w: rollback also failed: %v" (.sentinel .errUpdateRollback) rerr
      | none => err)

/-- A failed stage: `OnUpdateFailure` with the stage's sentinel, then `OnUpdateResult`. -/
def OTAConfig.reportFailure (ota : OTAConfig) (component oldVersion newVersion : String)
    (stage : Sentinel) (err : GoError) : List UpdateEffect :=
  ota.failure component (.tagged stage err) ++
    ota.result component oldVersion newVersion false (some err)

section

variable (P : Primitives) (publicKey : List UInt8) (cfg : Config) (env : BinaryEnv)

/-- The stages after the download: the checks, the apply step and the version write. -/
def verifyAndApply (componentSlug : String) (u : UpdateInfo) (targetPath oldVersion : String)
    (record : VersionRecord) (meta : DownloadMeta) (tmpPath : String) (content : List UInt8)
    (actualSHA256 : String) : List UpdateEffect :=
  let fail := cfg.ota.reportFailure componentSlug oldVersion u.latest
  cfg.ota.progress componentSlug "verifying" 6 ++
  if actualSHA256 ≠ meta.sha256 then
    fail .errUpdateVerify (.plain "hash mismatch: expected %s, got %s")
  else match verifySignature P publicKey meta.sha256 meta.signature with
    | some err => fail .errUpdateVerify err
    | none =>
      cfg.ota.progress componentSlug "applying" 8 ++ .apply tmpPath targetPath content ::
      match applyBackendBinaryWithSelfupdate env content targetPath with
      | (ops, some err) => ops.map .fs ++ fail .errUpdateApply err
      | (ops, none) =>
        ops.map .fs ++ .setVersion record u.latest ::
          (cfg.ota.result componentSlug oldVersion u.latest true none ++
            cfg.ota.progress componentSlug "completed" 10)

/-- `updateBinaryComponent(componentSlug, u, targetPath, …)` with `oldVersion` read by
`getCurrentVersion` and `record` the field `setVersion` writes. -/
def updateBinaryComponent (componentSlug : String) (u : UpdateInfo)
    (targetPath oldVersion : String) (record : VersionRecord) : List UpdateEffect :=
  cfg.ota.progress componentSlug "requesting" 0 ++
  .requestDownload componentSlug u.latest cfg.ota.os cfg.ota.arch ::
  match requestDownloadMeta env.downloadMeta with
  | .error err => cfg.ota.reportFailure componentSlug oldVersion u.latest .errUpdateDownload err
  | .ok meta =>
    let download :=
      downloadArtifactWithProgress P cfg.serverURL env meta.downloadURL cfg.ota.maxArtifactBytes
    cfg.ota.progress componentSlug "downloading" 3 ++ download.1 ++
    match download.2 with
    | .error err => cfg.ota.reportFailure componentSlug oldVersion u.latest .errUpdateDownload err
    | .ok (tmpPath, content, actualSHA256) =>
      verifyAndApply P publicKey cfg env componentSlug u targetPath oldVersion record
        meta tmpPath content actualSHA256 ++ [.fs (.remove tmpPath)]

/-- `updateBackend(u)`, given what `os.Executable` returned. -/
def updateBackend (versions : Versions) (executable : Except GoError String) (u : UpdateInfo) :
    List UpdateEffect :=
  match executable with
  | .error err =>
    cfg.ota.reportFailure cfg.componentSlug versions.version u.latest .errUpdateApply err
  | .ok exe =>
    updateBinaryComponent P publicKey cfg env cfg.componentSlug u exe versions.version .primary

/-- `unicode.IsSpace`. -/
def isSpace (c : Char) : Bool :=
  let n := c.toNat
  n = 0x09 || n = 0x0A || n = 0x0B || n = 0x0C || n = 0x0D || n = 0x20 || n = 0x85 || n = 0xA0 ||
    n = 0x1680 || (0x2000 ≤ n && n ≤ 0x200A) || n = 0x2028 || n = 0x2029 || n = 0x202F ||
    n = 0x205F || n = 0x3000

/-- `strings.TrimSpace`. -/
def trimSpace (s : String) : String :=
  ⟨((s.data.dropWhile isSpace).reverse.dropWhile isSpace).reverse⟩

/-- `updateManagedBackend(mc, u)`: the target is `mc.Dir` trimmed of white space. -/
def updateManagedBackend (versions : Versions) (mc : ManagedComponent) (u : UpdateInfo) :
    List UpdateEffect :=
  let targetPath := trimSpace mc.dir
  if targetPath = "" then
    cfg.ota.reportFailure mc.slug (versions.managedVersions mc.slug) u.latest .errUpdateApply
      (.plain "managed backend component %q requires Dir as target binary path")
  else
    updateBinaryComponent P publicKey cfg env mc.slug u targetPath
      (versions.managedVersions mc.slug) (.managed mc.slug)

end

section

variable {P : Primitives} {publicKey : List UInt8} {cfg : Config} {env : BinaryEnv}

theorem downloadArtifactWithProgress_ok {serverURL url : String} {maxBytes : Int}
    {tmpPath digest : String} {content : List UInt8}
    (downloaded : (downloadArtifactWithProgress P serverURL env url maxBytes).2 =
      .ok (tmpPath, content, digest)) :
    ∃ resp, env.response = .ok resp ∧ env.tempFile = .ok tmpPath ∧
      content = resp.body.bytes.take maxBytes.toNat ∧
      digest = encodeToString (P.sum256 content) := by
  unfold downloadArtifactWithProgress at downloaded
  split at downloaded
  · simp at downloaded
  split at downloaded
  · simp at downloaded
  rename_i resp responded
  split at downloaded
  · simp at downloaded
  split at downloaded
  · simp at downloaded
  rename_i tmp created
  dsimp only at downloaded
  split at downloaded
  · simp at downloaded
  rename_i file hashed copied
  obtain ⟨-, rfl, rfl⟩ := copyToFileAndHasher_of_ok copied
  simp only [Except.ok.injEq, Prod.mk.injEq] at downloaded
  obtain ⟨rfl, rfl, rfl⟩ := downloaded
  exact ⟨resp, responded, created, Body.limit_bytes _ _, rfl⟩

theorem mem_downloadArtifactWithProgress {serverURL url : String} {maxBytes : Int}
    {e : UpdateEffect} (mem : e ∈ (downloadArtifactWithProgress P serverURL env url maxBytes).1) :
    (∃ url, e = .fetch url) ∨ ∃ tmpPath, env.tempFile = .ok tmpPath ∧
      ((∃ content, e = .fs (.createTemp tmpPath content)) ∨ e = .fs (.remove tmpPath)) := by
  simp only [downloadArtifactWithProgress] at mem
  repeat' split at mem
  all_goals simp only [List.mem_append, List.mem_cons, List.mem_singleton, List.not_mem_nil,
    or_false] at mem
  all_goals rcases mem with rfl | rfl | rfl
  all_goals first
    | exact .inl ⟨_, rfl⟩
    | exact .inr ⟨_, ‹_›, .inl ⟨_, rfl⟩⟩
    | exact .inr ⟨_, ‹_›, .inr rfl⟩

@[simp] theorem OTAConfig.mem_reportFailure {ota : OTAConfig}
    {component oldVersion newVersion : String} {stage : Sentinel} {err : GoError}
    {e : UpdateEffect} :
    e ∈ ota.reportFailure component oldVersion newVersion stage err ↔
      ota.onUpdateFailure ∧ e = .failure component (.tagged stage err) ∨
        ota.onUpdateResult ∧ e = .result component oldVersion newVersion false (some err) := by
  simp [OTAConfig.reportFailure]

variable {componentSlug targetPath oldVersion tmpPath actualSHA256 : String} {u : UpdateInfo}
  {record : VersionRecord} {meta : DownloadMeta} {content : List UInt8}

theorem apply_mem_verifyAndApply {tmp' target' : String} {content' : List UInt8}
    (called : .apply tmp' target' content' ∈ verifyAndApply P publicKey cfg env componentSlug u
      targetPath oldVersion record meta tmpPath content actualSHA256) :
    tmp' = tmpPath ∧ target' = targetPath ∧ content' = content ∧
      actualSHA256 = meta.sha256 ∧
      verifySignature P publicKey meta.sha256 meta.signature = none := by
  unfold verifyAndApply at called
  split at called
  · simp at called
  split at called
  · simp at called
  rename_i matching _ verified
  split at called <;> simp_all

theorem verifyAndApply_of_isInstall {e : UpdateEffect}
    (mem : e ∈ verifyAndApply P publicKey cfg env componentSlug u targetPath oldVersion record meta
      tmpPath content actualSHA256) (install : e.isInstall) : actualSHA256 = meta.sha256 := by
  unfold verifyAndApply at mem
  by_contra mismatch
  dsimp only at mem
  rw [if_pos mismatch] at mem
  exact UpdateEffect.not_mem_of_filter_isInstall install (by simp [OTAConfig.reportFailure]) mem

theorem setVersion_mem_verifyAndApply {r : VersionRecord} {v : String}
    (written : .setVersion r v ∈ verifyAndApply P publicKey cfg env componentSlug u
      targetPath oldVersion record meta tmpPath content actualSHA256) :
    r = record ∧ v = u.latest ∧ ∃ pre ops post,
      verifyAndApply P publicKey cfg env componentSlug u targetPath oldVersion record meta tmpPath
          content actualSHA256 =
        pre ++ .apply tmpPath targetPath content ::
          (ops.map .fs ++ .setVersion record u.latest :: post) ∧
      applyBackendBinaryWithSelfupdate env content targetPath = (ops, none) := by
  unfold verifyAndApply at written ⊢
  split at written
  · simp at written
  split at written
  · simp at written
  rename_i matching _ verified
  split at written
  · simp_all
  rename_i ops applied
  simp only [matching, verified, applied, if_false]
  obtain ⟨rfl, rfl⟩ : r = record ∧ v = u.latest := by simpa using written
  exact ⟨rfl, rfl, _, ops, _, (List.append_assoc _ _ _).symm, rfl⟩

theorem fsOps_verifyAndApply_of_setVersion {r : VersionRecord} {v : String}
    (written : .setVersion r v ∈ verifyAndApply P publicKey cfg env componentSlug u
      targetPath oldVersion record meta tmpPath content actualSHA256) :
    actualSHA256 = meta.sha256 ∧ verifySignature P publicKey meta.sha256 meta.signature = none ∧
      ∃ ops, applyBackendBinaryWithSelfupdate env content targetPath = (ops, none) ∧
        UpdateEffect.fsOps (verifyAndApply P publicKey cfg env componentSlug u targetPath
          oldVersion record meta tmpPath content actualSHA256) = ops := by
  unfold verifyAndApply at written ⊢
  split at written
  · simp at written
  split at written
  · simp at written
  rename_i matching _ verified
  split at written
  · simp_all
  rename_i ops applied
  refine ⟨not_not.mp matching, verified, ops, applied, ?_⟩
  simp [matching, verified, applied]

theorem requestDownloadMeta_eq_ok {reply : Except GoError DownloadMeta} {meta : DownloadMeta}
    (requested : requestDownloadMeta reply = .ok meta) : reply = .ok meta ∧ meta.error = "" := by
  unfold requestDownloadMeta at requested
  split at requested
  · simp at requested
  · split at requested <;> simp_all

theorem not_mem_downloadArtifactWithProgress {serverURL url : String} {maxBytes : Int}
    {e : UpdateEffect} (install : e.isInstall) :
    e ∉ (downloadArtifactWithProgress P serverURL env url maxBytes).1 := fun mem => by
  rcases mem_downloadArtifactWithProgress mem with ⟨_, rfl⟩ | ⟨_, -, ⟨_, rfl⟩ | rfl⟩ <;>
    simp at install

@[simp] theorem failure_not_mem_downloadArtifactWithProgress {serverURL url : String}
    {maxBytes : Int} {component : String} {err : GoError} :
    .failure component err ∉ (downloadArtifactWithProgress P serverURL env url maxBytes).1 :=
  fun mem => by
    rcases mem_downloadArtifactWithProgress mem with
      ⟨_, found⟩ | ⟨_, -, ⟨_, found⟩ | found⟩ <;> cases found

theorem updateBinaryComponent_of_isInstall {e : UpdateEffect}
    (mem : e ∈ updateBinaryComponent P publicKey cfg env componentSlug u targetPath oldVersion
      record) (install : e.isInstall) :
    ∃ meta tmpPath content digest, requestDownloadMeta env.downloadMeta = .ok meta ∧
      (downloadArtifactWithProgress P cfg.serverURL env meta.downloadURL
        cfg.ota.maxArtifactBytes).2 = .ok (tmpPath, content, digest) ∧
      e ∈ verifyAndApply P publicKey cfg env componentSlug u targetPath oldVersion record meta
        tmpPath content digest ∧
      ∃ pre,
        updateBinaryComponent P publicKey cfg env componentSlug u targetPath oldVersion record =
        pre ++ (verifyAndApply P publicKey cfg env componentSlug u targetPath oldVersion record meta
          tmpPath content digest ++ [.fs (.remove tmpPath)]) := by
  unfold updateBinaryComponent at mem ⊢
  dsimp only at mem ⊢
  split at mem
  · simp only [List.mem_append, List.mem_cons, OTAConfig.mem_progress,
      OTAConfig.mem_reportFailure] at mem
    rcases mem with ⟨_, rfl⟩ | rfl | ⟨_, rfl⟩ | ⟨_, rfl⟩ <;>
      simp [UpdateEffect.isInstall] at install
  rename_i meta requested
  split at mem
  · simp only [List.mem_append, List.mem_cons, OTAConfig.mem_progress, OTAConfig.mem_reportFailure,
      not_mem_downloadArtifactWithProgress install, or_false, or_assoc] at mem
    rcases mem with ⟨_, rfl⟩ | rfl | ⟨_, rfl⟩ | ⟨_, rfl⟩ | ⟨_, rfl⟩ <;>
      simp [UpdateEffect.isInstall] at install
  · rename_i downloaded
    refine ⟨meta, _, _, _, requested, downloaded, ?_,
      cfg.ota.progress componentSlug "requesting" 0 ++
      .requestDownload componentSlug u.latest cfg.ota.os cfg.ota.arch ::
        (cfg.ota.progress componentSlug "downloading" 3 ++
          (downloadArtifactWithProgress P cfg.serverURL env meta.downloadURL
            cfg.ota.maxArtifactBytes).1), by simp⟩
    simp only [List.mem_append, List.mem_cons, List.mem_singleton, OTAConfig.mem_progress,
      not_mem_downloadArtifactWithProgress install, List.not_mem_nil, or_false, or_assoc] at mem
    rcases mem with ⟨_, rfl⟩ | rfl | ⟨_, rfl⟩ | called | rfl
    all_goals first | assumption | simp [UpdateEffect.isInstall] at install

@[simp] theorem reports_downloadArtifactWithProgress {serverURL url : String} {maxBytes : Int} :
    UpdateEffect.reports (downloadArtifactWithProgress P serverURL env url maxBytes).1 = [] :=
  List.filter_eq_nil_iff.mpr fun _ mem => by
    rcases mem_downloadArtifactWithProgress mem with
      ⟨_, rfl⟩ | ⟨_, -, ⟨_, rfl⟩ | rfl⟩ <;> simp

@[simp] theorem fractions_downloadArtifactWithProgress {serverURL url : String} {maxBytes : Int} :
    UpdateEffect.fractions (downloadArtifactWithProgress P serverURL env url maxBytes).1 = [] :=
  List.filterMap_eq_nil_iff.mpr fun _ mem => by
    rcases mem_downloadArtifactWithProgress mem with
      ⟨_, rfl⟩ | ⟨_, -, ⟨_, rfl⟩ | rfl⟩ <;> rfl

@[simp] theorem reports_reportFailure {ota : OTAConfig} {component oldVersion newVersion : String}
    {stage : Sentinel} {err : GoError} :
    UpdateEffect.reports (ota.reportFailure component oldVersion newVersion stage err) =
      ota.reportFailure component oldVersion newVersion stage err := by
  simp [OTAConfig.reportFailure]

@[simp] theorem fractions_reportFailure {ota : OTAConfig} {component oldVersion newVersion : String}
    {stage : Sentinel} {err : GoError} :
    UpdateEffect.fractions (ota.reportFailure component oldVersion newVersion stage err) = [] := by
  simp [OTAConfig.reportFailure]

@[simp] theorem requests_downloadArtifactWithProgress {serverURL url : String} {maxBytes : Int} :
    UpdateEffect.requests (downloadArtifactWithProgress P serverURL env url maxBytes).1 = [] :=
  List.filterMap_eq_nil_iff.mpr fun _ mem => by
    rcases mem_downloadArtifactWithProgress mem with
      ⟨_, rfl⟩ | ⟨_, -, ⟨_, rfl⟩ | rfl⟩ <;> rfl

@[simp] theorem requests_reportFailure {ota : OTAConfig} {component oldVersion newVersion : String}
    {stage : Sentinel} {err : GoError} :
    UpdateEffect.requests (ota.reportFailure component oldVersion newVersion stage err) = [] := by
  simp [OTAConfig.reportFailure]

theorem requests_updateBinaryComponent :
    UpdateEffect.requests
      (updateBinaryComponent P publicKey cfg env componentSlug u targetPath oldVersion record) =
      [componentSlug] := by
  unfold updateBinaryComponent verifyAndApply
  dsimp only
  repeat' split
  all_goals simp

theorem reports_updateBinaryComponent :
    (∃ stage err, UpdateEffect.reports
        (updateBinaryComponent P publicKey cfg env componentSlug u targetPath oldVersion record) =
      cfg.ota.reportFailure componentSlug oldVersion u.latest stage err) ∨
    UpdateEffect.reports
        (updateBinaryComponent P publicKey cfg env componentSlug u targetPath oldVersion record) =
      .setVersion record u.latest ::
        cfg.ota.result componentSlug oldVersion u.latest true none := by
  unfold updateBinaryComponent
  dsimp only
  split
  · exact .inl ⟨_, _, by simp [UpdateEffect.isReport]; rfl⟩
  split
  · exact .inl ⟨_, _, by simp [UpdateEffect.isReport]; rfl⟩
  unfold verifyAndApply
  split
  · exact .inl ⟨_, _, by simp [UpdateEffect.isReport]; rfl⟩
  split
  · exact .inl ⟨_, _, by simp [UpdateEffect.isReport]; rfl⟩
  split
  · exact .inl ⟨_, _, by simp [UpdateEffect.isReport]; rfl⟩
  · exact .inr (by simp [UpdateEffect.isReport])

theorem fractions_updateBinaryComponent :
    List.Sublist (UpdateEffect.fractions
        (updateBinaryComponent P publicKey cfg env componentSlug u targetPath oldVersion record))
      [0, 3, 6, 8, 10] := by
  unfold updateBinaryComponent verifyAndApply
  dsimp only
  repeat' split
  all_goals by_cases reported : cfg.ota.onUpdateProgress <;> simp [reported]

theorem failure_mem_updateBinaryComponent {component : String} {err : GoError}
    (failed : .failure component err ∈
      updateBinaryComponent P publicKey cfg env componentSlug u targetPath oldVersion record) :
    err.is .errUpdateRollback = false := by
  unfold updateBinaryComponent verifyAndApply at failed
  dsimp only at failed
  repeat' split at failed
  all_goals simp [OTAConfig.reportFailure] at failed
  all_goals obtain ⟨-, -, rfl⟩ := failed
  all_goals rfl

theorem updateBinaryComponent_applies_verified {tmpPath target : String} {content : List UInt8}
    (called : .apply tmpPath target content ∈
      updateBinaryComponent P publicKey cfg env componentSlug u targetPath oldVersion record) :
    target = targetPath ∧ env.tempFile = .ok tmpPath ∧ ∃ meta resp,
      env.downloadMeta = .ok meta ∧ env.response = .ok resp ∧
      content = resp.body.bytes.take cfg.ota.maxArtifactBytes.toNat ∧
      encodeToString (P.sum256 content) = meta.sha256 ∧
      P.trusts publicKey meta.sha256 meta.signature := by
  obtain ⟨meta, _, _, digest, requested, downloaded, inner, -⟩ :=
    updateBinaryComponent_of_isInstall called rfl
  obtain ⟨rfl, rfl, rfl, matching, verified⟩ := apply_mem_verifyAndApply inner
  obtain ⟨resp, responded, created, truncated, hashed⟩ :=
    downloadArtifactWithProgress_ok downloaded
  exact ⟨rfl, created, meta, resp, (requestDownloadMeta_eq_ok requested).1, responded, truncated,
    hashed ▸ matching, (verifySignature_eq_none_iff P publicKey _ _).mp verified⟩

theorem updateBinaryComponent_declared_digest {e : UpdateEffect}
    (mem : e ∈ updateBinaryComponent P publicKey cfg env componentSlug u targetPath oldVersion
      record) (install : e.isInstall) :
    ∃ meta content, env.downloadMeta = .ok meta ∧
      meta.sha256 = encodeToString (P.sum256 content) := by
  obtain ⟨meta, _, content, _, requested, downloaded, inner, -⟩ :=
    updateBinaryComponent_of_isInstall mem install
  obtain ⟨_, -, -, -, hashed⟩ := downloadArtifactWithProgress_ok downloaded
  exact ⟨meta, content, (requestDownloadMeta_eq_ok requested).1,
    (verifyAndApply_of_isInstall inner install).symm.trans hashed⟩

theorem updateBinaryComponent_setVersion {r : VersionRecord} {v : String}
    (written : .setVersion r v ∈
      updateBinaryComponent P publicKey cfg env componentSlug u targetPath oldVersion record) :
    r = record ∧ v = u.latest ∧ ∃ pre tmpPath content ops post,
      updateBinaryComponent P publicKey cfg env componentSlug u targetPath oldVersion record =
        pre ++ .apply tmpPath targetPath content ::
          (ops.map .fs ++ .setVersion record u.latest :: post) ∧
      applyBackendBinaryWithSelfupdate env content targetPath = (ops, none) := by
  obtain ⟨_, tmpPath, content, _, -, -, inner, before, traced⟩ :=
    updateBinaryComponent_of_isInstall written rfl
  obtain ⟨rfl, rfl, pre, ops, post, decomposed, applied⟩ := setVersion_mem_verifyAndApply inner
  exact ⟨rfl, rfl, before ++ pre, tmpPath, content, ops, post ++ [.fs (.remove tmpPath)],
    by rw [traced, decomposed]; simp, applied⟩

theorem updateApply_installs {applyEnv : ApplyEnv} {content : List UInt8} {target old : String}
    {ops : List FsOp} (stagedApart : within target (stagingPath target) = false)
    (stagedOutsideOld : within old (stagingPath target) = false)
    (applied : updateApply applyEnv content target old = (ops, none)) (t : Tree) :
    runOps ops t target = some (.file content) := by
  have notOld : stagingPath target ≠ old := fun same => by
    simp [same] at stagedOutsideOld
  unfold updateApply at applied
  repeat' split at applied
  all_goals cases applied
  -- only the run whose renames all succeeded returns nil
  simp [FsOp.run, stagedApart, stagedOutsideOld, notOld, Function.update_apply]

theorem updateApply_target {applyEnv : ApplyEnv} {content : List UInt8} {target old : String}
    {ops : List FsOp} {err : Option GoError} (apart : Apart target old)
    (stagedApart : within target (stagingPath target) = false)
    (stagedOutsideOld : within old (stagingPath target) = false)
    (applied : updateApply applyEnv content target old = (ops, err)) (t : Tree) :
    runOps ops t target = t target ∨ (err = none ∧ runOps ops t target = some (.file content)) ∨
      (applyEnv.renameNew ≠ none ∧ applyEnv.renameBack ≠ none ∧
        runOps ops t target = none) := by
  rcases err with _ | err
  · exact .inr (.inl ⟨rfl, updateApply_installs stagedApart stagedOutsideOld applied t⟩)
  have notOld : target ≠ old := fun same => by simp [same, Apart] at apart
  have notStaged : target ≠ stagingPath target := fun same => by
    rw [← same] at stagedApart
    simp at stagedApart
  have staged : ∀ data truncate,
      runOps [.writeFile (stagingPath target) data truncate, .remove old] t target = t target :=
    fun _ _ => by simp [FsOp.run, Function.update_apply, notOld, notStaged]
  unfold updateApply at applied
  split at applied
  · cases applied; exact .inl rfl
  · cases applied; exact .inl rfl
  · cases applied; exact .inl (by simp [FsOp.run, Function.update_apply, notStaged])
  dsimp only at applied
  split at applied
  · cases applied; exact .inl (staged _ _)
  · cases applied
  · cases applied
    exact .inl (by rw [runOps_append, runOps_cons, runOps_cons, runOps_nil,
      rename_rename (within_self target), staged])
  · rename_i movedNew rolledBack
    cases applied
    refine .inr (.inr ⟨by simp [movedNew], by simp [rolledBack], ?_⟩)
    simp [runOps_append, FsOp.run, apart.2]

theorem applyBackendBinaryWithSelfupdate_installs {content : List UInt8} {targetPath : String}
    {ops : List FsOp} (stagedApart : within targetPath (stagingPath targetPath) = false)
    (stagedOutsideBackup : within (targetPath ++ ".bak") (stagingPath targetPath) = false)
    (applied : applyBackendBinaryWithSelfupdate env content targetPath = (ops, none)) (t : Tree) :
    runOps ops t targetPath = some (.file content) := by
  unfold applyBackendBinaryWithSelfupdate at applied
  split at applied
  · cases applied
  · simp only [Prod.mk.injEq, Option.map_eq_none'] at applied
    exact updateApply_installs stagedApart stagedOutsideBackup (Prod.ext applied.1 applied.2) t

theorem applyBackendBinaryWithSelfupdate_target {content : List UInt8} {targetPath : String}
    {ops : List FsOp} {err : Option GoError}
    (stagedApart : within targetPath (stagingPath targetPath) = false)
    (stagedOutsideBackup : within (targetPath ++ ".bak") (stagingPath targetPath) = false)
    (applied : applyBackendBinaryWithSelfupdate env content targetPath = (ops, err)) (t : Tree) :
    runOps ops t targetPath = t targetPath ∨
      (err = none ∧ runOps ops t targetPath = some (.file content)) ∨
      (env.apply.renameNew ≠ none ∧ env.apply.renameBack ≠ none ∧
        runOps ops t targetPath = none) := by
  unfold applyBackendBinaryWithSelfupdate at applied
  split at applied
  · cases applied; exact .inl rfl
  simp only [Prod.mk.injEq] at applied
  obtain ⟨rfl, rfl⟩ := applied
  rcases updateApply_target (apart_backup targetPath) stagedApart stagedOutsideBackup rfl t with
    kept | ⟨installed, new⟩ | gone
  · exact .inl kept
  · exact .inr (.inl ⟨Option.map_eq_none'.mpr installed, new⟩)
  · exact .inr (.inr gone)

theorem mem_applyBackendBinaryWithSelfupdate {content : List UInt8} {targetPath : String}
    {op : FsOp} (mem : op ∈ (applyBackendBinaryWithSelfupdate env content targetPath).1) :
    (∃ data, op = .writeFile (stagingPath targetPath) data true) ∨
      op = .remove (targetPath ++ ".bak") ∨ op = .rename targetPath (targetPath ++ ".bak") ∨
      op = .rename (stagingPath targetPath) targetPath ∨
      op = .rename (targetPath ++ ".bak") targetPath := by
  unfold applyBackendBinaryWithSelfupdate updateApply at mem
  repeat' split at mem
  all_goals simp only [List.mem_append, List.mem_cons, List.mem_singleton, List.not_mem_nil,
    or_false, or_assoc] at mem
  all_goals rcases mem with rfl | rfl | rfl | rfl <;> simp

theorem mem_fsOps_updateBinaryComponent {op : FsOp}
    (mem : op ∈ UpdateEffect.fsOps
      (updateBinaryComponent P publicKey cfg env componentSlug u targetPath oldVersion record)) :
    (∃ tmpPath, env.tempFile = .ok tmpPath ∧
      ((∃ content, op = .createTemp tmpPath content) ∨ op = .remove tmpPath)) ∨
    ∃ content, op ∈ (applyBackendBinaryWithSelfupdate env content targetPath).1 := by
  have downloaded : ∀ {url}, op ∈ UpdateEffect.fsOps
      (downloadArtifactWithProgress P cfg.serverURL env url cfg.ota.maxArtifactBytes).1 →
      ∃ tmpPath, env.tempFile = .ok tmpPath ∧
        ((∃ content, op = .createTemp tmpPath content) ∨ op = .remove tmpPath) := fun mem => by
    rcases mem_downloadArtifactWithProgress (UpdateEffect.mem_fsOps.mp mem) with ⟨_, found⟩ |
      ⟨tmpPath, created, ⟨content, found⟩ | found⟩ <;> cases found
    · exact ⟨tmpPath, created, .inl ⟨content, rfl⟩⟩
    · exact ⟨tmpPath, created, .inr rfl⟩
  unfold updateBinaryComponent at mem
  dsimp only at mem
  split at mem
  · simp [OTAConfig.reportFailure] at mem
  split at mem
  · simp only [UpdateEffect.fsOps_append, OTAConfig.fsOps_progress, OTAConfig.reportFailure,
      OTAConfig.fsOps_failure, OTAConfig.fsOps_result, List.append_nil, List.nil_append,
      UpdateEffect.fsOps_cons, UpdateEffect.fsOp?, Option.toList] at mem
    exact .inl (downloaded mem)
  rename_i outcome
  obtain ⟨_, _, created, -⟩ := downloadArtifactWithProgress_ok outcome
  simp only [UpdateEffect.fsOps_append, OTAConfig.fsOps_progress, UpdateEffect.fsOps_cons,
    UpdateEffect.fsOps_nil, UpdateEffect.fsOp?, Option.toList, List.nil_append, List.mem_append,
    List.mem_cons, List.mem_singleton, List.not_mem_nil, or_false] at mem
  rcases mem with early | verified | rfl
  · exact .inl (downloaded early)
  · unfold verifyAndApply at verified
    repeat' split at verified
    all_goals simp [OTAConfig.reportFailure] at verified
    all_goals rename_i applied; exact .inr ⟨_, by rw [applied]; exact verified⟩
  · exact .inl ⟨_, created, .inr rfl⟩

/-- When `updateBinaryComponent` records a version, it is its own record and the notified
version, and the target holds exactly the verified bytes, cut to `MaxArtifactBytes`. -/
theorem updateBinaryComponent_records_installed_binary {r : VersionRecord} {v : String}
    (written : .setVersion r v ∈
      updateBinaryComponent P publicKey cfg env componentSlug u targetPath oldVersion record)
    (created : env.tempFile = .ok tmpPath) (tempElsewhere : tmpPath ≠ targetPath)
    (stagedApart : within targetPath (stagingPath targetPath) = false)
    (stagedOutsideBackup : within (targetPath ++ ".bak") (stagingPath targetPath) = false)
    (t : Tree) :
    r = record ∧ v = u.latest ∧ ∃ meta resp, env.downloadMeta = .ok meta ∧
      env.response = .ok resp ∧
      encodeToString (P.sum256 (resp.body.bytes.take cfg.ota.maxArtifactBytes.toNat)) =
        meta.sha256 ∧ P.trusts publicKey meta.sha256 meta.signature ∧
      runOps (UpdateEffect.fsOps (updateBinaryComponent P publicKey cfg env componentSlug u
          targetPath oldVersion record)) t targetPath =
        some (.file (resp.body.bytes.take cfg.ota.maxArtifactBytes.toNat)) := by
  obtain ⟨meta, tmpPath', content, digest, requested, downloaded, inner, pre, traced⟩ :=
    updateBinaryComponent_of_isInstall written rfl
  obtain ⟨rfl, rfl, -⟩ := setVersion_mem_verifyAndApply inner
  obtain ⟨matching, verified, ops, applied, applyOps⟩ := fsOps_verifyAndApply_of_setVersion inner
  obtain ⟨resp, responded, created', truncated, hashed⟩ :=
    downloadArtifactWithProgress_ok downloaded
  have same : tmpPath = tmpPath' := Except.ok.inj (created.symm.trans created')
  subst same truncated
  refine ⟨rfl, rfl, meta, resp, (requestDownloadMeta_eq_ok requested).1, responded,
    hashed ▸ matching, (verifySignature_eq_none_iff P publicKey _ _).mp verified, ?_⟩
  -- the temp file, removed last, is not the target
  rw [traced]
  simp only [UpdateEffect.fsOps_append, applyOps, UpdateEffect.fsOps_cons, UpdateEffect.fsOp?,
    Option.toList, UpdateEffect.fsOps_nil, List.append_nil, runOps_append, runOps_cons,
    runOps_nil, FsOp.run, Function.update_apply, if_neg tempElsewhere.symm]
  exact applyBackendBinaryWithSelfupdate_installs stagedApart stagedOutsideBackup applied _

theorem runOps_updateBinaryComponent_target (tempElsewhere : env.tempFile ≠ .ok targetPath)
    (t : Tree) :
    runOps (UpdateEffect.fsOps (updateBinaryComponent P publicKey cfg env componentSlug u
        targetPath oldVersion record)) t targetPath = t targetPath ∨
      ∃ meta resp ops err t', env.downloadMeta = .ok meta ∧ env.response = .ok resp ∧
        encodeToString (P.sum256 (resp.body.bytes.take cfg.ota.maxArtifactBytes.toNat)) =
          meta.sha256 ∧ P.trusts publicKey meta.sha256 meta.signature ∧
        applyBackendBinaryWithSelfupdate env (resp.body.bytes.take
          cfg.ota.maxArtifactBytes.toNat) targetPath = (ops, err) ∧
        t' targetPath = t targetPath ∧
        runOps (UpdateEffect.fsOps (updateBinaryComponent P publicKey cfg env componentSlug u
          targetPath oldVersion record)) t targetPath = runOps ops t' targetPath := by
  have downloadFrame : ∀ url (t' : Tree), runOps (UpdateEffect.fsOps
      (downloadArtifactWithProgress P cfg.serverURL env url cfg.ota.maxArtifactBytes).1) t'
        targetPath = t' targetPath := fun _ t' =>
    runOps_of_not_touches (fun _ mem => by
      rcases mem_downloadArtifactWithProgress (UpdateEffect.mem_fsOps.mp mem) with
        ⟨_, found⟩ | ⟨tmpPath, created, ⟨_, found⟩ | found⟩ <;> cases found <;>
        simpa [FsOp.touches] using fun same : targetPath = tmpPath =>
          tempElsewhere (same ▸ created)) t'
  unfold updateBinaryComponent
  split
  · exact .inl (by simp [OTAConfig.reportFailure])
  rename_i meta requested
  dsimp only
  split
  · exact .inl (by simp [OTAConfig.reportFailure, downloadFrame])
  rename_i tmpPath content digest downloaded
  obtain ⟨resp, responded, created, rfl, hashed⟩ := downloadArtifactWithProgress_ok downloaded
  have notTmp : targetPath ≠ tmpPath := fun same => tempElsewhere (same ▸ created)
  -- the temp file, removed last, is not the target
  have removedLast : ∀ (ops : List FsOp) (t' : Tree),
      runOps (ops ++ [.remove tmpPath]) t' targetPath = runOps ops t' targetPath := fun _ _ => by
    simp [runOps_append, FsOp.run, Function.update_apply, notTmp]
  unfold verifyAndApply
  simp only [UpdateEffect.fsOps_append, UpdateEffect.fsOps_cons, OTAConfig.fsOps_progress,
    UpdateEffect.fsOp?, Option.toList, UpdateEffect.fsOps_nil, List.nil_append,
    List.append_nil, ← List.append_assoc, removedLast]
  split
  · exact .inl (by simp [OTAConfig.reportFailure, downloadFrame])
  split
  · exact .inl (by simp [OTAConfig.reportFailure, downloadFrame])
  rename_i matching _ verified
  rcases applied : applyBackendBinaryWithSelfupdate env
    (resp.body.bytes.take cfg.ota.maxArtifactBytes.toNat) targetPath with ⟨ops, err⟩
  refine .inr ⟨meta, resp, ops, err, runOps (UpdateEffect.fsOps (downloadArtifactWithProgress P
    cfg.serverURL env meta.downloadURL cfg.ota.maxArtifactBytes).1) t,
    (requestDownloadMeta_eq_ok requested).1, responded, hashed ▸ not_not.mp matching,
    (verifySignature_eq_none_iff P publicKey _ _).mp verified, applied, downloadFrame _ t, ?_⟩
  cases err <;> simp [OTAConfig.reportFailure, runOps_append, matching, verified]

/-- A one-byte release installed at `/usr/local/bin/app`. -/
theorem updateBinaryComponent_records_installed_app :
    let cfg : Config :=
      ⟨"", "demo", "app", ⟨hour⟩, ⟨true, true, "linux", "amd64", 1024, false, false, false⟩, []⟩
    let env : BinaryEnv :=
      ⟨.ok ⟨"/app", "01", "0123456789abcdef0123456789abcdef0123456789abcdef0123456789abcdef",
          ""⟩,
        none, .ok ⟨200, ⟨[[1]], none⟩⟩, .ok "/tmp/deploy-guard-update-1", 1024, none,
        ⟨none, none, none, none, none, none⟩⟩
    let trace := updateBinaryComponent Primitives.sample [] cfg env "app" ⟨"app", "2.0.0", true⟩
      "/usr/local/bin/app" "1.0.0" .primary
    (.setVersion .primary "2.0.0" ∈ trace ∧ env.tempFile = .ok "/tmp/deploy-guard-update-1" ∧
      "/tmp/deploy-guard-update-1" ≠ "/usr/local/bin/app" ∧
      within "/usr/local/bin/app" (stagingPath "/usr/local/bin/app") = false ∧
      within ("/usr/local/bin/app" ++ ".bak") (stagingPath "/usr/local/bin/app") = false) ∧
    VersionRecord.primary = .primary ∧ "2.0.0" = "2.0.0" ∧ ∃ meta resp,
      env.downloadMeta = .ok meta ∧ env.response = .ok resp ∧
      encodeToString (Primitives.sample.sum256
        (resp.body.bytes.take cfg.ota.maxArtifactBytes.toNat)) = meta.sha256 ∧
      Primitives.sample.trusts [] meta.sha256 meta.signature ∧
      runOps (UpdateEffect.fsOps trace) (fun _ => none) "/usr/local/bin/app" =
        some (.file (resp.body.bytes.take cfg.ota.maxArtifactBytes.toNat)) := by
  intro cfg env trace
  have written : .setVersion .primary "2.0.0" ∈ trace := by decide
  have created : env.tempFile = .ok "/tmp/deploy-guard-update-1" := rfl
  have tempElsewhere : "/tmp/deploy-guard-update-1" ≠ "/usr/local/bin/app" := by decide
  have stagedApart : within "/usr/local/bin/app" (stagingPath "/usr/local/bin/app") = false := by
    decide
  have stagedOutsideBackup :
      within ("/usr/local/bin/app" ++ ".bak") (stagingPath "/usr/local/bin/app") = false := by
    decide
  exact ⟨⟨written, created, tempElsewhere, stagedApart, stagedOutsideBackup⟩,
    updateBinaryComponent_records_installed_binary written created tempElsewhere stagedApart
      stagedOutsideBackup _⟩

/-- Whatever every call returns, the target holds what it held, exactly the verified bytes, or
nothing, the last only when both the move and the rollback failed. -/
theorem updateBinaryComponent_replaces_target_whole
    (tempElsewhere : env.tempFile ≠ .ok targetPath)
    (stagedApart : within targetPath (stagingPath targetPath) = false)
    (stagedOutsideBackup : within (targetPath ++ ".bak") (stagingPath targetPath) = false)
    (t : Tree) :
    runOps (UpdateEffect.fsOps (updateBinaryComponent P publicKey cfg env componentSlug u
        targetPath oldVersion record)) t targetPath = t targetPath ∨
      (∃ meta resp, env.downloadMeta = .ok meta ∧ env.response = .ok resp ∧
        encodeToString (P.sum256 (resp.body.bytes.take cfg.ota.maxArtifactBytes.toNat)) =
          meta.sha256 ∧ P.trusts publicKey meta.sha256 meta.signature ∧
        runOps (UpdateEffect.fsOps (updateBinaryComponent P publicKey cfg env componentSlug u
            targetPath oldVersion record)) t targetPath =
          some (.file (resp.body.bytes.take cfg.ota.maxArtifactBytes.toNat))) ∨
      (env.apply.renameNew ≠ none ∧ env.apply.renameBack ≠ none ∧
        runOps (UpdateEffect.fsOps (updateBinaryComponent P publicKey cfg env componentSlug u
          targetPath oldVersion record)) t targetPath = none) := by
  rcases runOps_updateBinaryComponent_target tempElsewhere t with
    kept | ⟨meta, resp, ops, err, t', requested, responded, matched, trusted, applied, same, ran⟩
  · exact .inl kept
  rw [ran]
  rcases applyBackendBinaryWithSelfupdate_target stagedApart stagedOutsideBackup applied t' with
    kept | ⟨-, installed⟩ | gone
  · exact .inl (kept.trans same)
  · exact .inr (.inl ⟨meta, resp, requested, responded, matched, trusted, installed⟩)
  · exact .inr (.inr gone)

/-- A verified release whose move into place and rollback both fail. -/
theorem updateBinaryComponent_rollback_failure_at_app :
    let cfg : Config :=
      ⟨"", "demo", "app", ⟨hour⟩, ⟨true, true, "linux", "amd64", 1024, false, false, false⟩, []⟩
    let env : BinaryEnv :=
      ⟨.ok ⟨"/app", "01", "0123456789abcdef0123456789abcdef0123456789abcdef0123456789abcdef",
          ""⟩,
        none, .ok ⟨200, ⟨[[1]], none⟩⟩, .ok "/tmp/deploy-guard-update-1", 1024, none,
        ⟨none, none, none, none, some (.plain "rename: text file busy"),
          some (.plain "rename: permission denied")⟩⟩
    let before : Tree := fun p => if p = "/usr/local/bin/app" then some (.file [0]) else none
    let after := runOps (UpdateEffect.fsOps (updateBinaryComponent Primitives.sample [] cfg env
      "app" ⟨"app", "2.0.0", true⟩ "/usr/local/bin/app" "1.0.0" .primary)) before
        "/usr/local/bin/app"
    (env.tempFile ≠ .ok "/usr/local/bin/app" ∧
      within "/usr/local/bin/app" (stagingPath "/usr/local/bin/app") = false ∧
      within ("/usr/local/bin/app" ++ ".bak") (stagingPath "/usr/local/bin/app") = false) ∧
    (after = before "/usr/local/bin/app" ∨
      (∃ meta resp, env.downloadMeta = .ok meta ∧ env.response = .ok resp ∧
        encodeToString (Primitives.sample.sum256
          (resp.body.bytes.take cfg.ota.maxArtifactBytes.toNat)) = meta.sha256 ∧
        Primitives.sample.trusts [] meta.sha256 meta.signature ∧
        after = some (.file (resp.body.bytes.take cfg.ota.maxArtifactBytes.toNat))) ∨
      (env.apply.renameNew ≠ none ∧ env.apply.renameBack ≠ none ∧ after = none)) := by
  intro cfg env before after
  have tempElsewhere : env.tempFile ≠ .ok "/usr/local/bin/app" := fun same =>
    absurd (Except.ok.inj same) (by decide)
  have stagedApart : within "/usr/local/bin/app" (stagingPath "/usr/local/bin/app") = false := by
    decide
  have stagedOutsideBackup :
      within ("/usr/local/bin/app" ++ ".bak") (stagingPath "/usr/local/bin/app") = false := by
    decide
  exact ⟨⟨tempElsewhere, stagedApart, stagedOutsideBackup⟩,
    updateBinaryComponent_replaces_target_whole tempElsewhere stagedApart stagedOutsideBackup _⟩

end

end BanyanGuard
