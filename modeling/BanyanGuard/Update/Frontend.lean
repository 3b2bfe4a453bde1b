import BanyanGuard.Update.Binary

/-!
# Frontend updates

`updateFrontend` extracts a `tar.gz` bundle while the readers pull the body through the
hasher, compares the digest, and swaps the directory in.  The decoders are not modelled:
the archive and the number of reads they made are given.
-/

namespace BanyanGuard

/-- A tar entry as `tr.Next()` returns it, with what `io.Copy(f, tr)` gets of its data. -/
structure TarHeader where
  name : String
  typeflag : UInt8
  /-- The bytes `io.Copy(f, tr)` writes. -/
  data : List UInt8
  /-- The error `io.Copy` ends with after `data`; `none` when the entry was copied whole. -/
  copyError : Option GoError
  deriving DecidableEq, Repr

/-- `tar.TypeReg`, the byte `'0'`. -/
def typeReg : UInt8 := 48

/-- `tar.TypeDir`, the byte `'5'`. -/
def typeDir : UInt8 := 53

/-- The reply to `POST /api/v1/update/download` on the frontend path. -/
structure FrontendMeta where
  downloadURL : String
  sha256 : String
  error : String
  deriving DecidableEq, Repr

/-- The outcomes of the external calls of one frontend update. -/
structure FrontendEnv where
  /-- `postJSON` to `/api/v1/update/download`. -/
  downloadMeta : Except GoError FrontendMeta
  /-- `http.Get`. -/
  response : Except GoError HttpResponse
  /-- `os.MkdirTemp`: the directory's name. -/
  tmpDir : Except GoError String
  /-- `gzip.NewReader`. -/
  gzipHeader : Option GoError
  archive : List TarHeader
  /-- What `tr.Next()` returns after the last header: `none` for `io.EOF`. -/
  archiveEnd : Option GoError
  /-- The reads the decoders made through the tee before the digest was taken. -/
  reads : Nat
  /-- `os.OpenFile` of each path. -/
  openFile : String → Option GoError
  /-- `os.Stat(mc.Dir)` succeeded. -/
  dirExists : Bool
  /-- `os.Rename(mc.Dir, backupDir)`. -/
  renameBackup : Option GoError
  /-- `os.Rename(tmpDir, mc.Dir)`. -/
  renameNew : Option GoError
  /-- `os.Rename(backupDir, mc.Dir)`, the rollback. -/
  renameBack : Option GoError

/-- The `for` loop over `tr.Next()`: the file operations of the entries up to the first
error, and that error as `OnUpdateFailure` receives it.  An entry whose cleaned path is
not below the cleaned `tmpDir` is skipped, and so is every type but `TypeDir` and
`TypeReg`.  `MkdirAll`'s error is ignored. -/
def extractEntries (openFile : String → Option GoError) (archiveEnd : Option GoError)
    (tmpDir : String) : List TarHeader → List FsOp × Option GoError
  | [] => ([], archiveEnd.map (.tagged .errUpdateVerify))
  | hdr :: rest =>
    let target := Filepath.join [tmpDir, hdr.name]
    let later := extractEntries openFile archiveEnd tmpDir rest
    if !Filepath.hasPrefix (Filepath.clean target) (Filepath.clean tmpDir ++ "/") then later
    else if hdr.typeflag = typeDir then (.mkdirAll target :: later.1, later.2)
    else if hdr.typeflag = typeReg then
      let parent := FsOp.mkdirAll (Filepath.dir target)
      match openFile target, hdr.copyError with
      | some err, _ => ([parent], some (.tagged .errUpdateApply err))
      | none, some err =>
        ([parent, .writeFile target hdr.data false], some (.tagged .errUpdateApply err))
      | none, none => (parent :: .writeFile target hdr.data false :: later.1, later.2)
    else later

section

variable (P : Primitives) (cfg : Config) (env : FrontendEnv)

/-- The `mc.PostUpdate()` call, made when the hook is set; its error is ignored. -/
def postUpdateCall (mc : ManagedComponent) : List UpdateEffect :=
  if mc.postUpdate then [.postUpdate mc.slug] else []

/-- `os.Rename(tmpDir, mc.Dir)`, then the rollback on failure or the version write. -/
def installDirectory (versions : Versions) (mc : ManagedComponent) (u : UpdateInfo)
    (tmpDir : String) : List UpdateEffect :=
  match env.renameNew with
  | some err =>
    (match env.renameBack with
      | none => [.fs (.rename (mc.dir ++ ".bak") mc.dir)]
      | some _ => []) ++
      cfg.ota.failure mc.slug (.tagged .errUpdateApply err)
  | none =>
    .fs (.rename tmpDir mc.dir) :: .setVersion (.managed mc.slug) u.latest ::
      (cfg.ota.result mc.slug (versions.managedVersions mc.slug) u.latest true none ++
        cfg.ota.progress mc.slug "completed" 10 ++ postUpdateCall mc)

/-- `mc.Dir` moves to `mc.Dir + ".bak"` when it exists, then the new directory moves in. -/
def swapDirectory (versions : Versions) (mc : ManagedComponent) (u : UpdateInfo)
    (tmpDir : String) : List UpdateEffect :=
  .fs (.removeAll (mc.dir ++ ".bak")) ::
    if env.dirExists then
      match env.renameBackup with
      | some err => cfg.ota.failure mc.slug (.tagged .errUpdateApply err)
      | none =>
        .fs (.rename mc.dir (mc.dir ++ ".bak")) :: installDirectory cfg env versions mc u tmpDir
    else installDirectory cfg env versions mc u tmpDir

/-- Extraction, the digest check and the swap. -/
def extractAndSwap (versions : Versions) (mc : ManagedComponent) (u : UpdateInfo)
    (resp : FrontendMeta) (tmpDir : String) (limited : Body) : List UpdateEffect :=
  match env.gzipHeader with
  | some err => cfg.ota.failure mc.slug (.tagged .errUpdateVerify err)
  | none =>
    let extracted := extractEntries env.openFile env.archiveEnd tmpDir env.archive
    extracted.1.map .fs ++
    match extracted.2 with
    | some err => cfg.ota.failure mc.slug err
    | none =>
      cfg.ota.progress mc.slug "verifying" 8 ++
      if encodeToString (P.sum256 (teeHashed env.reads limited)) ≠ resp.sha256 then
        cfg.ota.failure mc.slug (.wrapped "%w: hash mismatch" (.sentinel .errUpdateVerify))
      else cfg.ota.progress mc.slug "applying" 9 ++ swapDirectory cfg env versions mc u tmpDir

/-- `updateFrontend(mc, u)`. -/
def updateFrontend (versions : Versions) (mc : ManagedComponent) (u : UpdateInfo) :
    List UpdateEffect :=
  cfg.ota.progress mc.slug "requesting" 0 ++
  .requestDownload mc.slug u.latest "universal" "universal" ::
  match env.downloadMeta with
  | .error err => cfg.ota.failure mc.slug (.tagged .errUpdateDownload err)
  | .ok resp =>
    if resp.error ≠ "" then
      cfg.ota.failure mc.slug (.wrapped "%w: %s" (.sentinel .errUpdateDownload))
    else
      cfg.ota.progress mc.slug "downloading" 3 ++ .fetch (cfg.serverURL ++ resp.downloadURL) ::
      match env.response with
      | .error err => cfg.ota.failure mc.slug (.tagged .errUpdateDownload err)
      | .ok httpResp =>
        if httpResp.statusCode ≠ 200 then
          cfg.ota.failure mc.slug (.wrapped "%w: status %d" (.sentinel .errUpdateDownload))
        else match env.tmpDir with
          | .error err => cfg.ota.failure mc.slug (.tagged .errUpdateApply err)
          | .ok tmpDir =>
            .fs (.mkdirTemp tmpDir) :: cfg.ota.progress mc.slug "extracting" 5 ++
              extractAndSwap P cfg env versions mc u resp tmpDir
                (httpResp.body.limit cfg.ota.maxArtifactBytes) ++
              [.fs (.removeAll tmpDir)]

end

theorem extractEntries_paths (openFile : String → Option GoError) (archiveEnd : Option GoError)
    (tmpDir : String) (archive : List TarHeader) :
    ∀ op ∈ (extractEntries openFile archiveEnd tmpDir archive).1, ∃ p,
      (op = .mkdirAll p ∨ ∃ data, op = .writeFile p data false) ∧
      (p = Filepath.clean tmpDir ∨ Filepath.StrictlyBelow (Filepath.clean tmpDir) p) := by
  induction archive with
  | nil => simp [extractEntries]
  | cons hdr rest inductionHypothesis =>
    intro op mem
    simp only [extractEntries] at mem
    split at mem
    · exact inductionHypothesis op mem
    rename_i passed
    have checked : Filepath.hasPrefix (Filepath.clean (Filepath.join [tmpDir, hdr.name]))
        (Filepath.clean tmpDir ++ "/") := by simpa using passed
    have below :
        Filepath.StrictlyBelow (Filepath.clean tmpDir) (Filepath.join [tmpDir, hdr.name]) :=
      Filepath.clean_join_of_hasPrefix checked ▸ Filepath.strictlyBelow_of_hasPrefix checked
    have parent := Filepath.dir_of_strictlyBelow (Filepath.clean_clean tmpDir) below
    split at mem
    · rcases List.mem_cons.mp mem with rfl | later
      · exact ⟨_, .inl rfl, .inr below⟩
      · exact inductionHypothesis op later
    split at mem
    · split at mem <;>
        simp only [List.mem_cons, List.mem_singleton, List.not_mem_nil, or_false] at mem
      · subst mem; exact ⟨_, .inl rfl, parent⟩
      · rcases mem with rfl | rfl
        · exact ⟨_, .inl rfl, parent⟩
        · exact ⟨_, .inr ⟨_, rfl⟩, .inr below⟩
      · rcases mem with rfl | rfl | later
        · exact ⟨_, .inl rfl, parent⟩
        · exact ⟨_, .inr ⟨_, rfl⟩, .inr below⟩
        · exact inductionHypothesis op later
    · exact inductionHypothesis op mem

@[simp] theorem filter_isInstall_extractEntries {openFile : String → Option GoError}
    {archiveEnd : Option GoError} {tmpDir : String} {archive : List TarHeader} :
    ((extractEntries openFile archiveEnd tmpDir archive).1.map .fs).filter
      UpdateEffect.isInstall = [] := by
  refine List.filter_eq_nil_iff.mpr fun e mem => ?_
  obtain ⟨op, opMem, rfl⟩ := List.mem_map.mp mem
  obtain ⟨p, rfl | ⟨data, rfl⟩, -⟩ :=
    extractEntries_paths openFile archiveEnd tmpDir archive op opMem <;> simp

theorem extractEntries_error_is_rollback {openFile : String → Option GoError}
    {archiveEnd : Option GoError} {tmpDir : String} {archive : List TarHeader} {err : GoError}
    (failed : (extractEntries openFile archiveEnd tmpDir archive).2 = some err) :
    err.is .errUpdateRollback = false := by
  induction archive with
  | nil =>
    obtain ⟨cause, -, rfl⟩ := Option.map_eq_some'.mp failed
    rfl
  | cons hdr rest inductionHypothesis =>
    simp only [extractEntries] at failed
    repeat' split at failed
    all_goals first | exact inductionHypothesis failed | (cases failed; rfl)

@[simp] theorem mem_postUpdateCall {mc : ManagedComponent} {e : UpdateEffect} :
    e ∈ postUpdateCall mc ↔ mc.postUpdate ∧ e = .postUpdate mc.slug := by
  unfold postUpdateCall; split <;> simp_all

@[simp] theorem reports_postUpdateCall (mc : ManagedComponent) :
    UpdateEffect.reports (postUpdateCall mc) = [] := by
  unfold postUpdateCall; split <;> rfl

@[simp] theorem fsOps_postUpdateCall (mc : ManagedComponent) :
    UpdateEffect.fsOps (postUpdateCall mc) = [] := by
  unfold postUpdateCall; split <;> rfl

@[simp] theorem requests_postUpdateCall (mc : ManagedComponent) :
    UpdateEffect.requests (postUpdateCall mc) = [] := by
  unfold postUpdateCall; split <;> rfl

@[simp] theorem fractions_postUpdateCall (mc : ManagedComponent) :
    UpdateEffect.fractions (postUpdateCall mc) = [] := by
  unfold postUpdateCall; split <;> rfl

section

variable {P : Primitives} {cfg : Config} {env : FrontendEnv} {versions : Versions}
  {mc : ManagedComponent} {u : UpdateInfo} {tmpDir : String}

theorem setVersion_mem_installDirectory {r : VersionRecord} {v : String}
    (written : .setVersion r v ∈ installDirectory cfg env versions mc u tmpDir) :
    r = .managed mc.slug ∧ v = u.latest ∧ env.renameNew = none ∧ ∃ post,
      installDirectory cfg env versions mc u tmpDir =
        .fs (.rename tmpDir mc.dir) :: .setVersion (.managed mc.slug) u.latest :: post := by
  unfold installDirectory at written ⊢
  split at written
  · split at written <;> simp at written
  · rename_i installed
    obtain ⟨rfl, rfl⟩ : r = .managed mc.slug ∧ v = u.latest := by simpa using written
    exact ⟨rfl, rfl, installed, _, rfl⟩

theorem setVersion_mem_swapDirectory {r : VersionRecord} {v : String}
    (written : .setVersion r v ∈ swapDirectory cfg env versions mc u tmpDir) :
    .setVersion r v ∈ installDirectory cfg env versions mc u tmpDir ∧ ∃ pre,
      swapDirectory cfg env versions mc u tmpDir =
        pre ++ installDirectory cfg env versions mc u tmpDir := by
  unfold swapDirectory at written ⊢
  split at written
  · split at written
    · simp at written
    · exact ⟨by simpa using written, [.fs (.removeAll (mc.dir ++ ".bak")),
        .fs (.rename mc.dir (mc.dir ++ ".bak"))], by simp [*]⟩
  · exact ⟨by simpa using written, [.fs (.removeAll (mc.dir ++ ".bak"))], by simp [*]⟩

theorem failure_mem_installDirectory {component : String} {err : GoError}
    (failed : .failure component err ∈ installDirectory cfg env versions mc u tmpDir) :
    ∃ cause, err = .tagged .errUpdateApply cause := by
  unfold installDirectory at failed
  repeat' split at failed
  all_goals simp at failed
  all_goals exact ⟨_, failed.2.2⟩

theorem failure_mem_swapDirectory {component : String} {err : GoError}
    (failed : .failure component err ∈ swapDirectory cfg env versions mc u tmpDir) :
    ∃ cause, err = .tagged .errUpdateApply cause := by
  unfold swapDirectory at failed
  repeat' split at failed
  all_goals simp only [List.mem_cons, reduceCtorEq, false_or] at failed
  · simp at failed
    exact ⟨_, failed.2.2⟩
  all_goals exact failure_mem_installDirectory failed

theorem extractAndSwap_of_isInstall {resp : FrontendMeta} {limited : Body} {e : UpdateEffect}
    (mem : e ∈ extractAndSwap P cfg env versions mc u resp tmpDir limited)
    (install : e.isInstall) :
    encodeToString (P.sum256 (teeHashed env.reads limited)) = resp.sha256 ∧
      e ∈ swapDirectory cfg env versions mc u tmpDir ∧ ∃ pre,
        extractAndSwap P cfg env versions mc u resp tmpDir limited =
          pre ++ swapDirectory cfg env versions mc u tmpDir := by
  unfold extractAndSwap at mem ⊢
  split at mem
  · exact absurd mem (UpdateEffect.not_mem_of_filter_isInstall install (by simp))
  dsimp only at mem ⊢
  split at mem
  · exact absurd mem (UpdateEffect.not_mem_of_filter_isInstall install (by simp))
  rename_i extracted
  split at mem
  · exact absurd mem (UpdateEffect.not_mem_of_filter_isInstall install (by simp))
  · rename_i matched
    rw [← List.append_assoc, ← List.append_assoc] at mem
    exact ⟨not_not.mp matched,
      UpdateEffect.mem_of_mem_append_of_filter_isInstall mem install (by simp),
      (extractEntries env.openFile env.archiveEnd tmpDir env.archive).1.map .fs ++
        cfg.ota.progress mc.slug "verifying" 8 ++ cfg.ota.progress mc.slug "applying" 9,
      by simp [extracted, matched]⟩

theorem updateFrontend_of_isInstall {e : UpdateEffect}
    (mem : e ∈ updateFrontend P cfg env versions mc u) (install : e.isInstall) :
    ∃ resp httpResp tmpDir, env.downloadMeta = .ok resp ∧ env.response = .ok httpResp ∧
      env.tmpDir = .ok tmpDir ∧
      encodeToString (P.sum256 (teeHashed env.reads
        (httpResp.body.limit cfg.ota.maxArtifactBytes))) = resp.sha256 ∧
      e ∈ swapDirectory cfg env versions mc u tmpDir ∧ ∃ pre post,
        updateFrontend P cfg env versions mc u =
          pre ++ swapDirectory cfg env versions mc u tmpDir ++ post := by
  unfold updateFrontend at mem ⊢
  split at mem
  · exact absurd mem (UpdateEffect.not_mem_of_filter_isInstall install (by simp))
  rename_i resp requested
  split at mem
  · exact absurd mem (UpdateEffect.not_mem_of_filter_isInstall install (by simp))
  rename_i accepted
  split at mem
  · exact absurd mem (UpdateEffect.not_mem_of_filter_isInstall install (by simp))
  rename_i httpResp responded
  split at mem
  · exact absurd mem (UpdateEffect.not_mem_of_filter_isInstall install (by simp))
  rename_i found
  split at mem
  · exact absurd mem (UpdateEffect.not_mem_of_filter_isInstall install (by simp))
  rename_i tmpDir created
  have extracting : e ∈ extractAndSwap P cfg env versions mc u resp tmpDir
      (httpResp.body.limit cfg.ota.maxArtifactBytes) :=
    UpdateEffect.mem_of_filter_isInstall_eq mem install (by simp)
  obtain ⟨matched, inSwap, pre, decomposed⟩ := extractAndSwap_of_isInstall extracting install
  refine ⟨resp, httpResp, tmpDir, requested, responded, created, matched, inSwap,
    cfg.ota.progress mc.slug "requesting" 0 ++
      .requestDownload mc.slug u.latest "universal" "universal" ::
      (cfg.ota.progress mc.slug "downloading" 3 ++ .fetch (cfg.serverURL ++ resp.downloadURL) ::
        (.fs (.mkdirTemp tmpDir) :: cfg.ota.progress mc.slug "extracting" 5)) ++ pre,
    [.fs (.removeAll tmpDir)], ?_⟩
  simp [accepted, found, created, decomposed]

theorem updateFrontend_setVersion {r : VersionRecord} {v : String}
    (written : .setVersion r v ∈ updateFrontend P cfg env versions mc u) :
    r = .managed mc.slug ∧ v = u.latest ∧ env.renameNew = none ∧ ∃ tmpDir pre post,
      env.tmpDir = .ok tmpDir ∧ updateFrontend P cfg env versions mc u =
        pre ++ .fs (.rename tmpDir mc.dir) :: .setVersion (.managed mc.slug) u.latest :: post := by
  obtain ⟨_, _, tmpDir, -, -, created, -, inSwap, pre, post, traced⟩ :=
    updateFrontend_of_isInstall written rfl
  obtain ⟨inInstall, pre', swapped⟩ := setVersion_mem_swapDirectory inSwap
  obtain ⟨rfl, rfl, renamed, post', installed⟩ := setVersion_mem_installDirectory inInstall
  exact ⟨rfl, rfl, renamed, tmpDir, pre ++ pre', post' ++ post, created,
    by rw [traced, swapped, installed]; simp⟩

/-- What a frontend update, or a stage of it, reports: `OnUpdateFailure` alone, with no
`OnUpdateResult` and no version write; or the version write, then `OnUpdateResult(true)`. -/
def FrontendReport (cfg : Config) (versions : Versions) (mc : ManagedComponent) (u : UpdateInfo)
    (trace : List UpdateEffect) : Prop :=
  (∃ err, UpdateEffect.reports trace = cfg.ota.failure mc.slug err) ∨
    UpdateEffect.reports trace =
      .setVersion (.managed mc.slug) u.latest ::
        cfg.ota.result mc.slug (versions.managedVersions mc.slug) u.latest true none

namespace FrontendReport

theorem failure (err : GoError) :
    FrontendReport cfg versions mc u (cfg.ota.failure mc.slug err) := .inl ⟨err, by simp⟩

theorem quiet_append {pre trace : List UpdateEffect} (quiet : UpdateEffect.reports pre = [])
    (report : FrontendReport cfg versions mc u trace) :
    FrontendReport cfg versions mc u (pre ++ trace) := by
  simpa only [FrontendReport, UpdateEffect.reports_append, quiet, List.nil_append] using report

theorem append_quiet {trace post : List UpdateEffect} (quiet : UpdateEffect.reports post = [])
    (report : FrontendReport cfg versions mc u trace) :
    FrontendReport cfg versions mc u (trace ++ post) := by
  simpa only [FrontendReport, UpdateEffect.reports_append, quiet, List.append_nil] using report

theorem cons {e : UpdateEffect} {trace : List UpdateEffect} (quiet : e.isReport = false)
    (report : FrontendReport cfg versions mc u trace) :
    FrontendReport cfg versions mc u (e :: trace) := by
  simpa only [FrontendReport, UpdateEffect.reports_cons, quiet, Bool.false_eq_true, if_false]
    using report

end FrontendReport

theorem reports_installDirectory :
    FrontendReport cfg versions mc u (installDirectory cfg env versions mc u tmpDir) := by
  unfold installDirectory
  split
  · exact .quiet_append (by split <;> rfl) (.failure _)
  · exact .inr (by simp)

theorem reports_swapDirectory :
    FrontendReport cfg versions mc u (swapDirectory cfg env versions mc u tmpDir) := by
  unfold swapDirectory
  refine .cons rfl ?_
  split
  · split
    · exact .failure _
    · exact .cons rfl reports_installDirectory
  · exact reports_installDirectory

theorem reports_extractAndSwap {resp : FrontendMeta} {limited : Body} :
    FrontendReport cfg versions mc u
      (extractAndSwap P cfg env versions mc u resp tmpDir limited) := by
  unfold extractAndSwap
  split
  · exact .failure _
  refine .quiet_append (by simp) ?_
  split
  · exact .failure _
  refine .quiet_append (by simp) ?_
  split
  · exact .failure _
  · exact .quiet_append (by simp) reports_swapDirectory

theorem reports_updateFrontend :
    FrontendReport cfg versions mc u (updateFrontend P cfg env versions mc u) := by
  unfold updateFrontend
  refine .quiet_append (by simp) (.cons rfl ?_)
  split
  · exact .failure _
  split
  · exact .failure _
  refine .quiet_append (by simp) (.cons rfl ?_)
  split
  · exact .failure _
  split
  · exact .failure _
  split
  · exact .failure _
  exact .cons rfl (.append_quiet rfl (.quiet_append (by simp) reports_extractAndSwap))

@[simp] theorem requests_installDirectory :
    UpdateEffect.requests (installDirectory cfg env versions mc u tmpDir) = [] := by
  unfold installDirectory
  repeat' split
  all_goals simp

@[simp] theorem requests_swapDirectory :
    UpdateEffect.requests (swapDirectory cfg env versions mc u tmpDir) = [] := by
  unfold swapDirectory
  repeat' split
  all_goals simp

@[simp] theorem requests_extractAndSwap {resp : FrontendMeta} {limited : Body} :
    UpdateEffect.requests (extractAndSwap P cfg env versions mc u resp tmpDir limited) = [] := by
  unfold extractAndSwap
  dsimp only
  repeat' split
  all_goals simp

theorem requests_updateFrontend :
    UpdateEffect.requests (updateFrontend P cfg env versions mc u) = [mc.slug] := by
  unfold updateFrontend
  repeat' split
  all_goals simp

theorem fractions_installDirectory :
    List.Sublist (UpdateEffect.fractions (installDirectory cfg env versions mc u tmpDir)) [10] := by
  unfold installDirectory
  repeat' split
  all_goals by_cases reported : cfg.ota.onUpdateProgress <;> simp [reported]

theorem fractions_swapDirectory :
    List.Sublist (UpdateEffect.fractions (swapDirectory cfg env versions mc u tmpDir)) [10] := by
  unfold swapDirectory
  repeat' split
  · simp
  all_goals simpa using fractions_installDirectory

theorem fractions_extractAndSwap {resp : FrontendMeta} {limited : Body} :
    List.Sublist (UpdateEffect.fractions
      (extractAndSwap P cfg env versions mc u resp tmpDir limited)) [8, 9, 10] := by
  unfold extractAndSwap
  dsimp only
  repeat' split
  all_goals by_cases reported : cfg.ota.onUpdateProgress
  all_goals first
    | simp [reported]; done
    | simpa [reported] using fractions_swapDirectory.append_left [8, 9]
    | simpa [reported] using fractions_swapDirectory.trans (List.sublist_append_right [8, 9] [10])

theorem fractions_updateFrontend :
    List.Sublist (UpdateEffect.fractions (updateFrontend P cfg env versions mc u))
      [0, 3, 5, 8, 9, 10] := by
  unfold updateFrontend
  repeat' split
  all_goals by_cases reported : cfg.ota.onUpdateProgress
  all_goals first
    | simp [reported]; done
    | simpa [reported] using fractions_extractAndSwap.append_left [0, 3, 5]
    | simpa [reported] using
        fractions_extractAndSwap.trans (List.sublist_append_right [0, 3, 5] [8, 9, 10])

/-- No frontend update calls `OnUpdateResult(false)`: a failed stage calls `OnUpdateFailure`
alone.  A binary update reports a failure with both callbacks and a success after the
version write, and both paths report progress in order. -/
theorem updateFrontend_failure_without_result (P : Primitives) (publicKey : List UInt8)
    (cfg : Config) (env : FrontendEnv) (binary : BinaryEnv) (versions : Versions)
    (mc : ManagedComponent) (u : UpdateInfo) (err : GoError) :
    (∀ oldVersion newVersion cause,
      .result mc.slug oldVersion newVersion false cause ∉
        updateFrontend P cfg env versions mc u) ∧
    UpdateEffect.reports
        (updateFrontend P cfg { env with downloadMeta := .error err } versions mc u) =
      cfg.ota.failure mc.slug (.tagged .errUpdateDownload err) ∧
    List.Sublist (UpdateEffect.fractions (updateFrontend P cfg env versions mc u))
      [0, 3, 5, 8, 9, 10] ∧
    ∀ componentSlug targetPath oldVersion record,
      ((∃ stage err, UpdateEffect.reports (updateBinaryComponent P publicKey cfg binary
          componentSlug u targetPath oldVersion record) =
        cfg.ota.reportFailure componentSlug oldVersion u.latest stage err) ∨
      UpdateEffect.reports (updateBinaryComponent P publicKey cfg binary
          componentSlug u targetPath oldVersion record) =
        .setVersion record u.latest :: cfg.ota.result componentSlug oldVersion u.latest true none) ∧
      List.Sublist (UpdateEffect.fractions (updateBinaryComponent P publicKey cfg binary
        componentSlug u targetPath oldVersion record)) [0, 3, 6, 8, 10] := by
  refine ⟨fun oldVersion newVersion cause called => ?_, by simp [updateFrontend],
    fractions_updateFrontend,
    fun _ _ _ _ => ⟨reports_updateBinaryComponent, fractions_updateBinaryComponent⟩⟩
  have reported := UpdateEffect.mem_reports.mpr ⟨called, rfl⟩
  rcases @reports_updateFrontend P cfg env versions mc u with ⟨_, traced⟩ | traced <;>
    rw [traced] at reported <;> simp at reported

theorem failure_mem_extractAndSwap {resp : FrontendMeta} {limited : Body} {component : String}
    {err : GoError}
    (failed :
      .failure component err ∈ extractAndSwap P cfg env versions mc u resp tmpDir limited) :
    err.is .errUpdateRollback = false := by
  unfold extractAndSwap at failed
  dsimp only at failed
  repeat' split at failed
  all_goals simp at failed
  rotate_left 3
  · obtain ⟨_, rfl⟩ := failure_mem_swapDirectory failed
    rfl
  all_goals obtain ⟨-, -, rfl⟩ := failed
  all_goals first | rfl | exact extractEntries_error_is_rollback ‹_›

theorem failure_mem_updateFrontend {component : String} {err : GoError}
    (failed : .failure component err ∈ updateFrontend P cfg env versions mc u) :
    err.is .errUpdateRollback = false := by
  unfold updateFrontend at failed
  repeat' split at failed
  all_goals simp at failed
  all_goals first | exact failure_mem_extractAndSwap failed | obtain ⟨-, -, rfl⟩ := failed; rfl

theorem mem_fsOps_swapDirectory {op : FsOp}
    (mem : op ∈ UpdateEffect.fsOps (swapDirectory cfg env versions mc u tmpDir)) :
    op = .removeAll (mc.dir ++ ".bak") ∨ op = .rename mc.dir (mc.dir ++ ".bak") ∨
      op = .rename tmpDir mc.dir ∨ op = .rename (mc.dir ++ ".bak") mc.dir := by
  unfold swapDirectory installDirectory at mem
  repeat' split at mem
  all_goals simp only [UpdateEffect.fsOps_cons, UpdateEffect.fsOps_append, UpdateEffect.fsOp?,
    Option.toList, OTAConfig.fsOps_failure, OTAConfig.fsOps_result, OTAConfig.fsOps_progress,
    fsOps_postUpdateCall, UpdateEffect.fsOps_nil, List.mem_append, List.mem_cons,
    List.mem_singleton, List.not_mem_nil, List.nil_append, or_false] at mem
  all_goals rcases mem with rfl | rfl | rfl <;> simp

theorem mem_fsOps_extractAndSwap {resp : FrontendMeta} {limited : Body} {op : FsOp}
    (mem : op ∈ UpdateEffect.fsOps (extractAndSwap P cfg env versions mc u resp tmpDir limited)) :
    op ∈ (extractEntries env.openFile env.archiveEnd tmpDir env.archive).1 ∨
      op ∈ UpdateEffect.fsOps (swapDirectory cfg env versions mc u tmpDir) := by
  unfold extractAndSwap at mem
  dsimp only at mem
  repeat' split at mem
  all_goals simp at mem
  all_goals first | exact mem | exact .inl mem

theorem mem_fsOps_updateFrontend {op : FsOp}
    (mem : op ∈ UpdateEffect.fsOps (updateFrontend P cfg env versions mc u)) :
    ∃ tmpDir, env.tmpDir = .ok tmpDir ∧
      (op = .mkdirTemp tmpDir ∨ op = .removeAll tmpDir ∨
        op ∈ (extractEntries env.openFile env.archiveEnd tmpDir env.archive).1 ∨
        op = .removeAll (mc.dir ++ ".bak") ∨ op = .rename mc.dir (mc.dir ++ ".bak") ∨
        op = .rename tmpDir mc.dir ∨ op = .rename (mc.dir ++ ".bak") mc.dir) := by
  unfold updateFrontend at mem
  repeat' split at mem
  all_goals simp only [UpdateEffect.fsOps_cons, UpdateEffect.fsOps_append, UpdateEffect.fsOp?,
    Option.toList, OTAConfig.fsOps_failure, OTAConfig.fsOps_progress, UpdateEffect.fsOps_nil,
    List.mem_append, List.mem_cons, List.mem_singleton, List.not_mem_nil, List.nil_append,
    or_false, false_or, or_assoc] at mem
  rename_i tmpDir created
  refine ⟨tmpDir, created, ?_⟩
  rcases mem with rfl | inside | rfl
  · exact .inl rfl
  · rcases mem_fsOps_extractAndSwap inside with extracted | swapped
    · exact .inr (.inr (.inl extracted))
    · exact .inr (.inr (.inr (mem_fsOps_swapDirectory swapped)))
  · exact .inr (.inl rfl)

/-- Every directory and file `updateFrontend` creates is the cleaned temporary directory or
lies strictly below it. -/
theorem updateFrontend_writes_below_tmpDir :
    ∀ op ∈ UpdateEffect.fsOps (updateFrontend P cfg env versions mc u), ∀ p,
      (op = .mkdirAll p ∨ ∃ data truncate, op = .writeFile p data truncate) →
      ∃ tmpDir, env.tmpDir = .ok tmpDir ∧
        (p = Filepath.clean tmpDir ∨ Filepath.StrictlyBelow (Filepath.clean tmpDir) p) := by
  intro op mem p creates
  obtain ⟨tmpDir, created, found⟩ := mem_fsOps_updateFrontend mem
  refine ⟨tmpDir, created, ?_⟩
  rcases found with rfl | rfl | extracted | rfl | rfl | rfl | rfl
  pick_goal 3
  · obtain ⟨x, made, placed⟩ := extractEntries_paths _ _ _ _ op extracted
    rcases creates with rfl | ⟨data, truncate, rfl⟩ <;>
      rcases made with made | ⟨_, made⟩ <;> cases made <;> exact placed
  all_goals rcases creates with creates | ⟨_, _, creates⟩ <;> cases creates

/-- A `tar.gz` bundle of `assets/app.js` (byte 1) and `../../etc/passwd` (byte 2). -/
def traversalBundle : List UInt8 :=
  [31, 139, 8, 0, 0, 0, 0, 0, 2, 3, 237, 211, 61, 10, 128, 48, 12, 5, 224, 232, 73, 60, 65, 127,
    176, 246, 62, 65, 187, 116, 42, 190, 138, 215, 55, 56, 137, 187, 69, 104, 62, 2, 47, 100, 201,
    244, 24, 72, 21, 150, 75, 49, 25, 244, 13, 39, 98, 8, 119, 138, 119, 10, 255, 216, 229, 238,
    221, 188, 4, 154, 28, 53, 112, 160, 242, 46, 239, 169, 79, 3, 169, 158, 25, 99, 101, 82, 93,
    109, 97, 224, 220, 254, 210, 255, 232, 181, 255, 45, 140, 90, 1, 165, 148, 234, 210, 5, 145, 77,
    11, 132, 0, 12, 0, 0]

/-- Of the bundle above, the first entry is written below the temporary directory, the second
skipped. -/
theorem updateFrontend_writes_entry_below_tmpDir :
    .writeFile "/tmp/web/assets/app.js" [1] false ∈ UpdateEffect.fsOps
        (updateFrontend Primitives.sample
          ⟨"", "demo", "app", ⟨hour⟩,
            ⟨true, true, "linux", "amd64", 1024, false, false, false⟩, []⟩
          ⟨.ok ⟨"/web.tar.gz", encodeToString (Primitives.sample.sum256 traversalBundle), ""⟩,
            .ok ⟨200, ⟨[traversalBundle], none⟩⟩, .ok "/tmp/web", none,
            [⟨"assets/app.js", typeReg, [1], none⟩,
              ⟨"../../etc/passwd", typeReg, [2], none⟩],
            none, 1, fun _ => none, false, none, none, none⟩
          ⟨"1.0.0", fun _ => "1.0.0"⟩
          ⟨"web", "/srv/web", UpdateStrategy.updateFrontend, false⟩
          ⟨"web", "2.0.0", true⟩) ∧
      ∃ tmpDir, Except.ok "/tmp/web" = (.ok tmpDir : Except GoError String) ∧
        ("/tmp/web/assets/app.js" = Filepath.clean tmpDir ∨
          Filepath.StrictlyBelow (Filepath.clean tmpDir) "/tmp/web/assets/app.js") :=
  have written := by decide
  ⟨written, updateFrontend_writes_below_tmpDir _ written _ (.inr ⟨_, _, rfl⟩)⟩

end

/-- A `tar.gz` bundle, as `gzip` writes it, of an archive with no entry. -/
def emptyBundle : List UInt8 :=
  [31, 139, 8, 0, 0, 0, 0, 0, 2, 3, 99, 96, 24, 5, 163, 96, 20, 140, 84, 0, 0, 46, 175, 181, 239, 0,
    4, 0, 0]

end BanyanGuard
