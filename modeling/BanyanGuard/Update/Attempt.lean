import BanyanGuard.Update.Frontend
import BanyanGuard.Heartbeat

/-!
# Update attempts

For every attempt and every outcome of its calls: the download it requests, the version
record it may write, the paths it may change, how it reports and when it installs.
-/

namespace BanyanGuard

/-- The outcomes of the external calls an attempt can make. -/
structure UpdateEnv where
  /-- `os.Executable`. -/
  executable : Except GoError String
  binary : BinaryEnv
  frontend : FrontendEnv

/-- The goroutine of an attempt, run to its end from the version records it finds. -/
def runAttempt (P : Primitives) (publicKey : List UInt8) (cfg : Config) (versions : Versions)
    (env : UpdateEnv) : UpdateAttempt → List UpdateEffect
  | .updateBackend u => updateBackend P publicKey cfg env.binary versions env.executable u
  | .updateManagedBackend mc u => updateManagedBackend P publicKey cfg env.binary versions mc u
  | .updateFrontend mc u => updateFrontend P cfg env.frontend versions mc u

/-- The version record an attempt is about. -/
def UpdateAttempt.record : UpdateAttempt → VersionRecord
  | .updateBackend _ => .primary
  | .updateManagedBackend mc _ | .updateFrontend mc _ => .managed mc.slug

/-- The paths a binary update of `target` may change. -/
def binaryOwns (env : BinaryEnv) (target p : String) : Bool :=
  within target p || within (target ++ ".bak") p || within (stagingPath target) p ||
    match env.tempFile with
    | .ok tmpPath => p == tmpPath
    | .error _ => false

/-- The paths a frontend update of `dir` changes in its own right. -/
def frontendHolds (env : FrontendEnv) (dir p : String) : Bool :=
  within dir p || within (dir ++ ".bak") p ||
    match env.tmpDir with
    | .ok tmpDir => within tmpDir p || within (Filepath.clean tmpDir) p
    | .error _ => false

/-- Those, and the ancestors of its temporary directory, which `MkdirAll` may create. -/
def frontendOwns (env : FrontendEnv) (dir p : String) : Bool :=
  frontendHolds env dir p ||
    match env.tmpDir with
    | .ok tmpDir => p != "" && within p (Filepath.clean tmpDir)
    | .error _ => false

/-- The paths an attempt may change. -/
def UpdateAttempt.owns (env : UpdateEnv) : UpdateAttempt → String → Bool
  | .updateBackend _, p =>
    match env.executable with
    | .ok exe => binaryOwns env.binary exe p
    | .error _ => false
  | .updateManagedBackend mc _, p => binaryOwns env.binary (trimSpace mc.dir) p
  | .updateFrontend mc _, p => frontendOwns env.frontend mc.dir p

/-- The paths an attempt changes in its own right: all it owns but a frontend's ancestors. -/
def UpdateAttempt.holds (env : UpdateEnv) (a : UpdateAttempt) (p : String) : Bool :=
  match a with
  | .updateFrontend mc _ => frontendHolds env.frontend mc.dir p
  | _ => a.owns env p

/-- The paths an attempt's own paths are named from: its target and temporary path. -/
def UpdateAttempt.roots (env : UpdateEnv) : UpdateAttempt → List String
  | .updateBackend _ => env.executable.toOption.toList ++ env.binary.tempFile.toOption.toList
  | .updateManagedBackend mc _ => trimSpace mc.dir :: env.binary.tempFile.toOption.toList
  | .updateFrontend mc _ => mc.dir :: env.frontend.tmpDir.toOption.toList

theorem within_of_frontendHolds {env : FrontendEnv} {dir tmpDir p : String}
    (created : env.tmpDir = .ok tmpDir) (held : frontendHolds env dir p) :
    ∃ q ∈ [dir, dir ++ ".bak", tmpDir, Filepath.clean tmpDir], within q p := by
  simp only [frontendHolds, created, Bool.or_eq_true, or_assoc] at held
  rcases held with inside | inside | inside | inside <;> exact ⟨_, by simp, inside⟩

/-- A frontend update owns nothing at or below a path apart from every path it holds from,
and not above its temporary directory. -/
theorem frontendOwns_eq_false_of_apart {env : FrontendEnv} {dir tmpDir q p : String}
    (created : env.tmpDir = .ok tmpDir)
    (apart : ∀ r ∈ [dir, dir ++ ".bak", tmpDir, Filepath.clean tmpDir], Apart q r)
    (notAbove : within q (Filepath.clean tmpDir) = false) (inside : within q p) :
    frontendOwns env dir p = false := by
  have outside : ∀ r ∈ [dir, dir ++ ".bak", tmpDir, Filepath.clean tmpDir], within r p = false :=
    fun r mem => within_eq_false_of_apart (apart r mem) inside
  have below : within p (Filepath.clean tmpDir) = false :=
    Bool.eq_false_iff.mpr fun above => by simp [within_trans inside above] at notAbove
  simp [frontendOwns, frontendHolds, created, below, outside dir (by simp),
    outside (dir ++ ".bak") (by simp), outside tmpDir (by simp),
    outside (Filepath.clean tmpDir) (by simp)]

section

variable {P : Primitives} {publicKey : List UInt8} {cfg : Config} {versions : Versions}

theorem touches_updateBinaryComponent {env : BinaryEnv}
    {componentSlug targetPath oldVersion : String} {u : UpdateInfo} {record : VersionRecord}
    {op : FsOp} {p : String}
    (mem : op ∈ UpdateEffect.fsOps
      (updateBinaryComponent P publicKey cfg env componentSlug u targetPath oldVersion record))
    (touched : op.touches p) : binaryOwns env targetPath p := by
  simp only [binaryOwns, Bool.or_eq_true, or_assoc]
  rcases mem_fsOps_updateBinaryComponent mem with ⟨tmpPath, created, temp⟩ | ⟨_, applied⟩
  · have atTemp : p = tmpPath := by
      rcases temp with ⟨_, rfl⟩ | rfl <;> simpa [FsOp.touches] using touched
    simp [created, atTemp]
  rcases mem_applyBackendBinaryWithSelfupdate applied with
    ⟨_, rfl⟩ | rfl | rfl | rfl | rfl <;>
    simp only [FsOp.touches, beq_iff_eq, Bool.or_eq_true] at touched
  · exact .inr (.inr (.inl (touched ▸ within_self _)))
  · exact .inr (.inl (touched ▸ within_self _))
  · exact touched.imp_right .inl
  · exact touched.elim (.inr ∘ .inr ∘ .inl) .inl
  · exact touched.elim (.inr ∘ .inl) .inl

theorem touches_updateFrontend {env : FrontendEnv} {mc : ManagedComponent} {u : UpdateInfo}
    {op : FsOp} {p : String}
    (mem : op ∈ UpdateEffect.fsOps (updateFrontend P cfg env versions mc u))
    (touched : op.touches p) :
    frontendHolds env mc.dir p ∨ (∃ path, op = .mkdirAll path) ∧ frontendOwns env mc.dir p := by
  obtain ⟨tmpDir, created, found⟩ := mem_fsOps_updateFrontend mem
  simp only [frontendHolds, frontendOwns, created, Bool.or_eq_true, Bool.and_eq_true, bne_iff_ne,
    ne_eq, or_assoc]
  rcases found with rfl | rfl | extracted | rfl | rfl | rfl | rfl
  pick_goal 3
  · obtain ⟨x, rfl | ⟨data, rfl⟩, placed⟩ := extractEntries_paths _ _ _ _ op extracted
    · have below : within (Filepath.clean tmpDir) x := by
        rcases placed with rfl | below
        · exact within_self _
        · exact within_of_strictlyBelow below
      simp only [FsOp.touches, Bool.and_eq_true, bne_iff_ne, ne_eq] at touched
      rcases within_comparable below touched.2 with above | under
      · exact .inr (.inr (.inr (.inl above)))
      · exact .inr (.inr (.inr (.inr
          ⟨⟨x, rfl⟩, .inr (.inr (.inr (.inr ⟨touched.1, under⟩)))⟩)))
    · simp only [FsOp.touches, beq_iff_eq] at touched
      subst touched
      rcases placed with rfl | below
      · simp
      · simp [within_of_strictlyBelow below]
  all_goals simp only [FsOp.touches, beq_iff_eq, Bool.or_eq_true] at touched
  · exact .inr (.inr (.inl (touched ▸ within_self _)))
  · exact .inr (.inr (.inl touched))
  · exact .inr (.inl touched)
  · exact touched.imp_right .inl
  · exact touched.elim (.inr ∘ .inr ∘ .inl) .inl
  · exact touched.elim (.inr ∘ .inl) .inl

theorem failure_mem_runAttempt {env : UpdateEnv} {a : UpdateAttempt} {component : String}
    {err : GoError}
    (failed : .failure component err ∈ runAttempt P publicKey cfg versions env a) :
    err.is .errUpdateRollback = false := by
  cases a with
  | updateBackend u =>
    simp only [runAttempt, updateBackend] at failed
    split at failed
    · obtain ⟨-, -, rfl⟩ | ⟨-, ⟨⟩⟩ := OTAConfig.mem_reportFailure.mp failed
      rfl
    · exact failure_mem_updateBinaryComponent failed
  | updateManagedBackend mc u =>
    simp only [runAttempt, updateManagedBackend] at failed
    split at failed
    · obtain ⟨-, -, rfl⟩ | ⟨-, ⟨⟩⟩ := OTAConfig.mem_reportFailure.mp failed
      rfl
    · exact failure_mem_updateBinaryComponent failed
  | updateFrontend mc u => exact failure_mem_updateFrontend failed

end

theorem runAttempt_frame (P : Primitives) (publicKey : List UInt8) (cfg : Config)
    (versions : Versions) (env : UpdateEnv) (a : UpdateAttempt) :
    UpdateEffect.requests (runAttempt P publicKey cfg versions env a) ⊆ [a.slug cfg] ∧
    (∀ r v, .setVersion r v ∈ runAttempt P publicKey cfg versions env a →
      r = a.record ∧ v = a.info.latest) ∧
    ∀ op ∈ UpdateEffect.fsOps (runAttempt P publicKey cfg versions env a), ∀ p,
      op.touches p → a.owns env p := by
  cases a with
  | updateBackend u =>
    simp only [runAttempt, updateBackend, UpdateAttempt.slug, UpdateAttempt.record,
      UpdateAttempt.info, UpdateAttempt.owns]
    split
    · simp [OTAConfig.reportFailure]
    · rename_i exe found
      refine ⟨by simp [requests_updateBinaryComponent], fun r v written => ?_,
        fun op mem p touched => ?_⟩
      · obtain ⟨rfl, rfl, -⟩ := updateBinaryComponent_setVersion written
        exact ⟨rfl, rfl⟩
      · simpa [found] using touches_updateBinaryComponent mem touched
  | updateManagedBackend mc u =>
    simp only [runAttempt, updateManagedBackend, UpdateAttempt.slug, UpdateAttempt.record,
      UpdateAttempt.info, UpdateAttempt.owns]
    split
    · simp [OTAConfig.reportFailure]
    · refine ⟨by simp [requests_updateBinaryComponent], fun r v written => ?_,
        fun op mem p touched => touches_updateBinaryComponent mem touched⟩
      obtain ⟨rfl, rfl, -⟩ := updateBinaryComponent_setVersion written
      exact ⟨rfl, rfl⟩
  | updateFrontend mc u =>
    refine ⟨by simp [runAttempt, requests_updateFrontend, UpdateAttempt.slug],
      fun r v written => ?_, fun op mem p touched => ?_⟩
    swap
    · rcases touches_updateFrontend mem touched with held | ⟨-, owned⟩
      · simp [UpdateAttempt.owns, frontendOwns, held]
      · exact owned
    obtain ⟨_, _, _, -, -, -, -, inSwap, -⟩ := updateFrontend_of_isInstall written rfl
    obtain ⟨rfl, rfl, -⟩ :=
      setVersion_mem_installDirectory (setVersion_mem_swapDirectory inSwap).1
    exact ⟨rfl, rfl⟩

theorem runAttempt_holds (P : Primitives) (publicKey : List UInt8) (cfg : Config)
    (versions : Versions) (env : UpdateEnv) (a : UpdateAttempt) :
    ∀ op ∈ UpdateEffect.fsOps (runAttempt P publicKey cfg versions env a),
      (∃ path, op = .mkdirAll path) ∨ ∀ p, op.touches p → a.holds env p := by
  intro op mem
  cases a with
  | updateFrontend mc u =>
    by_cases made : ∃ path, op = .mkdirAll path
    · exact .inl made
    · exact .inr fun p touched =>
        (touches_updateFrontend mem touched).resolve_right fun created => made created.1
  | _ =>
    exact .inr fun p touched => by
      simpa only [UpdateAttempt.holds] using
        (runAttempt_frame P publicKey cfg versions env _).2.2 op mem p touched

/-- The digest the server declared for the attempt's artifact. -/
def UpdateAttempt.declaredSHA256 (env : UpdateEnv) : UpdateAttempt → Option String
  | .updateBackend _ | .updateManagedBackend _ _ => env.binary.downloadMeta.toOption.map (·.sha256)
  | .updateFrontend _ _ => env.frontend.downloadMeta.toOption.map (·.sha256)

/-- An attempt installs nothing unless the declared digest is lower-case hex: both paths compare
it with `hex.EncodeToString` of the digest they took. -/
theorem attempt_installs_only_under_lowercase_digest (P : Primitives) (publicKey : List UInt8)
    (cfg : Config) (versions : Versions) (env : UpdateEnv) (a : UpdateAttempt) :
    (runAttempt P publicKey cfg versions env a).filter UpdateEffect.isInstall = [] ∨
      ∃ digest, a.declaredSHA256 env = some digest ∧ isLowerHex digest := by
  rcases found : (runAttempt P publicKey cfg versions env a).filter UpdateEffect.isInstall with
    _ | ⟨e, rest⟩
  · exact .inl rfl
  obtain ⟨mem, install⟩ := List.mem_filter.mp (by rw [found]; exact List.mem_cons_self e rest)
  have binary : ∀ {componentSlug u targetPath oldVersion record},
      e ∈ updateBinaryComponent P publicKey cfg env.binary componentSlug u targetPath oldVersion
        record →
      ∃ digest, env.binary.downloadMeta.toOption.map (·.sha256) = some digest ∧
        isLowerHex digest := fun called => by
    obtain ⟨meta, content, requested, declared⟩ :=
      updateBinaryComponent_declared_digest called install
    exact ⟨meta.sha256, by simp [requested, Except.toOption],
      declared ▸ isLowerHex_encodeToString _⟩
  have reported : ∀ {component oldVersion newVersion s err},
      e ∉ cfg.ota.reportFailure component oldVersion newVersion s err := fun reported =>
    UpdateEffect.not_mem_of_filter_isInstall install (by simp [OTAConfig.reportFailure]) reported
  refine .inr ?_
  cases a with
  | updateBackend u =>
    simp only [runAttempt, updateBackend] at mem
    split at mem
    · exact absurd mem reported
    · exact binary mem
  | updateManagedBackend mc u =>
    simp only [runAttempt, updateManagedBackend] at mem
    split at mem
    · exact absurd mem reported
    · exact binary mem
  | updateFrontend mc u =>
    obtain ⟨resp, _, _, requested, -, -, hashed, -⟩ := updateFrontend_of_isInstall mem install
    exact ⟨resp.sha256, by simp [UpdateAttempt.declaredSHA256, requested, Except.toOption],
      hashed ▸ isLowerHex_encodeToString _⟩

theorem slug_of_mem_started {cfg : Config} {sm : State} {reply : Except GoError HeartbeatResponse}
    {a : UpdateAttempt} (started : a ∈ (sendHeartbeat cfg sm reply).started) :
    a.slug cfg = a.info.component := by
  unfold sendHeartbeat at started
  repeat' split at started
  all_goals simp only [List.not_mem_nil, List.mem_flatMap] at started
  obtain ⟨u, -, routed⟩ := started
  obtain ⟨slug, info⟩ := handleUpdateNotification_attempt routed
  rw [slug, info]

/-- A reply starts one attempt per available update routed to a component, only when it is not
a kill, OTA and auto-update are on and updates are not frozen.  Each requests, writes and
changes only what belongs to its component: for a managed binary, the trimmed `Dir`. -/
theorem sendHeartbeat_attempts_stay_in_component (P : Primitives) (publicKey : List UInt8)
    (cfg : Config) (versions : Versions) (env : UpdateEnv) (sm : State)
    (resp : HeartbeatResponse) :
    (sendHeartbeat cfg sm (.ok resp)).started =
      (if resp.status ≠ "kill" ∧ cfg.ota.enabled ∧ cfg.ota.autoUpdate ∧
          resp.updateFrozen = false then
        (resp.updates.filter (·.updateAvailable)).filterMap (notifiedAttempt cfg)
      else []) ∧
    ∀ a ∈ (sendHeartbeat cfg sm (.ok resp)).started, a.slug cfg = a.info.component ∧
      UpdateEffect.requests (runAttempt P publicKey cfg versions env a) ⊆ [a.slug cfg] ∧
      (∀ r v, .setVersion r v ∈ runAttempt P publicKey cfg versions env a →
        r = a.record ∧ v = a.info.latest) ∧
      ∀ op ∈ UpdateEffect.fsOps (runAttempt P publicKey cfg versions env a), ∀ p,
        op.touches p → a.owns env p :=
  ⟨started_sendHeartbeat cfg sm resp, fun a started =>
    ⟨slug_of_mem_started started, runAttempt_frame P publicKey cfg versions env a⟩⟩

/-- A managed `UpdateBackend` component whose `Dir` is written with a leading blank. -/
def workerConfig : Config :=
  ⟨"", "demo", "app", ⟨hour⟩, ⟨true, true, "linux", "amd64", 1024, false, false, false⟩,
    [⟨"worker", " /opt/worker", UpdateStrategy.updateBackend, false⟩]⟩

/-- A notification for `worker` replaces `/opt/worker`, which is not below the configured `Dir`. -/
theorem managed_backend_replaces_trimmed_dir :
    (sendHeartbeat workerConfig .active
        (.ok ⟨"ok", false, [⟨"worker", "2.0.0", true⟩]⟩)).started =
      [.updateManagedBackend ⟨"worker", " /opt/worker", UpdateStrategy.updateBackend, false⟩
        ⟨"worker", "2.0.0", true⟩] ∧
    .fs (.rename "/opt/worker" "/opt/worker.bak") ∈
      updateManagedBackend Primitives.sample [] workerConfig
        ⟨.ok ⟨"/downloads/worker", "",
            "AAAAAAAAAAAAAAAAAAAAAAAAAAAAAAAAAAAAAAAAAAAAAAAAAAAAAAAAAAAAAAAA", ""⟩,
          none, .ok ⟨200, ⟨[], none⟩⟩, .ok "/tmp/artifact", 0, none,
          ⟨none, none, none, none, none, none⟩⟩
        ⟨"1.0.0", fun _ => "1.0.0"⟩
        ⟨"worker", " /opt/worker", UpdateStrategy.updateBackend, false⟩
        ⟨"worker", "2.0.0", true⟩ ∧
    within " /opt/worker" "/opt/worker" = false := by
  decide

/-- A binary update applies only the temp file it downloaded, after the digest of exactly its
bytes matched and the signature verified, and records the version only after that apply
returned nil; a frontend update moves into `mc.Dir` only after its digest matched, and
records the version only right after that move. -/
theorem updates_install_only_verified (P : Primitives) (publicKey : List UInt8) (cfg : Config)
    (binary : BinaryEnv) (frontend : FrontendEnv) (versions : Versions) :
    (∀ componentSlug u targetPath oldVersion record tmpPath target content,
      .apply tmpPath target content ∈ updateBinaryComponent P publicKey cfg binary
          componentSlug u targetPath oldVersion record →
        target = targetPath ∧ binary.tempFile = .ok tmpPath ∧ ∃ meta resp,
          binary.downloadMeta = .ok meta ∧ binary.response = .ok resp ∧
          content = resp.body.bytes.take cfg.ota.maxArtifactBytes.toNat ∧
          encodeToString (P.sum256 content) = meta.sha256 ∧
          P.trusts publicKey meta.sha256 meta.signature) ∧
    (∀ componentSlug u targetPath oldVersion record r v,
      .setVersion r v ∈ updateBinaryComponent P publicKey cfg binary
          componentSlug u targetPath oldVersion record →
        ∃ pre tmpPath content ops post,
          updateBinaryComponent P publicKey cfg binary
              componentSlug u targetPath oldVersion record =
            pre ++ .apply tmpPath targetPath content :: (ops.map .fs ++ .setVersion r v :: post) ∧
          applyBackendBinaryWithSelfupdate binary content targetPath = (ops, none)) ∧
    (∀ mc u src, .fs (.rename src mc.dir) ∈ updateFrontend P cfg frontend versions mc u →
      ∃ resp httpResp, frontend.downloadMeta = .ok resp ∧ frontend.response = .ok httpResp ∧
        encodeToString (P.sum256 (teeHashed frontend.reads
          (httpResp.body.limit cfg.ota.maxArtifactBytes))) = resp.sha256) ∧
    (∀ mc u r v, .setVersion r v ∈ updateFrontend P cfg frontend versions mc u →
      frontend.renameNew = none ∧ ∃ tmpDir pre post, frontend.tmpDir = .ok tmpDir ∧
        updateFrontend P cfg frontend versions mc u =
          pre ++ .fs (.rename tmpDir mc.dir) :: .setVersion r v :: post) := by
  refine ⟨fun _ _ _ _ _ _ _ _ called => updateBinaryComponent_applies_verified called,
    fun _ _ _ _ _ _ _ written => ?_, fun _ _ _ renamed => ?_, fun _ _ _ _ written => ?_⟩
  · obtain ⟨rfl, rfl, traced⟩ := updateBinaryComponent_setVersion written
    exact traced
  · obtain ⟨resp, httpResp, -, requested, responded, -, matched, -⟩ :=
      updateFrontend_of_isInstall renamed rfl
    exact ⟨resp, httpResp, requested, responded, matched⟩
  · obtain ⟨rfl, rfl, renamed, traced⟩ := updateFrontend_setVersion written
    exact ⟨renamed, traced⟩

/-- No attempt passes `OnUpdateFailure` an error in which `errors.Is` finds `ErrUpdateRollback`;
a frontend swap whose move and rollback both fail reports an apply error while `mc.Dir` is
gone. -/
theorem attempt_failure_hides_rollback (P : Primitives) (publicKey : List UInt8) (cfg : Config)
    (versions : Versions) (env : UpdateEnv) (u : UpdateInfo) (t : Tree) :
    (∀ a component err, .failure component err ∈ runAttempt P publicKey cfg versions env a →
      err.is .errUpdateRollback = false) ∧
    UpdateEffect.reports (updateFrontend P { cfg with ota.maxArtifactBytes := 524288000 }
        { downloadMeta := .ok ⟨"/web.tar.gz", encodeToString (P.sum256 emptyBundle), ""⟩,
          response := .ok ⟨200, ⟨[emptyBundle], none⟩⟩, tmpDir := .ok "/tmp/web",
          gzipHeader := none, archive := [], archiveEnd := none, reads := 1,
          openFile := fun _ => none,
          dirExists := true, renameBackup := none,
          renameNew := some (.plain "rename: permission denied"),
          renameBack := some (.plain "rename: permission denied") }
        versions ⟨"web", "/srv/web", UpdateStrategy.updateFrontend, false⟩ u) =
      cfg.ota.failure "web" (.tagged .errUpdateApply (.plain "rename: permission denied")) ∧
    runOps (UpdateEffect.fsOps (updateFrontend P { cfg with ota.maxArtifactBytes := 524288000 }
        { downloadMeta := .ok ⟨"/web.tar.gz", encodeToString (P.sum256 emptyBundle), ""⟩,
          response := .ok ⟨200, ⟨[emptyBundle], none⟩⟩, tmpDir := .ok "/tmp/web",
          gzipHeader := none, archive := [], archiveEnd := none, reads := 1,
          openFile := fun _ => none,
          dirExists := true, renameBackup := none,
          renameNew := some (.plain "rename: permission denied"),
          renameBack := some (.plain "rename: permission denied") }
        versions ⟨"web", "/srv/web", UpdateStrategy.updateFrontend, false⟩ u)) t "/srv/web" =
      none := by
  have hashed : teeHashed 1 (Body.limit ⟨[emptyBundle], none⟩ 524288000) = emptyBundle := rfl
  refine ⟨fun _ _ _ => failure_mem_runAttempt, ?_, ?_⟩
  · have sameFailure : ({ cfg.ota with maxArtifactBytes := 524288000 } : OTAConfig).failure =
        cfg.ota.failure := rfl
    simp [updateFrontend, extractAndSwap, extractEntries, swapDirectory, installDirectory,
      hashed, sameFailure]
  · have apart : within "/srv/web.bak" "/srv/web" = false := by decide
    simp [updateFrontend, extractAndSwap, extractEntries, swapDirectory, installDirectory,
      hashed, FsOp.run, apart]

end BanyanGuard
