import BanyanGuard.Update.Attempt

/-!
# Manual plugin updates, and the same version notified twice

`UpdatePlugin` runs the attempt a notification would start unless the record already holds
the latest version; `handleUpdateNotification` makes no such check.
-/

namespace BanyanGuard

section

variable {P : Primitives} {publicKey : List UInt8} {cfg : Config} {env : BinaryEnv}
  {componentSlug targetPath : String} {u : UpdateInfo} {record : VersionRecord}

theorem updateBinaryComponent_oldVersion (oldVersion oldVersion' : String) :
    UpdateEffect.requests
        (updateBinaryComponent P publicKey cfg env componentSlug u targetPath oldVersion record) =
      UpdateEffect.requests
        (updateBinaryComponent P publicKey cfg env componentSlug u targetPath oldVersion'
          record) ∧
    UpdateEffect.fsOps
        (updateBinaryComponent P publicKey cfg env componentSlug u targetPath oldVersion record) =
      UpdateEffect.fsOps
        (updateBinaryComponent P publicKey cfg env componentSlug u targetPath oldVersion'
          record) := by
  unfold updateBinaryComponent verifyAndApply
  dsimp only
  repeat' split
  all_goals simp [OTAConfig.reportFailure]

variable {env : FrontendEnv} {mc : ManagedComponent} {tmpDir : String}

theorem fsOps_installDirectory_versions (versions versions' : Versions) :
    UpdateEffect.fsOps (installDirectory cfg env versions mc u tmpDir) =
      UpdateEffect.fsOps (installDirectory cfg env versions' mc u tmpDir) := by
  unfold installDirectory
  split <;> simp

theorem fsOps_swapDirectory_versions (versions versions' : Versions) :
    UpdateEffect.fsOps (swapDirectory cfg env versions mc u tmpDir) =
      UpdateEffect.fsOps (swapDirectory cfg env versions' mc u tmpDir) := by
  unfold swapDirectory
  repeat' split
  all_goals simp [fsOps_installDirectory_versions versions versions']

theorem fsOps_updateFrontend_versions (versions versions' : Versions) :
    UpdateEffect.fsOps (updateFrontend P cfg env versions mc u) =
      UpdateEffect.fsOps (updateFrontend P cfg env versions' mc u) := by
  unfold updateFrontend extractAndSwap
  dsimp only
  repeat' split
  all_goals simp [fsOps_swapDirectory_versions versions versions']

end

theorem runAttempt_versions (P : Primitives) (publicKey : List UInt8) (cfg : Config)
    (env : UpdateEnv) (a : UpdateAttempt) (versions versions' : Versions) :
    UpdateEffect.requests (runAttempt P publicKey cfg versions env a) =
        UpdateEffect.requests (runAttempt P publicKey cfg versions' env a) ∧
      UpdateEffect.fsOps (runAttempt P publicKey cfg versions env a) =
        UpdateEffect.fsOps (runAttempt P publicKey cfg versions' env a) := by
  cases a with
  | updateBackend u =>
    simp only [runAttempt, updateBackend]
    split
    · simp [OTAConfig.reportFailure]
    · exact updateBinaryComponent_oldVersion _ _
  | updateManagedBackend mc u =>
    simp only [runAttempt, updateManagedBackend]
    split
    · simp [OTAConfig.reportFailure]
    · exact updateBinaryComponent_oldVersion _ _
  | updateFrontend mc u =>
    simp only [runAttempt, requests_updateFrontend,
      fsOps_updateFrontend_versions versions versions', and_self]

/-- A notification at the version the record already holds starts an attempt that downloads
and makes the same file operations as at any other version. -/
theorem handleUpdateNotification_ignores_current_version {P : Primitives}
    {publicKey : List UInt8} {cfg : Config} {env : UpdateEnv} {u : UpdateInfo} {exe : String}
    (auto : cfg.ota.autoUpdate = true) (primary : u.component = cfg.componentSlug)
    (found : env.executable = .ok exe) :
    handleUpdateNotification cfg u = [.updateBackend u] ∧ ∀ versions versions',
      UpdateEffect.requests (runAttempt P publicKey cfg versions env (.updateBackend u)) =
        [cfg.componentSlug] ∧
      UpdateEffect.fsOps (runAttempt P publicKey cfg versions env (.updateBackend u)) =
        UpdateEffect.fsOps (runAttempt P publicKey cfg versions' env (.updateBackend u)) := by
  refine ⟨by simp [handleUpdateNotification, primary, auto], fun versions versions' =>
    ⟨?_, (runAttempt_versions P publicKey cfg env _ versions versions').2⟩⟩
  simp [runAttempt, updateBackend, found, requests_updateBinaryComponent]

/-- `app` at 2.0.0, notified of 2.0.0, still requests the download. -/
theorem notification_at_current_version_downloads :
    let cfg : Config :=
      ⟨"", "demo", "app", ⟨hour⟩,
        ⟨true, true, "linux", "amd64", 1024, false, false, false⟩, []⟩
    let env : UpdateEnv :=
      ⟨.ok "/usr/local/bin/app",
        ⟨.error (.plain "connection refused"), none, .error (.plain "unreachable"),
          .error (.plain "unreachable"), 0, none, ⟨none, none, none, none, none, none⟩⟩,
        ⟨.error (.plain "connection refused"), .error (.plain "unreachable"),
          .error (.plain "unreachable"), none, [], none, 0, fun _ => none, false, none, none,
          none⟩⟩
    let u : UpdateInfo := ⟨"app", "2.0.0", true⟩
    (cfg.ota.autoUpdate = true ∧ u.component = cfg.componentSlug ∧
        env.executable = .ok "/usr/local/bin/app") ∧
      handleUpdateNotification cfg u = [.updateBackend u] ∧
      UpdateEffect.requests
          (runAttempt Primitives.sample [] cfg ⟨"2.0.0", fun _ => ""⟩ env (.updateBackend u)) =
        ["app"] :=
  by
  intro cfg env u
  have started := @handleUpdateNotification_ignores_current_version Primitives.sample [] cfg env u
    "/usr/local/bin/app" rfl rfl rfl
  exact ⟨⟨rfl, rfl, rfl⟩, started.1, (started.2 _ ⟨"1.0.0", fun _ => ""⟩).1⟩

end BanyanGuard
