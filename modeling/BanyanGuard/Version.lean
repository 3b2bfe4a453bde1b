import BanyanGuard.Guard
import BanyanGuard.Update.Effects
import BanyanGuard.Trust

/-!
# `New`, the version records and the binary hash

`New` returns a Guard in INIT whose records read "unknown"; heartbeats report snapshots of
the records.  `GetBinaryHash` returns what the first call since the last reset computed.
-/

namespace BanyanGuard

/-- The machine ID `collectFingerprint` computes from `machineid.ProtectedID`. -/
def collectFingerprint (P : Primitives) (protectedID : Except GoError String) :
    Except GoError String :=
  match protectedID with
  | .error err => .error (.wrapped "collect machine id: %w" err)
  | .ok mid => .ok ("sha256:" ++ encodeToString (P.sum256 (bytesOf mid)))

/-- The records `New` sets up: "unknown" for every configured component. -/
def newVersions (cfg : Config) : Versions :=
  ⟨"unknown", fun slug => if cfg.managedComponents.any (·.slug == slug) then "unknown" else ""⟩

/-- The fields of the `Guard` that `New` sets and later code reads. -/
structure Guard where
  cfg : Config
  publicKey : List UInt8
  machineID : String
  lifecycle : Lifecycle
  versions : Versions

/-- `New(cfg)`.  `licenseKey` and `publicKeyPEM` (`nil` is `none`) are the fields of
`Config` that only `New` reads, `decodePEM` is `pem.Decode` (the block's bytes) and
`fingerprint` what `collectFingerprint` returned. -/
def new (decodePEM : List UInt8 → Option (List UInt8)) (fingerprint : Except GoError String)
    (cfg : Config) (licenseKey : String) (publicKeyPEM : Option (List UInt8)) :
    Except GoError Guard :=
  let cfg := cfg.setDefaults
  if cfg.serverURL = "" then .error (.plain "server_url is required")
  else if licenseKey = "" then .error (.plain "license_key is required")
  else match publicKeyPEM with
    | none => .error (.plain "public_key_pem is required")
    | some pemBytes =>
      if cfg.projectSlug = "" then .error (.plain "project_slug is required")
      else if cfg.componentSlug = "" then .error (.plain "component_slug is required")
      else match decodePEM pemBytes with
        | none => .error (.plain "failed to decode public key PEM")
        | some key =>
          if key.length ≠ 32 then
            .error (.plain "invalid ed25519 public key size: got %d, want %d")
          else match fingerprint with
            | .error err => .error (.wrapped "collect fingerprint: %w" err)
            | .ok machineID => .ok ⟨cfg, key, machineID, .new, newVersions cfg⟩

@[simp] theorem Config.setDefaults_serverURL (c : Config) : c.setDefaults.serverURL = c.serverURL :=
  rfl

@[simp] theorem Config.setDefaults_projectSlug (c : Config) :
    c.setDefaults.projectSlug = c.projectSlug := rfl

@[simp] theorem Config.setDefaults_componentSlug (c : Config) :
    c.setDefaults.componentSlug = c.componentSlug := rfl

@[simp] theorem newVersions_setDefaults (c : Config) : newVersions c.setDefaults = newVersions c :=
  rfl

theorem new_eq_ok_iff {decodePEM : List UInt8 → Option (List UInt8)}
    {fingerprint : Except GoError String} {cfg : Config} {licenseKey : String}
    {publicKeyPEM : Option (List UInt8)} {g : Guard} :
    new decodePEM fingerprint cfg licenseKey publicKeyPEM = .ok g ↔
      cfg.serverURL ≠ "" ∧ licenseKey ≠ "" ∧ cfg.projectSlug ≠ "" ∧
        cfg.componentSlug ≠ "" ∧
        ∃ pemBytes key machineID, publicKeyPEM = some pemBytes ∧
          decodePEM pemBytes = some key ∧ key.length = 32 ∧ fingerprint = .ok machineID ∧
          g = ⟨cfg.setDefaults, key, machineID, .new, newVersions cfg⟩ := by
  unfold new
  simp only [Config.setDefaults_serverURL, Config.setDefaults_projectSlug,
    Config.setDefaults_componentSlug, newVersions_setDefaults]
  by_cases server : cfg.serverURL = ""
  · simp [server]
  by_cases license : licenseKey = ""
  · simp [server, license]
  rcases publicKeyPEM with _ | pemBytes
  · simp [server, license]
  by_cases project : cfg.projectSlug = ""
  · simp [server, license, project]
  by_cases component : cfg.componentSlug = ""
  · simp [server, license, project, component]
  simp only [server, license, project, component, if_false, ne_eq, not_false_eq_true,
    Option.some.injEq, exists_eq_left', true_and]
  rcases decoded : decodePEM pemBytes with _ | key
  · simp [decoded]
  by_cases size : key.length = 32
  · rcases fingerprint with err | machineID <;> simp [decoded, size, eq_comm]
  · simp [decoded, size]

/-- `SetVersion`. -/
def setVersion (vs : Versions) (v : String) : Versions := vs.set .primary v

/-- `SetManagedVersion`. -/
def setManagedVersion (vs : Versions) (slug version : String) : Versions :=
  vs.set (.managed slug) version

/-- `currentVersion`. -/
def currentVersion (vs : Versions) : String := vs.get .primary

/-- `currentManagedVersion`. -/
def currentManagedVersion (vs : Versions) (slug : String) : String := vs.get (.managed slug)

/-- The `components` of the heartbeat request, from the snapshot `vs`. -/
def heartbeatComponents (cfg : Config) (vs : Versions) : List (String × String) :=
  (cfg.componentSlug, currentVersion vs) ::
    cfg.managedComponents.map fun mc => (mc.slug, currentManagedVersion vs mc.slug)

/-- The last version written to record `r`, if any was. -/
def lastWrite (r : VersionRecord) (writes : List (VersionRecord × String)) : Option String :=
  (writes.reverse.find? (·.1 = r)).map (·.2)

/-- The records after a sequence of writes. -/
def Versions.writeAll (vs : Versions) (writes : List (VersionRecord × String)) : Versions :=
  writes.foldl (fun vs w => vs.set w.1 w.2) vs

theorem Versions.writeAll_append_singleton (vs : Versions) (writes : List (VersionRecord × String))
    (w : VersionRecord × String) :
    vs.writeAll (writes ++ [w]) = (vs.writeAll writes).set w.1 w.2 :=
  List.foldl_append _ _ _ _

theorem Versions.get_writeAll (vs : Versions) (r : VersionRecord) :
    ∀ writes : List (VersionRecord × String),
      (vs.writeAll writes).get r = (lastWrite r writes).getD (vs.get r) := by
  intro writes
  induction writes using List.reverseRecOn with
  | nil => rfl
  | append_singleton writes w inductionHypothesis =>
    rw [writeAll_append_singleton]
    by_cases same : w.1 = r
    · simp [lastWrite, same]
    · simp [lastWrite, same, Versions.get_set_of_ne _ _ (Ne.symm same), inductionHypothesis]

theorem heartbeatComponents_report_last_writes (cfg : Config)
    (writes : List (VersionRecord × String)) :
    heartbeatComponents cfg ((newVersions cfg).writeAll writes) =
      (cfg.componentSlug, (lastWrite .primary writes).getD "unknown") ::
        cfg.managedComponents.map fun mc =>
          (mc.slug, (lastWrite (.managed mc.slug) writes).getD "unknown") := by
  have configured : ∀ mc ∈ cfg.managedComponents,
      (newVersions cfg).get (.managed mc.slug) = "unknown" := fun mc mem => by
    simp only [newVersions, Versions.get, List.any_eq_true, beq_iff_eq]
    rw [if_pos ⟨mc, mem, rfl⟩]
  simp only [heartbeatComponents, currentVersion, currentManagedVersion, Versions.get_writeAll,
    List.cons.injEq, List.map_inj_left, Prod.mk.injEq, true_and]
  exact ⟨rfl, fun mc mem => by rw [configured mc mem]⟩

/-- What `os.Open` and `io.Copy` make of the executable. -/
inductive ExeRead where
  | ok (content : List UInt8)
  /-- `os.Open` failed. -/
  | openFailed (err : GoError)
  /-- `io.Copy` into the hasher failed. -/
  | copyFailed (err : GoError)

/-- The process as a call of `GetBinaryHash` finds it. -/
structure ExeEnv where
  /-- `os.Executable()`. -/
  executable : Except GoError String
  read : String → ExeRead

/-- `binaryHashOnce` (whether its function ran), `binaryHashValue` and `binaryHashError`. -/
structure BinaryHashCache where
  done : Bool
  value : String
  error : Option GoError

/-- The package variables at process start. -/
def BinaryHashCache.zero : BinaryHashCache := ⟨false, "", none⟩

/-- The function `GetBinaryHash` passes to `binaryHashOnce.Do`. -/
def hashExecutable (P : Primitives) (env : ExeEnv) (cache : BinaryHashCache) :
    BinaryHashCache :=
  match env.executable with
  | .error err => { cache with error := some (.wrapped "get executable path: %w" err) }
  | .ok exe =>
    match env.read exe with
    | .openFailed err => { cache with error := some (.wrapped "open executable: %w" err) }
    | .copyFailed err => { cache with error := some (.wrapped "calculate hash: %w" err) }
    | .ok content => { cache with value := encodeToString (P.sum256 content) }

/-- `GetBinaryHash`: what it returns, and the variables after it. -/
def getBinaryHash (P : Primitives) (env : ExeEnv) (cache : BinaryHashCache) :
    (String × Option GoError) × BinaryHashCache :=
  let cache := if cache.done then cache else { hashExecutable P env cache with done := true }
  ((cache.value, cache.error), cache)

/-- `ResetBinaryHashCache`: a fresh `sync.Once`, and both variables zero. -/
def resetBinaryHashCache : BinaryHashCache := ⟨false, "", none⟩

inductive HashCall where
  /-- `GetBinaryHash()` while the process looks like `env`. -/
  | getBinaryHash (env : ExeEnv)
  | resetBinaryHashCache

/-- What the calls of a sequence return, in order. -/
def runHashCalls (P : Primitives) : BinaryHashCache → List HashCall →
    List (String × Option GoError)
  | _, [] => []
  | cache, .getBinaryHash env :: calls =>
    (getBinaryHash P env cache).1 :: runHashCalls P (getBinaryHash P env cache).2 calls
  | _, .resetBinaryHashCache :: calls => runHashCalls P resetBinaryHashCache calls

/-- The hash of the executable, or the error of the step that failed. -/
def binaryHashOf (P : Primitives) (env : ExeEnv) : String × Option GoError :=
  ((hashExecutable P env .zero).value, (hashExecutable P env .zero).error)

/-- The memo: a call returns what the first call since the last reset found. -/
def memoHashes (P : Primitives) :
    Option ExeEnv → List HashCall → List (String × Option GoError)
  | _, [] => []
  | memo, .getBinaryHash env :: calls =>
    binaryHashOf P (memo.getD env) :: memoHashes P (some (memo.getD env)) calls
  | _, .resetBinaryHashCache :: calls => memoHashes P none calls

/-- The variables hold the memo: zero without one, else the memo's hash. -/
def CacheHolds (P : Primitives) (cache : BinaryHashCache) : Option ExeEnv → Prop
  | none => cache = .zero
  | some env => cache.done ∧ (cache.value, cache.error) = binaryHashOf P env

theorem getBinaryHash_holds {P : Primitives} {cache : BinaryHashCache} {memo : Option ExeEnv}
    (holds : CacheHolds P cache memo) (env : ExeEnv) :
    (getBinaryHash P env cache).1 = binaryHashOf P (memo.getD env) ∧
      CacheHolds P (getBinaryHash P env cache).2 (some (memo.getD env)) := by
  cases memo with
  | none =>
    subst holds
    exact ⟨rfl, rfl, rfl⟩
  | some first =>
    obtain ⟨done, held⟩ := holds
    simp only [getBinaryHash, done, if_true]
    exact ⟨held, done, held⟩

theorem runHashCalls_of_holds (P : Primitives) :
    ∀ (calls : List HashCall) {cache : BinaryHashCache} {memo : Option ExeEnv},
      CacheHolds P cache memo → runHashCalls P cache calls = memoHashes P memo calls
  | [], _, _, _ => rfl
  | .getBinaryHash env :: calls, _, _, holds => by
    obtain ⟨returned, holds'⟩ := getBinaryHash_holds holds env
    rw [runHashCalls, memoHashes, returned, runHashCalls_of_holds P calls holds']
  | .resetBinaryHashCache :: calls, _, _, _ => runHashCalls_of_holds P calls rfl

/-- Every `GetBinaryHash` returns what the first call since the last reset computed, an error
included, however the executable changed since. -/
theorem getBinaryHash_returns_first_result (P : Primitives) (calls : List HashCall) :
    runHashCalls P .zero calls = memoHashes P none calls :=
  runHashCalls_of_holds P calls rfl

/-- The fields of the reply to `POST /api/v1/version/resolve` that the SDK reads. -/
structure VersionResolution where
  version : String
  error : String

/-- `AutoResolveVersion`, given what `GetBinaryHash` and `postJSON` returned: the
`binary_hash` of the request it sent, if it sent one, its error, and the version records
after it. -/
def autoResolveVersion (hash : String × Option GoError)
    (reply : Except GoError VersionResolution) (vs : Versions) :
    Option String × Option GoError × Versions :=
  match hash with
  | (_, some err) => (none, some (.wrapped "calculate binary hash: %w" err), vs)
  | (binaryHash, none) =>
    match reply with
    | .error err => (some binaryHash, some (.wrapped "request version resolution: %w" err), vs)
    | .ok resp =>
      if resp.error ≠ "" then (some binaryHash, some (.plain "server error: %s"), vs)
      else (some binaryHash, none, setVersion vs resp.version)

theorem autoResolveVersion_cases (hash : String × Option GoError)
    (reply : Except GoError VersionResolution) (vs : Versions) :
    (autoResolveVersion hash reply vs).2.1 = none ∧ hash.2 = none ∧
        (∃ resp, reply = .ok resp ∧ resp.error = "" ∧
          (autoResolveVersion hash reply vs).2.2 = setVersion vs resp.version) ∨
      (autoResolveVersion hash reply vs).2.1 ≠ none ∧
        (autoResolveVersion hash reply vs).2.2 = vs := by
  obtain ⟨binaryHash, _ | err⟩ := hash
  · rcases reply with err | resp
    · exact .inr ⟨by simp [autoResolveVersion], rfl⟩
    · by_cases coded : resp.error = ""
      · exact .inl ⟨by simp [autoResolveVersion, coded], rfl, resp, rfl, coded,
          by simp [autoResolveVersion, coded]⟩
      · exact .inr ⟨by simp [autoResolveVersion, coded], by simp [autoResolveVersion, coded]⟩
  · exact .inr ⟨by simp [autoResolveVersion], rfl⟩

end BanyanGuard
