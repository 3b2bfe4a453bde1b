import BanyanGuard.Update.Attempt
import BanyanGuard.Version

/-!
# What the version records can hold

A run is any sequence of version writes (`VersionOp`), each attempt with its own snapshot.
Every record holds its value from `New`, a value the program set, the resolved version, or
the version of a verified attempt on it.
-/

namespace BanyanGuard

/-- The download of an attempt passed the checks made before its install: for a binary,
the bytes kept match the declared digest and the digest's signature verifies; for a
frontend, the bytes the hasher read match the declared digest. -/
def UpdateAttempt.Verified (P : Primitives) (publicKey : List UInt8) (cfg : Config)
    (env : UpdateEnv) : UpdateAttempt → Prop
  | .updateBackend _ | .updateManagedBackend _ _ =>
    ∃ meta resp, env.binary.downloadMeta = .ok meta ∧ env.binary.response = .ok resp ∧
      encodeToString (P.sum256 (resp.body.bytes.take cfg.ota.maxArtifactBytes.toNat)) =
        meta.sha256 ∧ P.trusts publicKey meta.sha256 meta.signature
  | .updateFrontend _ _ =>
    ∃ resp httpResp, env.frontend.downloadMeta = .ok resp ∧
      env.frontend.response = .ok httpResp ∧
      encodeToString (P.sum256 (teeHashed env.frontend.reads
        (httpResp.body.limit cfg.ota.maxArtifactBytes))) = resp.sha256

section

variable {P : Primitives} {publicKey : List UInt8} {cfg : Config}

theorem verified_of_setVersion_mem_updateBinaryComponent {env : UpdateEnv}
    {componentSlug targetPath oldVersion : String} {u : UpdateInfo} {record r : VersionRecord}
    {v : String}
    (written : .setVersion r v ∈ updateBinaryComponent P publicKey cfg env.binary componentSlug
      u targetPath oldVersion record) :
    ∃ meta resp, env.binary.downloadMeta = .ok meta ∧ env.binary.response = .ok resp ∧
      encodeToString (P.sum256 (resp.body.bytes.take cfg.ota.maxArtifactBytes.toNat)) =
        meta.sha256 ∧ P.trusts publicKey meta.sha256 meta.signature := by
  obtain ⟨-, -, pre, tmpPath, content, ops, post, traced, -⟩ :=
    updateBinaryComponent_setVersion written
  have applied : .apply tmpPath targetPath content ∈ updateBinaryComponent P publicKey cfg
      env.binary componentSlug u targetPath oldVersion record := by
    rw [traced]; simp
  obtain ⟨-, -, meta, resp, requested, responded, rfl, matching, trusted⟩ :=
    updateBinaryComponent_applies_verified applied
  exact ⟨meta, resp, requested, responded, matching, trusted⟩

theorem setVersion_mem_runAttempt {versions : Versions} {env : UpdateEnv} {a : UpdateAttempt}
    {r : VersionRecord} {v : String}
    (written : .setVersion r v ∈ runAttempt P publicKey cfg versions env a) :
    r = a.record ∧ v = a.info.latest ∧ a.Verified P publicKey cfg env := by
  obtain ⟨own, notified⟩ := (runAttempt_frame P publicKey cfg versions env a).2.1 r v written
  refine ⟨own, notified, ?_⟩
  cases a with
  | updateBackend u =>
    simp only [runAttempt, updateBackend] at written
    split at written
    · simp [OTAConfig.reportFailure] at written
    · exact verified_of_setVersion_mem_updateBinaryComponent written
  | updateManagedBackend mc u =>
    simp only [runAttempt, updateManagedBackend] at written
    split at written
    · simp [OTAConfig.reportFailure] at written
    · exact verified_of_setVersion_mem_updateBinaryComponent written
  | updateFrontend mc u =>
    obtain ⟨resp, httpResp, _, requested, responded, -, hashed, -⟩ :=
      updateFrontend_of_isInstall written rfl
    exact ⟨resp, httpResp, requested, responded, hashed⟩

end

theorem UpdateEffect.get_versionsAfter (r : VersionRecord) :
    ∀ (trace : List UpdateEffect) (vs : Versions),
      (UpdateEffect.versionsAfter vs trace).get r = vs.get r ∨
        .setVersion r ((UpdateEffect.versionsAfter vs trace).get r) ∈ trace
  | [], _ => .inl rfl
  | e :: trace, vs => by
    cases e with
    | setVersion r' v =>
      have after : UpdateEffect.versionsAfter vs (.setVersion r' v :: trace) =
          UpdateEffect.versionsAfter (vs.set r' v) trace := rfl
      rw [after]
      rcases UpdateEffect.get_versionsAfter r trace (vs.set r' v) with kept | written
      · by_cases same : r' = r
        · subst same
          rw [kept, Versions.get_set_self]
          exact .inr (List.mem_cons_self _ _)
        · exact .inl (by rw [kept, Versions.get_set_of_ne _ _ (Ne.symm same)])
      · exact .inr (List.mem_cons_of_mem _ written)
    | _ => exact (UpdateEffect.get_versionsAfter r trace vs).imp_right (List.mem_cons_of_mem _)

/-- A write of the version records after `New`, in the order `mu` serializes them. -/
inductive VersionOp where
  | setVersion (v : String)
  | setManagedVersion (slug version : String)
  /-- `AutoResolveVersion`, given what `GetBinaryHash` and `postJSON` returned. -/
  | autoResolveVersion (hash : String × Option GoError)
    (reply : Except GoError VersionResolution)
  /-- The end of an update attempt that read the records `versions` when it started. -/
  | attempt (versions : Versions) (env : UpdateEnv) (a : UpdateAttempt)

namespace VersionOp

variable (P : Primitives) (publicKey : List UInt8) (cfg : Config)

/-- The records after the operation. -/
def apply (vs : Versions) : VersionOp → Versions
  | .setVersion v => BanyanGuard.setVersion vs v
  | .setManagedVersion slug version => BanyanGuard.setManagedVersion vs slug version
  | .autoResolveVersion hash reply => (BanyanGuard.autoResolveVersion hash reply vs).2.2
  | .attempt versions env a =>
    UpdateEffect.versionsAfter vs (runAttempt P publicKey cfg versions env a)

/-- What the operation may leave in record `r`. -/
def Writes : VersionOp → VersionRecord → String → Prop
  | .setVersion v, r, version => r = .primary ∧ version = v
  | .setManagedVersion slug v, r, version => r = .managed slug ∧ version = v
  | .autoResolveVersion hash reply, r, version => r = .primary ∧ hash.2 = none ∧
    ∃ resp, reply = .ok resp ∧ resp.error = "" ∧ version = resp.version
  | .attempt _ env a, r, version =>
    r = a.record ∧ version = a.info.latest ∧ a.Verified P publicKey cfg env

theorem get_apply (vs : Versions) (op : VersionOp) (r : VersionRecord) :
    (op.apply P publicKey cfg vs).get r = vs.get r ∨
      op.Writes P publicKey cfg r ((op.apply P publicKey cfg vs).get r) := by
  have set : ∀ r' v, (vs.set r' v).get r = vs.get r ∨ r' = r ∧ (vs.set r' v).get r = v :=
    fun r' v => by
      by_cases same : r' = r
      · exact .inr ⟨same, same ▸ Versions.get_set_self vs r' v⟩
      · exact .inl (Versions.get_set_of_ne vs v (Ne.symm same))
  cases op with
  | setVersion v =>
    rcases set .primary v with kept | ⟨rfl, written⟩
    · exact .inl kept
    · exact .inr ⟨rfl, written⟩
  | setManagedVersion slug v =>
    rcases set (.managed slug) v with kept | ⟨rfl, written⟩
    · exact .inl kept
    · exact .inr ⟨rfl, written⟩
  | autoResolveVersion hash reply =>
    rcases autoResolveVersion_cases hash reply vs with
      ⟨-, computed, resp, replied, ok, resolved⟩ | ⟨-, kept⟩
    · rw [apply, resolved]
      rcases set .primary resp.version with kept | ⟨rfl, written⟩
      · exact .inl kept
      · exact .inr ⟨rfl, computed, resp, replied, ok, written⟩
    · exact .inl (by rw [apply, kept])
  | attempt versions env a =>
    rcases UpdateEffect.get_versionsAfter r (runAttempt P publicKey cfg versions env a) vs with
      kept | written
    · exact .inl kept
    · obtain ⟨rfl, latest, verified⟩ := setVersion_mem_runAttempt written
      exact .inr ⟨rfl, latest, verified⟩

end VersionOp

/-- The records after a run of operations. -/
def runVersionOps (P : Primitives) (publicKey : List UInt8) (cfg : Config) (vs : Versions)
    (ops : List VersionOp) : Versions :=
  ops.foldl (VersionOp.apply P publicKey cfg) vs

theorem get_runVersionOps (P : Primitives) (publicKey : List UInt8) (cfg : Config)
    (r : VersionRecord) :
    ∀ (ops : List VersionOp) (vs : Versions),
      (runVersionOps P publicKey cfg vs ops).get r = vs.get r ∨
        ∃ op ∈ ops, op.Writes P publicKey cfg r ((runVersionOps P publicKey cfg vs ops).get r)
  | [], _ => .inl rfl
  | op :: ops, vs => by
    have rest := get_runVersionOps P publicKey cfg r ops (op.apply P publicKey cfg vs)
    simp only [runVersionOps, List.foldl_cons] at rest ⊢
    rcases rest with kept | ⟨op', mem, written⟩
    · rw [kept]
      exact (op.get_apply P publicKey cfg vs r).imp_right fun written =>
        ⟨op, List.mem_cons_self op ops, written⟩
    · exact .inr ⟨op', List.mem_cons_of_mem op mem, written⟩

/-- The slug a heartbeat reports a record under. -/
def VersionRecord.slug (cfg : Config) : VersionRecord → String
  | .primary => cfg.componentSlug
  | .managed slug => slug

/-- Whatever happens after `New`, every version a heartbeat reports is "unknown", one the program
set, the one the server resolved, or that of a verified update of the component. -/
theorem heartbeat_reports_only_set_or_verified (P : Primitives) (publicKey : List UInt8)
    (cfg : Config) (ops : List VersionOp) :
    ∀ c ∈ heartbeatComponents cfg (runVersionOps P publicKey cfg (newVersions cfg) ops),
      c.2 = "unknown" ∨
        ∃ op ∈ ops, ∃ r, r.slug cfg = c.1 ∧ op.Writes P publicKey cfg r c.2 := by
  have reported : ∀ r, (newVersions cfg).get r = "unknown" →
      (runVersionOps P publicKey cfg (newVersions cfg) ops).get r = "unknown" ∨
        ∃ op ∈ ops, op.Writes P publicKey cfg r
          ((runVersionOps P publicKey cfg (newVersions cfg) ops).get r) := fun r initial => by
    rw [← initial]
    exact get_runVersionOps P publicKey cfg r ops _
  simp only [heartbeatComponents, List.mem_cons, List.mem_map]
  rintro c (rfl | ⟨mc, configured, rfl⟩)
  · exact (reported .primary rfl).imp_right fun ⟨op, mem, written⟩ =>
      ⟨op, mem, .primary, rfl, written⟩
  · have initial : (newVersions cfg).get (.managed mc.slug) = "unknown" := by
      simp only [newVersions, Versions.get, List.any_eq_true, beq_iff_eq]
      rw [if_pos ⟨mc, configured, rfl⟩]
    exact (reported (.managed mc.slug) initial).imp_right fun ⟨op, mem, written⟩ =>
      ⟨op, mem, .managed mc.slug, rfl, written⟩

/-- After `SetVersion("1.2.0")` a heartbeat reports 1.2.0. -/
theorem heartbeat_reports_program_version :
    let cfg : Config :=
      ⟨"", "demo", "app", ⟨hour⟩, ⟨true, true, "linux", "amd64", 1024, false, false, false⟩, []⟩
    let ops : List VersionOp := [.setVersion "1.2.0"]
    ("app", "1.2.0") ∈
        heartbeatComponents cfg (runVersionOps Primitives.sample [] cfg (newVersions cfg) ops) ∧
      (("app", "1.2.0").2 = "unknown" ∨ ∃ op ∈ ops, ∃ r, r.slug cfg = ("app", "1.2.0").1 ∧
        op.Writes Primitives.sample [] cfg r ("app", "1.2.0").2) := by
  intro cfg ops
  have reported : ("app", "1.2.0") ∈
      heartbeatComponents cfg (runVersionOps Primitives.sample [] cfg (newVersions cfg) ops) := by
    decide
  exact ⟨reported, heartbeat_reports_only_set_or_verified Primitives.sample [] cfg ops _ reported⟩

end BanyanGuard
