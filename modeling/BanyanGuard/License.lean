import BanyanGuard.Trust

/-!
# License verification

`verifyLicense` returns at once when the cached pair verifies under the key; otherwise it
asks `/api/v1/verify` and, on an empty `error` code, caches the reply's pair unchecked.
-/

namespace BanyanGuard

/-- `cachedLicense`, the content of `license.cache`. -/
structure CachedLicense where
  licenseKey : String
  publicData : String
  signature : String
  verifiedAt : String
  deriving DecidableEq, Repr

/-- The fields of the `/api/v1/verify` reply that `verifyLicense` reads. -/
structure VerifyResponse where
  error : String
  publicData : String
  signature : String
  deriving DecidableEq, Repr

/-- What `verifyLicense` does besides returning. -/
inductive LicenseEffect where
  /-- `POST /api/v1/verify`; the body is the same on every call up to nonce and time. -/
  | verifyRequest
  /-- `cacheLicense(publicData, signature)`. -/
  | cacheLicense (publicData signature : String)
  deriving DecidableEq, Repr

/-- The `switch resp.Error` of `verifyLicense`. -/
def licenseError (code : String) : GoError :=
  if code = "license_not_found" ∨ code = "license_inactive" then .sentinel .errLicenseInvalid
  else if code = "license_expired" then .sentinel .errLicenseExpired
  else if code = "project_not_authorized" then .sentinel .errProjectNotAuthorized
  else if code = "max_machines_exceeded" then .sentinel .errMaxMachinesExceeded
  else if code = "machine_banned" then .sentinel .errMachineBanned
  else .wrapped "%w: %s" (.sentinel .errLicenseInvalid)

section

variable (P : Primitives) (publicKey : List UInt8)

/-- The cache branch: the file loaded and its pair verifies. -/
def cacheTrusted : Except GoError CachedLicense → Bool
  | .ok cached => P.trusts publicKey cached.publicData cached.signature
  | .error _ => false

/-- `verifyLicense`, given what `loadCachedLicense` and `postJSON` returned. -/
def verifyLicense (cached : Except GoError CachedLicense) (reply : Except GoError VerifyResponse) :
    Option GoError × List LicenseEffect :=
  if cacheTrusted P publicKey cached then (none, [])
  else
    match reply with
    | .error err => (some (.tagged .errNetworkError err), [.verifyRequest])
    | .ok resp =>
      if resp.error ≠ "" then (some (licenseError resp.error), [.verifyRequest])
      else (none, [.verifyRequest, .cacheLicense resp.publicData resp.signature])

/-- `verifyLicense` returns nil exactly when the cached pair verifies, or the verify
request succeeds with an empty error code; the reply's own pair plays no part. -/
theorem verifyLicense_eq_none_iff (cached : Except GoError CachedLicense)
    (reply : Except GoError VerifyResponse) :
    (verifyLicense P publicKey cached reply).1 = none ↔
      cacheTrusted P publicKey cached ∨ ∃ resp, reply = .ok resp ∧ resp.error = "" := by
  unfold verifyLicense
  split
  · simp_all
  · rename_i untrusted
    rcases reply with err | resp
    · simp [untrusted]
    · by_cases coded : resp.error = "" <;> simp [coded, untrusted]

theorem cacheTrusted_iff (cached : Except GoError CachedLicense) :
    cacheTrusted P publicKey cached ↔
      ∃ c, cached = .ok c ∧ P.trusts publicKey c.publicData c.signature := by
  cases cached <;> simp [cacheTrusted]

theorem verifyLicense_of_untrusted {cached cached' : Except GoError CachedLicense}
    (untrusted : cacheTrusted P publicKey cached = false)
    (untrusted' : cacheTrusted P publicKey cached' = false)
    (reply : Except GoError VerifyResponse) :
    verifyLicense P publicKey cached reply = verifyLicense P publicKey cached' reply := by
  simp [verifyLicense, untrusted, untrusted']

theorem verifyRequest_mem_iff (cached : Except GoError CachedLicense)
    (reply : Except GoError VerifyResponse) :
    LicenseEffect.verifyRequest ∈ (verifyLicense P publicKey cached reply).2 ↔
      cacheTrusted P publicKey cached = false := by
  unfold verifyLicense
  split
  · simp_all
  · rename_i untrusted
    rcases reply with err | resp
    · simp [untrusted]
    · by_cases coded : resp.error = "" <;> simp [coded, untrusted]

theorem verifyLicense_caches_reply (cached : Except GoError CachedLicense) (resp : VerifyResponse)
    (untrusted : cacheTrusted P publicKey cached = false) (accepted : resp.error = "") :
    verifyLicense P publicKey cached (.ok resp) =
      (none, [.verifyRequest, .cacheLicense resp.publicData resp.signature]) := by
  simp [verifyLicense, untrusted, accepted]

end

/-- With no cache file, a reply with an empty error code and no signature authorizes the Guard. -/
theorem verifyLicense_unsigned_reply_authorizes :
    (verifyLicense Primitives.sample []
        (.error (.plain "open license.cache: no such file or directory"))
        (.ok ⟨"", "", ""⟩)).1 =
      none ∧
      Primitives.sample.trusts [] "" "" = false :=
  ⟨rfl, Primitives.sample.trusts_empty_signature [] ""⟩

end BanyanGuard
