import BanyanGuard.License
import BanyanGuard.Json
import BanyanGuard.Fs
import BanyanGuard.Config

/-!
# The license cache

`cacheLicense` writes a `cachedLicense` with `json.Marshal`, and `loadCachedLicense` reads it
back with `json.Unmarshal`, followed rune by rune beside the scanner.  What is written is
read back field for field.
-/

namespace BanyanGuard

open Json

/-- The fields of `cachedLicense`. -/
inductive LicenseField where
  | licenseKey
  | publicData
  | signature
  | verifiedAt
  deriving DecidableEq, Repr

namespace LicenseField

/-- The fields in declaration order. -/
def all : List LicenseField := [licenseKey, publicData, signature, verifiedAt]

/-- The field's `json` tag. -/
def name : LicenseField → String
  | licenseKey => "license_key"
  | publicData => "public_data"
  | signature => "signature"
  | verifiedAt => "verified_at"

def get : LicenseField → CachedLicense → String
  | licenseKey, l => l.licenseKey
  | publicData, l => l.publicData
  | signature, l => l.signature
  | verifiedAt, l => l.verifiedAt

def set : LicenseField → CachedLicense → String → CachedLicense
  | licenseKey, l, v => { l with licenseKey := v }
  | publicData, l, v => { l with publicData := v }
  | signature, l, v => { l with signature := v }
  | verifiedAt, l, v => { l with verifiedAt := v }

end LicenseField

/-- One field as the struct encoder writes it: `nameEscHTML`, then the string value. -/
def member (f : LicenseField) (l : CachedLicense) : List Char :=
  appendString f.name.data ++ ':' :: appendString (f.get l).data

/-- `json.Marshal` of a `cachedLicense`: the fields in declaration order, comma-separated. -/
def marshalLicense (l : CachedLicense) : List Char :=
  '{' :: member .licenseKey l ++ ',' :: member .publicData l ++ ',' :: member .signature l ++
    ',' :: member .verifiedAt l ++ ['}']

/-- `unicode.ToUpper(unicode.ToLower(r))`, which `foldName` applies to every rune, on the
runes it takes into ASCII: the lower-case letters, `İ` and `ı` to `I`, `ſ` to `S` and the
Kelvin sign to `K`.  Every other rune folds to a rune outside ASCII, which no folded field
name holds, and is kept. -/
def foldRune (c : Char) : Char :=
  if 'a' ≤ c ∧ c ≤ 'z' then Char.ofNat (c.toNat - 32)
  else if c.toNat = 0x130 ∨ c.toNat = 0x131 then 'I'
  else if c.toNat = 0x17F then 'S'
  else if c.toNat = 0x212A then 'K'
  else c

/-- `fields.byExactName`, then `fields.byFoldedName[foldName(key)]`. -/
def fieldNamed (key : List Char) : Option LicenseField :=
  match LicenseField.all.find? (·.name.data = key) with
  | some f => some f
  | none => LicenseField.all.find? fun f => f.name.data.map foldRune = key.map foldRune

/-- What the decoder makes of the string literal being read. -/
inductive LiteralRole where
  | key
  | value
  | other
  deriving DecidableEq, Repr

/-- What the top-level value is, once it has begun. -/
inductive TopKind where
  | unknown
  | object
  | null
  | other
  deriving DecidableEq, Repr

/-- `json.Unmarshal(b, &cached)` part way through its input: the reader, the kind of the
top-level value, the role of the current literal, the field of the last top-level key,
the record so far, and whether a known field got a value of the wrong type. -/
structure LicenseDecoding where
  reader : Reader
  top : TopKind
  role : LiteralRole
  field : Option LicenseField
  license : CachedLicense
  mistyped : Bool
  deriving DecidableEq, Repr

/-- `json: cannot unmarshal ... into Go value of type sdk.cachedLicense`. -/
def unmarshalTypeError : GoError := .plain "json: cannot unmarshal into Go value"

/-- `invalid character ...`. -/
def syntaxError : GoError := .plain "invalid character"

/-- `unexpected end of JSON input`. -/
def unexpectedEnd : GoError := .plain "unexpected end of JSON input"

namespace LicenseDecoding

/-- Before the first rune: the zero record. -/
def init : LicenseDecoding :=
  ⟨⟨Scanner.reset, .empty⟩, .unknown, .other, none, ⟨"", "", "", ""⟩, false⟩

/-- A value or a key begins with `c` where the scanner's stack was `parseState`. -/
def beginValue (d : LicenseDecoding) (parseState : List ParseState) (c : Char) :
    LicenseDecoding :=
  let d := if parseState = [] then
      { d with top := if c = '{' then .object else if c = 'n' then .null else .other }
    else d
  if c = '"' then
    { d with role := if parseState = [.objectKey] then .key
        else if parseState = [.objectValue] then .value else .other }
  else if parseState = [.objectValue] ∧ c ≠ 'n' then
    { d with mistyped := d.mistyped || d.field.isSome }
  else d

/-- The string literal being read ends, with the runes `text`. -/
def endString (d : LicenseDecoding) (text : List Char) : LicenseDecoding :=
  match d.role, d.field with
  | .key, _ => { d with field := fieldNamed text }
  | .value, some f => { d with license := f.set d.license ⟨text⟩ }
  | _, _ => d

/-- One rune: the reader's step, and the decoder's at value starts and string ends. -/
def step (d : LicenseDecoding) (c : Char) : Option LicenseDecoding :=
  (d.reader.step c).map fun (code, reader) =>
    let d' :=
      if code = .scanBeginLiteral ∨ code = .scanBeginObject ∨ code = .scanBeginArray then
        d.beginValue d.reader.scanner.parseState c
      else if d.reader.scanner.step = .inString ∧ c = '"' then d.endString reader.unquote.text
      else d
    { d' with reader := reader }

/-- What `Unmarshal` returns for a valid input. -/
def result (d : LicenseDecoding) : Except GoError CachedLicense :=
  match d.top with
  | .object => if d.mistyped then .error unmarshalTypeError else .ok d.license
  | .null => .ok d.license
  | _ => .error unmarshalTypeError

end LicenseDecoding

/-- `json.Unmarshal(b, &cached)`: `checkValid` with the decoding beside it. -/
def unmarshalLicense (runes : List Char) : Except GoError CachedLicense :=
  match runes.foldlM LicenseDecoding.step LicenseDecoding.init with
  | none => .error syntaxError
  | some d =>
    if d.reader.scanner.endTop then d.result
    else
      match d.reader.scanner.scan ' ' with
      | some (_, s) => if s.endTop then d.result else .error unexpectedEnd
      | none => .error syntaxError

namespace LicenseDecoding

theorem foldlM_step_readString {d : LicenseDecoding} {cs : List Char} {r : Reader}
    (read : d.reader.readString cs = some r) : cs.foldlM step d = some { d with reader := r } := by
  induction cs generalizing d with
  | nil => cases read; rfl
  | cons c rest inductionHypothesis =>
    simp only [Reader.readString] at read
    split at read
    · rename_i r' stepped
      split_ifs at read with stays
      have notClosing : ¬ (d.reader.scanner.step = .inString ∧ c = '"') := by
        rintro ⟨inString, rfl⟩
        simp only [Reader.step, Scanner.scan, inString, if_true, Option.map_some',
          Option.some.injEq, Prod.mk.injEq] at stepped
        rw [← stepped.2] at stays
        contradiction
      have next : d.step c = some { d with reader := r' } := by
        simp [step, stepped, notClosing]
      rw [List.foldlM_cons, next, Option.bind_eq_bind, Option.some_bind,
        inductionHypothesis read]
    · cases read

section

variable (top : TopKind) (role : LiteralRole) (field : Option LicenseField)
  (license : CachedLicense) (mistyped : Bool)

theorem foldlM_step_escaped (parseState : List ParseState) (endTop : Bool) (text s : List Char) :
    (s.flatMap escapeRune).foldlM step
        ⟨⟨⟨.inString, parseState, endTop⟩, ⟨text, 0, none⟩⟩,
          top, role, field, license, mistyped⟩ =
      some ⟨⟨⟨.inString, parseState, endTop⟩, ⟨text ++ s, 0, none⟩⟩,
        top, role, field, license, mistyped⟩ :=
  foldlM_step_readString (Reader.readString_escaped parseState endTop text s)

theorem fieldNamed_name (f : LicenseField) : fieldNamed f.name.data = some f := by
  cases f <;> decide

/-! The runes of a record's punctuation, each a step of the scanner at the top level of an
object. -/

theorem step_openObject :
    init.step '{' = some ⟨⟨⟨.beginStringOrEmpty, [.objectKey], false⟩, .empty⟩,
      .object, .other, none, ⟨"", "", "", ""⟩, false⟩ := rfl

theorem step_openKey {start : Step} (starts : start = .beginString ∨ start = .beginStringOrEmpty)
    (unquote : Unquote) :
    step ⟨⟨⟨start, [.objectKey], false⟩, unquote⟩,
        top, role, field, license, mistyped⟩ '"' =
      some ⟨⟨⟨.inString, [.objectKey], false⟩, ⟨[], 0, none⟩⟩,
        top, .key, field, license, mistyped⟩ := by
  rcases starts with rfl | rfl <;> rfl

theorem step_closeString (parseState : List ParseState) (text : List Char) :
    step ⟨⟨⟨.inString, parseState, false⟩, ⟨text, 0, none⟩⟩,
        top, role, field, license, mistyped⟩ '"' =
      some { endString ⟨⟨⟨.inString, parseState, false⟩, ⟨text, 0, none⟩⟩,
          top, role, field, license, mistyped⟩ text with
        reader := ⟨⟨.endValue, parseState, false⟩, ⟨text, 0, none⟩⟩ } := rfl

theorem step_colon (unquote : Unquote) :
    step ⟨⟨⟨.endValue, [.objectKey], false⟩, unquote⟩,
        top, role, field, license, mistyped⟩ ':' =
      some ⟨⟨⟨.beginValue, [.objectValue], false⟩, unquote⟩,
        top, role, field, license, mistyped⟩ := rfl

theorem step_openValue (unquote : Unquote) :
    step ⟨⟨⟨.beginValue, [.objectValue], false⟩, unquote⟩,
        top, role, field, license, mistyped⟩ '"' =
      some ⟨⟨⟨.inString, [.objectValue], false⟩, ⟨[], 0, none⟩⟩,
        top, .value, field, license, mistyped⟩ := rfl

theorem step_comma (unquote : Unquote) :
    step ⟨⟨⟨.endValue, [.objectValue], false⟩, unquote⟩,
        top, role, field, license, mistyped⟩ ',' =
      some ⟨⟨⟨.beginString, [.objectKey], false⟩, unquote⟩,
        top, role, field, license, mistyped⟩ := rfl

theorem step_closeObject (unquote : Unquote) :
    step ⟨⟨⟨.endValue, [.objectValue], false⟩, unquote⟩,
        top, role, field, license, mistyped⟩ '}' =
      some ⟨⟨⟨.endTop, [], true⟩, unquote⟩, top, role, field, license, mistyped⟩ := rfl

theorem foldlM_step_member {start : Step}
    (starts : start = .beginString ∨ start = .beginStringOrEmpty) (unquote : Unquote)
    (f : LicenseField) (l : CachedLicense) :
    (member f l).foldlM step
        ⟨⟨⟨start, [.objectKey], false⟩, unquote⟩, top, role, field, license, mistyped⟩ =
      some ⟨⟨⟨.endValue, [.objectValue], false⟩, ⟨(f.get l).data, 0, none⟩⟩,
        top, .value, some f, f.set license (f.get l), mistyped⟩ := by
  simp only [member, appendString, List.cons_append, List.append_assoc, List.singleton_append,
    List.foldlM_cons, List.foldlM_append, List.foldlM_nil, Option.bind_eq_bind, Option.some_bind,
    step_openKey _ _ _ _ _ starts, foldlM_step_escaped, List.nil_append, step_closeString,
    endString,
    fieldNamed_name, step_colon, step_openValue]
  rfl

end

end LicenseDecoding

open LicenseDecoding in
theorem unmarshalLicense_marshalLicense (l : CachedLicense) :
    unmarshalLicense (marshalLicense l) = .ok l := by
  simp only [unmarshalLicense, marshalLicense, List.cons_append, List.append_assoc,
    List.foldlM_cons, List.foldlM_append, Option.bind_eq_bind, Option.some_bind, step_openObject,
    foldlM_step_member _ _ _ _ _ (.inr rfl),
    foldlM_step_member _ _ _ _ _ (.inl rfl), step_comma, step_closeObject]
  rfl

-- A file that `Marshal` would not write: keys in another order and case, an unknown key,
-- `null` and a `\u` escape.
example : unmarshalLicense ("\x7b\"SIGNATURE\": \"s\", \"public_data\": \"p\\u00e9\", " ++
    "\"extra\": [1, \x7b\"a\": null\x7d], \"verified_at\": null\x7d").data =
      .ok ⟨"", "pé", "s", ""⟩ := rfl

/-- `cacheDir()`, with the directory `os.UserHomeDir` returned (`""` when it failed). -/
def cacheDir (home : String) (cfg : Config) : String :=
  Filepath.join [home, ".deploy-guard", cfg.projectSlug, cfg.componentSlug]

/-- The path both functions use. -/
def cachePath (home : String) (cfg : Config) : String :=
  Filepath.join [cacheDir home cfg, "license.cache"]

/-- `cacheLicense(publicData, signature)`: the file operations that succeed, given what
`os.MkdirAll` and `os.WriteFile` returned (both errors are ignored).  `json.Marshal`
cannot fail on the record; `os.WriteFile` truncates. -/
def cacheLicense (home : String) (cfg : Config) (made written : Option GoError)
    (licenseKey verifiedAt publicData signature : String) : List FsOp :=
  (if made = none then [.mkdirAll (cacheDir home cfg)] else []) ++
    if written = none then
      [.writeFile (cachePath home cfg)
        (bytesOf ⟨marshalLicense ⟨licenseKey, publicData, signature, verifiedAt⟩⟩) true]
    else []

/-- `loadCachedLicense()` on the file tree. -/
def loadCachedLicense (home : String) (cfg : Config) (t : Tree) : Except GoError CachedLicense :=
  match t (cachePath home cfg) with
  | some (.file bytes) => unmarshalLicense (Utf8.decodeRunes bytes)
  | some .dir => .error (.plain "read license.cache: is a directory")
  | none => .error (.plain "open license.cache: no such file or directory")

theorem loadCachedLicense_cacheLicense (home : String) (cfg : Config) (made : Option GoError)
    (licenseKey verifiedAt publicData signature : String) (t : Tree) :
    loadCachedLicense home cfg
        (runOps (cacheLicense home cfg made none licenseKey verifiedAt publicData signature) t) =
      .ok ⟨licenseKey, publicData, signature, verifiedAt⟩ := by
  simp [loadCachedLicense, cacheLicense, runOps_append, FsOp.run, Utf8.decodeRunes_bytesOf,
    unmarshalLicense_marshalLicense]

/-- A cache file without a trusted pair leaves `verifyLicense` as with no file; the network is
skipped exactly when the file's pair verifies; and a pair written after a remote
verification is read back by the next call, which returns nil with no request. -/
theorem verifyLicense_cache_round_trip (P : Primitives) (publicKey : List UInt8) (home : String)
    (cfg : Config) :
    (∀ t reply, cacheTrusted P publicKey (loadCachedLicense home cfg t) = false →
      verifyLicense P publicKey (loadCachedLicense home cfg t) reply =
        verifyLicense P publicKey (loadCachedLicense home cfg fun _ => none) reply) ∧
    (∀ t reply,
      LicenseEffect.verifyRequest ∉
          (verifyLicense P publicKey (loadCachedLicense home cfg t) reply).2 ↔
        ∃ cached, loadCachedLicense home cfg t = .ok cached ∧
          P.trusts publicKey cached.publicData cached.signature) ∧
    ∀ t (resp : VerifyResponse) made licenseKey verifiedAt,
      cacheTrusted P publicKey (loadCachedLicense home cfg t) = false → resp.error = "" →
      P.trusts publicKey resp.publicData resp.signature →
      verifyLicense P publicKey (loadCachedLicense home cfg t) (.ok resp) =
          (none, [.verifyRequest, .cacheLicense resp.publicData resp.signature]) ∧
        loadCachedLicense home cfg (runOps (cacheLicense home cfg made none licenseKey verifiedAt
            resp.publicData resp.signature) t) =
          .ok ⟨licenseKey, resp.publicData, resp.signature, verifiedAt⟩ ∧
        ∀ reply, verifyLicense P publicKey (loadCachedLicense home cfg (runOps
            (cacheLicense home cfg made none licenseKey verifiedAt resp.publicData resp.signature)
            t)) reply = (none, []) := by
  refine ⟨fun t reply untrusted =>
      verifyLicense_of_untrusted P publicKey untrusted (by rfl) reply,
    fun t reply => ?_, fun t resp made licenseKey verifiedAt untrusted accepted trusted => ?_⟩
  · rw [verifyRequest_mem_iff, Bool.not_eq_false, cacheTrusted_iff]
  · rw [loadCachedLicense_cacheLicense]
    exact ⟨verifyLicense_caches_reply P publicKey _ resp untrusted accepted, rfl,
      fun reply => by simp [verifyLicense, cacheTrusted, trusted]⟩

open Filepath in
theorem cacheDir_data (home : String) : ∃ rooted base, Normal rooted base ∧
    (join [home, ".deploy-guard"]).data = render rooted (base ++ [".deploy-guard".data]) ∧
    (∀ cfg : Config, Plain cfg.projectSlug.data → Plain cfg.componentSlug.data →
      (cacheDir home cfg).data =
        render rooted
          (base ++ [".deploy-guard".data, cfg.projectSlug.data, cfg.componentSlug.data])) ∧
    ∀ cfg : Config, cfg.projectSlug = ".." → cfg.componentSlug = "x" →
      (cacheDir home cfg).data = render rooted (base ++ [['x']]) := by
  obtain ⟨rooted, base, normal, joined⟩ := join_cons_eq home
  have deployGuard : Plain ".deploy-guard".data := by unfold Plain dotdot; decide
  refine ⟨rooted, base, normal, ?_, fun cfg project component => ?_,
    fun cfg project component => ?_⟩
  · rw [joined _ [] (by decide) (by decide), List.map_singleton,
      (foldl_cleanStep_plain_normal normal (List.forall_mem_singleton.mpr deployGuard)).1]
  · have plain : ∀ e ∈ [".deploy-guard".data, cfg.projectSlug.data, cfg.componentSlug.data],
        Plain e := by simp [deployGuard, project, component]
    rw [cacheDir, joined _ _ (by decide) (by simp [project.2.2.2, component.2.2.2]),
      List.map_cons, List.map_cons, List.map_singleton,
      (foldl_cleanStep_plain_normal normal plain).1]
  · rw [cacheDir, project, component, joined _ _ (by decide) (by decide)]
    simp [cleanStep, dotdot]

section

open Filepath

variable (home : String)

theorem cacheDir_plain_slugs :
    ∀ cfg cfg' : Config, Plain cfg.projectSlug.data → Plain cfg.componentSlug.data →
      Plain cfg'.projectSlug.data → Plain cfg'.componentSlug.data →
      (cacheDir home cfg = cacheDir home cfg' ↔
        cfg.projectSlug = cfg'.projectSlug ∧ cfg.componentSlug = cfg'.componentSlug) ∧
      StrictlyBelow (join [home, ".deploy-guard"]) (cacheDir home cfg) := by
  obtain ⟨rooted, base, normal, root, plainDir, -⟩ := cacheDir_data home
  have deployGuard : Plain ".deploy-guard".data := by unfold Plain dotdot; decide
  have dirNormal {cfg : Config} (project : Plain cfg.projectSlug.data)
      (component : Plain cfg.componentSlug.data) :=
    (@foldl_cleanStep_plain_normal _ _ normal
      [".deploy-guard".data, cfg.projectSlug.data, cfg.componentSlug.data]
      (by simp [deployGuard, project, component])).2
  intro cfg cfg' project component project' component'
  refine ⟨⟨fun same => ?_, fun ⟨sameProject, sameComponent⟩ => by
    simp [cacheDir, sameProject, sameComponent]⟩, String.ext ?_, ?_⟩
  · have elementsSame := render_inj (dirNormal project component) (dirNormal project' component')
      ((plainDir cfg project component).symm.trans
        ((congrArg String.data same).trans (plainDir cfg' project' component')))
    simp only [List.append_cancel_left_eq, List.cons.injEq, true_and] at elementsSame
    exact ⟨String.ext elementsSame.1, String.ext elementsSame.2.1⟩
  · simp only [clean, plainDir cfg project component,
      cleanChars_render (dirNormal project component)]
  · rw [String.data_append, root, plainDir cfg project component, show "/".data = ['/'] from rfl,
      show base ++ [".deploy-guard".data, cfg.projectSlug.data, cfg.componentSlug.data] =
        (base ++ [".deploy-guard".data]) ++ [cfg.projectSlug.data, cfg.componentSlug.data] by simp,
      @render_append rooted (base ++ [".deploy-guard".data]) _ (by simp) (by simp)]
    exact ⟨joinElements [cfg.projectSlug.data, cfg.componentSlug.data], by simp⟩

theorem cacheDir_slash_collides :
    ∀ cfg cfg' : Config, cfg.projectSlug = "a/b" → cfg.componentSlug = "c" →
      cfg'.projectSlug = "a" → cfg'.componentSlug = "b/c" →
      cacheDir home cfg = cacheDir home cfg' ∧
      ∀ t made licenseKey verifiedAt publicData signature,
        loadCachedLicense home cfg' (runOps
            (cacheLicense home cfg made none licenseKey verifiedAt publicData signature) t) =
          .ok ⟨licenseKey, publicData, signature, verifiedAt⟩ := by
  intro cfg cfg' project component project' component'
  have same : cacheDir home cfg = cacheDir home cfg' := by
    rw [cacheDir, cacheDir, project, component, project', component']
    by_cases homeEmpty : home = ""
    · subst homeEmpty; rfl
    · simp only [join, homeEmpty, if_false]
      congr 1
      apply String.ext
      simp only [intercalate_data, List.map_cons, List.map_nil, joinElements_cons_cons]
      rfl
  refine ⟨same, fun t made licenseKey verifiedAt publicData signature => ?_⟩
  have samePath : cachePath home cfg' = cachePath home cfg := by rw [cachePath, cachePath, same]
  unfold loadCachedLicense
  rw [samePath]
  exact loadCachedLicense_cacheLicense home cfg made licenseKey verifiedAt publicData signature t

theorem cachePath_dotdot_escapes :
    ∀ cfg : Config, cfg.projectSlug = ".." → cfg.componentSlug = "x" →
      ¬ StrictlyBelow (join [home, ".deploy-guard"]) (cachePath home cfg) := by
  obtain ⟨rooted, base, normal, root, -, escapedDir⟩ := cacheDir_data home
  rintro cfg project component ⟨-, startsWith⟩
  have deployGuard : Plain ".deploy-guard".data := by unfold Plain dotdot; decide
  have x : Plain ['x'] := by unfold Plain dotdot; decide
  have licenseCache : Plain "license.cache".data := by unfold Plain dotdot; decide
  have fileData :
      (cachePath home cfg).data = render rooted (base ++ [['x'], "license.cache".data]) := by
    rw [cachePath, show cacheDir home cfg = ⟨render rooted (base ++ [['x']])⟩ from
        String.ext (escapedDir cfg project component),
      join_render_plain (foldl_cleanStep_plain_normal normal (List.forall_mem_singleton.mpr x)).2
        licenseCache]
    simp
  rw [String.data_append, root, fileData, show "/".data = ['/'] from rfl] at startsWith
  obtain ⟨-, -, rest, -, split⟩ := eq_append_of_render_prefix
    (foldl_cleanStep_plain_normal normal (List.forall_mem_singleton.mpr deployGuard)).2
    (@foldl_cleanStep_plain_normal _ _ normal [['x'], "license.cache".data]
      (by simp [x, licenseCache])).2 startsWith
  simp at split

/-- Plain slugs keep the pairs apart below `<home>/.deploy-guard`, but a slug holding `/` makes
two pairs share a directory, and a `..` slug puts the cache file outside that root. -/
theorem cacheDir_separates_only_plain_slugs :
    (∀ cfg cfg' : Config, Plain cfg.projectSlug.data → Plain cfg.componentSlug.data →
        Plain cfg'.projectSlug.data → Plain cfg'.componentSlug.data →
        (cacheDir home cfg = cacheDir home cfg' ↔
          cfg.projectSlug = cfg'.projectSlug ∧ cfg.componentSlug = cfg'.componentSlug) ∧
        StrictlyBelow (join [home, ".deploy-guard"]) (cacheDir home cfg)) ∧
      (∀ cfg cfg' : Config, cfg.projectSlug = "a/b" → cfg.componentSlug = "c" →
        cfg'.projectSlug = "a" → cfg'.componentSlug = "b/c" →
        cacheDir home cfg = cacheDir home cfg' ∧
        ∀ t made licenseKey verifiedAt publicData signature,
          loadCachedLicense home cfg' (runOps
              (cacheLicense home cfg made none licenseKey verifiedAt publicData signature) t) =
            .ok ⟨licenseKey, publicData, signature, verifiedAt⟩) ∧
      ∀ cfg : Config, cfg.projectSlug = ".." → cfg.componentSlug = "x" →
        ¬ StrictlyBelow (join [home, ".deploy-guard"]) (cachePath home cfg) :=
  ⟨cacheDir_plain_slugs home, cacheDir_slash_collides home, cachePath_dotdot_escapes home⟩

end

end BanyanGuard
