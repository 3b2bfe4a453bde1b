import BanyanGuard.Update.Frontend

/-!
# The directory swap of a frontend update

The swap moves whole subtrees, so with a temporary directory apart from `mc.Dir` and its
backup, `mc.Dir` ends as it was, as the extracted tree, or empty.
-/

namespace BanyanGuard

section

variable {dir tmpDir : String}

theorem movedIn_of_removed (apartBackup : Apart tmpDir (dir ++ ".bak")) (t : Tree) :
    ∀ p, within dir p →
      runOps [.rename tmpDir dir] ((FsOp.removeAll (dir ++ ".bak")).run t) p =
        t (rebase tmpDir dir p) := fun _ inside =>
  (run_rename_of_within inside _).trans
    (run_removeAll_of_apart apartBackup (within_rebase inside) t)

theorem movedIn_of_backedUp (apartDir : Apart tmpDir dir)
    (apartBackup : Apart tmpDir (dir ++ ".bak")) (t : Tree) :
    ∀ p, within dir p →
      runOps [.rename dir (dir ++ ".bak"), .rename tmpDir dir]
        ((FsOp.removeAll (dir ++ ".bak")).run t) p = t (rebase tmpDir dir p) := fun _ inside =>
  (run_rename_of_within inside _).trans <|
    (run_rename_of_apart apartDir apartBackup (within_rebase inside) _).trans
      (run_removeAll_of_apart apartBackup (within_rebase inside) t)

end

/-- At and below `dir`: what was there, what was below `src`, or nothing. -/
def Swapped (dir src : String) (t t' : Tree) : Prop :=
  (∀ p, within dir p → t' p = t p) ∨ (∀ p, within dir p → t' p = t (rebase src dir p)) ∨
    ∀ p, within dir p → t' p = none

section

variable {cfg : Config} {env : FrontendEnv} {versions : Versions} {mc : ManagedComponent}
  {u : UpdateInfo} {tmpDir : String}

theorem fsOps_installDirectory :
    UpdateEffect.fsOps (installDirectory cfg env versions mc u tmpDir) =
      match env.renameNew, env.renameBack with
      | some _, none => [.rename (mc.dir ++ ".bak") mc.dir]
      | some _, some _ => []
      | none, _ => [.rename tmpDir mc.dir] := by
  unfold installDirectory
  cases env.renameNew <;> cases env.renameBack <;> simp

theorem fsOps_swapDirectory :
    UpdateEffect.fsOps (swapDirectory cfg env versions mc u tmpDir) =
      .removeAll (mc.dir ++ ".bak") ::
        if env.dirExists then
          match env.renameBackup with
          | some _ => []
          | none =>
            .rename mc.dir (mc.dir ++ ".bak") ::
              UpdateEffect.fsOps (installDirectory cfg env versions mc u tmpDir)
        else UpdateEffect.fsOps (installDirectory cfg env versions mc u tmpDir) := by
  unfold swapDirectory
  cases env.dirExists <;> cases env.renameBackup <;> simp

theorem runOps_swapDirectory (apartDir : Apart tmpDir mc.dir)
    (apartBackup : Apart tmpDir (mc.dir ++ ".bak")) (t : Tree) :
    Swapped mc.dir tmpDir t
      (runOps (UpdateEffect.fsOps (swapDirectory cfg env versions mc u tmpDir)) t) := by
  have backup := apart_backup mc.dir
  have removedDir : ∀ p, within mc.dir p → (FsOp.removeAll (mc.dir ++ ".bak")).run t p = t p :=
    fun p inside => run_removeAll_of_apart backup inside t
  rw [fsOps_swapDirectory, fsOps_installDirectory]
  cases env.dirExists with
  | true =>
    cases env.renameBackup with
    | some _ => exact .inl removedDir
    | none =>
      cases env.renameNew with
      | none => exact .inr (.inl (movedIn_of_backedUp apartDir apartBackup t))
      | some _ =>
        cases env.renameBack with
        | none => exact .inl fun p inside => (rename_rename inside _).trans (removedDir p inside)
        | some _ =>
          refine .inr (.inr fun p inside => ?_)
          simp [FsOp.run, within_eq_false_of_apart backup inside, inside]
  | false =>
    cases env.renameNew with
    | none => exact .inr (.inl (movedIn_of_removed apartBackup t))
    | some _ =>
      cases env.renameBack with
      | none =>
        refine .inr (.inr fun p inside => ?_)
        simp [FsOp.run, inside, within_rebase inside]
      | some _ => exact .inl removedDir

theorem runOps_swapDirectory_of_setVersion {r : VersionRecord} {v : String}
    (written : .setVersion r v ∈ swapDirectory cfg env versions mc u tmpDir)
    (apartDir : Apart tmpDir mc.dir) (apartBackup : Apart tmpDir (mc.dir ++ ".bak"))
    (t : Tree) :
    ∀ p, within mc.dir p →
      runOps (UpdateEffect.fsOps (swapDirectory cfg env versions mc u tmpDir)) t p =
        t (rebase tmpDir mc.dir p) := by
  have renamed :=
    (setVersion_mem_installDirectory (setVersion_mem_swapDirectory written).1).2.2.1
  rw [fsOps_swapDirectory, fsOps_installDirectory, renamed]
  unfold swapDirectory at written
  cases existed : env.dirExists with
  | true =>
    cases backedUp : env.renameBackup with
    | some _ => simp [existed, backedUp] at written
    | none => exact movedIn_of_backedUp apartDir apartBackup t
  | false => exact movedIn_of_removed apartBackup t

end

section

variable (P : Primitives) {cfg : Config} {env : FrontendEnv} {versions : Versions}
  {mc : ManagedComponent} {u : UpdateInfo} {tmpDir : String}

theorem fsOps_updateFrontend_cases (created : env.tmpDir = .ok tmpDir) :
    UpdateEffect.fsOps (updateFrontend P cfg env versions mc u) = [] ∨
      ∃ extracted swapped,
        (extracted = [] ∨
          extracted = (extractEntries env.openFile env.archiveEnd tmpDir env.archive).1) ∧
        (swapped = [] ∨
          swapped = UpdateEffect.fsOps (swapDirectory cfg env versions mc u tmpDir) ∧
          extracted = (extractEntries env.openFile env.archiveEnd tmpDir env.archive).1 ∧
          ∃ resp httpResp, env.downloadMeta = .ok resp ∧ env.response = .ok httpResp ∧
            encodeToString (P.sum256 (teeHashed env.reads
              (httpResp.body.limit cfg.ota.maxArtifactBytes))) = resp.sha256) ∧
        UpdateEffect.fsOps (updateFrontend P cfg env versions mc u) =
          .mkdirTemp tmpDir :: (extracted ++ swapped ++ [.removeAll tmpDir]) := by
  unfold updateFrontend
  split
  · exact .inl (by simp)
  rename_i resp requested
  split
  · exact .inl (by simp)
  split
  · exact .inl (by simp)
  rename_i httpResp responded
  split
  · exact .inl (by simp)
  rw [created]
  dsimp only
  refine .inr ?_
  unfold extractAndSwap
  split
  · exact ⟨[], [], .inl rfl, .inl rfl, by simp⟩
  rcases ended : (extractEntries env.openFile env.archiveEnd tmpDir env.archive).2 with _ | err
  · by_cases matched : encodeToString (P.sum256 (teeHashed env.reads
        (httpResp.body.limit cfg.ota.maxArtifactBytes))) = resp.sha256
    · exact ⟨_, _, .inr rfl, .inr ⟨rfl, rfl, resp, httpResp, requested, responded, matched⟩,
        by simp [ended, matched]⟩
    · exact ⟨_, [], .inr rfl, .inl rfl, by simp [ended, matched]⟩
  · exact ⟨_, [], .inr rfl, .inl rfl, by simp [ended]⟩

theorem touches_extractEntries_of_apart {openFile : String → Option GoError}
    {archiveEnd : Option GoError} {archive : List TarHeader} {x p : String}
    (cleaned : Filepath.clean tmpDir = tmpDir) (apart : Apart tmpDir x) (inside : within x p) :
    ∀ op ∈ FsOp.mkdirTemp tmpDir :: (extractEntries openFile archiveEnd tmpDir archive).1,
      op.touches p = false := by
  intro op mem
  rcases List.mem_cons.mp mem with rfl | extracted
  · simp only [FsOp.touches, beq_eq_false_iff_ne]
    rintro rfl
    simp [apart.2] at inside
  obtain ⟨q, shape, placed⟩ := extractEntries_paths openFile archiveEnd tmpDir archive op extracted
  have below : within tmpDir q := by
    rw [cleaned] at placed
    rcases placed with rfl | strictly
    · exact within_self _
    · exact within_of_strictlyBelow strictly
  have notAbove := within_eq_false_of_apart_of_within apart inside below
  rcases shape with rfl | ⟨data, rfl⟩
  · simp [FsOp.touches, notAbove]
  · simp only [FsOp.touches, beq_eq_false_iff_ne]
    rintro rfl
    simp at notAbove

theorem runOps_removeAll_tmpDir_last {extracted swapped : List FsOp} {p : String}
    (apartDir : Apart tmpDir mc.dir) (inside : within mc.dir p) (t : Tree) :
    runOps (.mkdirTemp tmpDir :: (extracted ++ swapped ++ [.removeAll tmpDir])) t p =
      runOps swapped (runOps (.mkdirTemp tmpDir :: extracted) t) p := by
  rw [← List.cons_append, runOps_append_removeAll apartDir.symm inside, ← List.cons_append,
    runOps_append]

/-- The paths of a frontend swap as the OS resolves them, the temporary directory apart from
`dir` and from its backup path. -/
structure SwapPaths (tmpDir dir : String) : Prop where
  tmpDirResolved : Resolved tmpDir
  dirResolved : Resolved dir
  apartDir : Apart tmpDir dir
  apartBackup : Apart tmpDir (dir ++ ".bak")

/-- With resolved paths and the temporary directory apart from `mc.Dir` and its backup, `mc.Dir`
ends as it was, as the extracted tree after the digest matched, or empty. -/
theorem updateFrontend_replaces_dir_whole (created : env.tmpDir = .ok tmpDir)
    (paths : SwapPaths tmpDir mc.dir) (t : Tree) :
    (∀ p, within mc.dir p →
      runOps (UpdateEffect.fsOps (updateFrontend P cfg env versions mc u)) t p = t p) ∨
    ((∃ resp httpResp, env.downloadMeta = .ok resp ∧ env.response = .ok httpResp ∧
        encodeToString (P.sum256 (teeHashed env.reads
          (httpResp.body.limit cfg.ota.maxArtifactBytes))) = resp.sha256) ∧
      ∀ p, within mc.dir p →
        runOps (UpdateEffect.fsOps (updateFrontend P cfg env versions mc u)) t p =
          runOps (.mkdirTemp tmpDir :: (extractEntries env.openFile env.archiveEnd tmpDir
            env.archive).1) t (rebase tmpDir mc.dir p)) ∨
    ∀ p, within mc.dir p →
      runOps (UpdateEffect.fsOps (updateFrontend P cfg env versions mc u)) t p = none := by
  obtain ⟨⟨cleaned, -⟩, -, apartDir, apartBackup⟩ := paths
  rcases fsOps_updateFrontend_cases P created with
    none | ⟨extracted, swapped, extraction, swap, ops⟩
  · exact .inl fun p _ => by rw [none]; rfl
  rw [ops]
  -- before the swap nothing at or below `mc.Dir` changed
  have kept : ∀ p, within mc.dir p → runOps (.mkdirTemp tmpDir :: extracted) t p = t p :=
    fun p inside => runOps_of_not_touches (fun op mem =>
      touches_extractEntries_of_apart cleaned apartDir inside op (by
        rcases extraction with rfl | rfl
        · exact List.cons_subset_cons _ (List.nil_subset _) mem
        · exact mem)) t
  rcases swap with rfl | ⟨rfl, rfl, verified⟩
  · exact .inl fun p inside =>
      (runOps_removeAll_tmpDir_last apartDir inside t).trans (kept p inside)
  rcases runOps_swapDirectory apartDir apartBackup (runOps (.mkdirTemp tmpDir ::
      (extractEntries env.openFile env.archiveEnd tmpDir env.archive).1) t) with
    old | new | gone
  · exact .inl fun p inside => ((runOps_removeAll_tmpDir_last apartDir inside t).trans
      (old p inside)).trans (kept p inside)
  · exact .inr (.inl ⟨verified, fun p inside =>
      (runOps_removeAll_tmpDir_last apartDir inside t).trans (new p inside)⟩)
  · exact .inr (.inr fun p inside =>
      (runOps_removeAll_tmpDir_last apartDir inside t).trans (gone p inside))

/-- When `updateFrontend` records a version, `mc.Dir` holds exactly the extracted tree. -/
theorem updateFrontend_records_installed_tree {r : VersionRecord} {v : String}
    (written : .setVersion r v ∈ updateFrontend P cfg env versions mc u)
    (created : env.tmpDir = .ok tmpDir) (apartDir : Apart tmpDir mc.dir)
    (apartBackup : Apart tmpDir (mc.dir ++ ".bak")) (t : Tree) :
    r = .managed mc.slug ∧ v = u.latest ∧ ∀ p, within mc.dir p →
      runOps (UpdateEffect.fsOps (updateFrontend P cfg env versions mc u)) t p =
        runOps (.mkdirTemp tmpDir :: (extractEntries env.openFile env.archiveEnd tmpDir
          env.archive).1) t (rebase tmpDir mc.dir p) := by
  obtain ⟨rfl, rfl, -, tmpDir', pre, post, created', traced⟩ := updateFrontend_setVersion written
  obtain ⟨_, _, tmpDir'', -, -, created'', -, inSwap, -⟩ := updateFrontend_of_isInstall written rfl
  have same' : tmpDir = tmpDir' := Except.ok.inj (created.symm.trans created')
  have same'' : tmpDir = tmpDir'' := Except.ok.inj (created.symm.trans created'')
  subst same' same''
  have moved : FsOp.rename tmpDir mc.dir ∈
      UpdateEffect.fsOps (updateFrontend P cfg env versions mc u) :=
    UpdateEffect.mem_fsOps.mpr (by simp [traced])
  refine ⟨rfl, rfl, ?_⟩
  rcases fsOps_updateFrontend_cases P created with
    none | ⟨extracted, swapped, extraction, swap, ops⟩
  · rw [none] at moved
    exact absurd moved (List.not_mem_nil _)
  rw [ops] at moved ⊢
  rcases swap with rfl | ⟨rfl, rfl, -⟩
  · -- without the swap the only renames would be the extraction's, and it renames nothing
    simp only [List.mem_cons, List.mem_append, List.mem_singleton, List.not_mem_nil,
      reduceCtorEq, false_or, or_false] at moved
    rcases extraction with rfl | rfl
    · simp at moved
    · obtain ⟨q, shape, -⟩ := extractEntries_paths _ _ _ _ _ moved
      rcases shape with renamed | ⟨data, renamed⟩ <;> cases renamed
  · exact fun p inside => (runOps_removeAll_tmpDir_last apartDir inside t).trans
      (runOps_swapDirectory_of_setVersion inSwap apartDir apartBackup _ p inside)

/-- A `tar.gz` bundle of `index.html` (byte 1). -/
def pageBundle : List UInt8 :=
  [31, 139, 8, 0, 0, 0, 0, 0, 2, 3, 203, 204, 75, 73, 173, 208, 203, 40, 201, 205, 97, 160, 25, 48,
    0, 2, 51, 19, 19, 48, 13, 4, 232, 52, 16, 24, 34, 177, 65, 226, 230, 230, 198, 134, 12, 10, 6,
    12, 116, 0, 165, 197, 37, 137, 69, 64, 43, 25, 70, 38, 96, 100, 24, 5, 163, 96, 20, 140, 130,
    81, 48, 18, 1, 0, 206, 131, 72, 149, 0, 8, 0, 0]

set_option maxRecDepth 2000 in
/-- The one-page bundle above installed over `/srv/www`, whose version is recorded. -/
theorem updateFrontend_records_installed_page :
    let cfg : Config :=
      ⟨"", "demo", "app", ⟨hour⟩, ⟨true, true, "linux", "amd64", 1024, false, false, false⟩, []⟩
    let env : FrontendEnv :=
      ⟨.ok ⟨"/web.tar.gz", encodeToString (Primitives.sample.sum256 pageBundle), ""⟩,
        .ok ⟨200, ⟨[pageBundle], none⟩⟩, .ok "/tmp/frontend-1", none,
        [⟨"index.html", typeReg, [1], none⟩], none, 1, fun _ => none, true, none, none, none⟩
    let mc : ManagedComponent := ⟨"web", "/srv/www", UpdateStrategy.updateFrontend, false⟩
    let trace := updateFrontend Primitives.sample cfg env ⟨"1.0.0", fun _ => "1.0.0"⟩ mc
      ⟨"web", "2.0.0", true⟩
    (.setVersion (.managed "web") "2.0.0" ∈ trace ∧ env.tmpDir = .ok "/tmp/frontend-1" ∧
      Apart "/tmp/frontend-1" mc.dir ∧ Apart "/tmp/frontend-1" (mc.dir ++ ".bak")) ∧
    VersionRecord.managed "web" = .managed mc.slug ∧ "2.0.0" = "2.0.0" ∧
      ∀ p, within mc.dir p → runOps (UpdateEffect.fsOps trace) (fun _ => none) p =
        runOps (.mkdirTemp "/tmp/frontend-1" :: (extractEntries env.openFile env.archiveEnd
          "/tmp/frontend-1" env.archive).1) (fun _ => none)
          (rebase "/tmp/frontend-1" mc.dir p) := by
  intro cfg env mc trace
  have written : .setVersion (.managed "web") "2.0.0" ∈ trace := by decide
  have created : env.tmpDir = .ok "/tmp/frontend-1" := rfl
  have apartDir : Apart "/tmp/frontend-1" mc.dir := by decide
  have apartBackup : Apart "/tmp/frontend-1" (mc.dir ++ ".bak") := by decide
  exact ⟨⟨written, created, apartDir, apartBackup⟩,
    updateFrontend_records_installed_tree Primitives.sample written created apartDir apartBackup _⟩

/-- The one-page bundle over `/srv/www`. -/
theorem updateFrontend_replaces_srv_whole :
    let cfg : Config :=
      ⟨"", "demo", "app", ⟨hour⟩, ⟨true, true, "linux", "amd64", 1024, false, false, false⟩, []⟩
    let env : FrontendEnv :=
      ⟨.ok ⟨"/web.tar.gz", encodeToString (Primitives.sample.sum256 pageBundle), ""⟩,
        .ok ⟨200, ⟨[pageBundle], none⟩⟩, .ok "/tmp/frontend-1", none,
        [⟨"index.html", typeReg, [1], none⟩], none, 1, fun _ => none, true, none, none, none⟩
    let mc : ManagedComponent := ⟨"web", "/srv/www", UpdateStrategy.updateFrontend, false⟩
    let old : Tree := fun p => if p = "/srv/www" then some .dir else none
    let run := runOps (UpdateEffect.fsOps (updateFrontend Primitives.sample cfg env
      ⟨"1.0.0", fun _ => ""⟩ mc ⟨"web", "2.0.0", true⟩)) old
    (env.tmpDir = .ok "/tmp/frontend-1" ∧ SwapPaths "/tmp/frontend-1" mc.dir) ∧
    ((∀ p, within mc.dir p → run p = old p) ∨
      ((∃ resp httpResp, env.downloadMeta = .ok resp ∧ env.response = .ok httpResp ∧
          encodeToString (Primitives.sample.sum256 (teeHashed env.reads
            (httpResp.body.limit cfg.ota.maxArtifactBytes))) = resp.sha256) ∧
        ∀ p, within mc.dir p →
          run p = runOps (.mkdirTemp "/tmp/frontend-1" :: (extractEntries env.openFile
            env.archiveEnd "/tmp/frontend-1" env.archive).1) old
              (rebase "/tmp/frontend-1" mc.dir p)) ∨
      ∀ p, within mc.dir p → run p = none) := by
  intro cfg env mc old run
  have created : env.tmpDir = .ok "/tmp/frontend-1" := rfl
  have paths : SwapPaths "/tmp/frontend-1" mc.dir := ⟨by decide, by decide, by decide, by decide⟩
  exact ⟨⟨created, paths⟩, updateFrontend_replaces_dir_whole Primitives.sample created paths _⟩

end

end BanyanGuard
