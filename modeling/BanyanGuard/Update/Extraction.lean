import BanyanGuard.Update.Frontend

/-!
# What the extraction loop leaves behind

Entries are opened without `O_TRUNC`, so a path holds the last entry's data followed by the
part of earlier content that extends past it.
-/

namespace BanyanGuard

/-- The content of a regular file; `none` for a directory or a missing node. -/
def Node.content? : Option Node → Option (List UInt8)
  | some (.file content) => some content
  | _ => none

/-- The content after `data` is written at offset 0, without `O_TRUNC`, over `old`. -/
def layer (data : List UInt8) (old : Option (List UInt8)) : List UInt8 :=
  data ++ (old.getD []).drop data.length

/-- The content after each of `writes` in turn, over `old`. -/
def layered (old : Option (List UInt8)) : List (List UInt8) → Option (List UInt8)
  | [] => old
  | data :: rest => layered (some (layer data old)) rest

/-- The data of the entries the loop writes to `p`, in archive order. -/
def writesTo (tmpDir p : String) (archive : List TarHeader) : List (List UInt8) :=
  (archive.filter fun hdr =>
    Filepath.hasPrefix (Filepath.clean (Filepath.join [tmpDir, hdr.name]))
        (Filepath.clean tmpDir ++ "/") &&
      hdr.typeflag == typeReg && Filepath.join [tmpDir, hdr.name] == p).map TarHeader.data

theorem layered_append_singleton (old : Option (List UInt8)) (writes : List (List UInt8))
    (data : List UInt8) :
    layered old (writes ++ [data]) = some (layer data (layered old writes)) := by
  induction writes generalizing old with
  | nil => rfl
  | cons write rest inductionHypothesis => exact inductionHypothesis _

theorem length_layer (data : List UInt8) (old : Option (List UInt8)) :
    (layer data old).length = max data.length (old.getD []).length := by
  simp only [layer, List.length_append, List.length_drop]
  omega

theorem length_layered_le {old : Option (List UInt8)} {writes : List (List UInt8)} {n : Nat} :
    ((layered old writes).getD []).length ≤ n ↔
      (old.getD []).length ≤ n ∧ ∀ data ∈ writes, data.length ≤ n := by
  induction writes generalizing old with
  | nil => simp [layered]
  | cons data rest inductionHypothesis =>
    rw [layered, inductionHypothesis]
    simp only [Option.getD_some, length_layer, Nat.max_le, List.forall_mem_cons, and_assoc]
    exact and_left_comm

theorem layered_eq_last_iff {earlier : List (List UInt8)} {last : List UInt8} :
    layered none (earlier ++ [last]) = some last ↔
      ∀ data ∈ earlier, data.length ≤ last.length := by
  rw [layered_append_singleton, Option.some.injEq, layer, List.append_right_eq_self,
    List.drop_eq_nil_iff, length_layered_le]
  simp

@[simp] theorem content_run_mkdirAll (q : String) (t : Tree) (p : String) :
    Node.content? ((FsOp.mkdirAll q).run t p) = Node.content? (t p) := by
  simp only [FsOp.run]
  split
  · simp_all [Node.content?]
  · rfl

theorem content_run_writeFile (q : String) (data : List UInt8) (t : Tree) (p : String) :
    Node.content? ((FsOp.writeFile q data false).run t p) =
      if p = q then some (layer data (Node.content? (t p))) else Node.content? (t p) := by
  simp only [FsOp.run, Function.update_apply]
  split
  · rename_i same
    subst same
    rcases t p with _ | _ | _ <;> simp [overwrite, layer, Node.content?]
  · rfl

theorem content_extractEntries {openFile : String → Option GoError}
    {archiveEnd : Option GoError} {tmpDir : String} {archive : List TarHeader}
    (finished : (extractEntries openFile archiveEnd tmpDir archive).2 = none) (t : Tree)
    (p : String) :
    Node.content? (runOps (extractEntries openFile archiveEnd tmpDir archive).1 t p) =
      layered (Node.content? (t p)) (writesTo tmpDir p archive) := by
  induction archive generalizing t with
  | nil => rfl
  | cons hdr rest inductionHypothesis =>
    simp only [extractEntries] at finished ⊢
    by_cases checked : Filepath.hasPrefix (Filepath.clean (Filepath.join [tmpDir, hdr.name]))
        (Filepath.clean tmpDir ++ "/") = true
    swap
    · simp only [checked, Bool.not_false, if_true] at finished ⊢
      simpa [writesTo, checked] using inductionHypothesis finished t
    simp only [checked, Bool.not_true, if_false, Bool.false_eq_true] at finished ⊢
    by_cases directory : hdr.typeflag = typeDir
    · simp only [directory, if_true] at finished ⊢
      have notRegular : (typeDir == typeReg) = false := by decide
      rw [runOps_cons, inductionHypothesis finished, content_run_mkdirAll]
      simp [writesTo, directory, notRegular]
    simp only [directory, if_false] at finished ⊢
    by_cases regular : hdr.typeflag = typeReg
    swap
    · simp only [regular, if_false] at finished ⊢
      simpa [writesTo, regular] using inductionHypothesis finished t
    simp only [regular, if_true] at finished ⊢
    split at finished
    · cases finished
    · cases finished
    rename_i opened copied
    simp only [opened, copied, runOps_cons]
    rw [inductionHypothesis finished, content_run_writeFile, content_run_mkdirAll]
    by_cases target : p = Filepath.join [tmpDir, hdr.name]
    · simp [writesTo, checked, regular, target, layered]
    · simp [writesTo, checked, regular, target, Ne.symm target]

/-- After the loop ran without error, a path holds the layers of the entries written to it;
it holds the last entry's data exactly when no earlier entry of its name was longer. -/
theorem extractEntries_keeps_earlier_tails {openFile : String → Option GoError}
    {archiveEnd : Option GoError} {tmpDir : String} {archive : List TarHeader}
    (finished : (extractEntries openFile archiveEnd tmpDir archive).2 = none) (t : Tree)
    (p : String) :
    Node.content? (runOps (extractEntries openFile archiveEnd tmpDir archive).1 t p) =
        layered (Node.content? (t p)) (writesTo tmpDir p archive) ∧
      ∀ earlier last, writesTo tmpDir p archive = earlier ++ [last] → t p = none →
        (Node.content? (runOps (extractEntries openFile archiveEnd tmpDir archive).1 t p) =
            some last ↔
          ∀ data ∈ earlier, data.length ≤ last.length) := by
  refine ⟨content_extractEntries finished t p, fun earlier last written fresh => ?_⟩
  rw [content_extractEntries finished t p, written, fresh]
  exact layered_eq_last_iff

/-- A `tar.gz` bundle of `a.txt` (bytes 1, 2, 3), then `a.txt` again (byte 9). -/
def rewriteBundle : List UInt8 :=
  [31, 139, 8, 0, 0, 0, 0, 0, 2, 3, 75, 212, 43, 169, 40, 97, 160, 45, 48, 0, 2, 51, 19, 19, 48, 13,
    4, 232, 52, 16, 24, 35, 177, 65, 226, 102, 230, 134, 230, 12, 10, 6, 12, 116, 0, 165, 197, 37,
    137, 69, 64, 43, 25, 70, 38, 96, 100, 98, 102, 24, 5, 35, 23, 36, 14, 138, 252, 111, 136, 153,
    255, 77, 71, 243, 63, 61, 0, 231, 104, 22, 24, 5, 163, 96, 20, 140, 130, 17, 9, 0, 46, 2, 112,
    168, 0, 12, 0, 0]

set_option maxRecDepth 2000 in
/-- `a.txt` written with three bytes, then with one, keeps the first entry's tail, and so it is
installed in `/srv/web`. -/
theorem extractEntries_shorter_rewrite :
    let archive : List TarHeader :=
      [⟨"a.txt", typeReg, [1, 2, 3], none⟩, ⟨"a.txt", typeReg, [9], none⟩]
    (extractEntries (fun _ => none) none "/tmp/web" archive).2 = none ∧
      Node.content? (runOps (extractEntries (fun _ => none) none "/tmp/web" archive).1
        (fun _ => none) "/tmp/web/a.txt") = some [9, 2, 3] ∧
      Node.content? (runOps (UpdateEffect.fsOps
        (updateFrontend Primitives.sample
          ⟨"", "demo", "app", ⟨hour⟩,
            ⟨true, true, "linux", "amd64", 1024, false, false, false⟩, []⟩
          ⟨.ok ⟨"/web.tar.gz", encodeToString (Primitives.sample.sum256 rewriteBundle), ""⟩,
            .ok ⟨200, ⟨[rewriteBundle], none⟩⟩, .ok "/tmp/web", none, archive, none, 1,
            fun _ => none, false, none, none, none⟩
          ⟨"1.0.0", fun _ => "1.0.0"⟩
          ⟨"web", "/srv/web", UpdateStrategy.updateFrontend, false⟩
          ⟨"web", "2.0.0", true⟩)) (fun _ => none) "/srv/web/a.txt") = some [9, 2, 3] := by
  intro archive
  have finished : (extractEntries (fun _ => none) none "/tmp/web" archive).2 = none := by decide
  exact ⟨finished,
    (extractEntries_keeps_earlier_tails finished (fun _ => none) "/tmp/web/a.txt").1.trans
      (by decide), by decide⟩

end BanyanGuard
