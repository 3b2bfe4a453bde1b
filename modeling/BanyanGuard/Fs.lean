import BanyanGuard.Path

/-!
# The file tree

The tree maps each path to its node, and an operation is listed only when its call
succeeded.  `rename` moves a whole subtree over its destination, as `rename(2)` does;
`writeFile` keeps the tail of a longer old file unless it was opened with `O_TRUNC`.
-/

namespace BanyanGuard

inductive Node where
  | file (content : List UInt8)
  | dir
  deriving DecidableEq, Repr

/-- The node at each path. -/
abbrev Tree := String → Option Node

/-- `p` is `q` or lies below it. -/
def within (q p : String) : Bool := p == q || Filepath.hasPrefix p (q ++ "/")

/-- The path `p` under `dst` taken to the same place under `src`. -/
def rebase (src dst p : String) : String := ⟨src.data ++ p.data.drop dst.data.length⟩

/-- A file-system call that succeeded. -/
inductive FsOp where
  /-- `os.CreateTemp` and the bytes then written to the file. -/
  | createTemp (path : String) (content : List UInt8)
  | remove (path : String)
  | removeAll (path : String)
  | mkdirTemp (path : String)
  | mkdirAll (path : String)
  /-- `os.OpenFile` with `O_CREATE|O_WRONLY`, with `O_TRUNC` when `truncate`, and the
  bytes then written. -/
  | writeFile (path : String) (data : List UInt8) (truncate : Bool)
  | rename (src dst : String)
  deriving DecidableEq, Repr

/-- A file's content after `data` is written at offset 0 of what was at its path. -/
def overwrite (data : List UInt8) (truncate : Bool) : Option Node → List UInt8
  | some (.file old) => if truncate then data else data ++ old.drop data.length
  | _ => data

@[simp] theorem overwrite_truncate (data : List UInt8) (old : Option Node) :
    overwrite data true old = data := by
  rcases old with _ | _ | _ <;> rfl

namespace FsOp

/-- The paths an operation may change. -/
def touches : FsOp → String → Bool
  | createTemp path _, p | remove path, p | mkdirTemp path, p | writeFile path _ _, p => p == path
  | removeAll path, p => within path p
  | mkdirAll path, p => p != "" && within p path
  | rename src dst, p => within src p || within dst p

def run : FsOp → Tree → Tree
  | createTemp path content, t => Function.update t path (some (.file content))
  | remove path, t => Function.update t path none
  | removeAll path, t => fun p => if within path p then none else t p
  | mkdirTemp path, t => Function.update t path (some .dir)
  | mkdirAll path, t => fun p => if p != "" && within p path && t p == none then some .dir else t p
  | writeFile path data truncate, t =>
    Function.update t path (some (.file (overwrite data truncate (t path))))
  | rename src dst, t => fun p =>
    if within dst p then t (rebase src dst p) else if within src p then none else t p

theorem run_of_not_touches {op : FsOp} {p : String} (untouched : op.touches p = false) (t : Tree) :
    op.run t p = t p := by
  cases op <;> simp_all [touches, run, Function.update_apply]

end FsOp

/-- The tree after a sequence of operations. -/
def runOps (ops : List FsOp) (t : Tree) : Tree := ops.foldl (fun t op => op.run t) t

@[simp] theorem runOps_nil (t : Tree) : runOps [] t = t := rfl

@[simp] theorem runOps_cons (op : FsOp) (ops : List FsOp) (t : Tree) :
    runOps (op :: ops) t = runOps ops (op.run t) := rfl

theorem runOps_append (ops ops' : List FsOp) (t : Tree) :
    runOps (ops ++ ops') t = runOps ops' (runOps ops t) := List.foldl_append _ _ _ _

theorem runOps_of_not_touches {ops : List FsOp} {p : String}
    (untouched : ∀ op ∈ ops, op.touches p = false) (t : Tree) : runOps ops t p = t p := by
  induction ops generalizing t with
  | nil => rfl
  | cons op ops inductionHypothesis =>
    rw [runOps_cons,
      inductionHypothesis (fun op' mem => untouched op' (List.mem_cons_of_mem _ mem)),
      FsOp.run_of_not_touches (untouched op (List.mem_cons_self _ _))]

theorem within_iff {q p : String} :
    within q p ↔ ∃ rest, p.data = q.data ++ rest ∧ (rest = [] ∨ rest.head? = some '/') := by
  obtain ⟨qs⟩ := q
  obtain ⟨ps⟩ := p
  simp only [within, Filepath.hasPrefix, Bool.or_eq_true, beq_iff_eq, String.ext_iff,
    List.isPrefixOf_iff_prefix]
  constructor
  · rintro (same | ⟨rest, grown⟩)
    · exact ⟨[], by simp [same], .inl rfl⟩
    · exact ⟨'/' :: rest, by simpa [String.append] using grown.symm, .inr rfl⟩
  · rintro ⟨rest, rfl, rfl | slash⟩
    · simp
    · obtain ⟨tail, rfl⟩ : ∃ tail, rest = '/' :: tail := by
        cases rest with
        | nil => simp at slash
        | cons c tail => simp_all
      exact .inr ⟨tail, by simp [String.append]⟩

@[simp] theorem within_self (p : String) : within p p := by simp [within]

theorem within_comparable {c q p : String} (cAbove : within c p) (qAbove : within q p) :
    within c q ∨ within q c := by
  obtain ⟨restC, pC, tailC⟩ := within_iff.mp cAbove
  obtain ⟨restQ, pQ, tailQ⟩ := within_iff.mp qAbove
  rcases List.append_eq_append_iff.mp (pC.symm.trans pQ) with
    ⟨m, qData, restC'⟩ | ⟨m, cData, restQ'⟩
  · -- `q` extends `c` by `m`
    refine .inl (within_iff.mpr ⟨m, qData, ?_⟩)
    cases m with
    | nil => exact .inl rfl
    | cons x xs => rcases tailC with h | h <;> simp_all
  · refine .inr (within_iff.mpr ⟨m, cData, ?_⟩)
    cases m with
    | nil => exact .inl rfl
    | cons x xs => rcases tailQ with h | h <;> simp_all

theorem within_of_strictlyBelow {root p : String} (below : Filepath.StrictlyBelow root p) :
    within root p := by
  simpa [within, Filepath.hasPrefix, List.isPrefixOf_iff_prefix] using Or.inr below.2

@[simp] theorem rebase_self (src dst : String) : rebase src dst dst = src := by
  rw [rebase, List.drop_length, List.append_nil]

theorem rename_rename {src dst p : String} (inside : within src p) (t : Tree) :
    (FsOp.rename dst src).run ((FsOp.rename src dst).run t) p = t p := by
  obtain ⟨rest, pData, tail⟩ := within_iff.mp inside
  have there : within dst (rebase dst src p) :=
    within_iff.mpr ⟨rest, by simp [rebase, pData], tail⟩
  have back : rebase src dst (rebase dst src p) = p := by
    obtain ⟨ps⟩ := p
    simp only [rebase, String.ext_iff] at pData ⊢
    simp [pData]
  simp [FsOp.run, inside, there, back]

/-- Neither path lies at or below the other. -/
def Apart (a b : String) : Prop := within a b = false ∧ within b a = false

instance (a b : String) : Decidable (Apart a b) := inferInstanceAs (Decidable (_ ∧ _))

theorem Apart.symm {a b : String} (apart : Apart a b) : Apart b a := ⟨apart.2, apart.1⟩

/-- `p` names a path as the OS resolves it: clean, absolute and not the root.  Between such
paths `within` is the OS's "at or below", and `p ++ ".bak"` is a sibling of `p`, while a `p`
with a trailing slash would have its backup path as a child. -/
def Resolved (p : String) : Prop := Filepath.clean p = p ∧ Filepath.hasPrefix p "/" ∧ p ≠ "/"

instance (p : String) : Decidable (Resolved p) := inferInstanceAs (Decidable (_ ∧ _ ∧ _))

theorem within_trans {a b c : String} (ab : within a b) (bc : within b c) : within a c := by
  obtain ⟨r₁, bData, tail₁⟩ := within_iff.mp ab
  obtain ⟨r₂, cData, tail₂⟩ := within_iff.mp bc
  refine within_iff.mpr ⟨r₁ ++ r₂, by rw [cData, bData, List.append_assoc], ?_⟩
  rcases tail₁ with rfl | slash
  · simpa using tail₂
  · cases r₁ with
    | nil => simp at slash
    | cons c rest => exact .inr (by simpa using slash)

theorem within_eq_false_of_apart {q x p : String} (apart : Apart q x) (inside : within q p) :
    within x p = false := by
  cases above : within x p
  · rfl
  · rcases within_comparable inside above with qx | xq
    · simp [apart.1] at qx
    · simp [apart.2] at xq

theorem within_eq_false_of_apart_of_within {q x p r : String} (apart : Apart q x)
    (inX : within x p) (inQ : within q r) : within p r = false := by
  cases above : within p r
  · rfl
  · exact absurd (within_trans inX above) (by simp [within_eq_false_of_apart apart inQ])

theorem within_rebase {src dst p : String} (inside : within dst p) :
    within src (rebase src dst p) := by
  obtain ⟨rest, pData, tail⟩ := within_iff.mp inside
  exact within_iff.mpr ⟨rest, by simp [rebase, pData], tail⟩

theorem apart_backup (dir : String) : Apart dir (dir ++ ".bak") := by
  constructor
  · cases above : within dir (dir ++ ".bak")
    · rfl
    · obtain ⟨rest, data, tail⟩ := within_iff.mp above
      have suffix : rest = ".bak".data := by
        simpa [String.append] using data.symm
      subst suffix
      simp at tail
  · cases above : within (dir ++ ".bak") dir
    · rfl
    · obtain ⟨rest, data, -⟩ := within_iff.mp above
      have lengths := congrArg List.length data
      simp [String.append] at lengths

theorem run_removeAll_of_apart {a q p : String} (apart : Apart q a) (inside : within q p)
    (t : Tree) : (FsOp.removeAll a).run t p = t p := by
  simp [FsOp.run, within_eq_false_of_apart apart inside]

theorem run_rename_of_apart {src dst q p : String} (apartSrc : Apart q src)
    (apartDst : Apart q dst) (inside : within q p) (t : Tree) :
    (FsOp.rename src dst).run t p = t p := by
  simp [FsOp.run, within_eq_false_of_apart apartSrc inside,
    within_eq_false_of_apart apartDst inside]

theorem run_rename_of_within {src dst p : String} (inside : within dst p) (t : Tree) :
    (FsOp.rename src dst).run t p = t (rebase src dst p) := by
  simp [FsOp.run, inside]

theorem run_mkdirAll (path p : String) (t : Tree) :
    (FsOp.mkdirAll path).run t p = t p ∨
      t p = none ∧ (FsOp.mkdirAll path).run t p = some .dir := by
  by_cases missing : t p = none <;> simp [FsOp.run, missing]
  cases within p path <;> tauto

theorem runOps_of_touches_only_mkdirAll {ops : List FsOp} {p : String}
    (untouched : ∀ op ∈ ops, op.touches p = false ∨ ∃ path, op = .mkdirAll path) (t : Tree) :
    runOps ops t p = t p ∨ t p = none ∧ runOps ops t p = some .dir := by
  induction ops generalizing t with
  | nil => exact .inl rfl
  | cons op ops inductionHypothesis =>
    have first : op.run t p = t p ∨ t p = none ∧ op.run t p = some .dir := by
      rcases untouched op (List.mem_cons_self _ _) with alone | ⟨path, rfl⟩
      · exact .inl (FsOp.run_of_not_touches alone t)
      · exact run_mkdirAll path p t
    rw [runOps_cons]
    rcases inductionHypothesis (fun op mem => untouched op (List.mem_cons_of_mem _ mem))
      (op.run t) with kept | ⟨missing, made⟩
    · rcases first with same | ⟨missing', made'⟩
      · exact .inl (kept.trans same)
      · exact .inr ⟨missing', kept.trans made'⟩
    · rcases first with same | ⟨_, made'⟩
      · exact .inr ⟨same ▸ missing, made⟩
      · simp [made'] at missing

theorem runOps_append_removeAll {ops : List FsOp} {a q p : String} (apart : Apart q a)
    (inside : within q p) (t : Tree) : runOps (ops ++ [.removeAll a]) t p = runOps ops t p := by
  rw [runOps_append, runOps_cons, runOps_nil]
  exact run_removeAll_of_apart apart inside _

end BanyanGuard
