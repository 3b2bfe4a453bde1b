import BanyanGuard.Update.Attempt
import BanyanGuard.Update.Swap

/-!
# Concurrent attempts

`updateMu` serializes two attempts' file operations; the results hold for every
interleaving.  An operation reads only what it changes, and `MkdirAll` changes only missing
paths, so an attempt leaves the paths it holds as it would alone.
-/

namespace BanyanGuard

/-- `merged` runs the operations of `xs` and of `ys`, each list in its order. -/
inductive Interleaving {α : Type} : List α → List α → List α → Prop where
  | nil : Interleaving [] [] []
  /-- The next operation is the first one of `xs`. -/
  | left {x : α} {xs ys merged : List α} :
      Interleaving xs ys merged → Interleaving (x :: xs) ys (x :: merged)
  /-- The next operation is the first one of `ys`. -/
  | right {y : α} {xs ys merged : List α} :
      Interleaving xs ys merged → Interleaving xs (y :: ys) (y :: merged)

namespace Interleaving

variable {α : Type} {xs ys merged : List α}

theorem symm (woven : Interleaving xs ys merged) : Interleaving ys xs merged := by
  induction woven with
  | nil => exact .nil
  | left _ inductionHypothesis => exact .right inductionHypothesis
  | right _ inductionHypothesis => exact .left inductionHypothesis

theorem mem (woven : Interleaving xs ys merged) {x : α} (mem : x ∈ merged) :
    x ∈ xs ∨ x ∈ ys := by
  induction woven with
  | nil => simp at mem
  | left _ inductionHypothesis =>
    rcases List.mem_cons.mp mem with rfl | later
    · exact .inl (List.mem_cons_self _ _)
    · exact (inductionHypothesis later).imp_left (List.mem_cons_of_mem _)
  | right _ inductionHypothesis =>
    rcases List.mem_cons.mp mem with rfl | later
    · exact .inr (List.mem_cons_self _ _)
    · exact (inductionHypothesis later).imp_right (List.mem_cons_of_mem _)

theorem append : ∀ xs ys : List α, Interleaving xs ys (xs ++ ys)
  | [], [] => .nil
  | [], _ :: ys => .right (append [] ys)
  | _ :: xs, ys => .left (append xs ys)

end Interleaving

/-- What `op` leaves at each path of `S` depends only on what the tree holds on `S`. -/
def FsOp.ReadsWithin (S : String → Bool) (op : FsOp) : Prop :=
  ∀ t t' : Tree, (∀ q, S q → t q = t' q) → ∀ p, S p → op.run t p = op.run t' p

theorem FsOp.readsWithin_of_touches {S : String → Bool} {op : FsOp}
    (owned : ∀ p, op.touches p → S p) : op.ReadsWithin S := by
  intro t t' same p inS
  cases op with
  | rename src dst =>
    simp only [FsOp.run]
    split_ifs with inDst
    · exact same _ (owned _ (by simp [FsOp.touches, within_rebase inDst]))
    · rfl
    · exact same p inS
  | writeFile path data truncate =>
    by_cases atPath : p = path
    · subst atPath
      simp [FsOp.run, same p inS]
    · simp [FsOp.run, atPath, same p inS]
  | _ => simp [FsOp.run, Function.update_apply, same p inS]

theorem runOps_interleaving_of_readsWithin {S : String → Bool} {xs ys merged : List FsOp}
    (woven : Interleaving xs ys merged) (reads : ∀ op ∈ xs, op.ReadsWithin S)
    (untouched : ∀ op ∈ ys, ∀ p, S p → op.touches p = false) :
    ∀ t t' : Tree, (∀ q, S q → t q = t' q) → ∀ p, S p → runOps merged t p = runOps xs t' p := by
  induction woven with
  | nil => exact fun t t' same p inS => same p inS
  | left _ inductionHypothesis =>
    intro t t' same
    exact inductionHypothesis (fun op mem => reads op (List.mem_cons_of_mem _ mem)) untouched
      _ _ (reads _ (List.mem_cons_self _ _) t t' same)
  | right _ inductionHypothesis =>
    intro t t' same
    exact inductionHypothesis reads (fun op mem => untouched op (List.mem_cons_of_mem _ mem))
      _ _ fun q inS => (FsOp.run_of_not_touches
        (untouched _ (List.mem_cons_self _ _) q inS) t).trans (same q inS)

theorem FsOp.readsWithin_mkdirAll (S : String → Bool) (path : String) :
    (FsOp.mkdirAll path).ReadsWithin S := by
  intro t t' same p inS
  simp only [FsOp.run, same p inS]

/-- Two attempts that may run at once: the paths their own paths are named from are resolved,
so that the tree's lexical paths are the OS's, and neither may change a path the other
holds. -/
structure Separate (envA : UpdateEnv) (a : UpdateAttempt) (envB : UpdateEnv)
    (b : UpdateAttempt) : Prop where
  resolved : ∀ r ∈ a.roots envA ++ b.roots envB, Resolved r
  heldByA : ∀ p, a.holds envA p → b.owns envB p = false
  heldByB : ∀ p, b.holds envB p → a.owns envA p = false

/-- Under every interleaving of two separate attempts, each path one holds ends as that attempt
leaves it alone, and any other path keeps what it held or, where nothing was, may become a
directory. -/
theorem concurrent_attempts_do_not_interfere (P : Primitives) (publicKey : List UInt8)
    (cfg : Config) (a b : UpdateAttempt) (versionsA versionsB : Versions)
    (envA envB : UpdateEnv) (separate : Separate envA a envB b) (merged : List FsOp)
    (woven : Interleaving (UpdateEffect.fsOps (runAttempt P publicKey cfg versionsA envA a))
      (UpdateEffect.fsOps (runAttempt P publicKey cfg versionsB envB b)) merged)
    (t : Tree) (p : String) :
    (a.holds envA p → runOps merged t p =
      runOps (UpdateEffect.fsOps (runAttempt P publicKey cfg versionsA envA a)) t p) ∧
    (b.holds envB p → runOps merged t p =
      runOps (UpdateEffect.fsOps (runAttempt P publicKey cfg versionsB envB b)) t p) ∧
    (a.holds envA p = false → b.holds envB p = false →
      runOps merged t p = t p ∨
        (a.owns envA p ∨ b.owns envB p) ∧ t p = none ∧ runOps merged t p = some .dir) := by
  have ownsA := (runAttempt_frame P publicKey cfg versionsA envA a).2.2
  have ownsB := (runAttempt_frame P publicKey cfg versionsB envB b).2.2
  have holdsA := runAttempt_holds P publicKey cfg versionsA envA a
  have holdsB := runAttempt_holds P publicKey cfg versionsB envB b
  have reads : ∀ {c env versions}, ∀ op ∈ UpdateEffect.fsOps
      (runAttempt P publicKey cfg versions env c), op.ReadsWithin (c.holds env) :=
    fun op mem => (runAttempt_holds P publicKey cfg _ _ _ op mem).elim
      (fun ⟨path, made⟩ => made ▸ FsOp.readsWithin_mkdirAll _ path) FsOp.readsWithin_of_touches
  -- an operation of one attempt touches no path the other holds
  have outsideA : ∀ op ∈ UpdateEffect.fsOps (runAttempt P publicKey cfg versionsB envB b), ∀ q,
      a.holds envA q → op.touches q = false := fun op mem q held =>
    Bool.eq_false_iff.mpr fun touched =>
      absurd (ownsB op mem q touched) (by simp [separate.heldByA q held])
  have outsideB : ∀ op ∈ UpdateEffect.fsOps (runAttempt P publicKey cfg versionsA envA a), ∀ q,
      b.holds envB q → op.touches q = false := fun op mem q held =>
    Bool.eq_false_iff.mpr fun touched =>
      absurd (ownsA op mem q touched) (by simp [separate.heldByB q held])
  refine ⟨fun held => runOps_interleaving_of_readsWithin woven reads outsideA t t
      (fun _ _ => rfl) p held,
    fun held => runOps_interleaving_of_readsWithin woven.symm reads outsideB t t
      (fun _ _ => rfl) p held, fun notA notB => ?_⟩
  -- every operation leaves a path neither holds alone, or is a `MkdirAll`
  have leaves : ∀ op ∈ merged, op.touches p = false ∨ ∃ path, op = .mkdirAll path := by
    intro op mem
    rcases woven.mem mem with inA | inB
    · refine (holdsA op inA).symm.imp_left fun held => ?_
      exact Bool.eq_false_iff.mpr fun touched => by simp [held p touched] at notA
    · refine (holdsB op inB).symm.imp_left fun held => ?_
      exact Bool.eq_false_iff.mpr fun touched => by simp [held p touched] at notB
  by_cases owned : a.owns envA p ∨ b.owns envB p
  · exact (runOps_of_touches_only_mkdirAll leaves t).imp_right fun made => ⟨owned, made⟩
  · exact .inl (runOps_of_not_touches (fun op mem => Bool.eq_false_iff.mpr fun touched =>
      owned ((woven.mem mem).imp (fun m => ownsA op m p touched) fun m => ownsB op m p touched))
      t)

/-- Two frontend updates at once, with both temporary directories in `/tmp`. -/
theorem frontend_updates_do_not_interfere :
    let cfg : Config :=
      ⟨"", "demo", "app", ⟨hour⟩, ⟨true, true, "linux", "amd64", 1024, false, false, false⟩, []⟩
    let binary : BinaryEnv := ⟨.error (.plain "connection refused"), none,
      .error (.plain "unreachable"), .error (.plain "unreachable"), 0, none,
      ⟨none, none, none, none, none, none⟩⟩
    let envA : UpdateEnv := ⟨.ok "/usr/local/bin/app", binary,
      ⟨.ok ⟨"/web.tar.gz", encodeToString (Primitives.sample.sum256 pageBundle), ""⟩,
        .ok ⟨200, ⟨[pageBundle], none⟩⟩, .ok "/tmp/deploy-guard-frontend-1", none,
        [⟨"index.html", typeReg, [1], none⟩], none, 1, fun _ => none, true, none, none, none⟩⟩
    let envB : UpdateEnv := ⟨.ok "/usr/local/bin/app", binary,
      ⟨.ok ⟨"/admin.tar.gz", encodeToString (Primitives.sample.sum256 emptyBundle), ""⟩,
        .ok ⟨200, ⟨[emptyBundle], none⟩⟩, .ok "/tmp/deploy-guard-frontend-2", none, [], none, 1,
        fun _ => none, true, none, none, none⟩⟩
    let a := UpdateAttempt.updateFrontend
      ⟨"web", "/srv/www", UpdateStrategy.updateFrontend, false⟩ ⟨"web", "3.0.0", true⟩
    let b := UpdateAttempt.updateFrontend
      ⟨"admin", "/srv/admin", UpdateStrategy.updateFrontend, false⟩ ⟨"admin", "1.1.0", true⟩
    let xs := UpdateEffect.fsOps
      (runAttempt Primitives.sample [] cfg ⟨"1.0.0", fun _ => ""⟩ envA a)
    let ys := UpdateEffect.fsOps
      (runAttempt Primitives.sample [] cfg ⟨"1.0.0", fun _ => ""⟩ envB b)
    (Separate envA a envB b ∧ Interleaving xs ys (ys ++ xs)) ∧ ∀ t p,
      (a.holds envA p → runOps (ys ++ xs) t p = runOps xs t p) ∧
      (b.holds envB p → runOps (ys ++ xs) t p = runOps ys t p) ∧
      (a.holds envA p = false → b.holds envB p = false →
        runOps (ys ++ xs) t p = t p ∨
          (a.owns envA p ∨ b.owns envB p) ∧ t p = none ∧ runOps (ys ++ xs) t p = some .dir) := by
  intro cfg binary envA envB a b xs ys
  have apart : ∀ {p}, a.holds envA p → b.owns envB p = false := fun held => by
    obtain ⟨q, root, inside⟩ :=
      @within_of_frontendHolds envA.frontend "/srv/www" "/tmp/deploy-guard-frontend-1" _ rfl held
    simp only [List.mem_cons, List.not_mem_nil, or_false] at root
    rcases root with rfl | rfl | rfl | rfl <;>
      exact frontendOwns_eq_false_of_apart rfl (by decide) (by decide) inside
  have apart' : ∀ {p}, b.holds envB p → a.owns envA p = false := fun held => by
    obtain ⟨q, root, inside⟩ :=
      @within_of_frontendHolds envB.frontend "/srv/admin" "/tmp/deploy-guard-frontend-2" _ rfl held
    simp only [List.mem_cons, List.not_mem_nil, or_false] at root
    rcases root with rfl | rfl | rfl | rfl <;>
      exact frontendOwns_eq_false_of_apart rfl (by decide) (by decide) inside
  have separate : Separate envA a envB b := ⟨by decide, fun _ => apart, fun _ => apart'⟩
  have woven : Interleaving xs ys (ys ++ xs) := (Interleaving.append ys xs).symm
  exact ⟨⟨separate, woven⟩, concurrent_attempts_do_not_interfere Primitives.sample [] cfg a b _ _
    envA envB separate _ woven⟩

end BanyanGuard
