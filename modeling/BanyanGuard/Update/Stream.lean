import BanyanGuard.Errors

/-!
# Download streams

A body is the sequence of its reads, cut by `io.LimitReader`.  The binary path hashes what
it copies; the frontend path hashes the reads the gzip and tar readers make.
-/

namespace BanyanGuard

/-- A body as successive `Read` calls see it, then `io.EOF` (`none`) or an error. -/
structure Body where
  chunks : List (List UInt8)
  ending : Option GoError

/-- The bytes of a body, read to its end. -/
def Body.bytes (b : Body) : List UInt8 := b.chunks.flatten

/-- The reads of `io.LimitReader` with `n` bytes left. -/
def limitChunks : Nat → List (List UInt8) → List (List UInt8)
  | _, [] => []
  | 0, _ :: _ => []
  | n + 1, c :: cs => c.take (n + 1) :: limitChunks (n + 1 - (c.take (n + 1)).length) cs

/-- `io.LimitReader(b, n)`: once `n` bytes were read it reports `io.EOF`, whatever
the body would have returned next.  A non-positive `n` reads nothing. -/
def Body.limit (b : Body) (n : Int) : Body :=
  ⟨limitChunks n.toNat b.chunks, if n.toNat ≤ b.bytes.length then none else b.ending⟩

theorem flatten_limitChunks (n : Nat) (chunks : List (List UInt8)) :
    (limitChunks n chunks).flatten = chunks.flatten.take n := by
  induction chunks generalizing n with
  | nil => simp [limitChunks]
  | cons c cs inductionHypothesis =>
    cases n with
    | zero => simp [limitChunks]
    | succ n =>
      have shift : n + 1 - (c.take (n + 1)).length = n + 1 - c.length := by
        rw [List.length_take]; omega
      simp only [limitChunks, List.flatten_cons, inductionHypothesis, shift,
        List.take_append_eq_append_take]

@[simp] theorem Body.limit_bytes (b : Body) (n : Int) : (b.limit n).bytes = b.bytes.take n.toNat :=
  flatten_limitChunks _ _

/-- The error `os.File.Write` reports when the device is full. -/
def errNoSpace : GoError := .plain "write: no space left on device"

/-- `io.Copy(io.MultiWriter(file, hasher), src)` over the reads of `src` and its
`ending`, with room for `space` more bytes on the file's device: the copy's error and
what the file and the hasher received.  `MultiWriter` stops at the file's error
before the hasher sees the chunk. -/
def copyToFileAndHasher (ending : Option GoError) :
    Nat → List (List UInt8) → List UInt8 × List UInt8 →
      Option GoError × List UInt8 × List UInt8
  | _, [], (file, hashed) => (ending, file, hashed)
  | space, c :: cs, (file, hashed) =>
    if c.length ≤ space then
      copyToFileAndHasher ending (space - c.length) cs (file ++ c, hashed ++ c)
    else (some errNoSpace, file ++ c.take space, hashed)

theorem copyToFileAndHasher_of_ok {ending : Option GoError} {space : Nat}
    {chunks : List (List UInt8)} {file hashed file' hashed' : List UInt8}
    (copied : copyToFileAndHasher ending space chunks (file, hashed) = (none, file', hashed')) :
    ending = none ∧ file' = file ++ chunks.flatten ∧ hashed' = hashed ++ chunks.flatten := by
  induction chunks generalizing space file hashed with
  | nil => simp_all [copyToFileAndHasher]
  | cons c cs inductionHypothesis =>
    simp only [copyToFileAndHasher] at copied
    split at copied
    · obtain ⟨ended, rfl, rfl⟩ := inductionHypothesis copied
      simp [ended]
    · simp at copied

/-- What the hasher behind `io.TeeReader` saw after the consumer's first `reads` reads. -/
def teeHashed (reads : Nat) (src : Body) : List UInt8 := (src.chunks.take reads).flatten

end BanyanGuard
