import BanyanGuard.Errors

/-!
# The trust primitives

SHA-256, Ed25519 and base64 are black boxes with two laws of Go's implementations;
`hex.EncodeToString` is written out.
-/

namespace BanyanGuard

/-- `crypto/sha256`, `crypto/ed25519` and `encoding/base64` as used by the SDK. -/
structure Primitives where
  /-- `sha256.Sum256`. -/
  sum256 : List UInt8 → List UInt8
  /-- `ed25519.Verify(publicKey, message, sig)`. -/
  verify : List UInt8 → List UInt8 → List UInt8 → Bool
  /-- `base64.StdEncoding.DecodeString`. -/
  decodeString : String → Except GoError (List UInt8)
  verify_length :
    ∀ publicKey message sig, sig.length ≠ 64 → verify publicKey message sig = false
  decodeString_empty : decodeString "" = .ok []

/-- `[]byte(s)`. -/
def bytesOf (s : String) : List UInt8 := s.toUTF8.toList

/-- `hex.EncodeToString`: two lower-case digits per byte. -/
def encodeToString (bytes : List UInt8) : String :=
  String.mk (bytes.flatMap fun b => [Nat.digitChar (b.toNat / 16), Nat.digitChar (b.toNat % 16)])

/-- The text is made of the digits `0`-`9` and `a`-`f` only. -/
def isLowerHex (s : String) : Bool :=
  s.data.all fun c => c.isDigit || (decide ('a' ≤ c) && decide (c ≤ 'f'))

theorem isLowerHex_encodeToString (bytes : List UInt8) : isLowerHex (encodeToString bytes) := by
  have digit : ∀ n < 16, (Nat.digitChar n).isDigit ||
      (decide ('a' ≤ Nat.digitChar n) && decide (Nat.digitChar n ≤ 'f')) := by decide
  simp only [isLowerHex, encodeToString, List.all_eq_true, List.mem_flatMap, List.mem_cons,
    List.mem_singleton, List.not_mem_nil, or_false]
  rintro c ⟨b, -, rfl | rfl⟩
  · exact digit _ (Nat.div_lt_of_lt_mul b.toNat_lt_size)
  · exact digit _ (Nat.mod_lt _ (by decide))

namespace Primitives

variable (P : Primitives) (publicKey : List UInt8)

/-- `signature` decodes to a valid signature of `sha256(data)` under the key. -/
def trusts (data signature : String) : Bool :=
  match P.decodeString signature with
  | .ok sig => P.verify publicKey (P.sum256 (bytesOf data)) sig
  | .error _ => false

@[simp] theorem trusts_empty_signature (data : String) : P.trusts publicKey data "" = false := by
  simp [trusts, decodeString_empty, P.verify_length]

end Primitives

/-- A stand-in for the primitives on concrete inputs: a message is its own digest, base64
decoding yields the code points of the text, and a signature verifies when it has
`SignatureSize` bytes. -/
def Primitives.sample : Primitives where
  sum256 := id
  verify := fun _ _ sig => sig.length == 64
  decodeString := fun s => .ok (s.data.map fun c => c.toNat.toUInt8)
  verify_length := fun _ _ _ short => by simpa using short
  decodeString_empty := rfl

/-- `verifySignature(data, signatureB64)` of the updater. -/
def verifySignature (P : Primitives) (publicKey : List UInt8) (data signatureB64 : String) :
    Option GoError :=
  match P.decodeString signatureB64 with
  | .error err => some (.wrapped "decode signature: %w" err)
  | .ok sig =>
    if P.verify publicKey (P.sum256 (bytesOf data)) sig then none
    else some (.plain "signature verification failed")

theorem verifySignature_eq_none_iff (P : Primitives) (publicKey : List UInt8) (data sig : String) :
    verifySignature P publicKey data sig = none ↔ P.trusts publicKey data sig := by
  unfold verifySignature Primitives.trusts
  split <;> simp_all

end BanyanGuard
