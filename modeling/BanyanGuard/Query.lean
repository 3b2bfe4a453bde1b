import Mathlib.Data.List.Nodup
import BanyanGuard.Utf8

/-!
# Query strings

`url.Values` with `Set`, `Encode` and `QueryEscape`, and `url.ParseQuery` with
`QueryUnescape`.  `ParseQuery` of an encoded `Values` gives back every key with its values.
-/

namespace BanyanGuard.Url

/-- `shouldEscape(c, encodeQueryComponent)`: every byte but the unreserved ones. -/
def shouldEscape (c : UInt8) : Bool :=
  let n := c.toNat
  if (0x61 ≤ n ∧ n ≤ 0x7A) ∨ (0x41 ≤ n ∧ n ≤ 0x5A) ∨ (0x30 ≤ n ∧ n ≤ 0x39) then
    false
  else if n = 0x2D ∨ n = 0x5F ∨ n = 0x2E ∨ n = 0x7E then false
  else true

/-- `upperhex[n]`. -/
def upperhex (n : Nat) : UInt8 := if n < 10 then (0x30 + n).toUInt8 else (0x37 + n).toUInt8

/-- One byte of `escape(s, encodeQueryComponent)`: a space is `+`, else `%XY` or itself. -/
def escapeByte (c : UInt8) : List UInt8 :=
  if c = 0x20 then [0x2B]
  else if shouldEscape c then [0x25, upperhex (c.toNat / 16), upperhex (c.toNat % 16)]
  else [c]

/-- `QueryEscape`: `s` itself when no byte needs escaping, else every byte escaped. -/
def queryEscape (s : List UInt8) : List UInt8 :=
  if s.all fun c => !shouldEscape c then s else s.flatMap escapeByte

/-- `ishex`. -/
def ishex (c : UInt8) : Bool :=
  let n := c.toNat
  (0x30 ≤ n && n ≤ 0x39) || (0x61 ≤ n && n ≤ 0x66) || (0x41 ≤ n && n ≤ 0x46)

/-- `unhex`. -/
def unhex (c : UInt8) : Nat :=
  let n := c.toNat
  if 0x30 ≤ n ∧ n ≤ 0x39 then n - 0x30
  else if 0x61 ≤ n ∧ n ≤ 0x66 then n - 0x61 + 10
  else if 0x41 ≤ n ∧ n ≤ 0x46 then n - 0x41 + 10
  else 0

/-- The first loop of `unescape`: the escapes and whether `+` occurs, or `none`. -/
def scanEscapes : List UInt8 → Option (Nat × Bool)
  | [] => some (0, false)
  | c :: rest =>
    if c = 0x25 then
      match rest with
      | a :: b :: rest =>
        if ishex a && ishex b then (scanEscapes rest).map fun scanned => (scanned.1 + 1, scanned.2)
        else none
      | _ => none
    else if c = 0x2B then (scanEscapes rest).map fun scanned => (scanned.1, true)
    else scanEscapes rest

/-- The second loop of `unescape`: `%XY` is the byte `XY` and `+` a space. -/
def decodeEscapes : List UInt8 → List UInt8
  | [] => []
  | c :: rest =>
    if c = 0x25 then
      match rest with
      | a :: b :: rest => (16 * unhex a + unhex b).toUInt8 :: decodeEscapes rest
      | _ => []
    else if c = 0x2B then 0x20 :: decodeEscapes rest
    else c :: decodeEscapes rest

/-- `QueryUnescape`: `s` itself when it has no escape and no `+`. -/
def queryUnescape (s : List UInt8) : Except GoError (List UInt8) :=
  match scanEscapes s with
  | none => .error (.plain "invalid URL escape %q")
  | some (n, hasPlus) => if n = 0 ∧ hasPlus = false then .ok s else .ok (decodeEscapes s)

/-- `strings.Cut(s, sep)` for a one-byte separator: before, after, and whether found. -/
def cut (sep : UInt8) : List UInt8 → List UInt8 × List UInt8 × Bool
  | [] => ([], [], false)
  | c :: rest => if c = sep then ([], rest, true) else (c :: (cut sep rest).1, (cut sep rest).2)

theorem cut_rest_length_le (sep : UInt8) : ∀ s : List UInt8, (cut sep s).2.1.length ≤ s.length
  | [] => Nat.le_refl _
  | c :: rest => by
    unfold cut
    split
    · exact Nat.le_succ _
    · exact Nat.le_succ_of_le (cut_rest_length_le sep rest)

theorem cut_rest_length_lt (sep : UInt8) {s : List UInt8} (nonempty : s ≠ []) :
    (cut sep s).2.1.length < s.length := by
  obtain ⟨c, rest, rfl⟩ := List.exists_cons_of_ne_nil nonempty
  unfold cut
  split
  · exact Nat.lt_succ_self _
  · exact Nat.lt_succ_of_le (cut_rest_length_le sep rest)

/-- The values of each key, as `ParseQuery` builds them; a missing key has none. -/
abbrev ValueMap := List UInt8 → List (List UInt8)

/-- The body of the loop of `parseQuery`, on one piece cut at `&`. -/
def parsePiece (acc : ValueMap × Option GoError) (piece : List UInt8) :
    ValueMap × Option GoError :=
  if 0x3B ∈ piece then (acc.1, some (.plain "invalid semicolon separator in query"))
  else if piece = [] then acc
  else
    match queryUnescape (cut 0x3D piece).1 with
    | .error err1 => (acc.1, if acc.2.isNone then some err1 else acc.2)
    | .ok key =>
      match queryUnescape (cut 0x3D piece).2.1 with
      | .error err1 => (acc.1, if acc.2.isNone then some err1 else acc.2)
      | .ok value => (Function.update acc.1 key (acc.1 key ++ [value]), acc.2)

/-- `parseQuery(m, query)`: the map and the error after the loop over the pieces. -/
def parseQuery (acc : ValueMap × Option GoError) (query : List UInt8) :
    ValueMap × Option GoError :=
  if _ : query = [] then acc
  else parseQuery (parsePiece acc (cut 0x26 query).1) (cut 0x26 query).2.1
termination_by query.length
decreasing_by exact cut_rest_length_lt 0x26 (by assumption)

/-- `url.ParseQuery`. -/
def parseQueryString (query : List UInt8) : ValueMap × Option GoError :=
  parseQuery (fun _ => [], none) query

/-- `url.Values` as `Set` builds it: each key once, with its values. -/
structure Values where
  entries : List (List UInt8 × List (List UInt8))
  nodup : (entries.map (·.1)).Nodup

def Values.empty : Values := ⟨[], List.nodup_nil⟩

/-- `Values.Set(key, value)`: the key's values become `[value]`. -/
def Values.set (v : Values) (key value : List UInt8) : Values :=
  if present : v.entries.any (·.1 == key) then
    ⟨v.entries.map fun e => if e.1 = key then (key, [value]) else e, by
      rw [List.map_map]
      convert v.nodup using 2
      funext e
      by_cases same : e.1 = key <;> simp [same]⟩
  else
    ⟨v.entries ++ [(key, [value])], by
      rw [List.map_append, List.nodup_append]
      simp only [List.any_eq_true, beq_iff_eq, not_exists, not_and] at present
      exact ⟨v.nodup, List.nodup_singleton _, fun k mem same => by
        obtain ⟨e, entry, rfl⟩ := List.mem_map.mp mem
        exact present e entry (List.eq_of_mem_singleton same)⟩⟩

/-- The order of Go strings that `slices.Sort` uses: byte by byte. -/
def bytesLE : List UInt8 → List UInt8 → Bool
  | [], _ => true
  | _ :: _, [] => false
  | a :: as, b :: bs => a < b || (a == b && bytesLE as bs)

/-- The buffer of `Encode`: an `&` before every pair but the first. -/
def joinPairs : List (List UInt8) → List UInt8
  | [] => []
  | [p] => p
  | p :: q :: ps => p ++ 0x26 :: joinPairs (q :: ps)

/-- The pairs `Encode` writes for one key: `key=value` for each of its values. -/
def encodePairs (e : List UInt8 × List (List UInt8)) : List (List UInt8) :=
  e.2.map fun value => queryEscape e.1 ++ 0x3D :: queryEscape value

/-- `Values.Encode`: the pairs of the keys in sorted order. -/
def Values.encode (v : Values) : List UInt8 :=
  joinPairs ((v.entries.mergeSort fun a b => bytesLE a.1 b.1).flatMap encodePairs)

theorem ne_of_toNat_ne {a b : UInt8} (different : a.toNat ≠ b.toNat) : a ≠ b :=
  fun same => different (congrArg UInt8.toNat same)

theorem upperhex_facts : ∀ n < 16, ishex (upperhex n) ∧ unhex (upperhex n) = n ∧
    (upperhex n).toNat ∉ [0x25, 0x2B, 0x26, 0x3D, 0x3B] := by
  decide

theorem toNat_not_mem_of_shouldEscape {c : UInt8} (kept : shouldEscape c = false) :
    c.toNat ∉ [0x25, 0x2B, 0x20, 0x26, 0x3D, 0x3B] := by
  dsimp only [shouldEscape] at kept
  simp only [List.mem_cons, List.mem_singleton, List.not_mem_nil, or_false]
  split at kept
  · omega
  · split at kept
    · omega
    · cases kept

@[simp] theorem escapeByte_space : escapeByte 0x20 = [0x2B] := rfl

theorem escapeByte_of_shouldEscape {c : UInt8} (space : c ≠ 0x20) (escaped : shouldEscape c) :
    escapeByte c = [0x25, upperhex (c.toNat / 16), upperhex (c.toNat % 16)] := by
  simp [escapeByte, space, escaped]

theorem escapeByte_of_not_shouldEscape {c : UInt8} (kept : shouldEscape c = false) :
    escapeByte c = [c] := by
  have space : c ≠ 0x20 := fun same =>
    toNat_not_mem_of_shouldEscape kept (by rw [same]; decide)
  simp [escapeByte, space, kept]

theorem escapeByte_cases (c : UInt8) :
    (c = 0x20 ∧ escapeByte c = [0x2B]) ∨
    (∃ hi lo, escapeByte c = [0x25, upperhex hi, upperhex lo] ∧ hi < 16 ∧ lo < 16 ∧
      (16 * hi + lo).toUInt8 = c) ∨
    (escapeByte c = [c] ∧ c.toNat ∉ [0x25, 0x2B, 0x20, 0x26, 0x3D, 0x3B]) := by
  by_cases space : c = 0x20
  · exact .inl ⟨space, space ▸ rfl⟩
  cases escaped : shouldEscape c
  · exact .inr (.inr ⟨escapeByte_of_not_shouldEscape escaped,
      toNat_not_mem_of_shouldEscape escaped⟩)
  · have bound : c.toNat < 256 := c.toNat_lt_size
    refine .inr (.inl ⟨_, _, escapeByte_of_shouldEscape space escaped, by omega, by omega,
      UInt8.toNat.inj ?_⟩)
    rw [Nat.toUInt8, UInt8.toNat_ofNat_of_lt (show _ < 256 by omega)]
    omega

theorem flatMap_escapeByte_of_kept :
    ∀ s : List UInt8, (∀ c ∈ s, shouldEscape c = false) → s.flatMap escapeByte = s
  | [], _ => rfl
  | c :: rest, kept => by
    rw [List.flatMap_cons, escapeByte_of_not_shouldEscape (kept c (List.mem_cons_self c rest)),
      flatMap_escapeByte_of_kept rest fun c' mem => kept c' (List.mem_cons_of_mem c mem)]
    rfl

theorem queryEscape_eq (s : List UInt8) : queryEscape s = s.flatMap escapeByte := by
  unfold queryEscape
  split
  · rename_i kept
    simp only [List.all_eq_true, Bool.not_eq_true'] at kept
    exact (flatMap_escapeByte_of_kept s kept).symm
  · rfl

theorem decodeEscapes_percent (a b : UInt8) (rest : List UInt8) :
    decodeEscapes (0x25 :: a :: b :: rest) =
      (16 * unhex a + unhex b).toUInt8 :: decodeEscapes rest :=
  by rw [decodeEscapes, if_pos rfl]

theorem decodeEscapes_other {c : UInt8} (percent : c ≠ 0x25) (plus : c ≠ 0x2B)
    (rest : List UInt8) : decodeEscapes (c :: rest) = c :: decodeEscapes rest := by
  rcases rest with _ | ⟨a, _ | ⟨b, rest⟩⟩ <;> simp [decodeEscapes, percent, plus]

theorem decodeEscapes_plus (rest : List UInt8) :
    decodeEscapes (0x2B :: rest) = 0x20 :: decodeEscapes rest := by
  rcases rest with _ | ⟨a, _ | ⟨b, rest⟩⟩ <;>
    simp [decodeEscapes, show (0x2B : UInt8) ≠ 0x25 by decide]

theorem scanEscapes_percent (a b : UInt8) (rest : List UInt8) :
    scanEscapes (0x25 :: a :: b :: rest) =
      if ishex a && ishex b then (scanEscapes rest).map fun scanned => (scanned.1 + 1, scanned.2)
      else none :=
  by rw [scanEscapes, if_pos rfl]

theorem scanEscapes_other {c : UInt8} (percent : c ≠ 0x25) (plus : c ≠ 0x2B)
    (rest : List UInt8) : scanEscapes (c :: rest) = scanEscapes rest := by
  rcases rest with _ | ⟨a, _ | ⟨b, rest⟩⟩ <;> simp [scanEscapes, percent, plus]

theorem scanEscapes_plus (rest : List UInt8) :
    scanEscapes (0x2B :: rest) = (scanEscapes rest).map fun scanned => (scanned.1, true) := by
  rcases rest with _ | ⟨a, _ | ⟨b, rest⟩⟩ <;>
    simp [scanEscapes, show (0x2B : UInt8) ≠ 0x25 by decide]

theorem decodeEscapes_escapeByte (c : UInt8) (rest : List UInt8) :
    decodeEscapes (escapeByte c ++ rest) = c :: decodeEscapes rest := by
  rcases escapeByte_cases c with ⟨rfl, escaped⟩ | ⟨hi, lo, escaped, hiBound, loBound, value⟩ |
    ⟨escaped, other⟩ <;> rw [escaped]
  · exact decodeEscapes_plus rest
  · obtain ⟨-, hiBack, -⟩ := upperhex_facts hi hiBound
    obtain ⟨-, loBack, -⟩ := upperhex_facts lo loBound
    rw [List.cons_append, List.cons_append, List.cons_append, List.nil_append,
      decodeEscapes_percent, hiBack, loBack, value]
  · simp only [List.mem_cons, List.mem_singleton, List.not_mem_nil, or_false, not_or] at other
    exact decodeEscapes_other (ne_of_toNat_ne other.1) (ne_of_toNat_ne other.2.1) rest

theorem decodeEscapes_flatMap_escapeByte :
    ∀ s rest : List UInt8, decodeEscapes (s.flatMap escapeByte ++ rest) = s ++ decodeEscapes rest
  | [], _ => rfl
  | c :: s, rest => by
    rw [List.flatMap_cons, List.append_assoc, decodeEscapes_escapeByte,
      decodeEscapes_flatMap_escapeByte s rest, List.cons_append]

theorem scanEscapes_escapeByte (c : UInt8) (rest : List UInt8) :
    (scanEscapes (escapeByte c ++ rest)).isSome = (scanEscapes rest).isSome := by
  rcases escapeByte_cases c with ⟨rfl, escaped⟩ | ⟨hi, lo, escaped, hiBound, loBound, -⟩ |
    ⟨escaped, other⟩ <;> rw [escaped]
  · rw [List.singleton_append, scanEscapes_plus, Option.isSome_map']
  · obtain ⟨hiHex, -, -⟩ := upperhex_facts hi hiBound
    obtain ⟨loHex, -, -⟩ := upperhex_facts lo loBound
    rw [List.cons_append, List.cons_append, List.cons_append, List.nil_append,
      scanEscapes_percent, hiHex, loHex, Bool.and_self, if_pos rfl, Option.isSome_map']
  · simp only [List.mem_cons, List.mem_singleton, List.not_mem_nil, or_false, not_or] at other
    rw [List.singleton_append,
      scanEscapes_other (ne_of_toNat_ne other.1) (ne_of_toNat_ne other.2.1)]

theorem scanEscapes_flatMap_escapeByte_isSome :
    ∀ s : List UInt8, (scanEscapes (s.flatMap escapeByte)).isSome
  | [] => rfl
  | c :: s => by
    rw [List.flatMap_cons, scanEscapes_escapeByte]
    exact scanEscapes_flatMap_escapeByte_isSome s

theorem decodeEscapes_of_scanEscapes :
    ∀ s : List UInt8, scanEscapes s = some (0, false) → decodeEscapes s = s
  | [], _ => rfl
  | c :: rest, scanned => by
    by_cases percent : c = 0x25
    · subst percent
      rcases rest with _ | ⟨a, _ | ⟨b, rest⟩⟩
      · cases scanned
      · cases scanned
      · rw [scanEscapes_percent] at scanned
        split at scanned <;> simp at scanned
    · by_cases plus : c = 0x2B
      · subst plus
        simp [scanEscapes_plus] at scanned
      · rw [scanEscapes_other percent plus] at scanned
        rw [decodeEscapes_other percent plus, decodeEscapes_of_scanEscapes rest scanned]

theorem queryUnescape_queryEscape (s : List UInt8) : queryUnescape (queryEscape s) = .ok s := by
  have decoded : decodeEscapes (s.flatMap escapeByte) = s := by
    simpa [decodeEscapes] using decodeEscapes_flatMap_escapeByte s []
  obtain ⟨⟨n, hasPlus⟩, scanned⟩ :=
    Option.isSome_iff_exists.mp (scanEscapes_flatMap_escapeByte_isSome s)
  rw [queryEscape_eq, queryUnescape, scanned]
  dsimp only
  split
  · rename_i fast
    have unchanged := decodeEscapes_of_scanEscapes _ (by rw [scanned, fast.1, fast.2])
    exact congrArg Except.ok (unchanged.symm.trans decoded)
  · rw [decoded]

theorem separators_not_mem_queryEscape (s : List UInt8) :
    ∀ b ∈ queryEscape s, b.toNat ∉ [0x26, 0x3D, 0x3B] := by
  rw [queryEscape_eq]
  simp only [List.mem_flatMap]
  rintro b ⟨c, -, mem⟩
  rcases escapeByte_cases c with ⟨-, escaped⟩ | ⟨hi, lo, escaped, hiBound, loBound, -⟩ |
    ⟨escaped, other⟩ <;> rw [escaped] at mem
  · rw [List.mem_singleton.mp mem]; decide
  · obtain ⟨-, -, hiOther⟩ := upperhex_facts hi hiBound
    obtain ⟨-, -, loOther⟩ := upperhex_facts lo loBound
    simp only [List.mem_cons, List.mem_singleton, List.not_mem_nil, or_false] at mem hiOther loOther
    simp only [List.mem_cons, List.mem_singleton, List.not_mem_nil, or_false]
    rcases mem with rfl | rfl | rfl
    · decide
    · omega
    · omega
  · simp only [List.mem_cons, List.mem_singleton, List.not_mem_nil, or_false] at mem other
    simp only [List.mem_cons, List.mem_singleton, List.not_mem_nil, or_false]
    subst mem
    omega

theorem not_mem_queryEscape {sep : UInt8} (separator : sep.toNat ∈ [0x26, 0x3D, 0x3B])
    (s : List UInt8) : sep ∉ queryEscape s :=
  fun mem => separators_not_mem_queryEscape s sep mem separator

theorem cut_of_not_mem (sep : UInt8) :
    ∀ {p : List UInt8}, sep ∉ p → cut sep p = (p, [], false)
  | [], _ => rfl
  | c :: p, absent => by
    rw [List.mem_cons, not_or] at absent
    rw [cut, if_neg (Ne.symm absent.1), cut_of_not_mem sep absent.2]

theorem cut_append_of_not_mem (sep : UInt8) (rest : List UInt8) :
    ∀ {p : List UInt8}, sep ∉ p → cut sep (p ++ sep :: rest) = (p, rest, true)
  | [], _ => by simp [cut]
  | c :: p, absent => by
    rw [List.mem_cons, not_or] at absent
    rw [List.cons_append, cut, if_neg (Ne.symm absent.1), cut_append_of_not_mem sep rest absent.2]

theorem parsePiece_pair (acc : ValueMap × Option GoError) (key value : List UInt8) :
    parsePiece acc (queryEscape key ++ 0x3D :: queryEscape value) =
      (Function.update acc.1 key (acc.1 key ++ [value]), acc.2) := by
  have noSemicolon : (0x3B : UInt8) ∉ queryEscape key ++ 0x3D :: queryEscape value := by
    simp only [List.mem_append, List.mem_cons, not_or]
    exact ⟨not_mem_queryEscape (by decide) key, by decide,
      not_mem_queryEscape (by decide) value⟩
  rw [parsePiece, if_neg noSemicolon, if_neg (by simp),
    cut_append_of_not_mem _ _ (not_mem_queryEscape (by decide) key)]
  simp only [queryUnescape_queryEscape]

theorem parseQuery_joinPairs : ∀ (pieces : List (List UInt8)) (acc : ValueMap × Option GoError),
    (∀ p ∈ pieces, p ≠ [] ∧ (0x26 : UInt8) ∉ p) →
      parseQuery acc (joinPairs pieces) = pieces.foldl parsePiece acc
  | [], acc, _ => by rw [joinPairs, parseQuery, dif_pos rfl]; rfl
  | [p], acc, pieces => by
    obtain ⟨nonempty, absent⟩ := pieces p (List.mem_singleton_self p)
    rw [joinPairs, parseQuery, dif_neg nonempty, cut_of_not_mem _ absent, parseQuery, dif_pos rfl]
    rfl
  | p :: q :: ps, acc, pieces => by
    obtain ⟨-, absent⟩ := pieces p (List.mem_cons_self p _)
    rw [joinPairs, parseQuery, dif_neg (by simp), cut_append_of_not_mem _ _ absent]
    exact parseQuery_joinPairs (q :: ps) _ fun p' mem => pieces p' (List.mem_cons_of_mem p mem)

theorem foldl_parsePiece_encodePairs (e : List UInt8 × List (List UInt8)) :
    ∀ acc : ValueMap × Option GoError, (encodePairs e).foldl parsePiece acc =
      (fun key => acc.1 key ++ if e.1 = key then e.2 else [], acc.2) := by
  obtain ⟨key, values⟩ := e
  induction values with
  | nil => intro acc; simp [encodePairs]
  | cons value values inductionHypothesis =>
    intro acc
    simp only [encodePairs, List.map_cons, List.foldl_cons] at inductionHypothesis ⊢
    rw [parsePiece_pair, inductionHypothesis]
    refine Prod.ext (funext fun other => ?_) rfl
    by_cases same : key = other
    · subst same; simp
    · simp [Function.update_noteq (Ne.symm same), same]

theorem foldl_parsePiece_flatMap_encodePairs :
    ∀ (l : List (List UInt8 × List (List UInt8))) (acc : ValueMap × Option GoError),
      (l.flatMap encodePairs).foldl parsePiece acc =
        (fun key => acc.1 key ++ (l.filter (·.1 = key)).flatMap (·.2), acc.2)
  | [], acc => by simp
  | e :: l, acc => by
    rw [List.flatMap_cons, List.foldl_append, foldl_parsePiece_encodePairs,
      foldl_parsePiece_flatMap_encodePairs l]
    refine Prod.ext (funext fun key => ?_) rfl
    by_cases same : e.1 = key <;> simp [List.filter_cons, same]

theorem flatMap_filter_key_of_not_mem {l : List (List UInt8 × List (List UInt8))}
    {key : List UInt8} (absent : key ∉ l.map (·.1)) :
    (l.filter (·.1 = key)).flatMap (·.2) = [] := by
  rw [List.filter_eq_nil_iff.mpr fun e mem same =>
    absent (List.mem_map.mpr ⟨e, mem, of_decide_eq_true same⟩)]
  rfl

theorem flatMap_filter_key_of_mem : ∀ {l : List (List UInt8 × List (List UInt8))},
    (l.map (·.1)).Nodup → ∀ {key values}, (key, values) ∈ l →
      (l.filter (·.1 = key)).flatMap (·.2) = values
  | e :: l, nodup, key, values, mem => by
    rw [List.map_cons, List.nodup_cons] at nodup
    rcases List.mem_cons.mp mem with rfl | mem
    · simp [List.filter_cons, flatMap_filter_key_of_not_mem nodup.1]
    · have other : e.1 ≠ key := fun same => nodup.1 (same ▸ List.mem_map_of_mem (·.1) mem)
      simp [List.filter_cons, other, flatMap_filter_key_of_mem nodup.2 mem]

theorem parseQueryString_encode (v : Values) :
    (parseQueryString v.encode).2 = none ∧
      (∀ key values, (key, values) ∈ v.entries →
        (parseQueryString v.encode).1 key = values) ∧
      ∀ key, key ∉ v.entries.map (·.1) → (parseQueryString v.encode).1 key = [] := by
  have sorted := List.mergeSort_perm v.entries fun a b => bytesLE a.1 b.1
  have pieces : ∀ p ∈ (v.entries.mergeSort fun a b => bytesLE a.1 b.1).flatMap encodePairs,
      p ≠ [] ∧ (0x26 : UInt8) ∉ p := by
    simp only [List.mem_flatMap, encodePairs, List.mem_map]
    rintro p ⟨e, -, value, -, rfl⟩
    refine ⟨by simp, ?_⟩
    simp only [List.mem_append, List.mem_cons, not_or]
    exact ⟨not_mem_queryEscape (by decide) e.1, by decide,
      not_mem_queryEscape (by decide) value⟩
  rw [parseQueryString, Values.encode, parseQuery_joinPairs _ _ pieces,
    foldl_parsePiece_flatMap_encodePairs]
  refine ⟨rfl, fun key values mem => ?_, fun key absent => ?_⟩
  · exact flatMap_filter_key_of_mem ((sorted.map (·.1)).nodup_iff.mpr v.nodup)
      (sorted.mem_iff.mpr mem)
  · exact flatMap_filter_key_of_not_mem fun mem => absent ((sorted.map (·.1)).mem_iff.mp mem)

/-- `getJSON`'s URL: `ServerURL + path`, then `"?" + query.Encode()` when it has a key. -/
def getJSONURL (serverURL path : String) (query : Values) : List UInt8 :=
  bytesOf serverURL ++ bytesOf path ++ if query.entries = [] then [] else 0x3F :: query.encode

/-- The query of `GetPluginCatalog(ctx, includeUninstalled)`. -/
def pluginCatalogQuery (licenseKey machineID projectSlug os arch : String)
    (includeUninstalled : Bool) : Values :=
  let query := ((((Values.empty.set (bytesOf "license_key") (bytesOf licenseKey)).set
    (bytesOf "machine_id") (bytesOf machineID)).set (bytesOf "project_slug")
    (bytesOf projectSlug)).set (bytesOf "os") (bytesOf os)).set (bytesOf "arch") (bytesOf arch)
  if !includeUninstalled then query.set (bytesOf "include_uninstalled") (bytesOf "false")
  else query

/-- The query of `ListMyFeedback(ctx, userID, page, pageSize)`. -/
def listMyFeedbackQuery (licenseKey userID : String) (page pageSize : Int) : Values :=
  (((Values.empty.set (bytesOf "license_key") (bytesOf licenseKey)).set (bytesOf "user_id")
    (bytesOf userID)).set (bytesOf "page") (bytesOf (toString page))).set (bytesOf "page_size")
    (bytesOf (toString pageSize))

/-- The query of `FetchReleaseNotes`. -/
def releaseNotesQuery (projectSlug : String) : Values :=
  Values.empty.set (bytesOf "project_slug") (bytesOf projectSlug)

theorem pluginCatalogQuery_entries (licenseKey machineID projectSlug os arch : String)
    (includeUninstalled : Bool) :
    (pluginCatalogQuery licenseKey machineID projectSlug os arch includeUninstalled).entries =
      [(bytesOf "license_key", [bytesOf licenseKey]), (bytesOf "machine_id", [bytesOf machineID]),
        (bytesOf "project_slug", [bytesOf projectSlug]), (bytesOf "os", [bytesOf os]),
        (bytesOf "arch", [bytesOf arch])] ++
      if includeUninstalled then [] else [(bytesOf "include_uninstalled", [bytesOf "false"])] := by
  cases includeUninstalled <;>
    simp [pluginCatalogQuery, Values.set, Values.empty, Utf8.bytesOf_inj]

/-- `ParseQuery` of the query `GetPluginCatalog` sends gives each parameter exactly the value it
set, any other key no value, and no error. -/
theorem pluginCatalogQuery_parses_back (licenseKey machineID projectSlug os arch : String)
    (includeUninstalled : Bool) :
    parseQueryString
        (pluginCatalogQuery licenseKey machineID projectSlug os arch includeUninstalled).encode =
      (fun key =>
        if key = bytesOf "license_key" then [bytesOf licenseKey]
        else if key = bytesOf "machine_id" then [bytesOf machineID]
        else if key = bytesOf "project_slug" then [bytesOf projectSlug]
        else if key = bytesOf "os" then [bytesOf os]
        else if key = bytesOf "arch" then [bytesOf arch]
        else if key = bytesOf "include_uninstalled" ∧ includeUninstalled = false then
          [bytesOf "false"]
        else [], none) := by
  obtain ⟨noError, present, absent⟩ :=
    parseQueryString_encode (pluginCatalogQuery licenseKey machineID projectSlug os arch
      includeUninstalled)
  have entries := pluginCatalogQuery_entries licenseKey machineID projectSlug os arch
    includeUninstalled
  refine Prod.ext (funext fun key => ?_) noError
  dsimp only
  split_ifs with isLicense isMachine isProject isOS isArch isFlag
  on_goal 7 =>
    refine absent _ fun mem => ?_
    rw [entries] at mem
    cases includeUninstalled <;>
      simp only [Bool.false_eq_true, if_false, if_true, List.map_append, List.map_cons,
        List.map_nil, List.mem_append, List.mem_cons, List.not_mem_nil, or_false, isLicense,
        isMachine, isProject, isOS, isArch, false_or] at mem
    exact isFlag ⟨mem, rfl⟩
  all_goals
    first | obtain ⟨rfl, rfl⟩ := isFlag | subst_vars
    exact present _ _ (by simp [entries, Utf8.bytesOf_inj])

end BanyanGuard.Url
