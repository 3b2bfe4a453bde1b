import BanyanGuard.Utf8

/-!
# JSON text, as `encoding/json` writes and reads it

`json.Marshal` writes a string with `appendString`, HTML escaping on; `json.Unmarshal` runs
the scanner's state machine (`checkValid`) and `unquote`.  Both read runes, the input
decoded with `decodeRunes` first.
-/

namespace BanyanGuard.Json

/-- `isSpace`. -/
def isSpace (c : Char) : Bool := c = ' ' || c = '\t' || c = '\r' || c = '\n'

/-- The value of a hexadecimal digit (`getu4`). -/
def hexValue? (c : Char) : Option Nat :=
  if '0' ≤ c ∧ c ≤ '9' then some (c.toNat - '0'.toNat)
  else if 'a' ≤ c ∧ c ≤ 'f' then some (c.toNat - 'a'.toNat + 10)
  else if 'A' ≤ c ∧ c ≤ 'F' then some (c.toNat - 'A'.toNat + 10)
  else none

theorem hexValue?_digitChar : ∀ n < 16, hexValue? (Nat.digitChar n) = some n := by
  decide

/-- `htmlSafeSet`: the runes `appendString` copies as they are. -/
def htmlSafe (c : Char) : Bool :=
  0x20 ≤ c.toNat && c.toNat < 0x80 && c ≠ '"' && c ≠ '\\' && c ≠ '<' && c ≠ '>' &&
    c ≠ '&'

/-- What `appendString` writes for one rune of a valid string. -/
def escapeRune (c : Char) : List Char :=
  if c.toNat < 0x80 then
    if htmlSafe c then [c]
    else if c = '\\' ∨ c = '"' then ['\\', c]
    else if c.toNat = 0x08 then ['\\', 'b']
    else if c.toNat = 0x0C then ['\\', 'f']
    else if c = '\n' then ['\\', 'n']
    else if c = '\r' then ['\\', 'r']
    else if c = '\t' then ['\\', 't']
    else ['\\', 'u', '0', '0', Nat.digitChar (c.toNat / 16), Nat.digitChar (c.toNat % 16)]
  else if c.toNat = 0x2028 ∨ c.toNat = 0x2029 then
    ['\\', 'u', '2', '0', '2', Nat.digitChar (c.toNat % 16)]
  else [c]

/-- `appendString(nil, s, true)` for the runes of a valid string. -/
def appendString (s : List Char) : List Char := '"' :: s.flatMap escapeRune ++ ['"']

/-- The scanner's `parseState` entries. -/
inductive ParseState where
  | objectKey
  | objectValue
  | arrayValue
  deriving DecidableEq, Repr

/-- The scanner's step functions. -/
inductive Step where
  | beginValueOrEmpty
  | beginValue
  | beginStringOrEmpty
  | beginString
  | endValue
  | endTop
  | inString
  | inStringEsc
  /-- `stateInStringEscU` to `stateInStringEscU123`, after `read` hexadecimal digits. -/
  | inStringEscU (read : Nat)
  | neg
  | one
  | zero
  | dot
  | dot0
  | exp
  | expSign
  | exp0
  /-- `stateT` to `stateNul`: the letters of `true`, `false` or `null` still to come. -/
  | literal (expected : List Char)
  deriving DecidableEq, Repr

/-- The steps inside a string literal. -/
def Step.isString : Step → Bool
  | .inString | .inStringEsc | .inStringEscU _ => true
  | _ => false

/-- The scanner's results but `scanError`, which is `none` here. -/
inductive ScanCode where
  | scanContinue
  | scanBeginLiteral
  | scanBeginObject
  | scanObjectKey
  | scanObjectValue
  | scanEndObject
  | scanBeginArray
  | scanArrayValue
  | scanEndArray
  | scanSkipSpace
  | scanEnd
  deriving DecidableEq, Repr

/-- `maxNestingDepth`. -/
def maxNestingDepth : Nat := 10000

/-- `scanner`: the step function, the `parseState` stack (innermost first) and `endTop`. -/
structure Scanner where
  step : Step
  parseState : List ParseState
  endTop : Bool
  deriving DecidableEq, Repr

namespace Scanner

/-- `reset`. -/
def reset : Scanner := ⟨.beginValue, [], false⟩

/-- `pushParseState`. -/
def pushParseState (s : Scanner) (newParseState : ParseState) (successState : ScanCode) :
    Option (ScanCode × Scanner) :=
  if s.parseState.length + 1 ≤ maxNestingDepth then
    some (successState, { s with parseState := newParseState :: s.parseState })
  else none

/-- `popParseState`. -/
def popParseState (s : Scanner) : Scanner :=
  match s.parseState with
  | [] | [_] => { s with parseState := [], step := .endTop, endTop := true }
  | _ :: rest => { s with parseState := rest, step := .endValue }

/-- `stateEndTop`: only space may follow the top-level value. -/
def stateEndTop (s : Scanner) (c : Char) : Option (ScanCode × Scanner) :=
  if isSpace c then some (.scanEnd, s) else none

/-- `stateEndValue`. -/
def stateEndValue (s : Scanner) (c : Char) : Option (ScanCode × Scanner) :=
  match s.parseState with
  | [] => stateEndTop { s with step := .endTop, endTop := true } c
  | ps :: rest =>
    if isSpace c then some (.scanSkipSpace, { s with step := .endValue })
    else match ps with
      | .objectKey =>
        if c = ':' then
          some (.scanObjectKey, { s with parseState := .objectValue :: rest, step := .beginValue })
        else none
      | .objectValue =>
        if c = ',' then
          some (.scanObjectValue, { s with parseState := .objectKey :: rest, step := .beginString })
        else if c = '}' then some (.scanEndObject, s.popParseState)
        else none
      | .arrayValue =>
        if c = ',' then some (.scanArrayValue, { s with step := .beginValue })
        else if c = ']' then some (.scanEndArray, s.popParseState)
        else none

/-- `stateBeginValue`. -/
def stateBeginValue (s : Scanner) (c : Char) : Option (ScanCode × Scanner) :=
  if isSpace c then some (.scanSkipSpace, s)
  else if c = '{' then
    { s with step := .beginStringOrEmpty }.pushParseState .objectKey .scanBeginObject
  else if c = '[' then
    { s with step := .beginValueOrEmpty }.pushParseState .arrayValue .scanBeginArray
  else if c = '"' then some (.scanBeginLiteral, { s with step := .inString })
  else if c = '-' then some (.scanBeginLiteral, { s with step := .neg })
  else if c = '0' then some (.scanBeginLiteral, { s with step := .zero })
  else if c = 't' then some (.scanBeginLiteral, { s with step := .literal ['r', 'u', 'e'] })
  else if c = 'f' then some (.scanBeginLiteral, { s with step := .literal ['a', 'l', 's', 'e'] })
  else if c = 'n' then some (.scanBeginLiteral, { s with step := .literal ['u', 'l', 'l'] })
  else if '1' ≤ c ∧ c ≤ '9' then some (.scanBeginLiteral, { s with step := .one })
  else none

/-- `stateBeginString`. -/
def stateBeginString (s : Scanner) (c : Char) : Option (ScanCode × Scanner) :=
  if isSpace c then some (.scanSkipSpace, s)
  else if c = '"' then some (.scanBeginLiteral, { s with step := .inString })
  else none

/-- `state0`: after the integer part of a number. -/
def state0 (s : Scanner) (c : Char) : Option (ScanCode × Scanner) :=
  if c = '.' then some (.scanContinue, { s with step := .dot })
  else if c = 'e' ∨ c = 'E' then some (.scanContinue, { s with step := .exp })
  else stateEndValue s c

/-- `stateESign`. -/
def stateESign (s : Scanner) (c : Char) : Option (ScanCode × Scanner) :=
  if '0' ≤ c ∧ c ≤ '9' then some (.scanContinue, { s with step := .exp0 }) else none

/-- `s.step(s, c)`: the scan code, or `none` for `scanError`. -/
def scan (s : Scanner) (c : Char) : Option (ScanCode × Scanner) :=
  match s.step with
  | .beginValueOrEmpty =>
    if isSpace c then some (.scanSkipSpace, s)
    else if c = ']' then stateEndValue s c
    else stateBeginValue s c
  | .beginValue => stateBeginValue s c
  | .beginStringOrEmpty =>
    if isSpace c then some (.scanSkipSpace, s)
    else if c = '}' then stateEndValue { s with parseState := .objectValue :: s.parseState.tail } c
    else stateBeginString s c
  | .beginString => stateBeginString s c
  | .endValue => stateEndValue s c
  | .endTop => stateEndTop s c
  | .inString =>
    if c = '"' then some (.scanContinue, { s with step := .endValue })
    else if c = '\\' then some (.scanContinue, { s with step := .inStringEsc })
    else if c.toNat < 0x20 then none
    else some (.scanContinue, s)
  | .inStringEsc =>
    if c ∈ ['b', 'f', 'n', 'r', 't', '\\', '/', '"'] then
      some (.scanContinue, { s with step := .inString })
    else if c = 'u' then some (.scanContinue, { s with step := .inStringEscU 0 })
    else none
  | .inStringEscU read =>
    if (hexValue? c).isSome then
      some (.scanContinue,
        { s with step := if read = 3 then .inString else .inStringEscU (read + 1) })
    else none
  | .neg =>
    if c = '0' then some (.scanContinue, { s with step := .zero })
    else if '1' ≤ c ∧ c ≤ '9' then some (.scanContinue, { s with step := .one })
    else none
  | .one => if '0' ≤ c ∧ c ≤ '9' then some (.scanContinue, s) else state0 s c
  | .zero => state0 s c
  | .dot => if '0' ≤ c ∧ c ≤ '9' then some (.scanContinue, { s with step := .dot0 }) else none
  | .dot0 =>
    if '0' ≤ c ∧ c ≤ '9' then some (.scanContinue, s)
    else if c = 'e' ∨ c = 'E' then some (.scanContinue, { s with step := .exp })
    else stateEndValue s c
  | .exp =>
    if c = '+' ∨ c = '-' then some (.scanContinue, { s with step := .expSign })
    else stateESign s c
  | .expSign => stateESign s c
  | .exp0 => if '0' ≤ c ∧ c ≤ '9' then some (.scanContinue, s) else stateEndValue s c
  | .literal [] => stateEndValue s c
  | .literal (letter :: rest) =>
    if c = letter then
      some (.scanContinue, { s with step := if rest = [] then .endValue else .literal rest })
    else none

end Scanner

/-- How far `unquote` has got in a literal: the runes so far, the value of the `\u` escape
being read, and a high surrogate that waits for its low half. -/
structure Unquote where
  text : List Char
  value : Nat
  pending : Option Nat
  deriving DecidableEq, Repr

namespace Unquote

/-- A literal's start. -/
def empty : Unquote := ⟨[], 0, none⟩

/-- Add a rune to the text. -/
def append (u : Unquote) (c : Char) : Unquote := { u with text := u.text ++ [c] }

/-- A high surrogate that no low one followed reads as `RuneError`. -/
def flush (u : Unquote) : Unquote :=
  match u.pending with
  | some _ => { u with text := u.text ++ [Utf8.runeError], pending := none }
  | none => u

/-- A `\u` escape of value `rr` that is not the low half of a pair. -/
def single (u : Unquote) (rr : Nat) : Unquote :=
  if 0xD800 ≤ rr ∧ rr < 0xDC00 then { u with pending := some rr }
  else if 0xDC00 ≤ rr ∧ rr < 0xE000 then u.append Utf8.runeError
  else u.append (Char.ofNat rr)

/-- The end of a `\u` escape of value `rr`: `utf16.DecodeRune` with the pending high half. -/
def escape (u : Unquote) (rr : Nat) : Unquote :=
  let u := { u with value := 0 }
  match u.pending with
  | some high =>
    if 0xDC00 ≤ rr ∧ rr < 0xE000 then
      { u with pending := none }.append
        (Char.ofNat (0x10000 + (high - 0xD800) * 0x400 + (rr - 0xDC00)))
    else { u with text := u.text ++ [Utf8.runeError], pending := none }.single rr
  | none => u.single rr

/-- The rune a backslash and `c` stand for. -/
def escaped (c : Char) : Char :=
  if c = 'b' then Char.ofNat 0x08
  else if c = 'f' then Char.ofNat 0x0C
  else if c = 'n' then '\n'
  else if c = 'r' then '\r'
  else if c = 't' then '\t'
  else c

/-- `unquote`'s work on the rune `c` the scanner reads in step `step`. -/
def push (u : Unquote) (step : Step) (c : Char) : Unquote :=
  match step with
  | .inString => if c = '\\' then u else if c = '"' then u.flush else u.flush.append c
  | .inStringEsc => if c = 'u' then { u with value := 0 } else u.flush.append (escaped c)
  | .inStringEscU read =>
    if read = 3 then u.escape (u.value * 16 + (hexValue? c).getD 0)
    else { u with value := u.value * 16 + (hexValue? c).getD 0 }
  | _ => u

end Unquote

/-- The scanner, and `unquote`'s state for the literal it is in. -/
structure Reader where
  scanner : Scanner
  unquote : Unquote
  deriving DecidableEq, Repr

namespace Reader

/-- One rune: the scanner's step; a literal's first rune starts `unquote` afresh. -/
def step (r : Reader) (c : Char) : Option (ScanCode × Reader) :=
  (r.scanner.scan c).map fun (code, scanner) =>
    (code, ⟨scanner,
      if code = .scanBeginLiteral then .empty else r.unquote.push r.scanner.step c⟩)

/-- Runes inside a string literal, each scanned with `scanContinue`. -/
def readString (r : Reader) : List Char → Option Reader
  | [] => some r
  | c :: rest =>
    match r.step c with
    | some (.scanContinue, r') => if r'.scanner.step.isString then r'.readString rest else none
    | _ => none

theorem readString_append (r : Reader) (cs ds : List Char) :
    r.readString (cs ++ ds) = (r.readString cs).bind (·.readString ds) := by
  induction cs generalizing r with
  | nil => rfl
  | cons c rest inductionHypothesis =>
    simp only [List.cons_append, readString]
    split
    · split <;> simp [inductionHypothesis]
    · rfl

section

variable (parseState : List ParseState) (endTop : Bool) (text : List Char)

/-- A reader inside a string, with no escape under way. -/
def inText (text : List Char) : Reader :=
  ⟨⟨.inString, parseState, endTop⟩, ⟨text, 0, none⟩⟩

theorem readString_plain {c : Char} (notQuote : c ≠ '"') (notBackslash : c ≠ '\\')
    (printable : 0x20 ≤ c.toNat) :
    (inText parseState endTop text).readString [c] =
      some (inText parseState endTop (text ++ [c])) := by
  have : ¬ c.toNat < 0x20 := by omega
  simp [inText, readString, step, Scanner.scan, Unquote.push, Unquote.flush, Unquote.append,
    notQuote, notBackslash, this, Step.isString]

theorem readString_short {e : Char} (short : e ∈ ['b', 'f', 'n', 'r', 't', '\\', '/', '"']) :
    (inText parseState endTop text).readString ['\\', e] =
      some (inText parseState endTop (text ++ [Unquote.escaped e])) := by
  have : e ≠ 'u' := by rintro rfl; simp at short
  simp [inText, readString, step, Scanner.scan, Unquote.push, Unquote.flush, Unquote.append,
    short, this, Step.isString]

theorem readString_unicode {h₁ h₂ h₃ h₄ : Nat}
    (digits : h₁ < 16 ∧ h₂ < 16 ∧ h₃ < 16 ∧ h₄ < 16)
    (notSurrogate : h₁ * 4096 + h₂ * 256 + h₃ * 16 + h₄ < 0xD800 ∨
      0xE000 ≤ h₁ * 4096 + h₂ * 256 + h₃ * 16 + h₄) :
    (inText parseState endTop text).readString
        ['\\', 'u', Nat.digitChar h₁, Nat.digitChar h₂, Nat.digitChar h₃,
          Nat.digitChar h₄] =
      some (inText parseState endTop
        (text ++ [Char.ofNat (h₁ * 4096 + h₂ * 256 + h₃ * 16 + h₄)])) := by
  obtain ⟨d₁, d₂, d₃, d₄⟩ := digits
  have value : ((h₁ * 16 + h₂) * 16 + h₃) * 16 + h₄ =
      h₁ * 4096 + h₂ * 256 + h₃ * 16 + h₄ := by
    omega
  have notHigh : ¬ (0xD800 ≤ h₁ * 4096 + h₂ * 256 + h₃ * 16 + h₄ ∧
      h₁ * 4096 + h₂ * 256 + h₃ * 16 + h₄ < 0xDC00) := by omega
  have notLow : ¬ (0xDC00 ≤ h₁ * 4096 + h₂ * 256 + h₃ * 16 + h₄ ∧
      h₁ * 4096 + h₂ * 256 + h₃ * 16 + h₄ < 0xE000) := by omega
  simp [inText, readString, step, Scanner.scan, Unquote.push, Unquote.escape, Unquote.single,
    Unquote.append, hexValue?_digitChar, d₁, d₂, d₃, d₄, value, notHigh, notLow,
    Step.isString]

theorem readString_escapeRune (c : Char) :
    (inText parseState endTop text).readString (escapeRune c) =
      some (inText parseState endTop (text ++ [c])) := by
  unfold escapeRune
  by_cases ascii : c.toNat < 0x80
  swap
  · rw [if_neg ascii]
    by_cases separator : c.toNat = 0x2028 ∨ c.toNat = 0x2029
    · rw [if_pos separator]
      have read := @readString_unicode parseState endTop text 2 0 2 (c.toNat % 16)
        (by omega) (by omega)
      rwa [show 2 * 4096 + 0 * 256 + 2 * 16 + c.toNat % 16 = c.toNat by omega,
        Char.ofNat_toNat] at read
    rw [if_neg separator]
    have notQuote : c ≠ '"' := by rintro rfl; exact ascii (by decide)
    have notBackslash : c ≠ '\\' := by rintro rfl; exact ascii (by decide)
    exact readString_plain parseState endTop text notQuote notBackslash (by omega)
  rw [if_pos ascii]
  by_cases safe : htmlSafe c
  · rw [if_pos safe]
    simp only [htmlSafe, Bool.and_eq_true, decide_eq_true_eq] at safe
    obtain ⟨⟨⟨⟨⟨⟨printable, -⟩, notQuote⟩, notBackslash⟩, -⟩, -⟩, -⟩ := safe
    exact readString_plain parseState endTop text notQuote notBackslash printable
  rw [if_neg safe]
  by_cases quoted : c = '\\' ∨ c = '"'
  · rw [if_pos quoted]
    rcases quoted with rfl | rfl <;> exact readString_short parseState endTop text (by decide)
  rw [if_neg quoted]
  by_cases backspace : c.toNat = 0x08
  · rw [if_pos backspace, ← Char.ofNat_toNat c, backspace]
    exact readString_short parseState endTop text (e := 'b') (by decide)
  rw [if_neg backspace]
  by_cases formFeed : c.toNat = 0x0C
  · rw [if_pos formFeed, ← Char.ofNat_toNat c, formFeed]
    exact readString_short parseState endTop text (e := 'f') (by decide)
  rw [if_neg formFeed]
  by_cases newline : c = '\n'
  · subst newline; exact readString_short parseState endTop text (by decide)
  rw [if_neg newline]
  by_cases ret : c = '\r'
  · subst ret; exact readString_short parseState endTop text (by decide)
  rw [if_neg ret]
  by_cases tab : c = '\t'
  · subst tab; exact readString_short parseState endTop text (by decide)
  rw [if_neg tab]
  have read := @readString_unicode parseState endTop text 0 0 (c.toNat / 16) (c.toNat % 16)
    (by omega) (by omega)
  rwa [show 0 * 4096 + 0 * 256 + c.toNat / 16 * 16 + c.toNat % 16 = c.toNat by omega,
    Char.ofNat_toNat] at read

theorem readString_escaped (s : List Char) :
    (inText parseState endTop text).readString (s.flatMap escapeRune) =
      some (inText parseState endTop (text ++ s)) := by
  induction s generalizing text with
  | nil => simp [readString]
  | cons c rest inductionHypothesis =>
    rw [List.flatMap_cons, readString_append, readString_escapeRune]
    simpa using inductionHypothesis (text ++ [c])

end

end Reader

end BanyanGuard.Json
