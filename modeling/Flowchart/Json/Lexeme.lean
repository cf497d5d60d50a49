/-
# Strings and numbers in JSON text

Strings can be kept or skipped.  A kept string has to be made of characters: an
escape that stands for half a character needs the other half behind it.  A skipped
string is only looked through for its end.

Numbers are whole if they have neither a decimal point nor an exponent and fit into
64 bits; all others are real.
-/
import Flowchart.Json.Reader

namespace Flowchart

namespace JsonReader

/-! ## Escapes -/

/-- The value of a hexadecimal digit. -/
def hexDigit? (c : Char) : Option Nat :=
  if c.isDigit then some (c.toNat - '0'.toNat)
  else if 'a' ≤ c ∧ c ≤ 'f' then some (c.toNat - 'a'.toNat + 10)
  else if 'A' ≤ c ∧ c ≤ 'F' then some (c.toNat - 'A'.toNat + 10)
  else none

/-- The value of four hexadecimal digits at the start of a text, and the rest. -/
def hexDigits? : Text → Option (Nat × Text)
  | a :: b :: c :: d :: r =>
    match hexDigit? a, hexDigit? b, hexDigit? c, hexDigit? d with
    | some a, some b, some c, some d => some (((a * 16 + b) * 16 + c) * 16 + d, r)
    | _, _, _, _ => none
  | _ => none

/-- Four hexadecimal digits.  Four bytes are looked at, whatever they are. -/
def hexEscape : JsonReader Nat := fun t =>
  match hexDigits? t with
  | some found => .ok found
  | none =>
    if t.byteLength < 4 then haltHere .endInString [] else haltAhead 4 .invalidEscape t

/-- The character that a backslash and a letter stand for. -/
def escapedChar? : Char → Option Char
  | '"' => some '"'
  | '\\' => some '\\'
  | '/' => some '/'
  | 'b' => some '\x08'
  | 'f' => some '\x0c'
  | 'n' => some '\n'
  | 'r' => some '\r'
  | 't' => some '\t'
  | _ => none

/-- Whether a code unit is the first half of a character. -/
def isLeading (n : Nat) : Bool :=
  0xD800 ≤ n && n ≤ 0xDBFF

/-- Whether a code unit is the second half of a character. -/
def isTrailing (n : Nat) : Bool :=
  0xDC00 ≤ n && n ≤ 0xDFFF

/-- Takes the character `c`, which has to be next inside an escape. -/
def escapePart (c : Char) : JsonReader Unit := fun t =>
  match t with
  | [] => haltHere .endInString t
  | d :: r => if d = c then .ok ((), r) else haltNext .unexpectedEscapeEnd t

/-- The second half of a character, an escape of its own. -/
def trailingHalf : JsonReader Nat := do
  escapePart '\\'
  escapePart 'u'
  let n ← hexEscape
  if isTrailing n then return n else haltHere .loneSurrogate

/-- The character of a numeric escape, behind its letter. -/
def unicodeEscape : JsonReader Char := do
  let n ← hexEscape
  if isTrailing n then haltHere .loneSurrogate
  else if isLeading n then
    let m ← trailingHalf
    return .ofNat ((n - 0xD800) * 0x400 + (m - 0xDC00) + 0x10000)
  else return .ofNat n

/-- The character of an escape, behind its backslash. -/
def escape : JsonReader Char := fun t =>
  match t with
  | [] => haltHere .endInString t
  | 'u' :: r => unicodeEscape r
  | c :: r =>
    match escapedChar? c with
    | some d => .ok (d, r)
    | none => haltNext .invalidEscape t

/-- Skips an escape, behind its backslash. -/
def skipEscape : JsonReader Unit := fun t =>
  match t with
  | [] => haltHere .endInString t
  | 'u' :: r =>
    match hexEscape r with
    | .error halt => .error halt
    | .ok (_, r') => .ok ((), r')
  | c :: r => if (escapedChar? c).isSome then .ok ((), r) else haltNext .invalidEscape t

/-! ## Escapes shorten the text -/

/-- Four digits are four characters. -/
theorem length_of_hexDigits {t : Text} {found : Nat × Text} (h : hexDigits? t = some found) :
    found.2.length + 4 = t.length := by
  unfold hexDigits? at h
  split at h
  · split at h
    · obtain rfl := Option.some.inj h
      simp
    · exact absurd h (by simp)
  · exact absurd h (by simp)

/-- Four digits shorten the text. -/
theorem length_of_hexEscape {t r : Text} {n : Nat} (h : hexEscape t = .ok (n, r)) :
    r.length < t.length := by
  unfold hexEscape at h
  split at h
  · next found hfound =>
    have hlen := length_of_hexDigits hfound
    obtain rfl := Except.ok.inj h
    dsimp only at hlen
    omega
  · split at h
    · exact absurd h haltHere_ne_ok
    · exact absurd h haltAhead_ne_ok

/-- A part of an escape shortens the text. -/
theorem length_of_escapePart {c : Char} {t r : Text} {u : Unit}
    (h : escapePart c t = .ok (u, r)) : r.length < t.length := by
  unfold escapePart at h
  split at h
  · exact absurd h haltHere_ne_ok
  · split at h
    · obtain rfl := congrArg Prod.snd (Except.ok.inj h)
      simp
    · exact absurd h haltNext_ne_ok

/-- The second half of a character shortens the text. -/
theorem length_of_trailingHalf {t r : Text} {n : Nat} (h : trailingHalf t = .ok (n, r)) :
    r.length < t.length := by
  obtain ⟨_, r1, h1, h⟩ := bind_eq_ok_iff.1 h
  obtain ⟨_, r2, h2, h⟩ := bind_eq_ok_iff.1 h
  obtain ⟨m, r3, h3, h⟩ := bind_eq_ok_iff.1 h
  have := length_of_escapePart h1
  have := length_of_escapePart h2
  have := length_of_hexEscape h3
  split at h
  · obtain rfl := congrArg Prod.snd (Except.ok.inj h)
    dsimp only
    omega
  · exact absurd h haltHere_ne_ok

/-- A numeric escape shortens the text. -/
theorem length_of_unicodeEscape {t r : Text} {c : Char} (h : unicodeEscape t = .ok (c, r)) :
    r.length < t.length := by
  obtain ⟨n, r1, h1, h⟩ := bind_eq_ok_iff.1 h
  have := length_of_hexEscape h1
  split at h
  · exact absurd h haltHere_ne_ok
  · split at h
    · obtain ⟨m, r2, h2, h⟩ := bind_eq_ok_iff.1 h
      have := length_of_trailingHalf h2
      obtain rfl := congrArg Prod.snd (Except.ok.inj h)
      dsimp only
      omega
    · obtain rfl := congrArg Prod.snd (Except.ok.inj h)
      assumption

/-- An escape shortens the text. -/
theorem length_of_escape {t r : Text} {c : Char} (h : escape t = .ok (c, r)) :
    r.length < t.length := by
  unfold escape at h
  split at h
  · exact absurd h haltHere_ne_ok
  · have := length_of_unicodeEscape h
    simp only [List.length_cons]
    omega
  · split at h
    · obtain rfl := congrArg Prod.snd (Except.ok.inj h)
      simp
    · exact absurd h haltNext_ne_ok

/-- A skipped escape shortens the text. -/
theorem length_of_skipEscape {t r : Text} {u : Unit} (h : skipEscape t = .ok (u, r)) :
    r.length < t.length := by
  unfold skipEscape at h
  split at h
  · exact absurd h haltHere_ne_ok
  · next r' =>
    split at h
    · exact absurd h (by simp)
    · next found hfound =>
      have := length_of_hexEscape hfound
      obtain rfl := congrArg Prod.snd (Except.ok.inj h)
      simp only [List.length_cons]
      omega
  · split at h
    · obtain rfl := congrArg Prod.snd (Except.ok.inj h)
      simp
    · exact absurd h haltNext_ne_ok

/-! ## Strings -/

/-- Whether a character has to be escaped inside a string. -/
def isControl (c : Char) : Bool :=
  c.toNat < 0x20

/-- The characters of a string, behind its opening quote. -/
def stringRest (t : Text) : Except Halt (Text × Text) :=
  match t with
  | [] => haltHere .endInString t
  | c :: r =>
    if c = '"' then .ok ([], r)
    else if c = '\\' then
      match _h : escape r with
      | .error halt => .error halt
      | .ok (d, r') => (stringRest r').map fun found => (d :: found.1, found.2)
    else if isControl c then haltNext .controlCharacter t
    else (stringRest r).map fun found => (c :: found.1, found.2)
termination_by t.length
decreasing_by
  · have := length_of_escape _h
    simp only [List.length_cons]
    omega
  · simp

/-- Skips the characters of a string, behind its opening quote. -/
def skipStringRest (t : Text) : Except Halt (Unit × Text) :=
  match t with
  | [] => haltHere .endInString t
  | c :: r =>
    if c = '"' then .ok ((), r)
    else if c = '\\' then
      match _h : skipEscape r with
      | .error halt => .error halt
      | .ok (_, r') => skipStringRest r'
    else if isControl c then haltHere .controlCharacter t
    else skipStringRest r
termination_by t.length
decreasing_by
  · have := length_of_skipEscape _h
    simp only [List.length_cons]
    omega
  · simp

/-- A string, from its opening quote on. -/
def quoted : JsonReader Text := do
  drop
  stringRest

/-- Skips a string, from its opening quote on. -/
def skipQuoted : JsonReader Unit := do
  drop
  skipStringRest

/-! ## Numbers -/

/-- The value of a decimal digit. -/
def digitValue (c : Char) : Nat :=
  c.toNat - '0'.toNat

/-- Takes the digits at the start of the text. -/
def digits : JsonReader Text := fun t =>
  .ok (t.takeWhile Char.isDigit, t.dropWhile Char.isDigit)

/-- Appends digits to a number as long as it stays below `bound`; the digits that are
left over come with it. -/
def appendDigits (bound n : Nat) : Text → Nat × Text
  | [] => (n, [])
  | c :: r =>
    if n * 10 + digitValue c < bound then appendDigits bound (n * 10 + digitValue c) r
    else (n, c :: r)

/-- Numbers with a greater significand are rounded before they are read. -/
def significandBound : Nat := Nat.pow 2 64

/-- Exponents that are not below this one are not read to their end. -/
def exponentBound : Nat := Nat.pow 2 31

/-- The number `significand · 10 ^ exponent`. -/
def realNumber (negative : Bool) (significand : Nat) (exponent : Int) : JsonReader JsonNumber :=
  match Binary.ofDecimal? significand exponent with
  | some b => pure (.real negative b)
  | none => haltHere .numberOutOfRange

/-- What follows the letter of an exponent.  A negative exponent that is too great
gives zero, a positive one does so for zero only. -/
def exponentPart (negative : Bool) (significand : Nat) (start : Int) : JsonReader JsonNumber := do
  let t ← get
  let below := t.head? = some '-'
  if below || t.head? = some '+' then drop
  match ← get with
  | [] => haltHere .endInValue
  | c :: _ =>
    if !c.isDigit then haltNext .invalidNumber
    else
      let t ← get
      let (e, left) := appendDigits exponentBound 0 (← digits)
      if left = [] then realNumber negative significand (if below then start - e else start + e)
      else if significand ≠ 0 && !below then
        set (t.drop ((t.takeWhile Char.isDigit).length - left.length + 1))
        haltHere .numberOutOfRange
      else return .real negative .zero

/-- The letter of an exponent. -/
def isExponentMark (c : Char) : Bool :=
  c = 'e' || c = 'E'

/-- The exponent, if there is one, of a number that is real in any case. -/
def exponent? (negative : Bool) (significand : Nat) (start : Int) : JsonReader JsonNumber := do
  if (← get).head?.any isExponentMark then
    drop
    exponentPart negative significand start
  else realNumber negative significand start

/-- What follows a decimal point. -/
def fractionPart (negative : Bool) (significand : Nat) (start : Int) : JsonReader JsonNumber := do
  let ds ← digits
  if ds = [] then
    if (← get) = [] then haltHere .endInValue else haltNext .invalidNumber
  else
    let (n, left) := appendDigits significandBound significand ds
    exponent? negative n (start - ((ds.length - left.length : Nat) : Int))

/-- A whole number as JSON keeps it.  Negative numbers have one bit less, and minus
zero is real. -/
def wholeNumber (negative : Bool) (n : Nat) : JsonReader JsonNumber :=
  if !negative then pure (.integer n)
  else if n ≠ 0 ∧ n ≤ Nat.pow 2 63 then pure (.integer (-n))
  else realNumber true n 0

/-- The first digits of a number: a zero stands alone. -/
def leadingDigits : JsonReader Text := do
  match ← get with
  | [] => haltHere .endInValue
  | '0' :: r =>
    drop
    if r.head?.any Char.isDigit then haltNext .invalidNumber else return ['0']
  | c :: _ => if c.isDigit then digits else haltNext .invalidNumber

/-- A number behind its sign. -/
def unsignedNumber (negative : Bool) : JsonReader JsonNumber := do
  let (n, left) := appendDigits significandBound 0 (← leadingDigits)
  match (← get).head? with
  | some '.' =>
    drop
    fractionPart negative n left.length
  | next =>
    if left = [] && !next.any isExponentMark then wholeNumber negative n
    else exponent? negative n left.length

/-- A number. -/
def number : JsonReader JsonNumber := do
  if (← get).head? = some '-' then
    drop
    unsignedNumber true
  else unsignedNumber false

/-- Skips what follows the letter of an exponent. -/
def skipExponent : JsonReader Unit := do
  if (← get).head?.any fun c => c = '+' || c = '-' then drop
  if (← get).head?.any Char.isDigit then discard digits else haltNext .invalidNumber

/-- Skips an exponent, if there is one. -/
def skipExponent? : JsonReader Unit := do
  if (← get).head?.any isExponentMark then
    drop
    skipExponent

/-- Skips a number. -/
def skipNumber : JsonReader Unit := do
  if (← get).head? = some '-' then drop
  match ← get with
  | '0' :: r =>
    drop
    if r.head?.any Char.isDigit then haltNext .invalidNumber
  | t => if t.head?.any Char.isDigit then discard digits else haltNext .invalidNumber
  if (← get).head? = some '.' then
    drop
    if (← digits) = [] then haltNext .invalidNumber
  skipExponent?

end JsonReader

end Flowchart
