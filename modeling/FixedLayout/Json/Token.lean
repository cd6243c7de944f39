import FixedLayout.Json.Numeral

/-!
JSON text as a list of tokens. Strict: nothing but the four blanks stands between tokens, and a
string holds no raw control character.
-/
namespace FixedLayout.Json

inductive Token where
  | openObject | closeObject | openArray | closeArray | colon | comma
  | null
  | bool (value : Bool)
  | number (value : Numeral)
  /-- A string, which has no value where an escape names half of a surrogate pair alone. -/
  | string (value : Option String)
  deriving DecidableEq, Repr

/-- A piece of a string: a character, or a UTF-16 unit named by an escape. -/
inductive Piece where
  | char (value : Char)
  | unit (value : Nat)
  deriving DecidableEq, Repr

def hexDigit? (c : Char) : Option Nat :=
  if '0' ≤ c ∧ c ≤ '9' then some (c.toNat - '0'.toNat)
  else if 'a' ≤ c ∧ c ≤ 'f' then some (c.toNat - 'a'.toNat + 10)
  else if 'A' ≤ c ∧ c ≤ 'F' then some (c.toNat - 'A'.toNat + 10)
  else none

def hexUnit? (a b c d : Char) : Option Nat := do
  return (((← hexDigit? a) * 16 + (← hexDigit? b)) * 16 + (← hexDigit? c)) * 16 + (← hexDigit? d)

def escaped? : Char → Option Char
  | '"' => some '"'
  | '\\' => some '\\'
  | '/' => some '/'
  | 'b' => some '\x08'
  | 'f' => some '\x0c'
  | 'n' => some '\n'
  | 'r' => some '\r'
  | 't' => some '\t'
  | _ => none

/-- The rest of a string up to its closing quote, and what follows that. -/
def readString? : List Char → Option (List Piece × List Char)
  | '"' :: rest => some ([], rest)
  | '\\' :: 'u' :: a :: b :: c :: d :: rest => do
    let unit ← hexUnit? a b c d
    let (pieces, rest) ← readString? rest
    return (.unit unit :: pieces, rest)
  | '\\' :: letter :: rest => do
    let char ← escaped? letter
    let (pieces, rest) ← readString? rest
    return (.char char :: pieces, rest)
  | c :: rest =>
    if c.toNat < 0x20 then
      none
    else do
      let (pieces, rest) ← readString? rest
      return (.char c :: pieces, rest)
  | [] => none

/-- Whether a UTF-16 unit is the first half of a pair. -/
def isHighSurrogate (unit : Nat) : Bool := 0xd800 ≤ unit && unit < 0xdc00

/-- Whether a UTF-16 unit is the second half of a pair. -/
def isLowSurrogate (unit : Nat) : Bool := 0xdc00 ≤ unit && unit < 0xe000

/-- The characters of a string, if all halves of pairs are matched. -/
def joinPieces? : List Piece → Option (List Char)
  | [] => some []
  | .char c :: rest => (joinPieces? rest).map (c :: ·)
  | .unit high :: .unit low :: rest =>
    if isHighSurrogate high then
      if isLowSurrogate low then
        (joinPieces? rest).map
          (Char.ofNat (0x10000 + (high - 0xd800) * 0x400 + (low - 0xdc00)) :: ·)
      else
        none
    else if isLowSurrogate high then
      none
    else
      (joinPieces? (.unit low :: rest)).map (Char.ofNat high :: ·)
  | .unit unit :: rest =>
    if isHighSurrogate unit || isLowSurrogate unit then none
    else (joinPieces? rest).map (Char.ofNat unit :: ·)

def readToken? : List Char → Option (Token × List Char)
  | '{' :: rest => some (.openObject, rest)
  | '}' :: rest => some (.closeObject, rest)
  | '[' :: rest => some (.openArray, rest)
  | ']' :: rest => some (.closeArray, rest)
  | ':' :: rest => some (.colon, rest)
  | ',' :: rest => some (.comma, rest)
  | 'n' :: 'u' :: 'l' :: 'l' :: rest => some (.null, rest)
  | 't' :: 'r' :: 'u' :: 'e' :: rest => some (.bool true, rest)
  | 'f' :: 'a' :: 'l' :: 's' :: 'e' :: rest => some (.bool false, rest)
  | '"' :: rest => do
    let (pieces, rest) ← readString? rest
    return (.string ((joinPieces? pieces).map String.ofList), rest)
  | text => do
    let (numeral, rest) ← readNumeral? text
    return (.number numeral, rest)

/-- Whether a character may stand between tokens. -/
def isBlank (c : Char) : Bool := c == ' ' || c == '\t' || c == '\n' || c == '\r'

theorem length_readString? {text rest : List Char} {pieces : List Piece}
    (h : readString? text = some (pieces, rest)) : rest.length < text.length := by
  fun_induction readString? text generalizing pieces rest with
  | case1 after =>
    simp only [Option.some.injEq, Prod.mk.injEq] at h
    simp [← h.2]
  | case2 a b c d after ih =>
    simp only [Option.bind_eq_bind, Option.bind_eq_some_iff] at h
    obtain ⟨_, _, ⟨inner, _⟩, found, same⟩ := h
    have := ih found
    simp only [pure, Option.some.injEq, Prod.mk.injEq] at same
    simp only [← same.2, List.length_cons]
    omega
  | case3 letter after _ ih =>
    simp only [Option.bind_eq_bind, Option.bind_eq_some_iff] at h
    obtain ⟨_, _, ⟨inner, _⟩, found, same⟩ := h
    have := ih found
    simp only [pure, Option.some.injEq, Prod.mk.injEq] at same
    simp only [← same.2, List.length_cons]
    omega
  | case4 => simp at h
  | case5 c after _ _ _ _ ih =>
    simp only [Option.bind_eq_bind, Option.bind_eq_some_iff] at h
    obtain ⟨⟨inner, _⟩, found, same⟩ := h
    have := ih found
    simp only [pure, Option.some.injEq, Prod.mk.injEq] at same
    simp only [← same.2, List.length_cons]
    omega
  | case6 => simp at h

theorem length_readToken? {text rest : List Char} {token : Token}
    (h : readToken? text = some (token, rest)) : rest.length < text.length := by
  unfold readToken? at h
  split at h
  case h_10 =>
    simp only [Option.bind_eq_bind, Option.bind_eq_some_iff] at h
    obtain ⟨⟨pieces, _⟩, found, same⟩ := h
    have := length_readString? found
    simp only [pure, Option.some.injEq, Prod.mk.injEq] at same
    simp only [← same.2, List.length_cons]
    omega
  case h_11 =>
    simp only [Option.bind_eq_bind, Option.bind_eq_some_iff] at h
    obtain ⟨⟨numeral, _⟩, found, same⟩ := h
    have := length_readNumeral? found
    simp only [pure, Option.some.injEq, Prod.mk.injEq] at same
    simpa only [← same.2] using this
  all_goals
    simp only [Option.some.injEq, Prod.mk.injEq] at h
    simp only [← h.2, List.length_cons]
    omega

/-- The tokens of a text, unless it holds something else. -/
def tokens? (text : List Char) : Option (List Token) :=
  match _dropped : text.dropWhile isBlank with
  | [] => some []
  | c :: more =>
    match _read : readToken? (c :: more) with
    | some (token, rest) => (tokens? rest).map (token :: ·)
    | none => none
termination_by text.length
decreasing_by
  have shorter := length_readToken? _read
  have := (List.dropWhile_sublist (p := isBlank) (l := text)).length_le
  rw [_dropped] at this
  omega

end FixedLayout.Json
