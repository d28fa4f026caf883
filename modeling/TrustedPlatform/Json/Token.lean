import TrustedPlatform.Text.Hex

/-!
# The tokens of JSON text

`Token.ofChars?` runs a machine over the characters, one step each, so the length of the text and
the depth of its nesting cost no recursion. A number token keeps the number only if it is written
as a plain natural number; a string token keeps its text only if every surrogate escape in it is
half of a pair.
-/

namespace TrustedPlatform.Json

/-- A token of JSON text. -/
inductive Token
  | openBrace
  | closeBrace
  | openBracket
  | closeBracket
  | colon
  | comma
  | null
  | bool (value : Bool)
  | number (natural : Option Nat)
  | string (text : Option String)
  deriving DecidableEq, Repr

/-! ## Strings -/

/-- A piece of a string: a character, or the UTF-16 unit of an escape. -/
inductive Piece
  | char (c : Char)
  | unit (code : Nat)
  deriving DecidableEq, Repr

/-- Whether a UTF-16 unit is the first half of a pair. -/
def isHighSurrogate (code : Nat) : Bool := 0xD800 ≤ code && code < 0xDC00

/-- Whether a UTF-16 unit is the second half of a pair. -/
def isLowSurrogate (code : Nat) : Bool := 0xDC00 ≤ code && code < 0xE000

/-- The characters that pieces spell, if surrogates come in pairs. -/
def charsOf? : List Piece → Option (List Char)
  | [] => some []
  | .char c :: rest => (charsOf? rest).map (c :: ·)
  | .unit high :: .unit low :: rest =>
    if isHighSurrogate high then
      if isLowSurrogate low then
        (charsOf? rest).map
          (Char.ofNat (0x10000 + (high - 0xD800) * 0x400 + (low - 0xDC00)) :: ·)
      else none
    else if isLowSurrogate high then none
    else (charsOf? (.unit low :: rest)).map (Char.ofNat high :: ·)
  | .unit code :: rest =>
    if isHighSurrogate code || isLowSurrogate code then none
    else (charsOf? rest).map (Char.ofNat code :: ·)

/-- The character that a single-letter escape stands for. -/
def escape? (c : Char) : Option Char :=
  match c with
  | '\x22' => some '\x22'
  | '\x5c' => some '\x5c'
  | '/' => some '/'
  | 'b' => some '\x08'
  | 'f' => some '\x0c'
  | 'n' => some '\n'
  | 'r' => some '\r'
  | 't' => some '\t'
  | _ => none

/-! ## Numbers -/

/-- The characters left after a nonempty run of digits. -/
def afterDigits? (cs : List Char) : Option (List Char) :=
  let rest := cs.dropWhile Char.isDigit
  if rest.length < cs.length then some rest else none

/-- The characters left after an integer without sign; a leading zero stands alone. -/
def afterInteger? : List Char → Option (List Char)
  | '0' :: rest => some rest
  | cs => afterDigits? cs

/-- The characters left after a fraction, if there is one. -/
def afterFraction? : List Char → Option (List Char)
  | '.' :: rest => afterDigits? rest
  | cs => some cs

/-- The characters left after an exponent, if there is one. -/
def afterExponent? : List Char → Option (List Char)
  | c :: rest =>
    if c = 'e' ∨ c = 'E' then
      match rest with
      | '+' :: digits => afterDigits? digits
      | '-' :: digits => afterDigits? digits
      | digits => afterDigits? digits
    else some (c :: rest)
  | [] => some []

/-- The value of a run of digits. -/
def digitsValue (digits : List Char) : Nat :=
  digits.foldl (fun n c => 10 * n + (c.toNat - '0'.toNat)) 0

/-- The token of a number's characters, if they follow the grammar. -/
def numberToken? (cs : List Char) : Option Token := do
  let unsigned := if cs.head? = some '-' then cs.tail else cs
  let rest ← afterInteger? unsigned
  let rest ← afterFraction? rest
  let rest ← afterExponent? rest
  if rest.isEmpty then
    return .number (if cs.all Char.isDigit then some (digitsValue cs) else none)
  else none

/-! ## The machine -/

/-- What the machine is in the middle of; characters and pieces are kept last first. -/
inductive Mode
  | between
  | number (cs : List Char)
  | word (cs : List Char)
  | string (pieces : List Piece)
  | escape (pieces : List Piece)
  | unicode (pieces : List Piece) (digits : Nat) (code : Nat)

/-- The tokens read so far, last first, and what the machine is in the middle of. -/
structure Machine where
  tokens : List Token
  mode : Mode

/-- Whether a character may occur in a number. -/
def isNumberChar (c : Char) : Bool :=
  c.isDigit || c = '-' || c = '+' || c = '.' || c = 'e' || c = 'E'

/-- The token of a word. -/
def wordToken? (cs : List Char) : Option Token :=
  match String.ofList cs with
  | "true" => some (.bool true)
  | "false" => some (.bool false)
  | "null" => some .null
  | _ => none

/-- The machine after a character that stands between tokens or starts one. -/
def Machine.start (tokens : List Token) (c : Char) : Option Machine :=
  match c with
  | ' ' | '\t' | '\n' | '\r' => some ⟨tokens, .between⟩
  | '\x7b' => some ⟨.openBrace :: tokens, .between⟩
  | '\x7d' => some ⟨.closeBrace :: tokens, .between⟩
  | '[' => some ⟨.openBracket :: tokens, .between⟩
  | ']' => some ⟨.closeBracket :: tokens, .between⟩
  | ':' => some ⟨.colon :: tokens, .between⟩
  | ',' => some ⟨.comma :: tokens, .between⟩
  | '\x22' => some ⟨tokens, .string []⟩
  | c =>
    if c.isDigit || c = '-' then some ⟨tokens, .number [c]⟩
    else if c.isLower then some ⟨tokens, .word [c]⟩
    else none

/-- The machine after one more character. -/
def Machine.step (machine : Machine) (c : Char) : Option Machine :=
  match machine.mode with
  | .between => Machine.start machine.tokens c
  | .number cs =>
    if isNumberChar c then some { machine with mode := .number (c :: cs) }
    else do Machine.start ((← numberToken? cs.reverse) :: machine.tokens) c
  | .word cs =>
    if c.isLower then some { machine with mode := .word (c :: cs) }
    else do Machine.start ((← wordToken? cs.reverse) :: machine.tokens) c
  | .string pieces =>
    if c = '\x22' then
      some ⟨.string ((charsOf? pieces.reverse).map String.ofList) :: machine.tokens, .between⟩
    else if c = '\x5c' then some { machine with mode := .escape pieces }
    else if c.toNat < 0x20 then none
    else some { machine with mode := .string (.char c :: pieces) }
  | .escape pieces =>
    if c = 'u' then some { machine with mode := .unicode pieces 0 0 }
    else do return { machine with mode := .string (.char (← escape? c) :: pieces) }
  | .unicode pieces digits code => do
    let code := 16 * code + (← Hex.value? c)
    if digits = 3 then return { machine with mode := .string (.unit code :: pieces) }
    else return { machine with mode := .unicode pieces (digits + 1) code }

/-- The tokens, if the text may end here. -/
def Machine.finish? (machine : Machine) : Option (List Token) :=
  match machine.mode with
  | .between => some machine.tokens.reverse
  | .number cs => do return ((← numberToken? cs.reverse) :: machine.tokens).reverse
  | .word cs => do return ((← wordToken? cs.reverse) :: machine.tokens).reverse
  | _ => none

/-- The tokens of a text. -/
def Token.ofChars? (cs : List Char) : Option (List Token) := do
  (← cs.foldlM Machine.step ⟨[], .between⟩).finish?

end TrustedPlatform.Json
