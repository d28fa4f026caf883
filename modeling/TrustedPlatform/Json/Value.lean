import TrustedPlatform.Json.Token

/-!
# JSON values

`Value.ofTokens?` builds a value with a stack of the arrays and objects that are still open, one
step per token, so deep nesting costs no recursion. Numbers and strings keep what their tokens
keep; the keys of an object keep their order and may repeat.
-/

namespace TrustedPlatform.Json

/-- A JSON value. -/
inductive Value
  | null
  | bool (value : Bool)
  | number (natural : Option Nat)
  | string (text : Option String)
  | array (items : List Value)
  | object (members : List (Option String × Value))
  deriving Repr

/-- An array or object that is still open; its items or members are kept last first. -/
inductive Frame
  | array (items : List Value)
  | object (members : List (Option String × Value)) (key : Option String)

/-- What may come next. -/
inductive Expecting
  | value
  | firstValue
  | key
  | firstKey
  | colon
  | separator
  | nothing

/-- The open frames, innermost first, what may come next, and the value once it is complete. -/
structure Builder where
  stack : List Frame
  expecting : Expecting
  result : Option Value

namespace Builder

/-- The builder after a value is complete. -/
def complete (stack : List Frame) (value : Value) : Builder :=
  match stack with
  | [] => ⟨[], .nothing, some value⟩
  | .array items :: outer => ⟨.array (value :: items) :: outer, .separator, none⟩
  | .object members key :: outer =>
    ⟨.object ((key, value) :: members) none :: outer, .separator, none⟩

/-- The builder after a token that starts a value. -/
def value? (stack : List Frame) : Token → Option Builder
  | .null => some (complete stack .null)
  | .bool b => some (complete stack (.bool b))
  | .number natural => some (complete stack (.number natural))
  | .string text => some (complete stack (.string text))
  | .openBracket => some ⟨.array [] :: stack, .firstValue, none⟩
  | .openBrace => some ⟨.object [] none :: stack, .firstKey, none⟩
  | _ => none

/-- The builder after a key. -/
def key? (stack : List Frame) : Token → Option Builder
  | .string text =>
    match stack with
    | .object members _ :: outer => some ⟨.object members text :: outer, .colon, none⟩
    | _ => none
  | _ => none

/-- The builder after a closing bracket or brace. -/
def close? : List Frame → Token → Option Builder
  | .array items :: outer, .closeBracket => some (complete outer (.array items.reverse))
  | .object members _ :: outer, .closeBrace => some (complete outer (.object members.reverse))
  | _, _ => none

/-- The builder after a comma. -/
def next? : List Frame → Option Builder
  | .array items :: outer => some ⟨.array items :: outer, .value, none⟩
  | .object members key :: outer => some ⟨.object members key :: outer, .key, none⟩
  | [] => none

/-- The builder after one more token. -/
def step (builder : Builder) (token : Token) : Option Builder :=
  match builder.expecting with
  | .value => value? builder.stack token
  | .firstValue => (close? builder.stack token).orElse fun _ => value? builder.stack token
  | .key => key? builder.stack token
  | .firstKey => (close? builder.stack token).orElse fun _ => key? builder.stack token
  | .colon => if token = .colon then some { builder with expecting := .value } else none
  | .separator => if token = .comma then next? builder.stack else close? builder.stack token
  | .nothing => none

end Builder

namespace Value

/-- The value that all the tokens together spell. -/
def ofTokens? (tokens : List Token) : Option Value := do
  (← tokens.foldlM Builder.step ⟨[], .value, none⟩).result

/-- The value a text spells. -/
def ofString? (text : String) : Option Value := do
  ofTokens? (← Token.ofChars? text.toList)

/-- The number, if it is a natural number below `bound`. -/
def natBelow? (bound : Nat) : Value → Option Nat
  | number (some n) => if n < bound then some n else none
  | _ => none

/-- The truth value. -/
def bool? : Value → Option Bool
  | bool b => some b
  | _ => none

/-- The text of a string. -/
def string? : Value → Option String
  | string text => text
  | _ => none

/-- The items of an array, each read by `item?`. -/
def array? {α : Type} (item? : Value → Option α) : Value → Option (List α)
  | array items => items.mapM item?
  | _ => none

/-- The values of the members called `name`, of which there may be at most one. -/
def member? (name : String) (members : List (Option String × Value)) : Option (Option Value) :=
  match members.filter (·.1 = some name) with
  | [] => some none
  | [(_, value)] => some (some value)
  | _ => none

/-- The values of a record's fields, some of which may be missing. A record is an object, which may
have other members too but none of the fields twice, or an array of the leading fields in order. -/
def record? (names : List String) : Value → Option (List (Option Value))
  | object members =>
    if members.all (·.1.isSome) then names.mapM (member? · members) else none
  | array items =>
    if items.length ≤ names.length then
      some (items.map some ++ List.replicate (names.length - items.length) none)
    else none
  | _ => none

/-- What `read?` makes of a field, `default` if it is missing. -/
def fieldOr {α : Type} (default : α) (read? : Value → Option α) : Option Value → Option α
  | none => some default
  | some value => read? value

end Value

end TrustedPlatform.Json
