import SourceAtlas.Entity.Source
import SourceAtlas.Entity.Type
import SourceAtlas.Kind.Token

/-!
# Tokens

The engine hands out tokens in batches that can only be given back as a whole. A stream over a batch
and every token taken from it hold the batch. A stream that has run to its end holds nothing.
-/

namespace SourceAtlas

namespace TokenStream

/-- The tokens of a span of a unit. Without tokens there is no batch. -/
def make (unit : SourceUnit) (range : Raw Span) : Act TokenStream := do
  Act.ask (.tokenize range.value) [unit.resource, range.origin]
  let tokens := (← Act.engine).tokensIn (← Act.table unit.resource) range.value
  if tokens.isEmpty then return { batch := none }
  let resource ← Act.acquire .tokens tokens.length
  let cell ← Act.newCell (some resource) (.tokens unit)
  return { batch := some ⟨cell, resource, unit, tokens⟩ }

/-- How many tokens are still to come. -/
def remaining (stream : TokenStream) : Nat :=
  stream.batch.elim 0 fun batch => batch.tokens.length - stream.next

/-- The next token, and the stream after it. At the end the stream lets its batch go. -/
def advance (stream : TokenStream) : Act (TokenStream × Option Token) := do
  match stream.batch with
  | none => return (stream, none)
  | some batch =>
    if stream.next < batch.tokens.length then
      let token ← Act.keep (⟨batch, stream.next⟩ : Token)
      return ({ stream with next := stream.next + 1 }, some token)
    else
      Act.drop batch
      return ({ stream with batch := none }, none)

/-- All tokens that are still to come, and the stream after its end. -/
def drain (stream : TokenStream) : Act (TokenStream × List Token) :=
  loop (stream.remaining + 1) stream []
where
  /-- The bound is one more than the number of tokens to come, so the last turn finds the end. -/
  loop : Nat → TokenStream → List Token → Act (TokenStream × List Token)
    | 0, stream, taken => return (stream, taken.reverse)
    | turns + 1, stream, taken => do
      match ← stream.advance with
      | (stream, some token) => loop turns stream (token :: taken)
      | (stream, none) => return (stream, taken.reverse)

def inspect (stream : TokenStream) : Inspect :=
  .record "Tokens" [("remaining", .nat stream.remaining)]

end TokenStream

namespace Token

def entry (token : Token) : TokenEntry :=
  token.batch.tokens[token.position]?.getD {}

/-- Asks about the token. -/
def ask (token : Token) (question : Nat → Question) : Act TokenEntry := do
  Act.ask (question token.position) [token.batch.unit.resource, token.batch.resource]
  return token.entry

/-- The text of the token in the source. -/
def spelling (token : Token) : Act String := do
  Act.text (← token.ask .tokenSpelling).spelling

def kind (token : Token) : Act TokenKind := do
  return .ofRaw (← token.ask .tokenKind).kind

def location (token : Token) : Act SourceLocation := do
  let place := (← token.ask .tokenLocation).location
  let unit := token.batch.unit
  Act.keep { raw := ⟨place, unit.resource⟩, unit }

def extent (token : Token) : Act SourceRange := do
  let span := (← token.ask .tokenExtent).extent
  let unit := token.batch.unit
  Act.keep { raw := ⟨span, unit.resource⟩, unit }

/-- The innermost cursor that the token belongs to. -/
def cursor (token : Token) : Act (Option Cursor) := do
  let cursor := (← token.ask .tokenCursor).cursor
  Cursor.ofRaw? ⟨cursor, token.batch.unit.resource⟩ token.batch.unit

def inspect (token : Token) : Act Inspect := do
  let kind ← token.kind
  return .record "Token"
    [("kind", ClosedKind.inspect kind), ("spelling", .text (← token.spelling))]

end Token

end SourceAtlas
