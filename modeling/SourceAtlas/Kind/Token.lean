import SourceAtlas.Kind.Closed

/-!
# Token kinds

The five kinds of token.
-/

namespace SourceAtlas

/-- What a token is to the lexer. -/
inductive TokenKind where
  | punctuation | keyword | identifier | literal | comment
  /-- A number without a meaning here. -/
  | unknown (raw : Int32)
deriving DecidableEq, Repr

namespace TokenKind

def ofRaw : Int32 → TokenKind
  | 0 => .punctuation
  | 1 => .keyword
  | 2 => .identifier
  | 3 => .literal
  | 4 => .comment
  | raw => .unknown raw

def raw : TokenKind → Int32
  | .punctuation => 0
  | .keyword => 1
  | .identifier => 2
  | .literal => 3
  | .comment => 4
  | .unknown raw => raw

def name? : TokenKind → Option String
  | .punctuation => some "Punctuation"
  | .keyword => some "Keyword"
  | .identifier => some "Identifier"
  | .literal => some "Literal"
  | .comment => some "Comment"
  | .unknown _ => none

instance : ClosedKind TokenKind := ⟨ofRaw, raw, name?⟩

end TokenKind

end SourceAtlas
