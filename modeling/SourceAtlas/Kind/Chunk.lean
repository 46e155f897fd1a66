import SourceAtlas.Kind.Closed

/-!
# Completion chunk kinds

The parts of a completion string.
-/

namespace SourceAtlas

/-- The part that a chunk plays in a completion string. -/
inductive CompletionChunkKind where
  | optional | typedText | text | placeholder | informative
  | currentParameter | leftParen | rightParen | leftBracket | rightBracket
  | leftBrace | rightBrace | leftAngle | rightAngle | comma
  | resultType | colon | semiColon | equal | horizontalSpace
  | verticalSpace
  /-- A number without a meaning here. -/
  | unknown (raw : Int32)
deriving DecidableEq, Repr

namespace CompletionChunkKind

def ofRaw : Int32 → CompletionChunkKind
  | 0 => .optional
  | 1 => .typedText
  | 2 => .text
  | 3 => .placeholder
  | 4 => .informative
  | 5 => .currentParameter
  | 6 => .leftParen
  | 7 => .rightParen
  | 8 => .leftBracket
  | 9 => .rightBracket
  | 10 => .leftBrace
  | 11 => .rightBrace
  | 12 => .leftAngle
  | 13 => .rightAngle
  | 14 => .comma
  | 15 => .resultType
  | 16 => .colon
  | 17 => .semiColon
  | 18 => .equal
  | 19 => .horizontalSpace
  | 20 => .verticalSpace
  | raw => .unknown raw

def raw : CompletionChunkKind → Int32
  | .optional => 0
  | .typedText => 1
  | .text => 2
  | .placeholder => 3
  | .informative => 4
  | .currentParameter => 5
  | .leftParen => 6
  | .rightParen => 7
  | .leftBracket => 8
  | .rightBracket => 9
  | .leftBrace => 10
  | .rightBrace => 11
  | .leftAngle => 12
  | .rightAngle => 13
  | .comma => 14
  | .resultType => 15
  | .colon => 16
  | .semiColon => 17
  | .equal => 18
  | .horizontalSpace => 19
  | .verticalSpace => 20
  | .unknown raw => raw

def name? : CompletionChunkKind → Option String
  | .optional => some "Optional"
  | .typedText => some "TypedText"
  | .text => some "Text"
  | .placeholder => some "Placeholder"
  | .informative => some "Informative"
  | .currentParameter => some "CurrentParameter"
  | .leftParen => some "LeftParen"
  | .rightParen => some "RightParen"
  | .leftBracket => some "LeftBracket"
  | .rightBracket => some "RightBracket"
  | .leftBrace => some "LeftBrace"
  | .rightBrace => some "RightBrace"
  | .leftAngle => some "LeftAngle"
  | .rightAngle => some "RightAngle"
  | .comma => some "Comma"
  | .resultType => some "ResultType"
  | .colon => some "Colon"
  | .semiColon => some "SemiColon"
  | .equal => some "Equal"
  | .horizontalSpace => some "HorizontalSpace"
  | .verticalSpace => some "VerticalSpace"
  | .unknown _ => none

instance : ClosedKind CompletionChunkKind := ⟨ofRaw, raw, name?⟩

end CompletionChunkKind

end SourceAtlas
