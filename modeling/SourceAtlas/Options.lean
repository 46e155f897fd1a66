import SourceAtlas.Failure
import SourceAtlas.Text.Inspect

/-!
# Options

Sets of flags that go to the engine as bits: how to parse, how to format a diagnostic, and what code
completion should include.
-/

namespace SourceAtlas

/-- Flags that control how a unit is parsed. -/
structure ParseOptions where
  bits : UInt32 := 0
deriving DecidableEq, Repr, Inhabited

namespace ParseOptions

/-- Keep macro definitions and expansions in the tree. -/
def detailedProcessingRecord : ParseOptions := ⟨0x01⟩

/-- The source is incomplete, such as a header parsed on its own. -/
def incomplete : ParseOptions := ⟨0x02⟩

def precompiledPreamble : ParseOptions := ⟨0x04⟩

def cacheCompletionResults : ParseOptions := ⟨0x08⟩

def skipFunctionBodies : ParseOptions := ⟨0x40⟩

def includeBriefCommentsInCodeCompletion : ParseOptions := ⟨0x80⟩

/-- The flags of either set. -/
def union (a b : ParseOptions) : ParseOptions :=
  ⟨a.bits ||| b.bits⟩

instance : OrOp ParseOptions := ⟨union⟩

/-- Whether every flag of `b` is in `a`. -/
def contains (a b : ParseOptions) : Bool :=
  a.bits &&& b.bits == b.bits

def inspect (options : ParseOptions) : Inspect :=
  .tuple "ParseOptions" [.nat options.bits.toNat]

end ParseOptions

/-- The parts to include when a diagnostic is formatted. -/
structure DisplayOptions where
  bits : UInt32
deriving DecidableEq, Repr

namespace DisplayOptions

/-- All flags that exist: location, column, ranges, option, category number and category name. -/
def all : UInt32 := 0x3F

/-- The flags of either set. -/
def union (a b : DisplayOptions) : DisplayOptions :=
  ⟨a.bits ||| b.bits⟩

instance : OrOp DisplayOptions := ⟨union⟩

/-- The bits of a set without unknown flags. -/
def validate (options : DisplayOptions) : Except Failure UInt32 :=
  if options.bits &&& ~~~all != 0 then .error (.invalidFormatOptions options.bits)
  else .ok options.bits

def inspect (options : DisplayOptions) : Inspect :=
  .tuple "DisplayOptions" [.nat options.bits.toNat]

end DisplayOptions

/-- What code completion should include besides plain declarations. -/
structure CompleteOptions where
  includeMacros : Bool := false
  includeCodePatterns : Bool := false
  includeBriefComments : Bool := false
deriving DecidableEq, Repr, Inhabited

namespace CompleteOptions

def bits (options : CompleteOptions) : UInt32 :=
  (if options.includeMacros then 0x01 else 0) |||
  (if options.includeCodePatterns then 0x02 else 0) |||
  (if options.includeBriefComments then 0x04 else 0)

def inspect (options : CompleteOptions) : Inspect :=
  .record "CompleteOptions"
    [("include_macros", .bool options.includeMacros),
      ("include_code_patterns", .bool options.includeCodePatterns),
      ("include_brief_comments", .bool options.includeBriefComments)]

end CompleteOptions

end SourceAtlas
