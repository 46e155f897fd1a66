import SourceAtlas.Kind.Closed

/-!
# Kinds of entities

How an entity is linked, stored, accessed and specified.
-/

namespace SourceAtlas

/-- How far the name of an entity reaches. -/
inductive LinkageKind where
  | invalid | noLinkage | internal | uniqueExternal | external
  /-- A number without a meaning here. -/
  | unknown (raw : Int32)
deriving DecidableEq, Repr

namespace LinkageKind

def ofRaw : Int32 → LinkageKind
  | 0 => .invalid
  | 1 => .noLinkage
  | 2 => .internal
  | 3 => .uniqueExternal
  | 4 => .external
  | raw => .unknown raw

def raw : LinkageKind → Int32
  | .invalid => 0
  | .noLinkage => 1
  | .internal => 2
  | .uniqueExternal => 3
  | .external => 4
  | .unknown raw => raw

def name? : LinkageKind → Option String
  | .invalid => some "Invalid"
  | .noLinkage => some "NoLinkage"
  | .internal => some "Internal"
  | .uniqueExternal => some "UniqueExternal"
  | .external => some "External"
  | .unknown _ => none

instance : ClosedKind LinkageKind := ⟨ofRaw, raw, name?⟩

end LinkageKind

/-- Thread-local storage of a variable. -/
inductive TlsKind where
  | unspecified | dynamic | static
  /-- A number without a meaning here. -/
  | unknown (raw : Int32)
deriving DecidableEq, Repr

namespace TlsKind

def ofRaw : Int32 → TlsKind
  | 0 => .unspecified
  | 1 => .dynamic
  | 2 => .static
  | raw => .unknown raw

def raw : TlsKind → Int32
  | .unspecified => 0
  | .dynamic => 1
  | .static => 2
  | .unknown raw => raw

def name? : TlsKind → Option String
  | .unspecified => some "None"
  | .dynamic => some "Dynamic"
  | .static => some "Static"
  | .unknown _ => none

instance : ClosedKind TlsKind := ⟨ofRaw, raw, name?⟩

end TlsKind

/-- The storage class of a declaration. -/
inductive StorageClass where
  | invalid | unspecified | external | static | privateExtern
  | openClWorkGroupLocal | auto | register
  /-- A number without a meaning here. -/
  | unknown (raw : Int32)
deriving DecidableEq, Repr

namespace StorageClass

def ofRaw : Int32 → StorageClass
  | 0 => .invalid
  | 1 => .unspecified
  | 2 => .external
  | 3 => .static
  | 4 => .privateExtern
  | 5 => .openClWorkGroupLocal
  | 6 => .auto
  | 7 => .register
  | raw => .unknown raw

def raw : StorageClass → Int32
  | .invalid => 0
  | .unspecified => 1
  | .external => 2
  | .static => 3
  | .privateExtern => 4
  | .openClWorkGroupLocal => 5
  | .auto => 6
  | .register => 7
  | .unknown raw => raw

def name? : StorageClass → Option String
  | .invalid => some "Invalid"
  | .unspecified => some "None"
  | .external => some "Extern"
  | .static => some "Static"
  | .privateExtern => some "PrivateExtern"
  | .openClWorkGroupLocal => some "OpenClWorkGroupLocal"
  | .auto => some "Auto"
  | .register => some "Register"
  | .unknown _ => none

instance : ClosedKind StorageClass := ⟨ofRaw, raw, name?⟩

end StorageClass

/-- Whether an entity may be used. -/
inductive AvailabilityKind where
  | available | deprecated | notAvailable | notAccessible
  /-- A number without a meaning here. -/
  | unknown (raw : Int32)
deriving DecidableEq, Repr

namespace AvailabilityKind

def ofRaw : Int32 → AvailabilityKind
  | 0 => .available
  | 1 => .deprecated
  | 2 => .notAvailable
  | 3 => .notAccessible
  | raw => .unknown raw

def raw : AvailabilityKind → Int32
  | .available => 0
  | .deprecated => 1
  | .notAvailable => 2
  | .notAccessible => 3
  | .unknown raw => raw

def name? : AvailabilityKind → Option String
  | .available => some "Available"
  | .deprecated => some "Deprecated"
  | .notAvailable => some "NotAvailable"
  | .notAccessible => some "NotAccessible"
  | .unknown _ => none

instance : ClosedKind AvailabilityKind := ⟨ofRaw, raw, name?⟩

end AvailabilityKind

/-- Access to a member or a base. -/
inductive AccessSpecifier where
  | invalid | publicAccess | protectedAccess | privateAccess
  /-- A number without a meaning here. -/
  | unknown (raw : Int32)
deriving DecidableEq, Repr

namespace AccessSpecifier

def ofRaw : Int32 → AccessSpecifier
  | 0 => .invalid
  | 1 => .publicAccess
  | 2 => .protectedAccess
  | 3 => .privateAccess
  | raw => .unknown raw

def raw : AccessSpecifier → Int32
  | .invalid => 0
  | .publicAccess => 1
  | .protectedAccess => 2
  | .privateAccess => 3
  | .unknown raw => raw

def name? : AccessSpecifier → Option String
  | .invalid => some "Invalid"
  | .publicAccess => some "Public"
  | .protectedAccess => some "Protected"
  | .privateAccess => some "Private"
  | .unknown _ => none

instance : ClosedKind AccessSpecifier := ⟨ofRaw, raw, name?⟩

end AccessSpecifier

/-- The reference qualifier of a member function type. -/
inductive RefQualifierKind where
  | unspecified | lValue | rValue
  /-- A number without a meaning here. -/
  | unknown (raw : Int32)
deriving DecidableEq, Repr

namespace RefQualifierKind

def ofRaw : Int32 → RefQualifierKind
  | 0 => .unspecified
  | 1 => .lValue
  | 2 => .rValue
  | raw => .unknown raw

def raw : RefQualifierKind → Int32
  | .unspecified => 0
  | .lValue => 1
  | .rValue => 2
  | .unknown raw => raw

def name? : RefQualifierKind → Option String
  | .unspecified => some "None"
  | .lValue => some "LValue"
  | .rValue => some "RValue"
  | .unknown _ => none

instance : ClosedKind RefQualifierKind := ⟨ofRaw, raw, name?⟩

end RefQualifierKind

/-- What a template argument is. -/
inductive TemplateArgumentKind where
  | null | type | declaration | nullPtr | integral
  | template | templateExpansion | expression | pack | invalid
  /-- A number without a meaning here. -/
  | unknown (raw : Int32)
deriving DecidableEq, Repr

namespace TemplateArgumentKind

def ofRaw : Int32 → TemplateArgumentKind
  | 0 => .null
  | 1 => .type
  | 2 => .declaration
  | 3 => .nullPtr
  | 4 => .integral
  | 5 => .template
  | 6 => .templateExpansion
  | 7 => .expression
  | 8 => .pack
  | 9 => .invalid
  | raw => .unknown raw

def raw : TemplateArgumentKind → Int32
  | .null => 0
  | .type => 1
  | .declaration => 2
  | .nullPtr => 3
  | .integral => 4
  | .template => 5
  | .templateExpansion => 6
  | .expression => 7
  | .pack => 8
  | .invalid => 9
  | .unknown raw => raw

def name? : TemplateArgumentKind → Option String
  | .null => some "Null"
  | .type => some "Type"
  | .declaration => some "Declaration"
  | .nullPtr => some "NullPtr"
  | .integral => some "Integral"
  | .template => some "Template"
  | .templateExpansion => some "TemplateExpansion"
  | .expression => some "Expression"
  | .pack => some "Pack"
  | .invalid => some "Invalid"
  | .unknown _ => none

instance : ClosedKind TemplateArgumentKind := ⟨ofRaw, raw, name?⟩

end TemplateArgumentKind

/-- The exception specification of a function. -/
inductive ExceptionSpecificationKind where
  | unspecified | dynamicNone | dynamic | msAny | basicNoexcept
  | computedNoexcept | unevaluated | uninstantiated | unparsed | noThrow
  /-- A number without a meaning here. -/
  | unknown (raw : Int32)
deriving DecidableEq, Repr

namespace ExceptionSpecificationKind

def ofRaw : Int32 → ExceptionSpecificationKind
  | 0 => .unspecified
  | 1 => .dynamicNone
  | 2 => .dynamic
  | 3 => .msAny
  | 4 => .basicNoexcept
  | 5 => .computedNoexcept
  | 6 => .unevaluated
  | 7 => .uninstantiated
  | 8 => .unparsed
  | 9 => .noThrow
  | raw => .unknown raw

def raw : ExceptionSpecificationKind → Int32
  | .unspecified => 0
  | .dynamicNone => 1
  | .dynamic => 2
  | .msAny => 3
  | .basicNoexcept => 4
  | .computedNoexcept => 5
  | .unevaluated => 6
  | .uninstantiated => 7
  | .unparsed => 8
  | .noThrow => 9
  | .unknown raw => raw

def name? : ExceptionSpecificationKind → Option String
  | .unspecified => some "None"
  | .dynamicNone => some "DynamicNone"
  | .dynamic => some "Dynamic"
  | .msAny => some "MsAny"
  | .basicNoexcept => some "BasicNoexcept"
  | .computedNoexcept => some "ComputedNoexcept"
  | .unevaluated => some "Unevaluated"
  | .uninstantiated => some "Uninstantiated"
  | .unparsed => some "Unparsed"
  | .noThrow => some "NoThrow"
  | .unknown _ => none

instance : ClosedKind ExceptionSpecificationKind := ⟨ofRaw, raw, name?⟩

end ExceptionSpecificationKind

end SourceAtlas
