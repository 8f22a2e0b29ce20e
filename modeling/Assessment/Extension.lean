import Assessment.Fault
import Assessment.Value.Response

/-!
# Extensions

Packages add operators and interactions under class names. Several packages may know one class; the
first of them in the registry serves it.
-/

namespace Assessment

/-- An operator of an extension. -/
structure CustomOperator where
  /-- The class name. -/
  className : String
  /-- The value for a list of operands. -/
  evaluate : List Value → Except ExtensionError Value

/-- An interaction of an extension. -/
structure CustomInteraction where
  /-- The class name. -/
  className : String
  /-- The value that response data gives to a declared variable. -/
  bind : ResponseDeclaration → ResponseData → Except ExtensionError Value

/-- A package of extensions. -/
structure ExtensionPackage where
  /-- The name of the package. -/
  name : String
  /-- The operator of a class. -/
  operator? : String → Option CustomOperator
  /-- The interaction of a class. -/
  interaction? : String → Option CustomInteraction

/-- Packages in the order in which they are asked. -/
structure Registry where
  /-- The packages. -/
  packages : List ExtensionPackage

namespace Registry

/-- The registry without packages. -/
def empty : Registry := ⟨[]⟩

/-- The names of the packages. -/
def packageNames (registry : Registry) : List String := registry.packages.map (·.name)

/-- The first operator of a class, with the name of its package. -/
def operator? (registry : Registry) (className : String) : Option (String × CustomOperator) :=
  -- packages registered earlier win
  registry.packages.findSome? fun package =>
    (package.operator? className).map (package.name, ·)

/-- The first interaction of a class, with the name of its package. -/
def interaction? (registry : Registry) (className : String) :
    Option (String × CustomInteraction) :=
  registry.packages.findSome? fun package =>
    (package.interaction? className).map (package.name, ·)

end Registry

end Assessment
