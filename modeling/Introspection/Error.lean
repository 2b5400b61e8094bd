import Introspection.Hierarchy.Resolution
import Introspection.Member.Call
import Introspection.PropertyName

/-!
# Errors

Everything that can go wrong when classes are registered, looked into and used, by its cause.  The
wording of each cause is in its `message`.
-/

namespace Introspection

/-- Why the candidates for an accessor cannot be reduced to one. -/
inductive Ambiguity where
  /-- Getters with the same or with unrelated types. -/
  | getters (property className : String)
  /-- Setters with unrelated types. -/
  | setters (property className first second : String)
deriving DecidableEq

/-- The text of an ambiguity. -/
def Ambiguity.message : Ambiguity → String
  | getters property className =>
    "Illegal overloaded getter method with ambiguous type for property '" ++ property
      ++ "' in class '" ++ className
      ++ "'. This breaks the accessor naming contract and can cause unpredictable results."
  | setters property className first second =>
    "Ambiguous setters defined for property '" ++ property ++ "' in class '" ++ className
      ++ "' with types '" ++ first ++ "' and '" ++ second ++ "'."

/-- What is wrong with the supertypes of a class. -/
inductive HierarchyFault where
  /-- An interface has a superclass. -/
  | interfaceExtendsClass
  /-- The superclass is a type without a class. -/
  | superclassNotClass (found : Ty)
  /-- The superclass is not registered. -/
  | superclassUnregistered (id : ClassId)
  /-- The superclass is an interface. -/
  | superclassIsInterface (name : String)
  /-- The superclass is final. -/
  | superclassIsFinal (name : String)
  /-- An interface is a type without a class. -/
  | interfaceNotClass (found : Ty)
  /-- An interface is not registered. -/
  | interfaceUnregistered (id : ClassId)
  /-- What stands among the interfaces is none. -/
  | notInterface (name : String)

/-- The text of a fault in the supertypes. -/
def HierarchyFault.message : HierarchyFault → String
  | interfaceExtendsClass => "an interface cannot extend a class"
  | superclassNotClass found => "superclass " ++ found.written ++ " is not a class type"
  | superclassUnregistered id => "superclass " ++ id.written ++ " is not registered"
  | superclassIsInterface name => "cannot extend interface " ++ name
  | superclassIsFinal name => "cannot extend final class " ++ name
  | interfaceNotClass found => "interface " ++ found.written ++ " is not a class type"
  | interfaceUnregistered id => "interface " ++ id.written ++ " is not registered"
  | notInterface name => name ++ " is not an interface"

/-- Why a file cannot be read. -/
inductive FileFault where
  /-- There is no such file. -/
  | missing
  /-- The file is no text. -/
  | notText
deriving DecidableEq

/-- The text of a fault in reading a file. -/
def FileFault.message : FileFault → String
  | missing => "No such file or directory (os error 2)"
  | notText => "stream did not contain valid UTF-8"

/-- What can go wrong. -/
inductive ReflectionError where
  /-- A class does not show the property in this direction. -/
  | noSuchProperty (property className : String) (direction : Direction)
  /-- The property has no definite accessor. -/
  | ambiguousMember (cause : Ambiguity)
  /-- The class has no constructor without parameters. -/
  | noDefaultConstructor (className : String)
  /-- A restricted member may not be used. -/
  | accessDenied (member : String)
  /-- A name is not that of an accessor. -/
  | invalidAccessorName (name : String)
  /-- A member was used and failed. -/
  | invocationFailure (member : String) (cause : CallFault)
  /-- No class is registered under this id. -/
  | unknownClass (id : ClassId)
  /-- No class is registered under this name. -/
  | unknownName (name : String)
  /-- There is a class of this name, or in this place, already. -/
  | duplicateClass (name : String)
  /-- The place of the class was not reserved. -/
  | notReserved (id : ClassId)
  /-- The supertypes of a class are at fault. -/
  | invalidHierarchy (className : String) (fault : HierarchyFault)
  /-- The permissions of a class are fixed. -/
  | permissionsSealed (id : ClassId)
  /-- A type cannot be resolved. -/
  | unresolvable (cause : ResolveError)
  /-- A text is no single permission. -/
  | unknownPermission (text : String)
  /-- A text is no combined permission. -/
  | invalidPermission (text : String)
  /-- A configuration file cannot be read. -/
  | unreadableFile (fault : FileFault)
  /-- A configuration is not well formed. -/
  | malformedConfig

/-- The text of an error. -/
def ReflectionError.message : ReflectionError → String
  | noSuchProperty property className direction =>
    "There is no " ++ direction.accessor ++ " for property named '" ++ property ++ "' in '"
      ++ className ++ "'"
  | ambiguousMember cause => cause.message
  | noDefaultConstructor className => "There is no default constructor for " ++ className
  | accessDenied member => "Access denied to " ++ member
  | invalidAccessorName name =>
    "Error parsing property name '" ++ name ++ "'.  Didn't start with 'is', 'get' or 'set'."
  | invocationFailure member cause => "Error invoking " ++ member ++ ": " ++ cause.message
  | unknownClass id => "Unknown class: " ++ id.written
  | unknownName name => "Unknown class: " ++ name
  | duplicateClass name => "Class already registered: " ++ name
  | notReserved id =>
    "Invalid class hierarchy: " ++ id.written ++ " was not reserved by this registry"
  | invalidHierarchy className fault =>
    "Invalid class hierarchy: " ++ className ++ ": " ++ fault.message
  | permissionsSealed id => "Cannot modify sealed permissions for class " ++ id.written
  | unresolvable cause => cause.message
  | unknownPermission text =>
    "Invalid configuration: unknown reflection permission '" ++ text ++ "'"
  | invalidPermission text => "Invalid configuration: invalid permission value '" ++ text ++ "'"
  | unreadableFile fault => "IO error: " ++ fault.message
  | malformedConfig => "The configuration is not well formed"

end Introspection
