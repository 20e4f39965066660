import MappingPlan.Document.Path
import MappingPlan.Json.Reader
import MappingPlan.Mapping.FieldRef
import MappingPlan.Shape.Accessor
import MappingPlan.Text.Split

/-!
# Compile errors

Everything that can go wrong before a plan exists.  An error is a cause with the
place it concerns; the wording of messages, codes and advice is given by functions
on the causes.
-/

namespace MappingPlan

inductive MappingFault where
  | separatorInKey (key : String)
  | repeatedKey (key : String)
  | notAnObject
  | notAString
  | notAFieldRef
  | notAFieldNode
  | notAColumn
  | unexpectedKey (key : String) (allowed : List String)
  | fieldRef (fault : FieldRef.Fault)
  | orderNotInteger
  | itemOutsideArray (reference : FieldRef)
  | constantContext
  | otherFormatCached
  | reported (text : String)
  deriving DecidableEq, Repr

def MappingFault.message : MappingFault → String
  | separatorInKey key => "key '" ++ key ++ "' contains the path separator ':'"
  | repeatedKey key => "duplicate key '" ++ key ++ "'"
  | notAnObject => "expected an object"
  | notAString => "expected a string"
  | notAFieldRef => "expected a field reference"
  | notAFieldNode => "expected a field reference or an object"
  | notAColumn =>
      "column must be an object with `source` and `type`, or `format` and `fields`"
  | unexpectedKey key allowed =>
      "unexpected key '" ++ key ++ "', expected one of: " ++ Text.joinWith ", " allowed
  | fieldRef fault => fault.message
  | orderNotInteger => "order must be an integer"
  | itemOutsideArray reference =>
      "'" ++ reference.display ++ "' uses item. outside of an array's items"
  | constantContext => "an array context cannot be a constant"
  | otherFormatCached => "cached plan has a different output format"
  | reported text => text

inductive AccessFault where
  | notFound
  | notADirectory
  | isADirectory
  | other (text : String)
  deriving DecidableEq, Repr

def AccessFault.message : AccessFault → String
  | notFound => "No such file or directory (os error 2)"
  | notADirectory => "Not a directory (os error 20)"
  | isADirectory => "Is a directory (os error 21)"
  | other text => text

inductive FileFault where
  | access (fault : AccessFault)
  | walk (path : String) (fault : AccessFault)
  | notUtf8
  | separatorInName
  | fileAndDirectory (name : String)
  deriving DecidableEq, Repr

def FileFault.message : FileFault → String
  | access fault => fault.message
  | walk path fault => "IO error for operation on " ++ path ++ ": " ++ fault.message
  | notUtf8 => "stream did not contain valid UTF-8"
  | separatorInName => "mapping file names cannot contain ':'"
  | fileAndDirectory name => "section '" ++ name ++ "' is both a file and a directory"

/-- What a place asks of the field that feeds it. -/
inductive Demand where
  | declared (type : ScalarType)
  | anyScalar
  | collection
  deriving DecidableEq, Repr

def Demand.describe : Demand → String
  | declared type => type.name
  | anyScalar => "scalar"
  | collection => "enumerable"

/-- What a reference offers instead. -/
inductive Offer where
  | literal (text : String)
  | field (accessor : Accessor)
  deriving DecidableEq, Repr

def Offer.describe : Offer → String
  | literal text => "literal '" ++ text ++ "'"
  | field accessor => accessor.describe

inductive CompileError where
  | file (path : String) (fault : FileFault)
  | malformed (source : String) (fault : Json.SyntaxFault)
  | missingSection (path : ConfigPath)
  | unsupportedFormat (path : ConfigPath) (format : String)
  | missingKey (path : ConfigPath) (key : String)
  | invalid (path : ConfigPath) (fault : MappingFault)
  | unresolvable (path : ConfigPath) (reference : FieldRef) (shape : ShapeId)
  | coercion (path : ConfigPath) (reference : FieldRef) (demand : Demand) (offer : Offer)
  deriving DecidableEq, Repr

namespace CompileError

def path? : CompileError → Option ConfigPath
  | file _ _ => none
  | malformed _ _ => none
  | missingSection path => some path
  | unsupportedFormat path _ => some path
  | missingKey path _ => some path
  | invalid path _ => some path
  | unresolvable path _ _ => some path
  | coercion path _ _ _ => some path

def message : CompileError → String
  | file path fault => "Failed to read mapping '" ++ path ++ "': " ++ fault.message
  | malformed source fault =>
      "Failed to parse mapping '" ++ source ++ "': " ++ fault.message
  | missingSection path => "Configuration section '" ++ path.display ++ "' does not exist"
  | unsupportedFormat path format =>
      "Unsupported format '" ++ format ++ "' at '" ++ path.display ++ "'"
  | missingKey path key => "Missing required key '" ++ key ++ "' at '" ++ path.display ++ "'"
  | invalid path fault => "Invalid mapping at '" ++ path.display ++ "': " ++ fault.message
  | unresolvable path reference shape =>
      "Field '" ++ reference.display ++ "' does not resolve against shape '" ++ shape.name ++
        "' (at '" ++ path.display ++ "')"
  | coercion path reference demand offer =>
      "Field '" ++ reference.display ++ "' of type " ++ offer.describe ++
        " cannot be used as " ++ demand.describe ++ " (at '" ++ path.display ++ "')"

def code : CompileError → String
  | file _ _ => "projection::config::io_error"
  | malformed _ _ => "projection::config::parse_error"
  | missingSection _ => "projection::config::missing_section"
  | unsupportedFormat _ _ => "projection::mapping::unsupported_format"
  | missingKey _ _ => "projection::mapping::missing_key"
  | invalid _ _ => "projection::mapping::invalid"
  | unresolvable _ _ _ => "projection::resolve::unresolvable_field"
  | coercion _ _ _ _ => "projection::resolve::type_coercion"

def help? : CompileError → Option String
  | unsupportedFormat _ _ =>
      some ("Mappings use format \"object[]\"; embedded columns and index targets " ++
        "use format \"json\"")
  | unresolvable _ _ _ => some "Check the field name and that the shape registers it"
  | _ => none

end CompileError

abbrev Result (α : Type) := Except CompileError α

end MappingPlan
