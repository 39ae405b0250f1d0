import LayeredConfig.Fault
import LayeredConfig.Text.Lowercase
import LayeredConfig.Yaml.Document

/-!
# Document formats

A file's suffix decides whether it is read as a structured document.
-/

namespace LayeredConfig.Document

inductive Format where
  | yaml
  | json
  deriving DecidableEq, Repr

def Format.ofSuffix? (suffix : String) : Option Format :=
  let s := Text.lowerAscii suffix
  if s = ".yaml" ∨ s = ".yml" then some .yaml
  else if s = ".json" then some .json
  else none

def yamlFault (path : String) : Yaml.Fault → LayeredConfig.Fault
  | .malformed m => .file path (m.line.getD 0) .yaml
  | .unfit u => .failure (.unfit u)
  | .notUtf8 f => .file path 0 (.notUtf8 f)

def jsonFault (path : String) : Json.Fault → LayeredConfig.Fault
  | .malformed p line => .file path line (.json p)
  | .numeral n => .failure (.numeral n)

def Format.readText (f : Format) (path : String) (cs : List Char) :
    Except LayeredConfig.Fault Graph :=
  match f with
  | .yaml => (Yaml.read (.ofText cs)).mapError (yamlFault path)
  | .json => ((Json.read cs).mapError (jsonFault path)).map .ofValue

def Format.readBytes (f : Format) (path : String) (bs : List UInt8) :
    Except LayeredConfig.Fault Graph :=
  match f, Text.decodeUtf8 bs with
  | .yaml, _ => (Yaml.read (.ofBytes bs)).mapError (yamlFault path)
  | .json, .ok cs => Format.json.readText path (Text.unifyLineEnds cs)
  | .json, .error e => .error (.file path 0 (.notUtf8 e))

end LayeredConfig.Document
