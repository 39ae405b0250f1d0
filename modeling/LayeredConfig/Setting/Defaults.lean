import LayeredConfig.Document.Format
import LayeredConfig.Host
import LayeredConfig.Setting.Basic

/-!
# Tables of defaults

A table of defaults is a structured document: a list of entries, or a mapping with such a list
under `options`. Every entry is a mapping with a key, and perhaps a type, a default and a
description.
-/

namespace LayeredConfig.Setting

open Document (Value Part Graph Format)

def written {α : Type} : Except Text.NumeralFault α → Except Fault α
  | .ok a => .ok a
  | .error e => .error (.failure (.numeral e))

def field? (g : Graph) (key : String) (es : List (Value × Part)) : Option Value :=
  (Value.find? key es).map g.value

/-- The description of an entry; what counts as false is no description. -/
def describe : Option Value → Except Fault String
  | none => .ok ""
  | some v => if v.isFalsy then .ok "" else written v.display

def ofPart (g : Graph) (p : Part) : Except Fault Setting := do
  let es := (g.entries? p).getD []
  match Value.find? "key" es with
  | none => .error (.table (.noKey p))
  | some key =>
    let shown ← written ((field? g "type" es).getD (.text "string")).display
    let name := String.ofList (Text.lower shown.toList)
    match Kind.ofName? name with
    | none => .error (.table (.unknownKind name key (← written (g.value key).display)))
    | some kind =>
      let keyText ← written (g.value key).display
      let default ← written ((field? g "default" es).getD (.text "")).settingText
      let description ← describe (field? g "description" es)
      return make keyText kind default "" description ""

def ofDocument (g : Graph) : Except Fault Setting := ofPart g g.root

/-- The list of entries of a document: the document itself, or what it has under `options`. -/
def listed? (g : Graph) : Option (List Part) :=
  match g.entries? g.root with
  | none => g.items? g.root
  | some es =>
    match Value.find? "options" es with
    | none => some []
    | some p => g.items? p

def tableOf (path : String) (g : Graph) : Except Fault (List Setting) :=
  match listed? g with
  | none => .error (.table (.noList path))
  | some ps => ps.mapM (ofPart g)

/-- Reads a table of defaults; a file that is no JSON by its suffix is YAML. -/
def load (h : Host) (path : String) : Except Fault (List Setting) := do
  let p := Path.ofString path
  match h.openFile p with
  | .error e => .error (.failure e)
  | .ok (.refused reason) => .error (.file p.toString 0 (.unreadable reason))
  | .ok (.bytes bs) =>
    let format := (Format.ofSuffix? p.suffix).getD .yaml
    tableOf p.toString (← format.readBytes p.toString bs)

end LayeredConfig.Setting
