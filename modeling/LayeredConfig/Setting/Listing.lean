import LayeredConfig.Setting.Basic

/-!
# Listing settings

The table of settings as a commented configuration file: kind and description in comments, then
the assignment, then a comment when the layered value and the default differ.
-/

namespace LayeredConfig.Setting

/-- Every line after the first becomes a comment line of its own. -/
def continueComment (text : String) : String :=
  String.ofList (text.toList.flatMap (fun c => if c == '\n' then ['\n', '#', ' '] else [c]))

def kindTitle : Kind → String
  | .boolean => "BOOLEAN"
  | .string => "STRING"
  | .integer => "INTEGER"
  | .adHoc => "LOCAL"

def assignment (key value : String) : String := key ++ "='" ++ value ++ "'"

/-- One entry. With `useDefaults` the default is assigned and the layered value goes into the
comment. -/
def listing (useDefaults : Bool) (s : Setting) : String :=
  if s.kind = .adHoc then
    "# locally added:\n" ++ assignment s.key s.raw ++ "\n\n"
  else
    let shown := if useDefaults then s.default else s.raw
    let other := if useDefaults then s.raw else s.default
    let message :=
      if useDefaults then "was locally changed to:" else "changed locally, default was:"
    let head := "# " ++ kindTitle s.kind ++ "\n# " ++ continueComment s.description ++ "\n" ++
      assignment s.key shown ++ "\n"
    if s.changed then
      head ++ "# " ++ message ++ "\n# " ++ assignment s.key (continueComment other) ++ "\n\n"
    else head ++ "\n"

def listAll (useDefaults : Bool) (ss : List Setting) : String :=
  String.join (ss.map (listing useDefaults))

end LayeredConfig.Setting
