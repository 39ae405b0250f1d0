import LayeredConfig.CommandLine.Arguments
import LayeredConfig.CommandLine.Console
import LayeredConfig.Setting.Defaults
import LayeredConfig.Store

/-!
# Running the command

Reads a table of defaults, builds a store from it and prints what is asked for: a listing, the
values of some keys, or all assignments. The outcome is a value: what is printed, on both streams,
and the exit status.
-/

namespace LayeredConfig.CommandLine

structure Outcome where
  status : Nat
  output : String := ""
  errors : String := ""
  /-- What ended the run unforeseen. -/
  failure : Option Failure := none
  journal : Journal := []

def programName : String := "delayrc"

def version : String := "0.1.0"

/-- Stands for the texts about the usage of the command. -/
def usage : String := "<usage>"

def fatalStatus : Nat := 2

/-- The records that are shown: all with the part they come from, or the warnings alone. -/
def shownJournal (verbose : Bool) (j : Journal) : String :=
  String.join (j.filterMap (fun r =>
    if verbose then some (programName ++ "." ++ r.channel.name ++ ": " ++ r.text ++ "\n")
    else if r.isWarning then some (r.text ++ "\n")
    else none))

def sourcesOf (a : Arguments) : Sources :=
  { systemPath := a.systemFile, useUser := !a.has .noUserFile, userPath := a.userFile }

def configOf (h : Host) (a : Arguments) : Except Fault Config × Journal :=
  match (a.defaults.map (Setting.load h)).getD (.ok []) with
  | .error e => (.error e, [])
  | .ok settings =>
    let s : Store := { defaults := settings, plan := { sources := sourcesOf a } }
    let (config, _, journal) := s.build h
    (config, journal)

/-- A path can be given as a table of defaults: it can be opened. A slash behind it, with a dot or
without, makes it that of a directory. -/
def isReadable (h : Host) (path : String) : Except Failure Bool :=
  let last := (Path.splitSlashes path.toList).getLastD []
  if path.toList.contains '\x00' then .error .nullInName
  else if last = [] || last = ['.'] || path.utf8ByteSize > Tree.maxPathBytes then .ok false
  else match h.openFile (Path.ofString path) with
    | .ok (.bytes _) => .ok true
    | _ => .ok false

/-- What is printed of a configuration: its listing, the values of keys, or all assignments. -/
def printed (a : Arguments) (c : Config) : Except (List String) String :=
  if a.has .dump || a.has .dumpDefaults then .ok (c.listing (a.has .dumpDefaults))
  else if a.keys.isEmpty then
    .ok (String.join (c.values.entries.map (fun e => Setting.assignment e.1 e.2 ++ "\n")))
  else
    match a.keys.filter (!c.values.contains ·) with
    | [] => .ok (String.join (a.keys.map (fun k => c.values.getD k "" ++ "\n")))
    | missing => .error missing

def labelOf : Fault → String × Nat
  | .directive _ => ("fatal config error: ", fatalStatus)
  | _ => ("Error loading configuration: ", 1)

def execute (h : Host) (a : Arguments) : Outcome :=
  let (config, journal) := configOf h a
  let log := shownJournal (a.has .verbose) journal
  match config with
  | .error e =>
    match e, e.report? with
    | .failure f, _ => { status := 1, errors := log, failure := some f, journal := journal }
    | _, none => { status := 1, errors := log, journal := journal }
    | e, some r =>
      let (label, status) := labelOf e
      { status := status, errors := log ++ shownMessage label r.message, journal := journal }
  | .ok c =>
    match printed a c with
    | .ok text => { status := 0, output := shownResult text, errors := log, journal := journal }
    | .error missing =>
      { status := 1
        errors := log ++ shownMessage "Unknown configuration key: " (", ".intercalate missing)
        journal := journal }

def misuse : Outcome := { status := 2, errors := usage }

/-- Runs the command. Questions about the command itself are answered before anything is read. -/
def run (h : Host) (args : List String) : Outcome :=
  match readArguments {} args with
  | none => misuse
  | some a =>
    match a.switches.find? (fun s => s == .version || s == .help) with
    | some .version => { status := 0, output := "cli, version " ++ version ++ "\n" }
    | some _ => { status := 0, output := usage }
    | none =>
      match (a.defaults.map (isReadable h)).getD (.ok true) with
      | .error e => { status := 1, failure := some e }
      | .ok false => misuse
      | .ok true => execute h a

end LayeredConfig.CommandLine
