import ApiContract.Glob
import ApiContract.Project.Options
import ApiContract.Schema.Load

/-!
Projects on a disk. A project is rooted in the nearest directory that holds its options; its
modules are the directories below its schema directory that hold a file of entities.
-/

set_option autoImplicit false

namespace ApiContract.Project

open Files (Disk)
open Schema (Source)

def optionsFile : String := "sdkforge.yaml"

-- The nearest directory that holds options, `back` being the names that lead to the place where the
-- search begins, innermost first.
def nearestRoot (disk : Disk) : List String → Option String
  | [] => if disk.isFile (joinPath "/" optionsFile) then some "/" else none
  | name :: rest =>
      let directory := Disk.absolute (name :: rest).reverse
      if disk.isFile (joinPath directory optionsFile) then some directory
      else nearestRoot disk rest

def findRoot (disk : Disk) (start : String) : Except Files.Fault (Option String) :=
  (disk.resolve start).map fun names => nearestRoot disk names.reverse

inductive LoadFault where
  | file (fault : Files.Fault)
  | options (path : String) (fault : OptionsFault)

-- The options in a directory, if it has any.
def Options.load (disk : Disk) (directory : String) : Except LoadFault (Option Options) :=
  let path := joinPath directory optionsFile
  if disk.isPresent path then
    match disk.readText path with
    | .error fault => .error (.file fault)
    | .ok text =>
        match Options.ofYaml text with
        | .error fault => .error (.options path fault)
        | .ok options => .ok (some options)
  else .ok none

end ApiContract.Project

namespace ApiContract

structure Project where
  root : String
  options : Project.Options

namespace Project

open Files (Disk)
open Schema (Source)

-- The project around a place; where there are no options, the place itself is its root.
def discover (disk : Disk) (start : String) : Except LoadFault Project :=
  match findRoot disk start with
  | .error fault => .error (.file fault)
  | .ok none => .ok ⟨start, {}⟩
  | .ok (some root) =>
      (Options.load disk root).map fun options => ⟨root, options.getD {}⟩

def schemaDir (p : Project) : String :=
  joinPath p.root p.options.schemaDir

def outputDir (p : Project) : String :=
  joinPath p.root p.options.outputDir

def sourceIn? (disk : Disk) (directory : String) (name : String) : Option Source :=
  let path := joinPath directory name
  let models := joinPath path Schema.modelsFile
  let api := joinPath path Schema.apiFile
  if disk.isFile models then
    some ⟨name, models, if disk.isFile api then some api else none⟩
  else none

inductive ListFault where
  | directoryMissing (path : String)
  | file (fault : Files.Fault)

def sourcesIn (disk : Disk) (directory : String) : Except ListFault (List Source) :=
  if disk.isDirectory directory then
    match disk.list directory with
    | .error fault => .error (.file fault)
    | .ok entries =>
        let found := entries.filterMap fun entry =>
          if entry.2.isDirectory then sourceIn? disk directory entry.1 else none
        .ok (found.mergeSort fun a b => decide (a.name ≤ b.name))
  else .error (.directoryMissing directory)

def sources (p : Project) (disk : Disk) : Except ListFault (List Source) :=
  sourcesIn disk p.schemaDir

def select (sources : List Source) (pattern : String) :
    Except Glob.PatternError (List Source) :=
  (Glob.Pattern.parse pattern).map fun p => sources.filter fun source => p.matches source.name

end Project

end ApiContract
