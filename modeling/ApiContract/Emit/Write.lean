import ApiContract.Emit.Output
import ApiContract.Files.Disk

/-!
Writing generated files: a file that has its content already is left alone, any other is replaced
as a whole.
-/

set_option autoImplicit false

namespace ApiContract.Emit

open Files (Disk)

structure Summary where
  written : List String := []
  unchanged : List String := []
deriving DecidableEq

def holds (disk : Disk) (path : String) (text : String) : Bool :=
  match disk.readText path with
  | .ok found => found == text
  | .error _ => false

structure Writing where
  disk : Disk
  log : Log
  outcome : Except Files.Fault Summary

-- Puts a path in front of those of a summary.
def Writing.note (entry : LogEntry) (add : Summary → Summary) (w : Writing) : Writing :=
  { w with log := entry :: w.log, outcome := w.outcome.map add }

def writeFiles (directory : String) : Disk → List GeneratedFile → Writing
  | disk, [] => ⟨disk, [], .ok {}⟩
  | disk, file :: rest =>
      let path := joinPath directory file.path
      if holds disk path file.content then
        (writeFiles directory disk rest).note ⟨.debug, "unchanged " ++ path⟩ fun s =>
          { s with unchanged := path :: s.unchanged }
      else
        let attempt := disk.replaceFile path file.content.toUTF8
        match attempt.outcome with
        | .error fault => ⟨attempt.disk, [], .error fault⟩
        | .ok () =>
            (writeFiles directory attempt.disk rest).note ⟨.info, "wrote " ++ path⟩ fun s =>
              { s with written := path :: s.written }

end ApiContract.Emit
