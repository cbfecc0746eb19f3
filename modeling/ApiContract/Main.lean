import ApiContract.Command.Run

/-!
The command line. The standard input lists the paths of a project, one on a line, those of
directories with a slash at the end; the command runs on what these paths hold, and the files that it
changes are written.
-/

set_option autoImplicit false

namespace ApiContract.Command

open Files (Disk)

partial def readLines (input : IO.FS.Stream) : IO (List String) := do
  let line ← input.getLine
  if line.isEmpty then return []
  let rest ← readLines input
  return String.ofList (line.toList.filter fun c => c != '\n') :: rest

def addPath (disk : Disk) (path : String) : IO Disk := do
  let added ←
    if path.toList.getLast? == some '/' then pure (disk.ensureDirectory path)
    else do
      let content ← IO.FS.readBinFile path
      pure (disk.writeFile path content)
  match added.outcome with
  | .ok () => return added.disk
  | .error fault => throw (IO.userError (path ++ ": " ++ fault.message))

def writeBack (file : String × ByteArray) : IO Unit := do
  IO.FS.createDirAll ((Files.parent? file.1).getD "/")
  IO.FS.writeBinFile file.1 file.2

end ApiContract.Command

open ApiContract Command in
def main (arguments : List String) : IO UInt32 := do
  let here := (← IO.getEnv "PWD").getD "/"
  let paths ← if needsFiles arguments then readLines (← IO.getStdin) else pure []
  let disk ← paths.foldlM addPath (Files.Disk.bare here)
  let result := run arguments disk
  (result.disk.filesSince disk).forM writeBack
  (← IO.getStdout).putStr result.out
  (← IO.getStderr).putStr result.err
  return result.status.code.toUInt32
