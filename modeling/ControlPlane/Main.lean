import ControlPlane.Program

/-!
# The command

The files of the computer and the variables of its environment, handed to the
program; what the program answers goes to the screen.
-/

set_option autoImplicit false

namespace ControlPlane

def attempt {α : Type} (default : α) (action : IO α) : IO α := do
  try action catch _ => pure default

def attemptAt {α : Type} (default : α) (l : Location) (action : String → IO α) : IO α :=
  if l.isUsable then attempt default (action l.text) else pure default

def localFiles : FileSystem IO where
  holds l := attemptAt false l fun path => do
    let _ ← IO.FS.realPath path
    pure true
  read l := attemptAt none l fun path => do return some (← IO.FS.readFile path)
  makeFolders l := attemptAt false l fun path => do
    IO.FS.createDirAll path
    pure true
  write l text := attemptAt false l fun path => do
    IO.FS.writeFile path text
    pure true
  rename source target := attemptAt false source fun old => attemptAt false target fun new => do
    IO.FS.rename old new
    pure true

end ControlPlane

open ControlPlane in
def main (args : List String) : IO UInt32 := do
  let screen ← IO.getStdout
  let colours :=
    Terminal.wantsColours (← screen.isTty) (← IO.getEnv "CLICOLOR") (← IO.getEnv "CLICOLOR_FORCE")
  let autoResume ← IO.getEnv "EPICFLOW_AUTO_RESUME"
  let outcome ← Surroundings.answer ⟨localFiles, autoResume, colours⟩ args
  screen.putStr outcome.output
  screen.flush
  match outcome.complaint with
  | some complaint => (← IO.getStderr).putStrLn ("Error: " ++ complaint)
  | none => pure ()
  return outcome.code.toUInt32
