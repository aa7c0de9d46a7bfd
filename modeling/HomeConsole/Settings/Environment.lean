import HomeConsole.Settings.Basic
import HomeConsole.Text.Utf8

/-!
# The environment of a process

A process is handed its variables as one block of bytes: a name, an equals sign and a value, each
of them ended by a zero.
-/

namespace HomeConsole.Environment

/-- The bytes of the entries that end at a zero; what is behind the last zero is none. -/
def entries : List UInt8 → List (List UInt8)
  | [] => []
  | b :: rest =>
    if b = 0 then [] :: entries rest
    else
      match entries rest with
      | [] => []
      | entry :: more => (b :: entry) :: more

/-- A name and a value, if both are texts. -/
def entry? (bytes : List UInt8) : Option (String × String) :=
  match Utf8.decode? (bytes.takeWhile (· != 0x3D)), bytes.dropWhile (· != 0x3D) with
  | some name, _ :: value =>
    (Utf8.decode? value).map fun value => (String.ofList name, String.ofList value)
  | _, _ => none

/-- The environment in a block of bytes. The first of several entries of one name counts; a value
that is no text counts as not set. -/
def ofBytes (bytes : List UInt8) : Environment :=
  let known := (entries bytes).filterMap entry?
  fun name => known.lookup name

end HomeConsole.Environment
