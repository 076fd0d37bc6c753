import Conclave.Fault
import Conclave.Settings.Ini
import Conclave.Settings.Json5
import Conclave.Settings.Path
import Conclave.Settings.Ron
import Conclave.Settings.Toml.Document
import Conclave.Settings.Yaml.Document
import Conclave.Text.Blank

/-!
# Loading settings

Settings come from a file and from variables of the environment, which take precedence. The keys
at the top of a file and the names of the variables are paths. A byte order mark at the front of a
file counts for nothing. A variable counts when its name begins with `RAFTLINE__`, in any letter
case; two underscores stand for a dot. Its text becomes a Boolean or a number when it reads as
one.
-/

namespace Conclave.Settings

/-- The formats of files, by their extensions. -/
inductive Format where
  | json | toml | yaml | ini | json5 | ron
deriving DecidableEq, Repr

def Format.ofExtension? : String → Option Format
  | "json" => some .json
  | "toml" => some .toml
  | "yaml" | "yml" => some .yaml
  | "ini" => some .ini
  | "json5" => some .json5
  | "ron" => some .ron
  | _ => none

def Format.read? : Format → String → Option (List (String × Value))
  | .json, s => (Json.read? (Bytes.ofText s)).bind fun x => (Value.ofJson x).toTable?
  | .toml, s => Toml.read? s
  | .yaml, s => Yaml.read? s
  | .ini, s => Ini.read? s
  | .json5, s => Json5.read? s
  | .ron, s => Ron.read? s

abbrev Environment := List (String × String)

def Value.ofVariable (s : String) : Value :=
  let word := Text.lower s
  if word = "true" then .bool true
  else if word = "false" then .bool false
  else
    match Text.readInt64? s with
    | some n => .int n
    | none =>
      match Binary64.read? s with
      | some x => .float x
      | none => .text s

def variableFront : List Char := "raftline__".toList

/-- A name with a dot in the place of two underscores. -/
def dotted : List Char → List Char
  | '_' :: '_' :: r => '.' :: dotted r
  | c :: r => c :: dotted r
  | [] => []

/-- The lower-case form of a character of a name. Besides the capital letters the Kelvin sign is
the only character whose lower-case form may occur in a key. -/
def lowerNameChar (c : Char) : Char := if c = '\u212a' then 'k' else Text.lowerChar c

def variablePath? (name : String) : Option Path :=
  let cs := name.toList.map lowerNameChar
  if variableFront.isPrefixOf cs then some (Path.ofKey (String.ofList (dotted cs))) else none

end Conclave.Settings

namespace Conclave

/-- The settings of one load. -/
structure Settings where
  root : Settings.Value

namespace Settings

def empty : Settings := ⟨.table []⟩

def set (s : Settings) (path : Path) (v : Value) : Settings := ⟨s.root.set path v⟩

/-- Settings made of entries, whose keys are paths. -/
def withEntries (s : Settings) (entries : List (String × Value)) : Settings :=
  entries.foldl (fun s e => s.set (Path.ofKey e.1) e.2) s

/-- The settings with the variables of an environment on top. -/
def withVariables (s : Settings) (env : Environment) : Settings :=
  env.foldl (fun s e =>
    match variablePath? e.1 with
    | some path => s.set path (Value.ofVariable e.2)
    | none => s) s

def get? (s : Settings) (path : Path) : Option Value := s.root.get? path

/-- A file of settings: its extension, and its text unless it is missing. -/
structure File where
  extension : String
  text : Option String
deriving DecidableEq, Repr

/-- Loads the settings of a file and an environment. -/
def load (file : File) (env : Environment) : Except Fault Settings :=
  let entries := do
    let text := String.ofList (Text.dropByteOrderMark (← file.text).toList)
    (← Format.ofExtension? file.extension).read? text
  match entries with
  | some entries => .ok ((Settings.empty.withEntries entries).withVariables env)
  | none => .error (.misconfigured .unreadable)

end Settings

end Conclave
