import PropertyGraph.Config.Yaml
import PropertyGraph.Json.Parser

/-!
# Configuration texts and files

A file is read as Unicode text before its extension is looked at; the
extension then says which language the text is in.
-/

namespace PropertyGraph.Config

def ofJsonText (text : String) : Except ConfigFault Config :=
  match (Json.parse? text).bind ofJson? with
  | some config => .ok config
  | none => .error .malformed

def ofYamlText (text : String) : Except ConfigFault Config :=
  match ofYaml? text with
  | some config => .ok config
  | none => .error .malformed

/--
The extension of a file name: what follows the last dot.  A name without a dot
has none, nor has one whose only dot is its first character, nor two dots.
-/
def extension? (name : String) : Option String :=
  let reversed := name.toList.reverse
  let stem := (reversed.dropWhile (· ≠ '.')).drop 1
  if stem.isEmpty ∨ name = ".." then none
  else some (String.ofList (reversed.takeWhile (· ≠ '.')).reverse)

/-- The configuration in a file of the given name, whose bytes are missing if there is no file. -/
def ofFile (name : String) (bytes : Option ByteArray) : Except ConfigFault Config :=
  match bytes.bind String.fromUTF8? with
  | none => .error .unreadable
  | some text =>
    match extension? name with
    | some "json" => ofJsonText text
    | some "yaml" => ofYamlText text
    | some "yml" => ofYamlText text
    | extension => .error (.unsupportedFormat extension)

end PropertyGraph.Config
