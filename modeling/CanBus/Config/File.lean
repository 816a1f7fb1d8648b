import CanBus.Config.Json
import CanBus.Config.Yaml
import CanBus.Path

namespace CanBus.Config

inductive Format
  | json
  | yaml
deriving DecidableEq

def formatOf (path : String) : Format :=
  match (Path.lastComponent? path.toList).bind Path.extension? with
  | some extension =>
    if extension = "yml".toList ∨ extension = "yaml".toList then .yaml else .json
  | none => .json

inductive Source
  | blocked (obstacle : Path.Obstacle)
  | bytes (bytes : ByteArray)

/-- Follows a path where there is the file with these contents, if any, and nothing else. -/
def Source.find (path : String) : Option ByteArray → Source
  | none => .blocked (Path.obstacle path)
  | some contents =>
    match Path.forbidden? path with
    | some obstacle => .blocked obstacle
    | none => .bytes contents

inductive LoadError
  | unreached (path : String) (obstacle : Path.Obstacle)
  | notText (path : String)
  | unreadable (format : Format) (path : String) (error : ReadError)
  | invalid (path : String) (error : ChannelError)
deriving DecidableEq

namespace LoadError

def activity : LoadError → String
  | unreached .. | notText _ => "reading channel config"
  | unreadable .json _ _ => "parsing json"
  | unreadable .yaml _ _ => "parsing yaml"
  | invalid _ _ => "validating channel config"

def path : LoadError → String
  | unreached path _ | notText path | unreadable _ path _ | invalid path _ => path

def text (error : LoadError) : String := error.activity ++ ": " ++ error.path

def cause? : LoadError → Option String
  | unreached _ obstacle => some obstacle.text
  | notText _ => some "stream did not contain valid UTF-8"
  | unreadable _ _ error => error.text?
  | invalid _ error => some error.text

end LoadError

def parse (format : Format) (text : String) : Except ReadError Config :=
  match format with
  | .json => ofJson text.toList
  | .yaml => ofYaml text.toList

def loadText (path text : String) : Except LoadError Config :=
  match parse (formatOf path) text with
  | .error error => .error (.unreadable (formatOf path) path error)
  | .ok config =>
    match config.sender with
    | .error error => .error (.invalid path error)
    | .ok _ => .ok config

def load (path : String) : Source → Except LoadError Config
  | .blocked obstacle => .error (.unreached path obstacle)
  | .bytes bytes =>
    match String.fromUTF8? bytes with
    | none => .error (.notText path)
    | some text => loadText path text

end CanBus.Config
