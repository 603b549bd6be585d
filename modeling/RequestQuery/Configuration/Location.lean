import RequestQuery.Configuration.Basic
import RequestQuery.Files.Path

/-! Where a configuration file is found.

A path may leave out the extension, which tells the format. A file that stands at the path itself
keeps the others from being looked for, also if its extension tells no format. -/
namespace RequestQuery.Configuration
open Files

def Format.extension : Format → String
  | json => "json"
  | toml => "toml"

def formats : List Format := [.toml, .json]

def Format.ofPath? (path : String) : Option Format :=
  (Path.extension? path).bind fun e => formats.find? (·.extension == e)

/-- The paths at which a file is looked for. -/
def candidates (path : String) : List String :=
  path :: formats.filterMap (Path.appending? path ·.extension)

/-- The format and the text of the file that a path names; `read?` gives the text of a file. -/
def locate? (read? : String → Option String) (path : String) : Option (Format × String) :=
  match read? path with
  | some text => (Format.ofPath? path).map (·, text)
  | none => formats.findSome? fun format =>
      ((Path.appending? path format.extension).bind read?).map (format, ·)

/-- The name of the file that is read, if it is there, where no path is given. -/
def defaultName : String := "quarry"

/-- The configuration of the file at a path, which has to be there, or of the default one. -/
def find? (read? : String → Option String) (path : Option String) (vs : Variables) :
    Option Configuration :=
  match path with
  | some path => (locate? read? path).bind fun file => load? (some file) vs
  | none => load? (locate? read? defaultName) vs

end RequestQuery.Configuration
