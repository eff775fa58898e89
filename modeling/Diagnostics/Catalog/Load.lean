import Diagnostics.Catalog.Parser
import Diagnostics.Catalog.Unique
import Diagnostics.Text.Lines

/-!
# Catalogs

A catalog is a JSON object whose `groups` are an array of groups with unique names. It is read from
a UTF-8 file in which any newline counts as a line feed.
-/

set_option autoImplicit false

namespace Diagnostics.Catalog

def parse (document : Json) : Except CatalogFault (List Group) :=
  match document with
  | .object fields =>
    match Json.field? "groups" fields with
    | some (.array vs) => do
      let groups ← parseGroups 0 vs
      match checkUnique groups with
      | .ok () => return groups
      | .error e => .error (.rejected e)
    | _ => .error (.rejected .groupsNotArray)
  | _ => .error (.rejected .notObject)

def ofOctets (path : Path) (octets : List UInt8) : Except CatalogFault (List Group) :=
  match Text.Utf8.decode octets with
  | .error e => .error (.notUtf8 e)
  | .ok s =>
    match Json.read (Text.unifyNewlines s) with
    | .error (.malformed e) => .error (.rejected (.notJson path e))
    | .error (.tooManyDigits count) => .error (.tooManyDigits count)
    | .ok document => parse document

def load (disk : Disk) (path : Path) : Except CatalogFault (List Group) :=
  match disk.read path with
  | .error (.os fault) => .error (.rejected (.unreadable path fault))
  | .error (.unencodable e) => .error (.unencodable e)
  | .error .embeddedNul => .error .embeddedNul
  | .ok octets => ofOctets path octets

/-- The lines that show a group: its name, then its roots or its artifacts with their tasks. -/
def groupLines (group : Group) : List Text :=
  (if group.trace then group.name ++ " (trace)" else group.name) ::
    match group.work with
    | .tasks tasks => tasks.map fun task => "  " ++ task.output ++ " <- " ++ task.label
    | .roots roots => roots.map fun root => "  root " ++ root.text
    | .broken .. => []

def listing (groups : List Group) : List Text :=
  groups.flatMap groupLines

end Diagnostics.Catalog
