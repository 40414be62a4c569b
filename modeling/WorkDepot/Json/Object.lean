import WorkDepot.Json.Quoted

/-!
# Objects of JSON

Objects are written with one member a line, each behind two blanks.
-/
namespace WorkDepot.Json

/-- A name and the JSON text of its value. -/
abbrev Member := Text × Text

def Member.render (member : Member) : Text :=
  "  ".toList ++ quote member.1 ++ ": ".toList ++ member.2

/-- The text of an object that has some members. -/
def object (members : List Member) : Text :=
  "\x7b\n".toList ++ ",\n".toList.intercalate (members.map Member.render) ++ "\n\x7d".toList

def ofBool (value : Bool) : Text := if value then "true".toList else "false".toList

end WorkDepot.Json
