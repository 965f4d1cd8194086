/-! # Structural descriptions

A description names a value by its structure: either a leaf, given by its text, or a record with a
name and named fields, each described in turn. It can be laid out on one line or over several lines,
with four blanks for each level and a comma after every field. -/

namespace KeyHash

/-- The structure of a value, as it is shown to a reader. -/
inductive Description where
  /-- A value shown by its text alone. -/
  | leaf (text : String)
  /-- A value shown by its name and its fields, in order. -/
  | record (name : String) (fields : List (String × Description))

namespace Description

mutual

/-- The description on one line. -/
def inline : Description → String
  | .leaf text => text
  | .record name fields => name ++ " \x7b " ++ inlineFields fields ++ " \x7d"

/-- Fields on one line, separated by commas. -/
def inlineFields : List (String × Description) → String
  | [] => ""
  | [(label, value)] => label ++ ": " ++ inline value
  | (label, value) :: fields => label ++ ": " ++ inline value ++ ", " ++ inlineFields fields

end

/-- The blanks before a line at a level. -/
def indentation (level : Nat) : String := String.ofList (List.replicate (4 * level) ' ')

mutual

/-- The description over several lines, its first line already begun at the given level. -/
def indentedAt (level : Nat) : Description → String
  | .leaf text => text
  | .record name fields =>
    name ++ " \x7b\n" ++ indentedFields (level + 1) fields ++ indentation level ++ "\x7d"

/-- Fields at a level, each on lines of its own. -/
def indentedFields (level : Nat) : List (String × Description) → String
  | [] => ""
  | (label, value) :: fields =>
    indentation level ++ label ++ ": " ++ indentedAt level value ++ ",\n" ++
      indentedFields level fields

end

/-- The description over several lines. -/
def indented (d : Description) : String := indentedAt 0 d

end Description

end KeyHash
