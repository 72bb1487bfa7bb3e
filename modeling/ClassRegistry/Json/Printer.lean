import ClassRegistry.Text.Quoted

/-!
# Writing a JSON document

Documents are written one value a line, with two blanks for each step inwards.
-/

namespace ClassRegistry.Json

/-- A character as it is written between quotes. -/
def escaped (c : Char) : List Char :=
  if c = '"' || c = '\\' then ['\\', c]
  else if c = '\x08' then ['\\', 'b']
  else if c = '\x0c' then ['\\', 'f']
  else if c = '\n' then ['\\', 'n']
  else if c = '\r' then ['\\', 'r']
  else if c = '\t' then ['\\', 't']
  else if c.toNat < 16 then ['\\', 'u', '0', '0', '0'] ++ Text.hexadecimal c
  else if c.toNat < 32 then ['\\', 'u', '0', '0'] ++ Text.hexadecimal c
  else [c]

/-- A string between quotes. -/
def quoted (text : String) : String :=
  String.ofList ('"' :: text.toList.flatMap escaped ++ ['"'])

/-- A truth value. -/
def flagText (value : Bool) : String :=
  if value then "true" else "false"

/-- Written values between brackets, each on a line of its own. -/
def framed (opening closing : String) (depth : Nat) (values : List String) : String :=
  let indent (depth : Nat) : String := String.ofList (List.replicate (2 * depth) ' ')
  if values.isEmpty then opening ++ closing
  else opening ++ "\n" ++ ",\n".intercalate (values.map (indent (depth + 1) ++ ·)) ++ "\n" ++
    indent depth ++ closing

/-- A list of strings that stands inside `depth` brackets. -/
def textsText (depth : Nat) (values : List String) : String :=
  framed "[" "]" depth (values.map quoted)

/-- An object that stands inside `depth` brackets; its values are written already. -/
def objectText (depth : Nat) (members : List (String × String)) : String :=
  framed "\x7b" "\x7d" depth (members.map fun (name, value) => quoted name ++ ": " ++ value)

end ClassRegistry.Json
