import ExactLength.Text.Quoted

/-!
# Outlines of values

A value is described in two forms: on one line, `Name { field: value, other: value }`, and as a block with one
field a line, four blanks deeper than the name and ended by a comma. A record that hides some of its fields
ends in `..`.
-/

namespace ExactLength.Text

/-- The two descriptions of a value. -/
structure Outline where
  /-- The description on one line. -/
  line : String
  /-- The lines of the description in block form. -/
  block : List String

namespace Outline

/-- A value described by one word, alike in both forms. -/
def word (text : String) : Outline :=
  ⟨text, [text]⟩

/-- A truth value. -/
def ofBool (b : Bool) : Outline :=
  word (if b then "true" else "false")

/-- A number in decimal. -/
def ofNat (n : Nat) : Outline :=
  word n.repr

/-- A text, quoted. -/
def ofText (text : String) : Outline :=
  word (quote text)

/-- The lines of a block with something put before the first of them. -/
def startWith (opening : String) : List String → List String
  | [] => [opening]
  | first :: rest => (opening ++ first) :: rest

/-- The lines of a block with a comma after the last of them. -/
def endWithComma : List String → List String
  | [] => [","]
  | [last] => [last ++ ","]
  | first :: rest => first :: endWithComma rest

/-- One item of a block: four blanks deeper, the last line ended by a comma. -/
def item (opening : String) (value : Outline) : List String :=
  (endWithComma (startWith opening value.block)).map ("    " ++ ·)

/-- A name applied to one value: `Name(value)`. -/
def applied (name : String) (value : Outline) : Outline where
  line := name ++ "(" ++ value.line ++ ")"
  block := [name ++ "("] ++ item "" value ++ [")"]

/-- A record with all its fields, or, if `hides`, with some fields not shown. -/
def record (name : String) (fields : List (String × Outline)) (hides : Bool := false) : Outline where
  line :=
    let shown := fields.map fun (field, value) => field ++ ": " ++ value.line
    name ++ " \x7b " ++ ", ".intercalate (shown ++ if hides then [".."] else []) ++ " \x7d"
  block :=
    [name ++ " \x7b"] ++ fields.flatMap (fun (field, value) => item (field ++ ": ") value) ++
      (if hides then ["    .."] else []) ++ ["\x7d"]

/-- The block form as one text. -/
def blockText (value : Outline) : String :=
  "\n".intercalate value.block

end Outline

end ExactLength.Text
