namespace SchemaScaffold.Text

def fields (separator : Char) : List Char → List (List Char)
  | [] => [[]]
  | c :: rest =>
    if c == separator then [] :: fields separator rest
    else
      match fields separator rest with
      | field :: others => (c :: field) :: others
      | [] => [[c]]

def fieldsOf (separator : Char) (s : String) : List String :=
  (fields separator s.toList).map String.ofList

end SchemaScaffold.Text
