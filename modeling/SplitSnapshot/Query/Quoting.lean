namespace SplitSnapshot

namespace Quoting

def doubled (quote : Char) (s : List Char) : List Char :=
  s.flatMap fun c => if c = quote then [c, c] else [c]

def enclosed (quote : Char) (s : List Char) : List Char :=
  quote :: doubled quote s ++ [quote]

def identifier (name : String) : String :=
  String.ofList (enclosed '\x22' name.toList)

def literal (value : String) : String :=
  String.ofList (enclosed '\x27' value.toList)

end Quoting

end SplitSnapshot
