namespace SmcKeys.Text

def utf8 (text : String) : List UInt8 :=
  text.toList.flatMap String.utf8EncodeChar

def latin1 (bs : List UInt8) : String :=
  String.ofList (bs.map Char.ofUInt8)

/-- The characters before a place that is counted in bytes, and those from there on; nothing if
the place is within a character or behind the end. -/
def splitAt? : Nat → List Char → Option (List Char × List Char)
  | 0, cs => some ([], cs)
  | _ + 1, [] => none
  | place + 1, c :: rest =>
      if c.utf8Size ≤ place + 1 then
        (splitAt? (place + 1 - c.utf8Size) rest).map fun (before, behind) => (c :: before, behind)
      else none

def slice? (first last : Nat) (cs : List Char) : Option (List Char) :=
  (splitAt? first cs).bind fun (_, behind) => (splitAt? (last - first) behind).map (·.1)

end SmcKeys.Text
