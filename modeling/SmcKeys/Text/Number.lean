namespace SmcKeys.Text

def unsigned : List Char → List Char
  | '+' :: rest => rest
  | '-' :: rest => rest
  | rest => rest

def isDigits (cs : List Char) : Bool :=
  !cs.isEmpty && cs.all Char.isDigit

/-- What may follow the digits of a decimal: nothing, or a power of ten. -/
def isExponent : List Char → Bool
  | [] => true
  | c :: rest => c.toLower == 'e' && isDigits (unsigned rest)

/-- Digits with a point somewhere or nowhere; a point alone is no decimal. -/
def isDecimal (cs : List Char) : Bool :=
  let whole := cs.takeWhile Char.isDigit
  match cs.dropWhile Char.isDigit with
  | '.' :: rest =>
      !(whole ++ rest.takeWhile Char.isDigit).isEmpty && isExponent (rest.dropWhile Char.isDigit)
  | rest => !whole.isEmpty && isExponent rest

def isNumber (cs : List Char) : Bool :=
  isDecimal (unsigned cs) ||
    ["inf", "infinity", "nan"].contains (String.ofList ((unsigned cs).map Char.toLower))

end SmcKeys.Text
