namespace MarketBars.Text

/-- The pieces of a text between the characters that a test finds; there is one more piece than there
are such characters. -/
def pieces (test : Char → Bool) : List Char → List (List Char)
  | [] => [[]]
  | c :: rest =>
    match test c, pieces test rest with
    | true, ps => [] :: ps
    | false, p :: ps => (c :: p) :: ps
    | false, [] => [[c]]

/-- The part of a text before the first character that a test finds, and the part after it, which is
absent if there is no such character. -/
def cutAt (test : Char → Bool) (cs : List Char) : List Char × Option (List Char) :=
  match cs.dropWhile fun c => !test c with
  | [] => (cs, none)
  | _ :: rest => (cs.takeWhile fun c => !test c, some rest)

end MarketBars.Text
