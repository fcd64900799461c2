import MarketBars.Json.Reader

/-!
# Excerpts of JSON texts

A reader that wants only some members of an object does not look into the others. It passes over them:
what is passed over must be written correctly, but its numbers may have any size, its escaped
surrogates may stand alone, and its nesting has no limit.

The brackets that are open are kept in a list, so that passing over a value takes one step after the
other however deep it is nested.
-/

namespace MarketBars

namespace Json

inductive Bracket where
  | square
  | curly
  deriving DecidableEq, Repr

def Bracket.closing : Bracket → Char
  | square => ']'
  | curly => '\x7d'

/-- Characters that may stand after a backslash. -/
def isEscapable (c : Char) : Bool :=
  "\"\\/bfnrt".toList.contains c

/-- The text after the string at its front, whose opening quote has been read. -/
def passString : List Char → Option (List Char)
  | [] => none
  | '"' :: rest => some rest
  | '\\' :: 'u' :: a :: b :: c :: d :: rest =>
    if [a, b, c, d].all Text.isHexDigit then passString rest else none
  | '\\' :: c :: rest => if isEscapable c then passString rest else none
  | c :: rest => if c.toNat < 32 then none else passString rest

/-- The text after the name of a member and its colon. -/
def passName (cs : List Char) : Option (List Char) :=
  match skipSpace cs with
  | '"' :: rest =>
    match (passString rest).map skipSpace with
    | some (':' :: rest) => some rest
    | _ => none
  | _ => none

/-- The text after a value without brackets at its front. -/
def passScalar : List Char → Option (List Char)
  | 'n' :: 'u' :: 'l' :: 'l' :: rest => some rest
  | 't' :: 'r' :: 'u' :: 'e' :: rest => some rest
  | 'f' :: 'a' :: 'l' :: 's' :: 'e' :: rest => some rest
  | '"' :: rest => passString rest
  | cs => (readNumeral cs).map Prod.snd

/-- The text after the next item or member inside a bracket, up to where its value begins. -/
def passLabel : Bracket → List Char → Option (List Char)
  | .square, cs => some cs
  | .curly, cs => passName cs

/-- Passes over a value inside the given brackets, or, when `atValue` is false, over what follows one,
until all the brackets are closed. -/
def passInside : Nat → Bool → List Bracket → List Char → Option (List Char)
  | 0, _, _, _ => none
  | fuel + 1, true, opened, cs =>
    let enter (b : Bracket) (rest : List Char) : Option (List Char) :=
      match skipSpace rest with
      | c :: rest =>
        if c = b.closing then passInside fuel false opened rest
        else (passLabel b (c :: rest)).bind (passInside fuel true (b :: opened))
      | [] => none
    match skipSpace cs with
    | '[' :: rest => enter .square rest
    | '\x7b' :: rest => enter .curly rest
    | rest => (passScalar rest).bind (passInside fuel false opened)
  | _ + 1, false, [], cs => some cs
  | fuel + 1, false, b :: outer, cs =>
    match skipSpace cs with
    | c :: rest =>
      if c = b.closing then passInside fuel false outer rest
      else if c = ',' then (passLabel b rest).bind (passInside fuel true (b :: outer))
      else none
    | [] => none

def passOver (cs : List Char) : Option (List Char) :=
  passInside (stepBound cs) true [] cs

/-- The wanted members of an outermost object up to its closing brace. -/
def readWanted (wanted : List String) : Nat → List Char → Option (List (String × Json) × List Char)
  | 0, _ => none
  | fuel + 1, cs =>
    match skipSpace cs with
    | '"' :: rest =>
      match readString (fuel + 1) [] rest with
      | none => none
      | some (name, rest) =>
        match skipSpace rest with
        | ':' :: rest =>
          let found : Option (List (String × Json) × List Char) :=
            if wanted.contains name then
              (readValue (stepBound rest) (maxDepth - 1) rest).map fun (value, rest) =>
                ([(name, value)], rest)
            else (passOver rest).map fun rest => ([], rest)
          match found with
          | none => none
          | some (member, rest) =>
            match skipSpace rest with
            | '\x7d' :: rest => some (member, rest)
            | ',' :: rest =>
              (readWanted wanted fuel rest).map fun (members, rest) => (member ++ members, rest)
            | _ => none
        | _ => none
    | _ => none

/-- The value of a text that holds one value and blanks. If it is an object, only the wanted members of
it are read. -/
def excerpt? (wanted : List String) (s : String) : Option Json :=
  match skipSpace s.toList with
  | '\x7b' :: rest =>
    match skipSpace rest with
    | '\x7d' :: rest => whole? (some (object [], rest))
    | rest =>
      whole? ((readWanted wanted (stepBound rest) rest).map fun (members, rest) =>
        (object members, rest))
  | _ => parse? s

end Json

end MarketBars
