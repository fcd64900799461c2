import MarketBars.Number.Power

/-!
# Punycode

Punycode writes a text of any characters with letters, digits and hyphens. The characters of ASCII come
first, as they are, with a hyphen after them; the others follow in the order of their code points, each
as the number of steps from the one before it. A step goes to the next place in the text, and after the
last place to the next code point.

A number is written in digits of varying weights, the lowest first; the last digit of a number is below
the threshold of its position. Thresholds depend on a bias, which follows the size of the last number.
-/

namespace MarketBars.Punycode

/-- The code point from which on characters are not written as they are. -/
def firstCode : Nat := 128

def firstBias : Nat := 72

/-- The digit of a value below thirty-six: the letters, then the decimal digits. -/
def digit (n : Nat) : Char :=
  if n < 26 then Char.ofNat (97 + n) else Char.ofNat (48 + (n - 26))

def value? (c : Char) : Option Nat :=
  if 'a' ≤ c ∧ c ≤ 'z' then some (c.toNat - 97)
  else if 'A' ≤ c ∧ c ≤ 'Z' then some (c.toNat - 65)
  else if '0' ≤ c ∧ c ≤ '9' then some (c.toNat - 48 + 26)
  else none

/-- The threshold of a position, from 1 to 26. -/
def threshold (position bias : Nat) : Nat := min 26 (max 1 (position - bias))

theorem threshold_bounds (position bias : Nat) :
    1 ≤ threshold position bias ∧ threshold position bias ≤ 26 := by
  unfold threshold
  omega

/-- Divides a number by 35 until it is at most 455, counting positions. -/
def scaleDown (n positions : Nat) : Nat × Nat :=
  if 455 < n then scaleDown (n / 35) (positions + 36) else (n, positions)
termination_by n
decreasing_by omega

/-- The bias after a number was written for a text that then has a length. -/
def adapt (n length : Nat) (isFirst : Bool) : Nat :=
  let damped := if isFirst then n / 700 else n / 2
  let (rest, positions) := scaleDown (damped + damped / length) 0
  positions + 36 * rest / (rest + 38)

def encodeNumber (bias position n : Nat) : List Char :=
  let t := threshold position bias
  if n < t then [digit n]
  else digit (t + (n - t) % (36 - t)) :: encodeNumber bias (position + 36) ((n - t) / (36 - t))
termination_by n
decreasing_by
  have ht := threshold_bounds position bias
  exact Nat.lt_of_le_of_lt (Nat.div_le_self _ _) (by omega)

/-- Reads a number from a position on, whose digits have the given weight there, and adds it. -/
def decodeNumber? (bias : Nat) : Nat → Nat → Nat → List Char → Option (Nat × List Char)
  | _, _, _, [] => none
  | position, weight, sum, c :: rest =>
    match value? c with
    | none => none
    | some d =>
      let t := threshold position bias
      if d < t then some (sum + d * weight, rest)
      else decodeNumber? bias (position + 36) (weight * (36 - t)) (sum + d * weight) rest

theorem decodeNumber?_length_lt {bias position weight sum n : Nat} {cs rest : List Char}
    (h : decodeNumber? bias position weight sum cs = some (n, rest)) : rest.length < cs.length := by
  induction cs generalizing position weight sum with
  | nil => simp [decodeNumber?] at h
  | cons c cs ih =>
    rw [decodeNumber?] at h
    split at h
    · simp at h
    · dsimp only at h
      split at h
      · simp only [Option.some.injEq, Prod.mk.injEq] at h
        simp [h.2]
      · exact Nat.lt_succ_of_lt (ih h)

/-- Where the writing of a text stands: the steps since the last number, the bias, and how many
characters are written. -/
structure Progress where
  steps : Nat
  bias : Nat
  written : Nat

/-- Passes a character while those with a code point are written. -/
def Progress.pass (first : Nat) (code : Nat) (p : Progress) (c : Char) : List Char × Progress :=
  if c.toNat < code then ([], { p with steps := p.steps + 1 })
  else if c.toNat = code then
    (encodeNumber p.bias 36 p.steps,
      ⟨0, adapt p.steps (p.written + 1) (p.written == first), p.written + 1⟩)
  else ([], p)

def Progress.passAll (first : Nat) (code : Nat) : Progress → List Char → List Char × Progress
  | p, [] => ([], p)
  | p, c :: rest =>
    let (digits, p) := p.pass first code c
    let (more, p) := passAll first code p rest
    (digits ++ more, p)

/-- Writes the characters with the given code points, which come in rising order, from a code point
on. -/
def encodeCodes (cs : List Char) (first : Nat) : Nat → Progress → List Nat → List Char
  | _, _, [] => []
  | next, p, code :: rest =>
    let p := { p with steps := p.steps + (code - next) * (p.written + 1) }
    let (digits, p) := p.passAll first code cs
    digits ++ encodeCodes cs first (code + 1) { p with steps := p.steps + 1 } rest

def isBasic (c : Char) : Bool := decide (c.toNat < firstCode)

/-- Puts a number into a rising list, if it is not there. -/
def insertRising (n : Nat) : List Nat → List Nat
  | [] => [n]
  | m :: rest =>
    if n < m then n :: m :: rest else if n = m then m :: rest else m :: insertRising n rest

def encode (cs : List Char) : List Char :=
  let basic := cs.filter isBasic
  let codes := (cs.filter fun c => !isBasic c).foldr (fun c => insertRising c.toNat) []
  (if basic.isEmpty then [] else basic ++ ['-']) ++
    encodeCodes cs basic.length firstCode ⟨0, firstBias, basic.length⟩ codes

/-- Reads the numbers of a text and puts the characters that they tell into place. The place of the
next number is counted from the one after the last. -/
def decodeInto (found : List Char) (code place bias : Nat) (isFirst : Bool) (cs : List Char) :
    Option (List Char) :=
  match cs with
  | [] => some found
  | c :: rest =>
    match _h : decodeNumber? bias 36 1 place (c :: rest) with
    | none => none
    | some (n, left) =>
      let length := found.length + 1
      let next := code + n / length
      if next.isValidChar then
        decodeInto (found.take (n % length) ++ Char.ofNat next :: found.drop (n % length)) next
          (n % length + 1) (adapt (n - place) length isFirst) false left
      else none
termination_by cs.length
decreasing_by
  have := decodeNumber?_length_lt _h
  simpa using this

/-- The text of a written form. A hyphen stands before the numbers only if there is something before
it. -/
def decode? (cs : List Char) : Option (List Char) :=
  let numbers := (cs.reverse.takeWhile (· != '-')).reverse
  let basic := cs.take (cs.length - numbers.length - 1)
  if basic.isEmpty then decodeInto [] firstCode 0 firstBias true cs
  else if basic.all isBasic then decodeInto basic firstCode 0 firstBias true numbers
  else none

end MarketBars.Punycode
