/-!
# Arguments

The arguments of a command are options with a value, switches and operands, in any order. The value of
an option follows it, either in the same argument behind an equals sign or as the next argument, which
then does not begin with a hyphen. After two hyphens alone all arguments are operands.
-/

namespace MarketBars

/-- Why a command is not run: it is not written as it should be, or help is asked for instead. -/
inductive Refusal where
  | misuse
  | help
  deriving DecidableEq, Repr

structure OptionRule where
  name : String
  repeatable : Bool := false
  /-- The values that the option can take. -/
  accepts : String → Bool := fun _ => true

structure Grammar where
  options : List OptionRule := []
  switches : List String := []
  /-- The largest number of operands, if there is one. -/
  maxOperands? : Option Nat := some 0

inductive Argument where
  | option (name value : String)
  | switch (name : String)
  | operand (text : String)
  deriving DecidableEq, Repr

namespace Argument

def values (given : List Argument) (name : String) : List String :=
  given.filterMap fun
    | option n v => if n = name then some v else none
    | _ => none

def operands (given : List Argument) : List String :=
  given.filterMap fun
    | operand text => some text
    | _ => none

inductive Form where
  | separator
  | long (name : String) (value? : Option String)
  | short (letters : List Char)
  | plain
  deriving DecidableEq, Repr

/-- The form of a text. A hyphen alone is plain. -/
def form (text : String) : Form :=
  match text.toList with
  | ['-', '-'] => .separator
  | '-' :: '-' :: rest =>
    let name := String.ofList (rest.takeWhile (· != '='))
    match rest.dropWhile (· != '=') with
    | [] => .long name none
    | _ :: value => .long name (some (String.ofList value))
  | '-' :: c :: rest => .short (c :: rest)
  | _ => .plain

end Argument

namespace Grammar

/-- Takes one more argument. Only a repeatable option can be given twice. -/
def accept (g : Grammar) (given : List Argument) (a : Argument) :
    Except Refusal (List Argument) :=
  let fits : Bool :=
    match a with
    | .option name value =>
      match g.options.find? fun rule => rule.name == name with
      | none => false
      | some rule =>
        rule.accepts value && (rule.repeatable || (Argument.values given name).isEmpty)
    | .switch name => g.switches.contains name && !given.contains (.switch name)
    | .operand _ => g.maxOperands?.all fun most => decide ((Argument.operands given).length < most)
  if fits then .ok (given ++ [a]) else .error .misuse

/-- Reads the arguments of a command, from left to right. A request for help is heard as soon as it is
reached. -/
def read (g : Grammar) (given : List Argument) : List String → Except Refusal (List Argument)
  | [] => .ok given
  | text :: rest =>
    match Argument.form text with
    | .separator => rest.foldlM (fun given t => g.accept given (.operand t)) given
    | .plain => do read g (← g.accept given (.operand text)) rest
    | .short letters => .error (if letters.head? = some 'h' then .help else .misuse)
    | .long name (some value) => do read g (← g.accept given (.option name value)) rest
    | .long name none =>
      if name = "help" then .error .help
      else if g.switches.contains name then do read g (← g.accept given (.switch name)) rest
      else
        match rest with
        | [] => .error .misuse
        | value :: rest =>
          if Argument.form value = .plain then do
            read g (← g.accept given (.option name value)) rest
          else .error .misuse

end Grammar

end MarketBars
