import LuaAccessors.Lua.Token

/-!
# Chunks of Lua

Whether a text is a Lua chunk, by the grammar of the language. Every function here reads one
construct at the start of a list of tokens and yields the tokens behind it, or nothing.

Functions that follow the nesting of a chunk take a bound on the number of steps. Between two tokens
there are at most a few steps, so a multiple of the number of tokens bounds them.
-/

namespace LuaAccessors.Lua

/-! ## §1 Tokens in a row -/

/-- What follows a given keyword or symbol. -/
def expect? (t : String) : List Token → Option (List Token)
  | .mark s :: rest => if s == t.toList then some rest else none
  | _ => none

/-- Whether a given keyword or symbol comes next. -/
def nextIs (t : String) (ts : List Token) : Bool := (expect? t ts).isSome

/-- Whether one of some keywords or symbols comes next. -/
def nextIsOneOf (marks : List String) (ts : List Token) : Bool := marks.any fun t => nextIs t ts

/-- What follows a name. -/
def name? : List Token → Option (List Token)
  | .name :: rest => some rest
  | _ => none

/-- What follows a list of names between commas. -/
def names? : List Token → Option (List Token)
  | .name :: .mark [','] :: rest => names? rest
  | .name :: rest => some rest
  | _ => none

/-- What follows a list of parameters, its closing parenthesis included. -/
def parameters? : List Token → Option (List Token)
  | .name :: .mark [','] :: rest => parameters? rest
  | .name :: rest => expect? ")" rest
  | .mark ['.', '.', '.'] :: rest => expect? ")" rest
  | _ => none

/-- What follows the dotted names behind the first name of a function. -/
def functionName? : List Token → Option (List Token)
  | .mark ['.'] :: .name :: rest => functionName? rest
  | .mark [':'] :: .name :: rest => some rest
  | ts => some ts

/-- Operators between two operands. -/
def binaryOperators : List String :=
  ["+", "-", "*", "/", "%", "^", "..", "<", "<=", ">", ">=", "==", "~=", "and", "or"]

/-- Operators in front of an operand. -/
def unaryOperators : List String := ["-", "not", "#"]

/-- Keywords that end a block. -/
def blockEnds : List String := ["end", "else", "elseif", "until"]

/-- Whether a block ends here. -/
def endsBlock (ts : List Token) : Bool := ts.isEmpty || nextIsOneOf blockEnds ts

/-- What an expression of names, calls and indices denotes. -/
inductive Place where
  /-- Something that can be assigned to. -/
  | variable
  /-- A call, which is a statement of its own. -/
  | call
  /-- Only a value. -/
  | value
  deriving Repr, DecidableEq

/-! ## §2 Expressions and statements

Precedence does not decide on what is a chunk, so operands and operators are read in a row. What an expression
denotes does matter: only a variable can be assigned to, and only a call is a statement.
-/

mutual

/-- What follows an expression. -/
def expression? (bound : Nat) (ts : List Token) : Option (List Token) :=
  match bound with
  | 0 => none
  | bound + 1 =>
    if nextIsOneOf unaryOperators ts then expression? bound ts.tail
    else do
      let rest ← operand? bound ts
      if nextIsOneOf binaryOperators rest then expression? bound rest.tail else some rest

/-- What follows an operand. -/
def operand? (bound : Nat) (ts : List Token) : Option (List Token) :=
  match bound with
  | 0 => none
  | bound + 1 =>
    match ts with
    | .number :: rest => some rest
    | .string :: rest => some rest
    | _ =>
      if nextIsOneOf ["nil", "true", "false", "..."] ts then some ts.tail
      else if nextIs "function" ts then functionBody? bound ts.tail
      else if nextIs r"{" ts then fields? bound ts.tail
      else (place? bound ts).map (·.2)

/-- What follows a list of expressions between commas. -/
def expressions? (bound : Nat) (ts : List Token) : Option (List Token) :=
  match bound with
  | 0 => none
  | bound + 1 => do
    let rest ← expression? bound ts
    if nextIs "," rest then expressions? bound rest.tail else some rest

/-- What follows the fields of a table, its closing brace included. -/
def fields? (bound : Nat) (ts : List Token) : Option (List Token) :=
  match bound with
  | 0 => none
  | bound + 1 =>
    if nextIs r"}" ts then some ts.tail
    else do
      let rest ←
        match ts with
        | .name :: .mark ['='] :: rest => expression? bound rest
        | _ =>
          if nextIs "[" ts then do
            let rest ← expect? "]" (← expression? bound ts.tail)
            expression? bound (← expect? "=" rest)
          else expression? bound ts
      if nextIsOneOf [",", ";"] rest then fields? bound rest.tail else expect? r"}" rest

/-- What follows a name or an expression in parentheses with calls and indices behind it, and what
the whole denotes. -/
def place? (bound : Nat) (ts : List Token) : Option (Place × List Token) :=
  match bound with
  | 0 => none
  | bound + 1 =>
    match ts with
    | .name :: rest => suffixes? bound .variable rest
    | _ => do
      let rest ← expression? bound (← expect? "(" ts)
      suffixes? bound .value (← expect? ")" rest)

/-- What follows calls and indices, and what they denote behind a given place. -/
def suffixes? (bound : Nat) (place : Place) (ts : List Token) : Option (Place × List Token) :=
  match bound with
  | 0 => none
  | bound + 1 =>
    if nextIs "." ts then do suffixes? bound .variable (← name? ts.tail)
    else if nextIs "[" ts then do
      suffixes? bound .variable (← expect? "]" (← expression? bound ts.tail))
    else if nextIs ":" ts then do
      suffixes? bound .call (← arguments? bound (← name? ts.tail))
    else if ts.head? = some .string ∨ nextIsOneOf ["(", r"{"] ts then do
      suffixes? bound .call (← arguments? bound ts)
    else some (place, ts)

/-- What follows the arguments of a call. -/
def arguments? (bound : Nat) (ts : List Token) : Option (List Token) :=
  match bound with
  | 0 => none
  | bound + 1 =>
    match ts with
    | .string :: rest => some rest
    | _ =>
      if nextIs r"{" ts then fields? bound ts.tail
      else do
        let rest ← expect? "(" ts
        if nextIs ")" rest then some rest.tail else expect? ")" (← expressions? bound rest)

/-- What follows the parameters and the block of a function. -/
def functionBody? (bound : Nat) (ts : List Token) : Option (List Token) :=
  match bound with
  | 0 => none
  | bound + 1 => do
    let rest ← expect? "(" ts
    let rest ← if nextIs ")" rest then some rest.tail else parameters? rest
    expect? "end" (← block? bound rest)

/-- What follows the places and the expressions of an assignment, behind its first place. -/
def assignment? (bound : Nat) (ts : List Token) : Option (List Token) :=
  match bound with
  | 0 => none
  | bound + 1 =>
    if nextIs "," ts then do
      let (place, rest) ← place? bound ts.tail
      if place = .variable then assignment? bound rest else none
    else do expressions? bound (← expect? "=" ts)

/-- What follows the parts of a conditional behind its first condition. -/
def branches? (bound : Nat) (ts : List Token) : Option (List Token) :=
  match bound with
  | 0 => none
  | bound + 1 => do
    let rest ← block? bound (← expect? "then" ts)
    if nextIs "elseif" rest then do branches? bound (← expression? bound rest.tail)
    else if nextIs "else" rest then do expect? "end" (← block? bound rest.tail)
    else expect? "end" rest

/-- What follows a statement. -/
def statement? (bound : Nat) (ts : List Token) : Option (List Token) :=
  match bound with
  | 0 => none
  | bound + 1 =>
    if nextIs "do" ts then do expect? "end" (← block? bound ts.tail)
    else if nextIs "while" ts then do
      let rest ← expect? "do" (← expression? bound ts.tail)
      expect? "end" (← block? bound rest)
    else if nextIs "repeat" ts then do
      expression? bound (← expect? "until" (← block? bound ts.tail))
    else if nextIs "if" ts then do branches? bound (← expression? bound ts.tail)
    else if nextIs "for" ts then do
      let rest ←
        match ts.tail with
        | .name :: .mark ['='] :: rest => do
          let rest ← expect? "," (← expression? bound rest)
          let rest ← expression? bound rest
          if nextIs "," rest then expression? bound rest.tail else some rest
        | rest => do expressions? bound (← expect? "in" (← names? rest))
      expect? "end" (← block? bound (← expect? "do" rest))
    else if nextIs "function" ts then do
      functionBody? bound (← functionName? (← name? ts.tail))
    else if nextIs "local" ts then
      if nextIs "function" ts.tail then do functionBody? bound (← name? ts.tail.tail)
      else do
        let rest ← names? ts.tail
        if nextIs "=" rest then expressions? bound rest.tail else some rest
    else if nextIs "break" ts then some ts.tail
    else do
      let (place, rest) ← place? bound ts
      match place with
      | .call => some rest
      | .variable => assignment? bound rest
      | .value => none

/-- What follows the statements of a block; a `return` is its last statement. -/
def block? (bound : Nat) (ts : List Token) : Option (List Token) :=
  match bound with
  | 0 => none
  | bound + 1 =>
    if endsBlock ts then some ts
    else if nextIs ";" ts then block? bound ts.tail
    else if nextIs "return" ts then do
      let rest ←
        if endsBlock ts.tail ∨ nextIs ";" ts.tail then some ts.tail
        else expressions? bound ts.tail
      let rest := if nextIs ";" rest then rest.tail else rest
      if endsBlock rest then some rest else none
    else do block? bound (← statement? bound ts)

end

/-! ## §3 Chunks -/

/-- Whether a text is a Lua chunk. -/
def isChunk (t : Text) : Bool :=
  match tokens? t with
  | none => false
  | some ts => block? (8 * ts.length + 8) ts == some []

end LuaAccessors.Lua
