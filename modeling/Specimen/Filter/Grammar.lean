import Specimen.Filter.Operator

/-! Reading filters. Operands are read with what follows them (`.a[0]?`), then joined by the binary
operators between them according to precedence. -/
namespace Specimen.Filter

/-- Words that name no filter. -/
def keywords : List String :=
  ["def", "if", "then", "elif", "else", "end", "as", "and", "or", "reduce", "foreach", "try",
   "catch", "label", "import", "include"]

def Term.chars (s : String) : Term := .text [.chars s]

/-- A key of an object or of a pattern for one: a variable, a word or string, or a filter in
brackets. -/
inductive Key where
  | variable (name : String)
  | literal (term : Term)
  | computed (term : Term)

def Key.term : Key → Term
  | .variable name => .variable name
  | .literal term => term
  | .computed term => term

/-- Takes the question marks at the front away; tells whether there were any. -/
def readLenient : List Token → Bool × List Token
  | .symbol "?" :: ts => (true, (readLenient ts).2)
  | ts => (false, ts)

def readParameter? : List Token → Option (Parameter × List Token)
  | .variable name :: ts => some (.variable name, ts)
  | .word name :: ts => some (.filter name, ts)
  | _ => none

/-- Parameters between semicolons. -/
def readParameters? : Nat → List Token → Option (List Parameter)
  | 0, _ => none
  | fuel + 1, ts => do
    let (parameter, ts) ← readParameter? ts
    match ts with
    | [] => return [parameter]
    | .symbol ";" :: ts => return parameter :: (← readParameters? fuel ts)
    | _ => none

mutual

/-- Reads a filter as far as it goes. -/
def readTerm? : Nat → Bool → List Token → Option (Term × List Token)
  | 0, _, _ => none
  | fuel + 1, comma, ts => do
    let (head, ts) ← readOperand? fuel ts
    let (others, ts) ← readOthers? fuel comma ts
    return ((climb (others.length + 1) 0 head others).1, ts)

/-- Reads a filter that takes up all tokens. -/
def readWhole? : Nat → List Token → Option Term
  | 0, _ => none
  | fuel + 1, ts => do
    let (term, rest) ← readTerm? fuel true ts
    guard rest.isEmpty
    return term

/-- The operands that follow, each with the operator before it. -/
def readOthers? : Nat → Bool → List Token → Option (List (Operator × Term) × List Token)
  | 0, _, _ => none
  | fuel + 1, comma, ts => do
    match ← readOperator? fuel comma ts with
    | none => return ([], ts)
    | some (operator, ts) =>
      let (term, ts) ← readOperand? fuel ts
      let (others, ts) ← readOthers? fuel comma ts
      return ((operator, term) :: others, ts)

/-- The operator at the front, or that there is none. -/
def readOperator? : Nat → Bool → List Token → Option (Option (Operator × List Token))
  | 0, _, _ => none
  | fuel + 1, comma, ts =>
    match ts with
    | .word "as" :: ts => do
      let (pattern, ts) ← readPattern? fuel ts
      let .symbol "|" :: ts := ts | none
      return some (.bind pattern, ts)
    | ts => some (Operator.read? comma ts)

def readPattern? : Nat → List Token → Option (Pattern × List Token)
  | 0, _ => none
  | fuel + 1, ts =>
    match ts with
    | .variable name :: ts => some (.variable name, ts)
    | .block .square inside :: ts => do return (.parts (← readPlaces? fuel 0 inside), ts)
    | .block .curly inside :: ts => do return (.parts (← readEntries? fuel inside), ts)
    | _ => none

/-- The patterns for the items of an array between commas, the first being at the given place. -/
def readPlaces? : Nat → Nat → List Token → Option (List (Term × Pattern))
  | 0, _, _ => none
  | fuel + 1, place, ts => do
    let (pattern, ts) ← readPattern? fuel ts
    let key : Term := .number (.int place)
    match ts with
    | [] => return [(key, pattern)]
    | .symbol "," :: ts => return (key, pattern) :: (← readPlaces? fuel (place + 1) ts)
    | _ => none

/-- The patterns for the members of an object between commas. A variable alone takes the member of
its own name. -/
def readEntries? : Nat → List Token → Option (List (Term × Pattern))
  | 0, _ => none
  | fuel + 1, ts => do
    let (key, ts) ← readKey? fuel ts
    let (entry, ts) ← match key, ts with
      | key, .symbol ":" :: ts => do
        let (pattern, ts) ← readPattern? fuel ts
        some ((key.term, pattern), ts)
      | .variable name, ts => some ((.chars name, .variable name), ts)
      | _, _ => none
    match ts with
    | [] | [.symbol ","] => return [entry]
    | .symbol "," :: ts => return entry :: (← readEntries? fuel ts)
    | _ => none

def readOperand? : Nat → List Token → Option (Term × List Token)
  | 0, _ => none
  | fuel + 1, ts =>
    match ts with
    | .symbol "-" :: ts => do
      let (term, ts) ← readOperand? fuel ts
      return (.negate term, ts)
    | .word "def" :: ts => do
      let (definition, ts) ← readDefinition? fuel ts
      let (body, ts) ← readTerm? fuel true ts
      return (.define definition body, ts)
    | ts => do
      let (term, ts) ← readAtom? fuel ts
      let (lenient, ts) := readLenient ts
      let term := if lenient then .attempt term else term
      let (accesses, ts) ← readAccesses? fuel ts
      return (if accesses.isEmpty then term else .access term accesses, ts)

/-- A filter that needs no brackets around it. -/
def readAtom? : Nat → List Token → Option (Term × List Token)
  | 0, _ => none
  | fuel + 1, ts =>
    match ts with
    -- What starts with a point is an access to the value itself, left for later.
    | .field name :: ts => some (.identity, .field name :: ts)
    | .symbol "." :: .text pieces :: ts => some (.identity, .symbol "." :: .text pieces :: ts)
    | .symbol "." :: ts => some (.identity, ts)
    | .symbol ".." :: ts => some (.call "recurse" [], ts)
    | .number literal :: ts => some (.number (.ofLiteral literal), ts)
    | .variable name :: ts => some (.variable name, ts)
    | .text pieces :: ts => do return (.text (← readFragments? fuel pieces), ts)
    | .block .round inside :: ts => do return (← readWhole? fuel inside, ts)
    | .block .square [] :: ts => some (.array none, ts)
    | .block .square inside :: ts => do return (.array (some (← readWhole? fuel inside)), ts)
    | .block .curly inside :: ts => do return (.object (← readMembers? fuel inside), ts)
    | .word "if" :: ts => readBranch? fuel ts
    | .word name :: .block .round inside :: ts => do
      guard (!keywords.contains name)
      return (.call name (← readArguments? fuel inside), ts)
    | .word name :: ts => if keywords.contains name then none else some (.call name [], ts)
    | _ => none

/-- The accesses at the front. -/
def readAccesses? : Nat → List Token → Option (List Access × List Token)
  | 0, _ => none
  | fuel + 1, ts =>
    match ts with
    | .field name :: ts => do
      let (lenient, ts) := readLenient ts
      let (accesses, ts) ← readAccesses? fuel ts
      return (.index (.chars name) lenient :: accesses, ts)
    | .symbol "." :: .text pieces :: ts => do
      let key ← readFragments? fuel pieces
      let (lenient, ts) := readLenient ts
      let (accesses, ts) ← readAccesses? fuel ts
      return (.index (.text key) lenient :: accesses, ts)
    | .block .square inside :: ts => do
      let (lenient, ts) := readLenient ts
      let access ← readBracket? fuel inside lenient
      let (accesses, ts) ← readAccesses? fuel ts
      return (access :: accesses, ts)
    | ts => some ([], ts)

/-- An access in square brackets. -/
def readBracket? : Nat → List Token → Bool → Option Access
  | 0, _, _ => none
  | fuel + 1, inside, lenient =>
    match inside with
    | [] => some (.iterate lenient)
    | .symbol ":" :: inside => do
      return .slice none (some (← readWhole? fuel inside)) lenient
    | inside => do
      let (start, inside) ← readTerm? fuel true inside
      match inside with
      | [] => return .index start lenient
      | [.symbol ":"] => return .slice (some start) none lenient
      | .symbol ":" :: inside =>
        return .slice (some start) (some (← readWhole? fuel inside)) lenient
      | _ => none

def readFragments? : Nat → List Piece → Option (List Fragment)
  | 0, _ => none
  | _ + 1, [] => some []
  | fuel + 1, .chars s :: pieces => do return .chars s :: (← readFragments? fuel pieces)
  | fuel + 1, .filter inside :: pieces => do
    let term ← readWhole? fuel inside
    return .filter term :: (← readFragments? fuel pieces)

/-- Arguments between semicolons. -/
def readArguments? : Nat → List Token → Option (List Term)
  | 0, _ => none
  | fuel + 1, ts => do
    let (term, ts) ← readTerm? fuel true ts
    match ts with
    | [] => return [term]
    | .symbol ";" :: ts => return term :: (← readArguments? fuel ts)
    | _ => none

/-- The members of an object between commas; one more comma may follow the last. -/
def readMembers? : Nat → List Token → Option (List (Term × Term))
  | 0, _ => none
  | _ + 1, [] => some []
  | fuel + 1, ts => do
    let (member, ts) ← readMember? fuel ts
    match ts with
    | [] => return [member]
    | .symbol "," :: ts => return member :: (← readMembers? fuel ts)
    | _ => none

/-- A key with a value, or a key alone, whose value is what the key leads to. A key in brackets
does not stand alone. -/
def readMember? : Nat → List Token → Option ((Term × Term) × List Token)
  | 0, _ => none
  | fuel + 1, ts => do
    let (key, ts) ← readKey? fuel ts
    match key, ts with
    | key, .symbol ":" :: ts =>
      let (term, ts) ← readTerm? fuel false ts
      return ((key.term, term), ts)
    | .variable name, ts => return ((.chars name, .variable name), ts)
    | .literal key, ts => return ((key, .access .identity [.index key false]), ts)
    | .computed _, _ => none

def readKey? : Nat → List Token → Option (Key × List Token)
  | 0, _ => none
  | fuel + 1, ts =>
    match ts with
    | .variable name :: ts => some (.variable name, ts)
    | .word name :: ts => some (.literal (.chars name), ts)
    | .text pieces :: ts => do return (.literal (.text (← readFragments? fuel pieces)), ts)
    | .block .round inside :: ts => do return (.computed (← readWhole? fuel inside), ts)
    | _ => none

/-- A conditional after its first word. Without an `else` the value is kept. -/
def readBranch? : Nat → List Token → Option (Term × List Token)
  | 0, _ => none
  | fuel + 1, ts => do
    let (condition, ts) ← readTerm? fuel true ts
    let .word "then" :: ts := ts | none
    let (yes, ts) ← readTerm? fuel true ts
    match ts with
    | .word "end" :: ts => return (.branch condition yes .identity, ts)
    | .word "elif" :: ts =>
      let (no, ts) ← readBranch? fuel ts
      return (.branch condition yes no, ts)
    | .word "else" :: ts =>
      let (no, ts) ← readTerm? fuel true ts
      let .word "end" :: ts := ts | none
      return (.branch condition yes no, ts)
    | _ => none

/-- A definition after its first word, up to its semicolon. -/
def readDefinition? : Nat → List Token → Option (Definition × List Token)
  | 0, _ => none
  | fuel + 1, ts => do
    let .word name :: ts := ts | none
    let (parameters, ts) ← match ts with
      | .block .round inside :: ts => (readParameters? fuel inside).map fun ps => (ps, ts)
      | ts => some ([], ts)
    let .symbol ":" :: ts := ts | none
    let (body, ts) ← readTerm? fuel true ts
    let .symbol ";" :: ts := ts | none
    return (.mk name parameters body, ts)

end

/-- Steps that read the same token follow each other less than eight times. -/
def fuelFor (text : String) : Nat := 8 * (text.length + 1)

/-- The filter that a text is, if it is one. -/
def Term.ofText? (text : String) : Option Term := do readWhole? (fuelFor text) (← tokens? text)

def readDefinitions? : Nat → List Token → Option (List Definition)
  | 0, _ => none
  | _ + 1, [] => some []
  | fuel + 1, .word "def" :: ts => do
    let (definition, ts) ← readDefinition? fuel ts
    return definition :: (← readDefinitions? fuel ts)
  | _ + 1, _ => none

/-- The definitions that a text consists of. -/
def Definition.ofText? (text : String) : Option (List Definition) := do
  readDefinitions? (fuelFor text) (← tokens? text)

end Specimen.Filter
