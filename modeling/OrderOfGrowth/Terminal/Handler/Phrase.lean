import OrderOfGrowth.Terminal.Handler.Expression
import OrderOfGrowth.Terminal.Handler.Lexeme
import Std.Data.HashMap

/-!
# Reading by rules

A rule lists alternatives of phrases, and the first alternative that fits is taken. What a rule
finds at a lexeme is remembered. A second reading also tries the alternatives for mistakes,
which raise a problem of their own when they fit.
-/

namespace OrderOfGrowth.Terminal

/-- An argument of a call. -/
inductive ArgumentKind where
  | positional
  | named
  | spread
  deriving DecidableEq

/-- What a phrase finds. -/
inductive Node where
  | nothing
  | token (token : Token)
  | expression (found : Expression)
  | entry (key : Option Expression) (content : Expression)
  | arguments (kinds : List ArgumentKind)
  | list (items : List Node)

/-- A phrase over rules that are named by `R`. Commas stand between the parts of a row. Nothing is
found by a test of what comes next, by the decision that no later alternative is tried, and by
the test whether the last lexeme stands inside brackets. -/
inductive Phrase (R : Type) where
  | name
  | softWord
  | number
  | string
  | lineEnd
  | finish
  | sign (text : String)
  | word (text : String)
  | rule (name : R)
  | mistake (name : R)
  | option (phrase : Phrase R)
  | many (phrase : Phrase R)
  | some (phrase : Phrase R)
  | row (phrase : Phrase R)
  | sequence (phrases : List (Phrase R))
  | oneOf (phrases : List (Phrase R))
  | ahead (phrase : Phrase R)
  | absent (phrase : Phrase R)
  | decided
  | bracketed

/-- An alternative of a rule: phrases, and what they make together. If they make nothing, the
rule does not fit. -/
structure Alternative (R : Type) where
  phrases : List (Phrase R)
  build : List Node → Except HandlerProblem (Option Node)

/-- A rule. What it finds first may be continued by further alternatives, to which it is handed
over, as long as one fits. `isLasting` says that both kinds of reading remember the same for
it, and `isPlain` that no mistakes are looked for inside it. -/
structure Definition (R : Type) where
  alternatives : List (Alternative R)
  continuations : List (Alternative R) := []
  isLasting : Bool := false
  isPlain : Bool := false

/-- Words that are no names. -/
def keywords : List String :=
  ["False", "None", "True", "and", "as", "assert", "async", "await", "break", "class", "continue",
   "def", "del", "elif", "else", "except", "finally", "for", "from", "global", "if", "import",
   "in", "is", "lambda", "nonlocal", "not", "or", "pass", "raise", "return", "try", "while",
   "with", "yield"]

/-- Words that are names except in some statements. -/
def softWords : List String := ["match", "case", "_"]

/-- A grammar with a number for each rule. -/
structure Grammar (R : Type) where
  define : R → Definition R
  index : R → Nat

/-- What is known during a reading: how many lexemes have been looked at, and what rules have
found where, with the position behind it. -/
structure Progress where
  seen : Nat
  found : Std.HashMap (Nat × Nat) (Option (Node × Nat))

/-- A reading that may stop with a problem and keeps its progress. -/
abbrev Reading := ExceptT HandlerProblem (StateM Progress)

/-- What alternatives find: a node and the position behind it, or nothing, with whether later
alternatives are left to be tried. -/
inductive Finding (α : Type) where
  | found (value : α) (position : Nat)
  | nothing
  | rejected

namespace Reading

/-- The lexeme at a position. Where the lexemes end with a problem, it is raised. -/
def lexemeAt (lexemes : Array Lexeme) (position : Nat) : Reading Token := do
  modify fun progress => { progress with seen := max progress.seen (position + 1) }
  match lexemes[position]? with
  | some ⟨.stop problem _, _, _, _, _⟩ => throw problem
  | some lexeme => return lexeme.token
  | none => return .finish

/-- What a token is for a phrase that names tokens. -/
def tokenNode? (phrase : Phrase R) (token : Token) : Option Node :=
  match phrase, token with
  | .name, .name text =>
    if keywords.contains (String.ofList text) then none else some (.expression (.name text))
  | .softWord, .name text => if softWords.contains (String.ofList text) then some .nothing else none
  | .word word, .name text => if text = word.toList then some (.token token) else none
  | .sign sign, .sign text => if text = sign.toList then some (.token token) else none
  | .number, .number _ => some (.token token)
  | .string, .string .. => some (.token token)
  | .lineEnd, .lineEnd => some .nothing
  | .finish, .finish => some .nothing
  | _, _ => none

/-- The node and position that a finding has, if any. -/
def toOption : Finding α → Option (α × Nat)
  | .found value position => some (value, position)
  | _ => none

variable {R : Type} (grammar : Grammar R) (lexemes : Array Lexeme)

/-- The position behind a token that a phrase names. -/
def readToken (phrase : Phrase R) (position : Nat) : Reading (Finding Node) := do
  match tokenNode? phrase (← lexemeAt lexemes position) with
  | some node => return .found node (position + 1)
  | none => return .nothing

mutual

/-- What a rule finds at a position. In all readers the first number bounds the depth, and `hints`
says whether mistakes are looked for. -/
def readRule : Nat → Bool → R → Nat → Reading (Finding Node)
  | 0, _, _, _ => return .nothing
  | depth + 1, hints, rule, position => do
    let definition := grammar.define rule
    let sort := if definition.isLasting then 0 else if hints then 1 else 2
    let key := (3 * grammar.index rule + sort, position)
    match (← get).found[key]? with
    | some (some (node, behind)) => return .found node behind
    | some none => return .nothing
    | none =>
      let inner := hints && !definition.isPlain
      let result ←
        match ← readAlternatives depth inner [] definition.alternatives position with
        | .found node behind => readContinuations depth inner definition.continuations node behind
        | _ => pure .nothing
      modify fun progress => { progress with found := progress.found.insert key (toOption result) }
      return result

/-- What a rule finds that has found a node before a position. -/
def readContinuations :
    Nat → Bool → List (Alternative R) → Node → Nat → Reading (Finding Node)
  | 0, _, _, node, position => return .found node position
  | depth + 1, hints, alternatives, node, position => do
    match ← readAlternatives depth hints [node] alternatives position with
    | .found more behind => readContinuations depth hints alternatives more behind
    | _ => return .found node position

/-- What the first of some alternatives finds that fits, behind nodes that are handed over to
each. -/
def readAlternatives :
    Nat → Bool → List Node → List (Alternative R) → Nat → Reading (Finding Node)
  | 0, _, _, _, _ => return .nothing
  | _ + 1, _, _, [], _ => return .nothing
  | depth + 1, hints, start, alternative :: rest, position => do
    match ← readPhrases depth hints alternative.phrases position with
    | .found nodes behind =>
      match ← ExceptT.mk (pure (alternative.build (start ++ nodes))) with
      | some node => return .found node behind
      | none => return .nothing
    | .rejected => return .nothing
    | .nothing => readAlternatives depth hints start rest position

/-- What phrases find one after the other. -/
def readPhrases : Nat → Bool → List (Phrase R) → Nat → Reading (Finding (List Node))
  | 0, _, _, _ => return .nothing
  | _ + 1, _, [], position => return .found [] position
  | depth + 1, hints, phrase :: rest, position => do
    match phrase with
    | .decided =>
      match ← readPhrases depth hints rest position with
      | .nothing => return .rejected
      | other => return other
    | .bracketed =>
      if (lexemes[position - 1]?).any (·.level = 0) then return .rejected
      else readPhrases depth hints rest position
    | .ahead tested =>
      match ← readPhrase depth hints tested position with
      | .found .. => readPhrases depth hints rest position
      | _ => return .nothing
    | .absent tested =>
      match ← readPhrase depth hints tested position with
      | .found .. => return .nothing
      | _ => readPhrases depth hints rest position
    | _ =>
      match ← readPhrase depth hints phrase position with
      | .found node behind =>
        match ← readPhrases depth hints rest behind with
        | .found nodes last => return .found (node :: nodes) last
        | other => return other
      | _ => return .nothing

/-- What a phrase finds. -/
def readPhrase : Nat → Bool → Phrase R → Nat → Reading (Finding Node)
  | 0, _, _, _ => return .nothing
  | depth + 1, hints, phrase, position => do
    match phrase with
    | .rule name => readRule depth hints name position
    | .mistake name => if hints then readRule depth hints name position else return .nothing
    | .option inner =>
      match ← readPhrase depth hints inner position with
      | .found node behind => return .found node behind
      | _ => return .found .nothing position
    | .many inner => readMany depth hints inner [] position
    | .some inner =>
      match ← readPhrase depth hints inner position with
      | .found node behind => readMany depth hints inner [node] behind
      | _ => return .nothing
    | .row inner =>
      match ← readPhrase depth hints inner position with
      | .found node behind =>
        match ← readMany depth hints (.sequence [.sign ",", inner]) [] behind with
        | .found (.list pairs) last =>
          return .found (.list (node :: pairs.map fun pair =>
            match pair with
            | .list [_, item] => item
            | _ => .nothing)) last
        | _ => return .found (.list [node]) behind
      | _ => return .nothing
    | .sequence phrases =>
      match ← readPhrases depth hints phrases position with
      | .found nodes behind => return .found (.list nodes) behind
      | _ => return .nothing
    | .oneOf phrases => readOne depth hints phrases position
    | token => readToken lexemes token position

/-- What the first of some phrases finds that fits. -/
def readOne : Nat → Bool → List (Phrase R) → Nat → Reading (Finding Node)
  | 0, _, _, _ => return .nothing
  | _ + 1, _, [], _ => return .nothing
  | depth + 1, hints, phrase :: rest, position => do
    match ← readPhrase depth hints phrase position with
    | .found node behind => return .found node behind
    | _ => readOne depth hints rest position

/-- What a phrase finds again and again behind `found`, the last first. -/
def readMany : Nat → Bool → Phrase R → List Node → Nat → Reading (Finding Node)
  | 0, _, _, found, position => return .found (.list found.reverse) position
  | depth + 1, hints, phrase, found, position => do
    match ← readPhrase depth hints phrase position with
    | .found node behind => readMany depth hints phrase (node :: found) behind
    | _ => return .found (.list found.reverse) position

end

end Reading

end OrderOfGrowth.Terminal
