import Astrolabe.Expression.Lexer

/-!
From tokens to trees. Sums bind weaker than products, products weaker than signs, signs weaker than
powers; sums and products group to the left, and an exponent may carry a sign of its own. Around
arithmetic stand the other constructs of the notation, read for their shape. A text that is no
expression has no tree.
-/

namespace Astrolabe.Expression

/-- The tokens that a rule has not read. -/
abbrev Tokens := List Token

/-- Drops a symbol that has to come next. -/
def expect (mark : String) : Tokens → Option (Tokens)
  | .symbol s :: rest => if s == mark then some rest else none
  | _ => none

/-- Drops a reserved word that has to come next. -/
def expectWord (word : String) : Tokens → Option (Tokens)
  | .keyword w :: rest => if w == word then some rest else none
  | _ => none

/-- Whether a symbol comes next. -/
def startsWith (mark : String) : Tokens → Bool
  | .symbol s :: _ => s == mark
  | _ => false

/-- The operators of each level between comparisons and signs, the weakest first. -/
def operatorAt? (level : Nat) (mark : String) : Option BinaryOp :=
  match level, mark with
  | 0, "|" => some .bitOr
  | 1, "&" => some .bitAnd
  | 2, "<<" => some .shiftLeft
  | 2, ">>" => some .shiftRight
  | 3, "+" => some .add
  | 3, "-" => some .sub
  | 4, "*" => some .mul
  | 4, "/" => some .div
  | 4, "//" => some .floorDiv
  | 4, "%" => some .mod
  | 4, "@" => some .matMul
  | _, _ => none

/-- How many levels of operators lie between comparisons and signs. -/
def operatorLevels : Nat := 5

/-- The sign operators. -/
def sign? : String → Option UnaryOp
  | "+" => some .plus
  | "-" => some .minus
  | "~" => some .invert
  | _ => none

/-- Drops a comparison operator. -/
def comparison? : Tokens → Option (Tokens)
  | .keyword "not" :: .keyword "in" :: rest => some rest
  | .keyword "is" :: .keyword "not" :: rest => some rest
  | .keyword "in" :: rest | .keyword "is" :: rest => some rest
  | .symbol s :: rest => if ["==", "!=", "<", "<=", ">", ">="].contains s then some rest else none
  | _ => none

mutual

/-- Whether a value can be bound to a tree. -/
def isTarget : Expr → Bool
  | .name _ => true
  | .form kind parts =>
    kind == .member || kind == .subscript || ((kind == .tuple || kind == .list) && areTargets parts)
  | _ => false

/-- Whether values can be bound to all parts of a collection, each of which may be starred. -/
def areTargets : List Expr → Bool
  | [] => true
  | .form .starred [e] :: rest => isTarget e && areTargets rest
  | e :: rest => isTarget e && areTargets rest

end

/-- The literal that a run of adjacent text literals makes, and the tokens after the run. Texts and
bytes do not mix. -/
def joinTexts : Tokens → Option (Option String × Tokens)
  | .text s :: rest => (joinTexts rest).map fun (tail, after) => (tail.map (s ++ ·), after)
  | .template _ :: rest => (joinTexts rest).map fun (_, after) => (none, after)
  | .bytes _ :: _ => none
  | rest => some (some "", rest)

/-- The bytes that a run of adjacent byte literals makes, and the tokens after the run. -/
def joinBytes : Tokens → Option (List Nat × Tokens)
  | .bytes values :: rest => (joinBytes rest).map fun (tail, after) => (values ++ tail, after)
  | .text _ :: _ | .template _ :: _ => none
  | rest => some ([], rest)

/-- The templates at the front of the tokens. -/
def templatesOf : Tokens → List Tokens
  | .text _ :: rest => templatesOf rest
  | .template fields :: rest => fields ++ templatesOf rest
  | _ => []

/-- How far the arguments of a call have come. -/
inductive ArgumentPhase where
  | positional | named | spread
deriving DecidableEq

/-- How far the parameters of a function have come. -/
inductive ParameterPhase where
  | first | plain | divided | bareStar | star | ended
deriving DecidableEq

/-- Whether parameters that are no longer given by position alone may still follow in this phase. -/
def ParameterPhase.beforeStar : ParameterPhase → Bool
  | first | plain | divided => true
  | bareStar | star | ended => false

/-- The phase after a parameter with a name of its own. -/
def ParameterPhase.afterName : ParameterPhase → ParameterPhase
  | first | plain => plain
  | divided => divided
  | bareStar | star | ended => star

mutual

/-- A function, a conditional, or a disjunction. -/
def expression : Nat → Tokens → Option (Expr × Tokens)
  | 0, _ => none
  | n + 1, .keyword "lambda" :: ts => do
    let (defaults, ts) ← parameters n .first false ts
    let ts ← expect ":" ts
    let (body, ts) ← expression n ts
    some (.form .lambda (defaults ++ [body]), ts)
  | n + 1, ts => do
    let (value, ts) ← disjunction n ts
    match ts with
    | .keyword "if" :: ts =>
      let (test, ts) ← disjunction n ts
      let ts ← expectWord "else" ts
      let (other, ts) ← expression n ts
      some (.form .conditional [test, value, other], ts)
    | _ => some (value, ts)

/-- Conjunctions joined by `or`. -/
def disjunction : Nat → Tokens → Option (Expr × Tokens)
  | 0, _ => none
  | n + 1, ts => do
    let (first, ts) ← conjunction n ts
    let (others, ts) ← alternatives n ts
    some (if others.isEmpty then first else .form .boolean (first :: others), ts)

def alternatives : Nat → Tokens → Option (List Expr × Tokens)
  | 0, _ => none
  | n + 1, .keyword "or" :: ts => do
    let (e, ts) ← conjunction n ts
    let (es, ts) ← alternatives n ts
    some (e :: es, ts)
  | _ + 1, ts => some ([], ts)

/-- Negations joined by `and`. -/
def conjunction : Nat → Tokens → Option (Expr × Tokens)
  | 0, _ => none
  | n + 1, ts => do
    let (first, ts) ← negation n ts
    let (others, ts) ← conjuncts n ts
    some (if others.isEmpty then first else .form .boolean (first :: others), ts)

def conjuncts : Nat → Tokens → Option (List Expr × Tokens)
  | 0, _ => none
  | n + 1, .keyword "and" :: ts => do
    let (e, ts) ← negation n ts
    let (es, ts) ← conjuncts n ts
    some (e :: es, ts)
  | _ + 1, ts => some ([], ts)

/-- A comparison, perhaps negated. -/
def negation : Nat → Tokens → Option (Expr × Tokens)
  | 0, _ => none
  | n + 1, .keyword "not" :: ts => do
    let (e, ts) ← negation n ts
    some (.unary .not e, ts)
  | n + 1, ts => do
    let (first, ts) ← operand n 0 ts
    let (others, ts) ← comparisons n ts
    some (if others.isEmpty then first else .form .comparison (first :: others), ts)

def comparisons : Nat → Tokens → Option (List Expr × Tokens)
  | 0, _ => none
  | n + 1, ts =>
    match comparison? ts with
    | some ts => do
      let (e, ts) ← operand n 0 ts
      let (es, ts) ← comparisons n ts
      some (e :: es, ts)
    | none => some ([], ts)

/-- An operand of the operators below a level, with the operators of that level and the stronger
ones. -/
def operand : Nat → Nat → Tokens → Option (Expr × Tokens)
  | 0, _, _ => none
  | n + 1, level, ts =>
    if operatorLevels ≤ level then factor n ts
    else do
      let (left, ts) ← operand n (level + 1) ts
      chain n level left ts

/-- The operators of one level, grouped to the left. -/
def chain : Nat → Nat → Expr → Tokens → Option (Expr × Tokens)
  | 0, _, _, _ => none
  | n + 1, level, left, .symbol mark :: ts =>
    match operatorAt? level mark with
    | some op => do
      let (right, ts) ← operand n (level + 1) ts
      chain n level (.binary op left right) ts
    | none => some (left, .symbol mark :: ts)
  | _ + 1, _, left, ts => some (left, ts)

/-- A power, perhaps with signs before it. -/
def factor : Nat → Tokens → Option (Expr × Tokens)
  | 0, _ => none
  | n + 1, .symbol mark :: ts =>
    match sign? mark with
    | some op => do
      let (e, ts) ← factor n ts
      some (.unary op e, ts)
    | none => power n (.symbol mark :: ts)
  | n + 1, ts => power n ts

/-- A primary with an exponent or without. -/
def power : Nat → Tokens → Option (Expr × Tokens)
  | 0, _ => none
  | n + 1, ts => do
    let (base, ts) ← awaited n ts
    match ts with
    | .symbol "**" :: ts =>
      let (exponent, ts) ← factor n ts
      some (.binary .pow base exponent, ts)
    | _ => some (base, ts)

def awaited : Nat → Tokens → Option (Expr × Tokens)
  | 0, _ => none
  | n + 1, .keyword "await" :: ts => do
    let (e, ts) ← primary n ts
    some (.form .await [e], ts)
  | n + 1, ts => primary n ts

/-- An atom and what is taken from it: members, calls and items. -/
def primary : Nat → Tokens → Option (Expr × Tokens)
  | 0, _ => none
  | n + 1, ts => do
    let (e, ts) ← atom n ts
    trailers n e ts

def trailers : Nat → Expr → Tokens → Option (Expr × Tokens)
  | 0, _, _ => none
  | n + 1, e, .symbol "." :: .name _ :: ts => trailers n (.form .member [e]) ts
  | n + 1, e, .symbol "(" :: ts => do
    let ((arguments, named), ts) ← callArguments n .positional true ts
    trailers n (.call e arguments named) ts
  | n + 1, e, .symbol "[" :: ts => do
    let (index, ts) ← items n ts
    trailers n (.form .subscript [e, index]) ts
  | _ + 1, e, ts => some (e, ts)

/-- Names, literals, and whatever stands in brackets. -/
def atom : Nat → Tokens → Option (Expr × Tokens)
  | 0, _ => none
  | n + 1, ts =>
    match ts with
    | .whole k :: ts => some (.whole k, ts)
    | .decimal d :: ts => some (.decimal d, ts)
    | .imaginary d :: ts => some (.constant (.imaginary d), ts)
    | .name id :: ts => some (.name id, ts)
    | .keyword "True" :: ts => some (.constant (.truth true), ts)
    | .keyword "False" :: ts => some (.constant (.truth false), ts)
    | .keyword "None" :: ts => some (.constant .nothing, ts)
    | .symbol "..." :: ts => some (.constant .ellipsis, ts)
    | .bytes _ :: _ => do
      let (values, after) ← joinBytes ts
      some (.constant (.bytes values), after)
    | .text _ :: _ | .template _ :: _ => do
      let (joined, after) ← joinTexts ts
      match joined with
      | some s => some (.constant (.text s), after)
      | none => do
        let parts ← fieldValues n (templatesOf ts)
        some (.form .template parts, after)
    | .symbol "(" :: ts => group n ts
    | .symbol "[" :: ts => listDisplay n ts
    | .symbol mark :: ts => if mark == "\x7b" then braceDisplay n ts else none
    | _ => none

/-- The values of the expressions in a template, each read as if it stood in parentheses. -/
def fieldValues : Nat → List Tokens → Option (List Expr)
  | 0, _ => none
  | _ + 1, [] => some []
  | n + 1, field :: rest => do
    let (e, after) ← group n (field ++ [.symbol ")"])
    if after.isEmpty then do
      let es ← fieldValues n rest
      some (e :: es)
    else none

/-- An expression that may be starred, as the values of `yield` are. -/
def starredOperand : Nat → Tokens → Option (Expr × Tokens)
  | 0, _ => none
  | n + 1, .symbol "*" :: ts => do
    let (e, ts) ← operand n 0 ts
    some (.form .starred [e], ts)
  | n + 1, ts => expression n ts

/-- The expressions after a comma, until none follows. -/
def starredOperands : Nat → Tokens → Option (List Expr × Tokens)
  | 0, _ => none
  | n + 1, ts =>
    match ts with
    | [] | .symbol ")" :: _ => some ([], ts)
    | _ => do
      let (e, ts) ← starredOperand n ts
      match ts with
      | .symbol "," :: ts =>
        let (es, ts) ← starredOperands n ts
        some (e :: es, ts)
      | _ => some ([e], ts)

/-- What follows the word `yield`. -/
def yielded : Nat → Tokens → Option (Expr × Tokens)
  | 0, _ => none
  | n + 1, .keyword "from" :: ts => do
    let (e, ts) ← expression n ts
    some (.form .yieldFrom [e], ts)
  | n + 1, ts => do
    let (es, ts) ← starredOperands n ts
    some (.form .yield es, ts)

/-- An expression, or an assignment of one to a name. -/
def namedExpression : Nat → Tokens → Option (Expr × Tokens)
  | 0, _ => none
  | n + 1, .name id :: .symbol ":=" :: ts => do
    let (e, ts) ← expression n ts
    some (.form .assignment [.name id, e], ts)
  | n + 1, ts => expression n ts

/-- An element of a collection, which may be starred. -/
def element : Nat → Tokens → Option (Expr × Tokens)
  | 0, _ => none
  | n + 1, .symbol "*" :: ts => do
    let (e, ts) ← operand n 0 ts
    some (.form .starred [e], ts)
  | n + 1, ts => namedExpression n ts

/-- The elements after a comma, up to the closing bracket, which is dropped. -/
def elements : Nat → String → Tokens → Option (List Expr × Tokens)
  | 0, _, _ => none
  | n + 1, closer, ts =>
    match expect closer ts with
    | some ts => some ([], ts)
    | none => do
      let (e, ts) ← element n ts
      match ts with
      | .symbol "," :: ts =>
        let (es, ts) ← elements n closer ts
        some (e :: es, ts)
      | _ => do
        let ts ← expect closer ts
        some ([e], ts)

/-- What follows an opening parenthesis: nothing, one expression, a tuple or a generator. -/
def group : Nat → Tokens → Option (Expr × Tokens)
  | 0, _ => none
  | _ + 1, .symbol ")" :: ts => some (.form .tuple [], ts)
  | n + 1, .keyword "yield" :: ts => do
    let (e, ts) ← yielded n ts
    let ts ← expect ")" ts
    some (e, ts)
  | n + 1, ts => do
    let starred := startsWith "*" ts
    let (first, ts) ← element n ts
    match ts with
    | .symbol "," :: ts =>
      let (others, ts) ← elements n ")" ts
      some (.form .tuple (first :: others), ts)
    | _ =>
      if starred then none
      else do
        let (parts, ts) ← clauses n ts
        let ts ← expect ")" ts
        some (if parts.isEmpty then first else .form .generator (first :: parts), ts)

/-- What follows an opening square bracket that begins an atom. -/
def listDisplay : Nat → Tokens → Option (Expr × Tokens)
  | 0, _ => none
  | _ + 1, .symbol "]" :: ts => some (.form .list [], ts)
  | n + 1, ts => do
    let starred := startsWith "*" ts
    let (first, ts) ← element n ts
    match ts with
    | .symbol "," :: ts =>
      let (others, ts) ← elements n "]" ts
      some (.form .list (first :: others), ts)
    | _ => do
      let (parts, ts) ← clauses n ts
      let ts ← expect "]" ts
      if parts.isEmpty then some (.form .list [first], ts)
      else if starred then none
      else some (.form .listComprehension (first :: parts), ts)

/-- What follows an opening brace: a set, a map, or a comprehension of one. -/
def braceDisplay : Nat → Tokens → Option (Expr × Tokens)
  | 0, _ => none
  | n + 1, ts =>
    match expect "\x7d" ts with
    | some ts => some (.form .dict [], ts)
    | none =>
      if startsWith "**" ts then mapEntries n [] ts
      else do
        let assigned := match ts with
          | .name _ :: .symbol ":=" :: _ => true
          | _ => false
        let starred := startsWith "*" ts
        let (first, ts) ← element n ts
        match ts with
        | .symbol ":" :: ts =>
          if starred || assigned then none
          else do
            let (value, ts) ← expression n ts
            let (parts, rest) ← clauses n ts
            if parts.isEmpty then
              match ts with
              | .symbol "," :: ts => mapEntries n [first, value] ts
              | _ => do
                let ts ← expect "\x7d" ts
                some (.form .dict [first, value], ts)
            else do
              let rest ← expect "\x7d" rest
              some (.form .dictComprehension (first :: value :: parts), rest)
        | .symbol "," :: ts =>
          let (others, ts) ← elements n "\x7d" ts
          some (.form .set (first :: others), ts)
        | _ => do
          let (parts, ts) ← clauses n ts
          let ts ← expect "\x7d" ts
          if parts.isEmpty then some (.form .set [first], ts)
          else if starred then none
          else some (.form .setComprehension (first :: parts), ts)

/-- The entries of a map behind those done, up to the closing brace. -/
def mapEntries : Nat → List Expr → Tokens → Option (Expr × Tokens)
  | 0, _, _ => none
  | n + 1, done, ts =>
    match expect "\x7d" ts with
    | some ts => some (.form .dict done, ts)
    | none => do
      let (entry, ts) ←
        match ts with
        | .symbol "**" :: ts => do
          let (e, ts) ← operand n 0 ts
          some ([e], ts)
        | _ => do
          let (key, ts) ← expression n ts
          let ts ← expect ":" ts
          let (value, ts) ← expression n ts
          some ([key, value], ts)
      match ts with
      | .symbol "," :: ts => mapEntries n (done ++ entry) ts
      | _ => do
        let ts ← expect "\x7d" ts
        some (.form .dict (done ++ entry), ts)

/-- The clauses of a comprehension, of which there may be none. -/
def clauses : Nat → Tokens → Option (List Expr × Tokens)
  | 0, _ => none
  | n + 1, ts =>
    let body :=
      match ts with
      | .keyword "for" :: ts => some ts
      | .keyword "async" :: .keyword "for" :: ts => some ts
      | _ => none
    match body with
    | none => some ([], ts)
    | some ts => do
      let (target, ts) ← targets n ts
      let (source, ts) ← disjunction n ts
      let (tests, ts) ← conditions n ts
      let (others, ts) ← clauses n ts
      some (target ++ source :: tests ++ others, ts)

/-- The conditions of a clause. -/
def conditions : Nat → Tokens → Option (List Expr × Tokens)
  | 0, _ => none
  | n + 1, .keyword "if" :: ts => do
    let (e, ts) ← disjunction n ts
    let (es, ts) ← conditions n ts
    some (e :: es, ts)
  | _ + 1, ts => some ([], ts)

/-- What a clause binds, up to the word `in`, which is dropped. -/
def targets : Nat → Tokens → Option (List Expr × Tokens)
  | 0, _ => none
  | n + 1, ts => do
    let ts := match ts with
      | .symbol "*" :: ts => ts
      | _ => ts
    let (e, ts) ← primary n ts
    if isTarget e then
      match ts with
      | .keyword "in" :: ts => some ([e], ts)
      | .symbol "," :: .keyword "in" :: ts => some ([e], ts)
      | .symbol "," :: ts =>
        let (es, ts) ← targets n ts
        some (e :: es, ts)
      | _ => none
    else none

/-- The arguments of a call up to the closing parenthesis. Named arguments follow positional ones,
spread maps follow both; a generator without parentheses stands alone. -/
def callArguments : Nat → ArgumentPhase → Bool → Tokens →
    Option ((List Expr × List (Option String × Expr)) × Tokens)
  | 0, _, _, _ => none
  | _ + 1, _, _, .symbol ")" :: ts => some (([], []), ts)
  | n + 1, phase, alone, ts => do
    let (argument, name, phase, ts) ←
      match ts with
      | .symbol "*" :: ts =>
        if phase == .spread then none
        else do
          let (e, ts) ← expression n ts
          some (Expr.form .starred [e], none, phase, ts)
      | .symbol "**" :: ts => do
        let (e, ts) ← expression n ts
        some (e, some none, ArgumentPhase.spread, ts)
      | .name id :: .symbol "=" :: ts => do
        let (e, ts) ← expression n ts
        some (e, some (some id), if phase == .spread then .spread else .named, ts)
      | _ =>
        if phase != .positional then none
        else do
          let (e, ts) ← namedExpression n ts
          let (parts, rest) ← clauses n ts
          if parts.isEmpty then some (e, none, phase, ts)
          else if alone && startsWith ")" rest then
            some (.form .generator (e :: parts), none, phase, rest)
          else none
    let ((others, named), ts) ←
      match ts with
      | .symbol "," :: ts => callArguments n phase false ts
      | _ => do
        let ts ← expect ")" ts
        some (([], []), ts)
    match name with
    | none => some ((argument :: others, named), ts)
    | some key => some ((others, (key, argument) :: named), ts)

/-- The items between square brackets behind a value, up to the closing bracket. -/
def items : Nat → Tokens → Option (Expr × Tokens)
  | 0, _ => none
  | n + 1, ts => do
    let starred := startsWith "*" ts
    let (first, ts) ← item n ts
    match ts with
    | .symbol "," :: ts =>
      let (others, ts) ← moreItems n ts
      some (.form .tuple (first :: others), ts)
    | _ => do
      let ts ← expect "]" ts
      some (if starred then .form .tuple [first] else first, ts)

def moreItems : Nat → Tokens → Option (List Expr × Tokens)
  | 0, _ => none
  | _ + 1, .symbol "]" :: ts => some ([], ts)
  | n + 1, ts => do
    let (e, ts) ← item n ts
    match ts with
    | .symbol "," :: ts =>
      let (es, ts) ← moreItems n ts
      some (e :: es, ts)
    | _ => do
      let ts ← expect "]" ts
      some ([e], ts)

/-- One item: a value, a starred value, or a range with up to three bounds. -/
def item : Nat → Tokens → Option (Expr × Tokens)
  | 0, _ => none
  | n + 1, .symbol "*" :: ts => do
    let (e, ts) ← expression n ts
    some (.form .starred [e], ts)
  | n + 1, .symbol ":" :: ts => do
    let (bounds, ts) ← upperBounds n 1 ts
    some (.form .slice bounds, ts)
  | n + 1, ts => do
    let assigned := match ts with
      | .name _ :: .symbol ":=" :: _ => true
      | _ => false
    let (e, ts) ← namedExpression n ts
    match ts with
    | .symbol ":" :: ts =>
      if assigned then none
      else do
        let (bounds, ts) ← upperBounds n 1 ts
        some (.form .slice (e :: bounds), ts)
    | _ => some (e, ts)

/-- The bounds after a colon; `more` further colons may follow. -/
def upperBounds : Nat → Nat → Tokens → Option (List Expr × Tokens)
  | 0, _, _ => none
  | n + 1, more, ts => do
    let (bound, ts) ←
      match ts with
      | .symbol mark :: _ =>
        if mark == ":" || mark == "," || mark == "]" then some ([], ts)
        else do
          let (e, ts) ← expression n ts
          some ([e], ts)
      | _ => do
        let (e, ts) ← expression n ts
        some ([e], ts)
    match ts with
    | .symbol ":" :: rest =>
      if more == 0 then none
      else do
        let (others, ts) ← upperBounds n (more - 1) rest
        some (bound ++ others, ts)
    | _ => some (bound, ts)

/-- The parameters of a function up to the colon, as the list of their defaults. A parameter with a
default comes after those without, up to a star. -/
def parameters : Nat → ParameterPhase → Bool → Tokens → Option (List Expr × Tokens)
  | 0, _, _, _ => none
  | _ + 1, phase, _, .symbol ":" :: ts =>
    if phase == .bareStar then none else some ([], .symbol ":" :: ts)
  | n + 1, phase, optional, ts => do
    let (defaults, phase, optional, ts) ←
      match ts with
      | .symbol "/" :: ts =>
        if phase == .plain then some ([], ParameterPhase.divided, optional, ts) else none
      | .symbol "*" :: .name _ :: ts =>
        if phase.beforeStar then some ([], ParameterPhase.star, optional, ts) else none
      | .symbol "*" :: .symbol "," :: ts =>
        if phase.beforeStar then some ([], .bareStar, optional, .symbol "," :: ts) else none
      | .symbol "**" :: .name _ :: ts =>
        if phase == .bareStar || phase == .ended then none else some ([], .ended, optional, ts)
      | .name _ :: .symbol "=" :: ts =>
        if phase == .ended then none
        else do
          let (e, ts) ← expression n ts
          some ([e], phase.afterName, true, ts)
      | .name _ :: ts =>
        if phase == .ended || (optional && phase.beforeStar) then none
        else some ([], phase.afterName, optional, ts)
      | _ => none
    match ts with
    | .symbol "," :: ts =>
      let (others, ts) ← parameters n phase optional ts
      some (defaults ++ others, ts)
    | .symbol ":" :: _ => some (defaults, ts)
    | _ => none

end

/-- Expressions separated by commas, with no token after them. More than one make a tuple, and so
does one with a comma behind it. -/
def expressions : Nat → Tokens → Option (List Expr × Bool)
  | 0, _ => none
  | n + 1, ts => do
    let (e, ts) ← expression n ts
    match ts with
    | [] => some ([e], false)
    | [.symbol ","] => some ([e], true)
    | .symbol "," :: ts =>
      let (es, _) ← expressions n ts
      some (e :: es, true)
    | _ => none

/-- How many rules can be entered between two tokens. -/
def rulesPerToken : Nat := 32

end Astrolabe.Expression

namespace Astrolabe

open Expression in
/-- The tree of a text, if the text is an expression. -/
def Expr.ofText? (text : String) : Option Expr := do
  let tokens ← lex text.toList
  let (es, several) ← expressions (rulesPerToken * (text.length + 2)) tokens
  match es, several with
  | [e], false => some e
  | _, _ => some (.form .tuple es)

end Astrolabe
