import AdvisoryTrace.Source.Token

/-!
# Reading token trees

The primitive steps of the Rust grammar over token trees: looking at the next tokens without
taking them, taking a keyword, an identifier, punctuation or a literal, and reading the inside
of a group. A failed step reports what it expected; at the end of the current group or of the
file the report starts with `unexpected end of input, `, except for punctuation. A choice among
several alternatives reports every alternative it looked for.
-/

namespace AdvisoryTrace.Source

/-- An identifier as written: its name, which spells one, and whether it is raw (`r#name`). -/
structure Identifier where
  name : String
  raw : Bool
  valid : Text.isIdentBody name.toList = true
  deriving BEq, DecidableEq, Repr

/-- An identifier's text: a raw one keeps its `r#`. -/
def Identifier.text (i : Identifier) : String := if i.raw then "r#" ++ i.name else i.name

/-- What a walk of the syntax learns about calls: a function's body starts, it ends, or a
call names a function. -/
inductive Event where
  | enter (name : Identifier)
  | leave
  | call (name : Identifier)
  deriving BEq, Repr

/-- A file's syntax as far as calls go: a function with a body and the call trees inside it,
or a call naming a function. -/
inductive CallTree where
  | function (name : Identifier) (body : List CallTree)
  | call (name : Identifier)
  deriving Repr

mutual

/-- Whether two call trees are equal. -/
def CallTree.decEq : (a b : CallTree) → Decidable (a = b)
  | .function name body, .function name' body' =>
    if hname : name = name' then
      match CallTree.decEqForest body body' with
      | isTrue hbody => isTrue (hname ▸ hbody ▸ rfl)
      | isFalse hbody => isFalse fun h => by cases h; exact hbody rfl
    else isFalse fun h => by cases h; exact hname rfl
  | .call name, .call name' =>
    if hname : name = name' then isTrue (hname ▸ rfl)
    else isFalse fun h => by cases h; exact hname rfl
  | .function .., .call _ => isFalse fun h => by cases h
  | .call _, .function .. => isFalse fun h => by cases h

/-- Whether two lists of call trees are equal. -/
def CallTree.decEqForest : (a b : List CallTree) → Decidable (a = b)
  | [], [] => isTrue rfl
  | t :: ts, t' :: ts' =>
    match CallTree.decEq t t', CallTree.decEqForest ts ts' with
    | isTrue ht, isTrue hts => isTrue (ht ▸ hts ▸ rfl)
    | isFalse ht, _ => isFalse fun h => by cases h; exact ht rfl
    | _, isFalse hts => isFalse fun h => by cases h; exact hts rfl
  | [], _ :: _ => isFalse fun h => by cases h
  | _ :: _, [] => isFalse fun h => by cases h

end

instance : DecidableEq CallTree := CallTree.decEq

mutual

/-- What a walk of a call tree meets: a function is entered, its body walked, and it is left. -/
def CallTree.events : CallTree → List Event
  | .function name body => .enter name :: CallTree.forestEvents body ++ [.leave]
  | .call name => [.call name]

/-- What a walk of call trees in turn meets. -/
def CallTree.forestEvents : List CallTree → List Event
  | [] => []
  | t :: rest => t.events ++ CallTree.forestEvents rest

end

/-- A reader of token trees: the trees left in the current group, the report of the first
group left with unread trees, and an error text. -/
abbrev Parse := StateT (List TokenTree) (StateT (Option String) (Except String))

namespace Parse

/-- The reserved words, which an identifier may not be unless written raw. -/
def keywords : List String :=
  ["_", "abstract", "as", "async", "await", "become", "box", "break", "const", "continue",
    "crate", "do", "dyn", "else", "enum", "extern", "false", "final", "fn", "for", "if", "impl",
    "in", "let", "loop", "macro", "match", "mod", "move", "mut", "override", "priv", "pub",
    "ref", "return", "Self", "self", "static", "struct", "super", "trait", "true", "try",
    "type", "typeof", "unsafe", "unsized", "use", "virtual", "where", "while", "yield"]

/-- Whether the tree is the keyword `kw` (never a raw identifier). -/
def isKw (kw : String) : Option TokenTree → Bool
  | some (.ident n false _) => n == kw
  | _ => false

/-- Whether the tree is an identifier that is not a reserved word. -/
def isIdent : Option TokenTree → Bool
  | some (.ident n raw _) => raw || !keywords.contains n
  | _ => false

/-- Whether the tree is any identifier, reserved words included. -/
def isAnyIdent : Option TokenTree → Bool
  | some (.ident _ _ _) => true
  | _ => false

/-- Whether the tree is a group with the delimiter. -/
def isGroup (d : Delimiter) : Option TokenTree → Bool
  | some (.group d' _) => d' == d
  | _ => false

/-- Whether the trees spell the punctuation `p`, its characters but the last joint. -/
def spells : List TokenTree → List Char → Bool
  | .punct c _ :: _, [d] => c == d
  | .punct c joint :: rest, d :: ds => c == d && joint && spells rest ds
  | _, _ => false

/-- Whether the trees from position `k` spell the punctuation `p`. -/
def punctAt (ts : List TokenTree) (k : Nat) (p : String) : Bool := spells (ts.drop k) p.toList

/-- Whether a lifetime (`'name`) starts at position `k`. -/
def lifetimeAt (ts : List TokenTree) (k : Nat) : Bool :=
  match ts.drop k with
  | .punct '\'' true :: .ident _ _ _ :: _ => true
  | _ => false

/-- Whether a literal starts at position `k`: a literal token, `true`, `false`, or a minus
sign before a number. -/
def litAt (ts : List TokenTree) (k : Nat) : Bool :=
  match ts.drop k with
  | .literal _ _ :: _ => true
  | .ident "true" false _ :: _ => true
  | .ident "false" false _ :: _ => true
  | .punct '-' _ :: .literal .int _ :: _ => true
  | .punct '-' _ :: .literal .float _ :: _ => true
  | _ => false

/-- Whether a string literal is at position `k`. -/
def strAt (ts : List TokenTree) (k : Nat) : Bool :=
  match ts[k]? with
  | some (.literal .str _) => true
  | _ => false

/-- The next trees, the first at position `k`. -/
def at? (k : Nat) : Parse (Option TokenTree) := return (← get)[k]?

/-- Whether the keyword `kw` is at position `k`. -/
def kwAt (k : Nat) (kw : String) : Parse Bool := return isKw kw (← get)[k]?

/-- Whether a plain identifier is at position `k`. -/
def identAt (k : Nat) : Parse Bool := return isIdent (← get)[k]?

/-- Whether a group with the delimiter is at position `k`. -/
def groupAt (k : Nat) (d : Delimiter) : Parse Bool := return isGroup d (← get)[k]?

/-- Whether the punctuation `p` is next. -/
def peekPunct (p : String) : Parse Bool := return punctAt (← get) 0 p

/-- Whether the punctuation `p` starts at position `k`. -/
def punctAtP (k : Nat) (p : String) : Parse Bool := return punctAt (← get) k p

/-- Whether the current group is used up. -/
def atEnd : Parse Bool := return (← get).isEmpty

/-- Drops `n` trees. -/
def skip (n : Nat) : Parse Unit := modify (·.drop n)

/-- Fails with `msg`, marked as the end of input when nothing is left. -/
def fail (msg : String) : Parse α := do
  if (← get).isEmpty then throw ("unexpected end of input, " ++ msg) else throw msg

/-- The failure of a choice among alternatives that were all looked for. -/
def expected (names : List String) : Parse α := do
  match names with
  | [] => if (← get).isEmpty then throw "unexpected end of input" else throw "unexpected token"
  | [a] => fail ("expected " ++ a)
  | [a, b] => fail ("expected " ++ a ++ " or " ++ b)
  | _ => fail ("expected one of: " ++ ", ".intercalate names)

/-- The failure of a nesting too deep to read. -/
def tooDeep : Parse α := throw "recursion limit reached"

/-- Takes the punctuation `p`. Its failure never says the input ended: punctuation is
looked for character by character, and the report names only the token. -/
def punct (p : String) : Parse Unit := do
  if punctAt (← get) 0 p then skip p.length else throw ("expected `" ++ p ++ "`")

/-- Takes the punctuation `p` if it is next. -/
def punct? (p : String) : Parse Bool := do
  if punctAt (← get) 0 p then skip p.length; return true else return false

/-- Takes the keyword `kw`. -/
def keyword (kw : String) : Parse Unit := do
  if isKw kw (← get)[0]? then skip 1 else fail ("expected `" ++ kw ++ "`")

/-- Takes the keyword `kw` if it is next. -/
def keyword? (kw : String) : Parse Bool := do
  if isKw kw (← get)[0]? then skip 1; return true else return false

/-- Takes an identifier that is not a reserved word. -/
def ident : Parse Identifier := do
  let t : Option TokenTree := (← get)[0]?
  match t with
  | some (.ident n raw valid) =>
    if !raw && keywords.contains n then throw ("expected identifier, found keyword `" ++ n ++ "`")
    else skip 1; return ⟨n, raw, valid⟩
  | _ => fail "expected identifier"

/-- Takes any identifier, reserved words included. -/
def identAny : Parse Identifier := do
  let t : Option TokenTree := (← get)[0]?
  match t with
  | some (.ident n raw valid) => skip 1; return ⟨n, raw, valid⟩
  | _ => fail "expected identifier"

/-- Takes a lifetime. -/
def lifetime : Parse Unit := do
  if lifetimeAt (← get) 0 then skip 2 else fail "expected lifetime"

/-- Takes a literal (a number may carry a minus sign). -/
def literal : Parse Unit := do
  let ts ← get
  if litAt ts 0 then
    match ts with
    | .punct '-' _ :: _ => skip 2
    | _ => skip 1
  else fail "expected literal"

/-- Takes any group: a macro's body. -/
def delimited : Parse Bool := do
  let t : Option TokenTree := (← get)[0]?
  match t with
  | some (.group d _) => skip 1; return d == .brace
  | _ => fail "expected delimiter"

/-- The name of a delimiter in a failure. -/
def groupName : Delimiter → String
  | .paren => "parentheses"
  | .bracket => "square brackets"
  | .brace => "curly braces"

/-- The report for trees left unread at the end of a group. -/
def leftoverMessage : Delimiter → String
  | .paren => "unexpected token, expected `)`"
  | .bracket => "unexpected token, expected `]`"
  | .brace => "unexpected token, expected `\x7d`"

/-- Reads the inside of the next group, which must have the delimiter. Trees left unread are
remembered as the first leftover, unless one already is. -/
def inGroup (d : Delimiter) (p : Parse α) : Parse α := do
  match ← get with
  | .group d' inner :: rest =>
    if d' == d then
      let (a, left) ← StateT.lift (p.run inner)
      if !left.isEmpty then
        modifyThe (Option String) fun first => first <|> some (leftoverMessage d)
      set rest
      return a
    else fail ("expected " ++ groupName d)
  | _ => fail ("expected " ++ groupName d)

/-- Whether the tree may be a segment of a mod-style path: a plain identifier, `super`,
`self`, `Self` or `crate`. -/
def isModSegment (t : TokenTree) : Bool :=
  isIdent (some t) || isKw "super" (some t) || isKw "self" (some t) || isKw "Self" (some t)
    || isKw "crate" (some t)

/-- The trees the `::`-separated segments at the front take, counted from `n`, and how they
end: `some true` after a segment, `some false` after a `::` with no segment following,
`none` (the given `state`) when no segment starts the trees. -/
def modSegments : List TokenTree → Nat → Option Bool → Nat × Option Bool
  | t :: rest, n, state =>
    if isModSegment t then
      match rest with
      | .punct ':' true :: .punct ':' _ :: more => modSegments more (n + 3) (some false)
      | _ => (n + 1, some true)
    else (n, state)
  | [], n, state => (n, state)

/-- Whether a mod-style path (plain identifiers and `super`, `self`, `Self`, `crate`,
separated by `::`, perhaps after a leading `::`) starts the trees, and how many trees it
takes. -/
def modPathLength (ts : List TokenTree) : Option Nat :=
  let lead := if punctAt ts 0 "::" then 2 else 0
  match modSegments (ts.drop lead) lead none with
  | (n, some true) => some n
  | _ => none

/-- Takes a mod-style path. -/
def modPath : Parse Unit := do
  let ts ← get
  let lead := if punctAt ts 0 "::" then 2 else 0
  match modSegments (ts.drop lead) lead none with
  | (n, some true) => skip n
  | (n, some false) =>
    skip n
    fail "expected path segment after `::`"
  | (_, none) =>
    skip lead
    discard ident

/-- Whether the trees start an expression. -/
def canBeginExpr (ts : List TokenTree) : Bool :=
  isAnyIdent ts[0]? || isGroup .paren ts[0]? || isGroup .bracket ts[0]? || isGroup .brace ts[0]?
    || litAt ts 0
    || (punctAt ts 0 "!" && !punctAt ts 0 "!=")
    || (punctAt ts 0 "-" && !punctAt ts 0 "-=" && !punctAt ts 0 "->")
    || (punctAt ts 0 "*" && !punctAt ts 0 "*=")
    || (punctAt ts 0 "|" && !punctAt ts 0 "|=")
    || (punctAt ts 0 "&" && !punctAt ts 0 "&=")
    || punctAt ts 0 ".."
    || (punctAt ts 0 "<" && !punctAt ts 0 "<=" && !punctAt ts 0 "<<=")
    || punctAt ts 0 "::" || lifetimeAt ts 0 || punctAt ts 0 "#"

/-- Whether a function signature starts the trees: qualifiers, an optional ABI, then `fn`. -/
def signatureAhead (ts : List TokenTree) : Bool :=
  let ts := if isKw "const" ts[0]? then ts.drop 1 else ts
  let ts := if isKw "async" ts[0]? then ts.drop 1 else ts
  let ts := if isKw "unsafe" ts[0]? then ts.drop 1 else ts
  let ts := if isKw "extern" ts[0]? then (if strAt ts 1 then ts.drop 2 else ts.drop 1) else ts
  isKw "fn" ts[0]?

/-- Whether generic parameters, rather than a qualified path, follow a keyword: `<` then `>`,
an attribute, `const`, or a name or lifetime followed by `:`, `,`, `>` or `=`. -/
def genericsAhead (ts : List TokenTree) : Bool :=
  punctAt ts 0 "<" &&
    (punctAt ts 1 ">" || punctAt ts 1 "#" || isKw "const" ts[1]? ||
      ((isIdent ts[1]? || lifetimeAt ts 1) &&
        (let k := if lifetimeAt ts 1 then 3 else 2
         (punctAt ts k ":" && !punctAt ts k "::") || punctAt ts k "," || punctAt ts k ">"
           || punctAt ts k "=")))

/-- The binary operator next, with the trees it takes and its binding strength. -/
def binaryOperator (ts : List TokenTree) : Option (Nat × Nat) :=
  let table : List (String × Nat) :=
    [("+=", 1), ("-=", 1), ("*=", 1), ("/=", 1), ("%=", 1), ("^=", 1), ("&=", 1), ("|=", 1),
      ("<<=", 1), (">>=", 1), ("&&", 4), ("||", 3), ("<<", 10), (">>", 10), ("==", 6),
      ("<=", 6), ("!=", 6), (">=", 6), ("+", 11), ("-", 11), ("*", 12), ("/", 12), ("%", 12),
      ("^", 8), ("&", 9), ("|", 7), ("<", 6), (">", 6)]
  (table.find? fun (p, _) => punctAt ts 0 p).map fun (p, s) => (p.length, s)

/-- Binding strengths of the operators, weakest first. -/
def strengthAssign : Nat := 1
def strengthRange : Nat := 2
def strengthCompare : Nat := 6
def strengthCast : Nat := 13

/-- The strength of the operator next, the weakest when none is. -/
def nextStrength (ts : List TokenTree) : Nat :=
  match binaryOperator ts with
  | some (_, s) => s
  | none =>
    if punctAt ts 0 "=" && !punctAt ts 0 "=>" then strengthAssign
    else if punctAt ts 0 ".." then strengthRange
    else if isKw "as" ts[0]? then strengthCast
    else 0

/-- The number of token trees, groups counted with their insides. -/
def treeCount : List TokenTree → Nat
  | [] => 0
  | .group _ inner :: rest => 1 + treeCount inner + treeCount rest
  | _ :: rest => 1 + treeCount rest

end Parse

end AdvisoryTrace.Source
