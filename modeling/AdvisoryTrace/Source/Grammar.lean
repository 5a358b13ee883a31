import AdvisoryTrace.Source.Cursor
import AdvisoryTrace.Source.Literal

/-!
# The Rust grammar, read for calls

A reader of Rust files that follows the full grammar (items, signatures, types, patterns,
statements and expressions) and keeps, of all that, what a call graph needs: where a function
with a body starts and ends, and which functions are called inside it, in the order a walk of
the syntax tree meets them.

* A call through a path (`f(x)`, `a::b::<T>(x)`) names the path's last segment, and a method
  call names the method; either is met before the callee expression and the arguments, and
  before the attributes written on the call.
* Macro bodies are not read. Forms the grammar accepts without modelling them (a function
  declared without a body, a `const` with generics, a visible `impl`, a `box` pattern, `become`,
  and a few more) are kept as plain text: nothing inside them is met.
* A trait function counts only with a default body; its declaration alone is passed over.

Every rule takes a fuel argument that bounds its nesting; `callForest` starts it well above the
number of token trees, which no nesting of rules exceeds.
-/

namespace AdvisoryTrace.Source

/-- What the grammar around an expression needs to know of its outermost form. -/
inductive Form where
  | path (last : Identifier)
  | range
  | compare
  | blockLike
  | macroCall (braced : Bool)
  | plain
  deriving BEq, Repr

/-- Where attributes written before an expression go: after its first call tree, which is the
call it makes itself; before its calls; or nowhere, for an expression kept as plain text,
which drops them. -/
inductive Lead where
  | call
  | start
  | text
  deriving BEq, Repr

/-- An expression as read: its form, whether its text ends with a closing brace, where
attributes written before it go (see `Lead`), and the calls inside it in walk order. -/
structure Expr where
  form : Form
  brace : Bool
  lead : Lead
  calls : List CallTree

/-- What a type is, as far as the grammar around it cares: a path without a qualified self
(and whether it is a single plain segment), bounds without `dyn` (and whether there is a
single one), a type in parentheses, or anything else. -/
inductive TypeShape where
  | path (single : Bool)
  | bounds (single : Bool)
  | paren
  | other
  deriving BEq, Repr

/-- A path as read: its last segment, the calls of its generic arguments, how many segments
it has, whether no segment has arguments, whether the last one has any, and whether it starts
with `::`. -/
structure PathInfo where
  last : Identifier
  calls : List CallTree
  segments : Nat
  modStyle : Bool
  lastArgs : Bool
  leading : Bool

namespace Grammar

open Parse

/-- A plain expression with its calls. -/
def plainExpr (calls : List CallTree) : Expr := ⟨.plain, false, .start, calls⟩

/-- An expression that is a block of some kind: it ends with a brace and needs no semicolon. -/
def blockExpr (calls : List CallTree) : Expr := ⟨.blockLike, true, .start, calls⟩

/-- A call that names `callee`, with the calls of what it calls on. -/
def callExpr (callee : Identifier) (calls : List CallTree) : Expr :=
  ⟨.plain, false, .call, .call callee :: calls⟩

/-- Puts attributes on an expression: after the call it makes itself, if any, else first; an
expression kept as text drops them. -/
def withAttrs (attrs : List CallTree) (e : Expr) : Expr :=
  match e.lead with
  | .call =>
    match e.calls with
    | first :: rest => { e with calls := first :: attrs ++ rest }
    | [] => { e with calls := attrs }
  | .start => { e with calls := attrs ++ e.calls }
  | .text => e

/-- An expression kept as plain text: nothing inside it is met. -/
def textExpr : Expr := ⟨.plain, false, .text, []⟩

/-- Whether a builtin form `builtin # name(...)` starts the trees. -/
def builtinAhead (ts : List TokenTree) : Bool := isKw "builtin" ts[0]? && punctAt ts 1 "#"

/-- Takes a builtin form, an expression or a type whose arguments are not read. -/
def builtinForm : Parse Unit := do
  skip 2
  discard ident
  inGroup .paren (set ([] : List TokenTree))

/-- The field index an integer literal names, or the failure of one that names none. -/
def fieldIndex (text : String) : Parse Nat :=
  match Literal.indexOf text with
  | .ok v => pure v
  | .error why => throw why

/-- Whether an expression statement without `;` must be the last in its block. -/
def needsSemicolon (e : Expr) : Bool :=
  match e.form with
  | .blockLike => false
  | .macroCall braced => !braced
  | _ => true

/-- Whether a match arm with this body needs a comma before the next arm. -/
def needsComma (e : Expr) : Bool :=
  match e.form with
  | .blockLike => false
  | _ => true

/-- The alternatives a type may start with. -/
def typeStarts : List String :=
  ["`for`", "parentheses", "`fn`", "`unsafe`", "`extern`", "identifier", "`::`", "`<`", "`dyn`",
    "square brackets", "`*`", "`&`", "`!`", "`impl`", "`_`", "lifetime"]

/-- The alternatives a pattern may start with. -/
def patternStarts : List String :=
  ["identifier", "`::`", "`<`", "`_`", "literal", "`const`", "`ref`", "`mut`", "`&`",
    "parentheses", "square brackets", "`..`", "`const`"]

/-- The alternatives the end of a range pattern may start with. -/
def rangeBoundStarts : List String :=
  ["literal", "identifier", "`::`", "`<`", "`self`", "`Self`", "`super`", "`crate`", "`const`"]

/-- Whether the trees start a path: an identifier, `super`, `self`, `Self`, `crate`, `::` or
`<`. -/
def pathAhead (ts : List TokenTree) : Bool :=
  isIdent ts[0]? || isKw "super" ts[0]? || isKw "self" ts[0]? || isKw "Self" ts[0]?
    || isKw "crate" ts[0]? || punctAt ts 0 "::" || punctAt ts 0 "<"

/-- Whether the trees start a macro call in item position: an identifier, `self`, `super`,
`crate` or `::`. -/
def macroAhead (ts : List TokenTree) : Bool :=
  isIdent ts[0]? || isKw "self" ts[0]? || isKw "super" ts[0]? || isKw "crate" ts[0]?
    || punctAt ts 0 "::"

/-- Whether a bound may follow a `+`: an identifier of any kind, `::`, `?`, a lifetime or
parentheses (and `[` or `const` where const bounds are allowed). -/
def boundAhead (ts : List TokenTree) (allowConst : Bool) : Bool :=
  isAnyIdent ts[0]? || punctAt ts 0 "::" || punctAt ts 0 "?" || lifetimeAt ts 0
    || isGroup .paren ts[0]? || (allowConst && (isGroup .bracket ts[0]? || isKw "const" ts[0]?))

/-- Whether the trees start an item inside a block (rather than an expression). -/
def itemAhead (ts : List TokenTree) : Bool :=
  let kw (k : Nat) (w : String) := Parse.isKw w ts[k]?
  kw 0 "pub" || (kw 0 "crate" && !punctAt ts 1 "::") || kw 0 "extern" || kw 0 "use"
    || (kw 0 "static" && (kw 1 "mut" || isIdent ts[1]?))
    || (kw 0 "const" && !(isGroup .brace ts[1]? || kw 1 "static"
          || (kw 1 "async" && !(kw 2 "unsafe" || kw 2 "extern" || kw 2 "fn"))
          || kw 1 "move" || punctAt ts 1 "|"))
    || (kw 0 "unsafe" && !isGroup .brace ts[1]?)
    || (kw 0 "async" && (kw 1 "unsafe" || kw 1 "extern" || kw 1 "fn"))
    || kw 0 "fn" || kw 0 "mod" || kw 0 "type" || kw 0 "struct" || kw 0 "enum"
    || (kw 0 "union" && isIdent ts[1]?) || (kw 0 "auto" && kw 1 "trait") || kw 0 "trait"
    || (kw 0 "default" && (kw 1 "unsafe" || kw 1 "impl")) || kw 0 "impl" || kw 0 "macro"

/-- Takes a visibility (`pub`, `pub(crate)`, `pub(in path)`, ...); whether there was none. -/
def visibility : Parse Bool := do
  if ← kwAt 0 "pub" then
    skip 1
    match ← get with
    | .group .paren inner :: rest =>
      if (isKw "crate" inner[0]? || isKw "self" inner[0]? || isKw "super" inner[0]?)
          && inner.length == 1 then
        set rest
      else if isKw "in" inner[0]? then
        inGroup .paren (do skip 1; modPath)
      else pure ()
    | _ => pure ()
    return false
  else return true

/-- Takes an ABI (`extern` and an optional string) if one is next. -/
def abi? : Parse Unit := do
  if ← keyword? "extern" then
    if strAt (← get) 0 then skip 1

/-- The dots of a range: `..=` closes it, `..` leaves it open; `...` is an old spelling of
`..=` that only patterns take. -/
def rangeLimits (patterns : Bool) : Parse Bool := do
  if ← peekPunct "..=" then
    skip 3
    return true
  else if ← peekPunct "..." then
    if patterns then
      skip 3
      return true
    else expected ["`..=`"]
  else if ← peekPunct ".." then
    skip 2
    return false
  else expected ["`..`"]

/-- Takes a `macro` item after its keyword: a name, optional parenthesized rules, then a braced
body. -/
def macroItem : Parse Unit := do
  discard ident
  if ← groupAt 0 .paren then
    skip 1
    if ← groupAt 0 .brace then skip 1 else expected ["curly braces"]
  else if ← groupAt 0 .brace then skip 1
  else expected ["parentheses", "curly braces"]

/-- Takes a macro call in item position: a mod-style path, `!`, an optional name, then a
delimited body, with `;` unless the body is braced. -/
def itemMacro : Parse Unit := do
  modPath
  punct "!"
  let ts ← get
  if isIdent ts[0]? || isKw "try" ts[0]? then discard identAny
  let braced ← delimited
  if !braced then punct ";"

/-- Takes a macro call in a trait, an `impl` or an `extern` block: like `itemMacro` without
the optional name. -/
def memberMacro : Parse Unit := do
  modPath
  punct "!"
  let braced ← delimited
  if !braced then punct ";"

/-- Whether a `where` clause (or the bounds of one predicate) ends here: at the end, a brace,
`,`, `;`, `=` or `:`. A `::` ends only the bounds of a lifetime (`colonStops`), since a type's
bounds may be paths. -/
def whereStops (ts : List TokenTree) (colonStops : Bool) : Bool :=
  ts.isEmpty || isGroup .brace ts[0]? || punctAt ts 0 "," || punctAt ts 0 ";"
    || (punctAt ts 0 ":" && (colonStops || !punctAt ts 0 "::")) || punctAt ts 0 "="

/-- A function with a body: its attributes, the inner attributes of its body, its signature
and its statements, in this order, are inside it. -/
def functionTree (name : Identifier) (attrs inner sig body : List CallTree) : List CallTree :=
  [.function name (attrs ++ inner ++ sig ++ body)]

/-- Takes `use<…>`, the generic parameters an opaque type captures. -/
def captureList : Parse Unit := do
  keyword "use"
  punct "<"
  go (← get).length
where
  go : Nat → Parse Unit
    | 0 => tooDeep
    | n + 1 => do
      let ts ← get
      if lifetimeAt ts 0 || isIdent ts[0]? || isKw "Self" ts[0]? then
        if lifetimeAt ts 0 then lifetime else discard identAny
        let ts ← get
        if punctAt ts 0 "," then
          punct ","
          go n
        else if punctAt ts 0 ">" then punct ">"
        else expected ["`,`", "`>`"]
      else if punctAt ts 0 ">" then punct ">"
      else expected ["lifetime", "identifier", "`>`"]

mutual

/-- Outer attributes `#[...]`: the calls of the values they carry. -/
def outerAttrs : Nat → Parse (List CallTree)
  | 0 => tooDeep
  | n + 1 => do
    if ← peekPunct "#" then
      punct "#"
      let ev ← inGroup .bracket (metaItem n)
      return ev ++ (← outerAttrs n)
    else return []

/-- Inner attributes `#![...]`. -/
def innerAttrs : Nat → Parse (List CallTree)
  | 0 => tooDeep
  | n + 1 => do
    if (← peekPunct "#") && (← punctAtP 1 "!") then
      punct "#"
      punct "!"
      let ev ← inGroup .bracket (metaItem n)
      return ev ++ (← innerAttrs n)
    else return []

/-- The inside of an attribute: `unsafe` or a mod-style path, then a delimited group,
`= value`, or nothing. A value that is a lone literal is not read as an expression. -/
def metaItem : Nat → Parse (List CallTree)
  | 0 => tooDeep
  | n + 1 => do
    if ← kwAt 0 "unsafe" then skip 1 else modPath
    let ts ← get
    if isGroup .paren ts[0]? || isGroup .bracket ts[0]? || isGroup .brace ts[0]? then
      skip 1
      return []
    else if punctAt ts 0 "=" then
      punct "="
      let ts ← get
      let litLength := match ts with
        | .punct '-' _ :: _ => 2
        | _ => 1
      if litAt ts 0 && ts.length == litLength then
        literal
        return []
      else if punctAt ts 0 "#" && isGroup .bracket ts[1]? then
        fail "unexpected attribute inside of attribute"
      else return (← exprAny n true).calls
    else return []

/-- A path segment: its identifier, the calls of its generic arguments, and whether it has
any. Expression paths take arguments only after `::`. -/
def segment : Nat → Bool → Parse (Identifier × List CallTree × Bool)
  | 0, _ => tooDeep
  | n + 1, exprStyle => do
    let ts ← get
    if isKw "super" ts[0]? || isKw "self" ts[0]? || isKw "crate" ts[0]? || isKw "try" ts[0]? then
      return (← identAny, [], false)
    let name ← if isKw "Self" ts[0]? then identAny else ident
    let ts ← get
    if (!exprStyle && punctAt ts 0 "<" && !punctAt ts 0 "<=" && !punctAt ts 0 "<<=")
        || (punctAt ts 0 "::" && punctAt ts 2 "<") then
      return (name, ← angleArgs n, true)
    else return (name, [], false)

/-- Further `::`-separated segments of a path, stopping before `::(`. -/
def pathTail : Nat → Bool → PathInfo → Parse PathInfo
  | 0, _, _ => tooDeep
  | n + 1, exprStyle, info => do
    let ts ← get
    if punctAt ts 0 "::" && !isGroup .paren ts[2]? then
      punct "::"
      let (name, ev, args) ← segment n exprStyle
      pathTail n exprStyle
        { info with last := name, calls := info.calls ++ ev, segments := info.segments + 1,
                    modStyle := info.modStyle && !args, lastArgs := args }
    else return info

/-- The segments after a qualified self (`<T as Trait>::`), separated by `::`, after segments
with these calls, this count and module style. -/
def qualifiedTail : Nat → Bool → List CallTree × Nat × Bool → Parse PathInfo
  | 0, _, _ => tooDeep
  | n + 1, exprStyle, (calls, segments, modStyle) => do
    let (name, ev, args) ← segment n exprStyle
    let info : PathInfo := ⟨name, calls ++ ev, segments + 1, modStyle && !args, args, true⟩
    if ← peekPunct "::" then
      punct "::"
      qualifiedTail n exprStyle (info.calls, info.segments, info.modStyle)
    else return info

/-- An unqualified path, with an optional leading `::`. -/
def path : Nat → Bool → Parse PathInfo
  | 0, _ => tooDeep
  | n + 1, exprStyle => do
    let leading ← punct? "::"
    let (name, ev, args) ← segment n exprStyle
    pathTail n exprStyle ⟨name, ev, 1, !args, args, leading⟩

/-- A path, possibly qualified (`<T as Trait>::name`), and whether it was qualified. The calls
of the qualified self and trait come first. -/
def qpath : Nat → Bool → Parse (PathInfo × Bool)
  | 0, _ => tooDeep
  | n + 1, exprStyle => do
    if ← peekPunct "<" then
      punct "<"
      let (selfEv, _) ← type n true
      let traitEv ← if ← keyword? "as" then pure (← path n false).calls else pure []
      punct ">"
      punct "::"
      let info ← qualifiedTail n exprStyle (selfEv ++ traitEv, 0, true)
      return (info, true)
    else return (← path n exprStyle, false)

/-- A type path: a path, possibly qualified, whose segments take angle-bracketed arguments
only; parenthesized arguments (`Fn(A) -> B`) belong to trait bounds, so a type path ends before
them. -/
def typePath : Nat → Parse (PathInfo × Bool)
  | 0 => tooDeep
  | n + 1 => qpath n false

/-- Angle-bracketed generic arguments, with an optional leading `::`. -/
def angleArgs : Nat → Parse (List CallTree)
  | 0 => tooDeep
  | n + 1 => do
    discard (punct? "::")
    punct "<"
    let ev ← argList n
    punct ">"
    return ev

/-- Generic arguments up to the closing `>`. -/
def argList : Nat → Parse (List CallTree)
  | 0 => tooDeep
  | n + 1 => do
    if ← peekPunct ">" then return []
    let ev ← genericArg n
    if ← peekPunct ">" then return ev
    punct ","
    return ev ++ (← argList n)

/-- One generic argument: a lifetime, a constant, a type, or a binding `Name = T` or
constraint `Name: Bounds` when the type read is a single plain segment. -/
def genericArg : Nat → Parse (List CallTree)
  | 0 => tooDeep
  | n + 1 => do
    let ts ← get
    if lifetimeAt ts 0 && !punctAt ts 2 "+" then
      lifetime
      return []
    if litAt ts 0 || isGroup .brace ts[0]? then return (← constArg n)
    let (ev, shape) ← type n true
    if shape == .path true then
      if ← punct? "=" then
        let ts ← get
        if litAt ts 0 || isGroup .brace ts[0]? then return ev ++ (← constArg n)
        else return ev ++ (← type n true).1
      if ← punct? ":" then return ev ++ (← constraintBounds n)
    return ev

/-- Bounds of a constraint, up to `,` or `>`. -/
def constraintBounds : Nat → Parse (List CallTree)
  | 0 => tooDeep
  | n + 1 => do
    if (← peekPunct ",") || (← peekPunct ">") then return []
    let (ev, _) ← typeBound n false true
    if ← punct? "+" then return ev ++ (← constraintBounds n) else return ev

/-- A constant generic argument: a literal, a name, or a block. -/
def constArg : Nat → Parse (List CallTree)
  | 0 => tooDeep
  | n + 1 => do
    let ts ← get
    if litAt ts 0 then
      literal
      return []
    else if isIdent ts[0]? then
      discard ident
      return []
    else if isGroup .brace ts[0]? then return (← blockExpression n).calls
    else expected []

/-- A type; `allowPlus` lets `A + B` bounds follow a path or `dyn`. Gives the calls and the
shape of the type. -/
def type : Nat → Bool → Parse (List CallTree × TypeShape)
  | 0, _ => tooDeep
  | n + 1, allowPlus => do
    let (lifetimes, lifetimeEv) ← if ← kwAt 0 "for" then do
        let ev ← boundLifetimes n
        let ts ← get
        if !(isIdent ts[0]? || isKw "fn" ts[0]? || isKw "unsafe" ts[0]? || isKw "extern" ts[0]?
            || isKw "super" ts[0]? || isKw "self" ts[0]? || isKw "Self" ts[0]? || isKw "crate" ts[0]?) then
          expected ["identifier", "`fn`", "`unsafe`", "`extern`", "`super`", "`self`", "`Self`",
            "`crate`"]
        pure (true, ev)
      else pure (false, [])
    let ts ← get
    if isGroup .paren ts[0]? then parenType n allowPlus
    else if isKw "fn" ts[0]? || isKw "unsafe" ts[0]? || isKw "extern" ts[0]? then
      return (lifetimeEv ++ (← bareFn n), .other)
    else if builtinAhead ts then
      builtinForm
      return ([], .other)
    else if pathAhead ts then
      let (info, qualified) ← typePath n
      if qualified then return (info.calls, .other)
      let after ← get
      if punctAt after 0 "!" && !punctAt after 0 "!=" && info.modStyle then
        punct "!"
        discard delimited
        return (info.calls, .other)
      if lifetimes || (allowPlus && punctAt after 0 "+") then
        if allowPlus && punctAt after 0 "+" then
          return (lifetimeEv ++ info.calls ++ (← plusBounds n), .bounds false)
        return (lifetimeEv ++ info.calls, .bounds true)
      return (info.calls, .path (info.segments == 1 && !info.leading))
    else if isKw "dyn" ts[0]? then
      skip 1
      let star ← punct? "*"
      let (ev, traits, _) ← boundList n allowPlus false false
      if traits == 0 then throw "at least one trait is required for an object type"
      return (if star then [] else ev, .other)
    else if isGroup .bracket ts[0]? then
      let ev ← inGroup .bracket (do
        let (ev, _) ← type n true
        if ← punct? ";" then return ev ++ (← exprAny n true).calls
        return ev)
      return (ev, .other)
    else if punctAt ts 0 "*" then
      punct "*"
      if ← keyword? "const" then pure ()
      else if ← keyword? "mut" then pure ()
      else expected ["`const`", "`mut`"]
      return ((← type n false).1, .other)
    else if punctAt ts 0 "&" then
      punct "&"
      if lifetimeAt (← get) 0 then lifetime
      discard (keyword? "mut")
      return ((← type n false).1, .other)
    else if punctAt ts 0 "!" then
      punct "!"
      return ([], .other)
    else if isKw "impl" ts[0]? then
      skip 1
      let (ev, traits, _) ← boundList n allowPlus true true
      if traits == 0 then throw "at least one trait must be specified"
      return (ev, .other)
    else if isKw "_" ts[0]? then
      skip 1
      return ([], .other)
    else if lifetimeAt ts 0 then
      let (ev, traits, single) ← boundList n true false false
      if traits == 0 then throw "at least one trait is required for an object type"
      return (ev, .bounds single)
    else expected typeStarts

/-- A type that starts with parentheses: unit, a tuple, bounds in parentheses, or a type in
parentheses, which bounds may follow. -/
def parenType : Nat → Bool → Parse (List CallTree × TypeShape)
  | 0, _ => tooDeep
  | n + 1, allowPlus => do
    let (ev, shape, query) ← inGroup .paren (do
      let ts ← get
      if ts.isEmpty then return ([], TypeShape.other, false)
      if lifetimeAt ts 0 then
        let (ev, traits, _) ← boundList n true false false
        if traits == 0 then throw "at least one trait is required for an object type"
        return (ev, TypeShape.paren, false)
      if punctAt ts 0 "?" then
        let ev ← traitBound n false
        return (ev, TypeShape.other, true)
      let (ev, shape) ← type n true
      if ← punct? "," then return (ev ++ (← typeList n), TypeShape.other, false)
      return (ev, shape, false))
    if query then return (ev ++ (← extraBounds n), .other)
    match shape with
    | .path _ | .bounds true =>
      if allowPlus && (← peekPunct "+") then return (ev ++ (← extraBounds n), .other)
      return (ev, .paren)
    | .other => return (ev, if ev.isEmpty then .other else .paren)
    | _ => return (ev, .paren)

/-- `+ Bound` as long as a `+` follows, each bound required. -/
def extraBounds : Nat → Parse (List CallTree)
  | 0 => tooDeep
  | n + 1 => do
    if ← punct? "+" then
      let (ev, _) ← typeBound n false false
      return ev ++ (← extraBounds n)
    else return []

/-- Comma-separated types up to the end of the group. -/
def typeList : Nat → Parse (List CallTree)
  | 0 => tooDeep
  | n + 1 => do
    if ← atEnd then return []
    let (ev, _) ← type n true
    if ← atEnd then return ev
    punct ","
    return ev ++ (← typeList n)

/-- `+ Bound` after a path type, stopping after a `+` that no bound follows. -/
def plusBounds : Nat → Parse (List CallTree)
  | 0 => tooDeep
  | n + 1 => do
    if ← punct? "+" then
      if boundAhead (← get) false then
        let (ev, _) ← typeBound n false false
        return ev ++ (← plusBounds n)
      return []
    else return []

/-- One or more bounds joined by `+` (only one when `allowPlus` is false). Gives the calls,
the number of trait bounds, and whether there was a single bound with no `+` after it. -/
def boundList : Nat → Bool → Bool → Bool → Parse (List CallTree × Nat × Bool)
  | 0, _, _, _ => tooDeep
  | n + 1, allowPlus, allowCapture, allowConst => do
    let (ev, isTrait) ← typeBound n allowCapture allowConst
    let count := if isTrait then 1 else 0
    if allowPlus && (← peekPunct "+") then
      punct "+"
      if boundAhead (← get) allowConst then
        let (ev', count', _) ← boundList n allowPlus allowCapture allowConst
        return (ev ++ ev', count + count', false)
      return (ev, count, false)
    return (ev, count, true)

/-- A bound: a lifetime, `use<…>` (where captures are allowed), or a trait bound, perhaps in
parentheses. Gives the calls and whether it is a trait bound. -/
def typeBound : Nat → Bool → Bool → Parse (List CallTree × Bool)
  | 0, _, _ => tooDeep
  | n + 1, allowCapture, allowConst => do
    let ts ← get
    if lifetimeAt ts 0 then
      lifetime
      return ([], false)
    if isKw "use" ts[0]? then
      captureList
      if allowCapture then return ([], false)
      throw "`use<...>` precise capturing syntax is not allowed here"
    if isGroup .paren ts[0]? then return (← inGroup .paren (traitBound n allowConst), true)
    return (← traitBound n allowConst, true)

/-- A trait bound: optional `for<…>`, `[const]` or `const`, `?`, then a path with optional
parenthesized arguments. A const bound is kept as text. -/
def traitBound : Nat → Bool → Parse (List CallTree)
  | 0, _ => tooDeep
  | n + 1, allowConst => do
    let first ← if ← kwAt 0 "for" then some <$> boundLifetimes n else pure none
    let ts ← get
    let constant := isGroup .bracket ts[0]? || isKw "const" ts[0]?
    if isGroup .bracket ts[0]? then
      inGroup .bracket (keyword "const")
      if !allowConst then throw "`[const]` is not allowed here"
    else if isKw "const" ts[0]? then
      skip 1
      if !allowConst then throw "`const` is not allowed here"
    let maybe ← punct? "?"
    let lifetimes ← if first.isNone && maybe && (← kwAt 0 "for") then some <$> boundLifetimes n
      else pure first
    let info ← path n false
    let ts ← get
    let args ← if !info.lastArgs && (isGroup .paren ts[0]? || (punctAt ts 0 "::" && isGroup .paren ts[2]?)) then do
        discard (punct? "::")
        let args ← inGroup .paren (typeList n)
        let out ← if ← punct? "->" then pure (← type n false).1 else pure []
        pure (args ++ out)
      else pure []
    if lifetimes.isSome && maybe then
      throw "`for<...>` binder not allowed with `?` trait polarity modifier"
    if constant then return []
    return lifetimes.getD [] ++ info.calls ++ args

/-- `for<'a, ...>`: lifetimes with their attributes. -/
def boundLifetimes : Nat → Parse (List CallTree)
  | 0 => tooDeep
  | n + 1 => do
    keyword "for"
    punct "<"
    let ev ← lifetimeParams n
    punct ">"
    return ev

/-- The lifetimes of a `for<…>`, up to `>`. -/
def lifetimeParams : Nat → Parse (List CallTree)
  | 0 => tooDeep
  | n + 1 => do
    if ← peekPunct ">" then return []
    let attrs ← outerAttrs n
    lifetime
    if ← peekPunct ">" then return attrs
    punct ","
    return attrs ++ (← lifetimeParams n)

/-- A function pointer type, after any `for<…>`. -/
def bareFn : Nat → Parse (List CallTree)
  | 0 => tooDeep
  | n + 1 => do
    discard (keyword? "unsafe")
    abi?
    keyword "fn"
    let args ← inGroup .paren (bareArgs n true)
    let out ← if ← punct? "->" then pure (← type n false).1 else pure []
    return args ++ out

/-- The arguments of a function pointer type; `first` while none has been read. -/
def bareArgs : Nat → Bool → Parse (List CallTree)
  | 0, _ => tooDeep
  | n + 1, first => do
    if ← atEnd then return []
    let attrs ← outerAttrs n
    let ts ← get
    if punctAt ts 0 "..." || ((isIdent ts[0]? || isKw "_" ts[0]?) && punctAt ts 1 ":" && punctAt ts 2 "...") then
      if !punctAt ts 0 "..." then
        skip 1
        punct ":"
      punct "..."
      discard (punct? ",")
      return attrs
    let named := (isIdent ts[0]? || isKw "_" ts[0]? || isKw "self" ts[0]?) && punctAt ts 1 ":"
      && !punctAt ts 1 "::"
    if named then
      skip 1
      punct ":"
    let ev ← if first && !named && isKw "self" ts[0]? then do skip 1; pure [] else pure (← type n true).1
    if ← atEnd then return attrs ++ ev
    punct ","
    return attrs ++ ev ++ (← bareArgs n false)

/-- Generic parameters up to `>` (the caller takes the angle brackets). -/
def genericParams : Nat → Parse (List CallTree)
  | 0 => tooDeep
  | n + 1 => do
    if ← peekPunct ">" then return []
    let attrs ← outerAttrs n
    let ts ← get
    let ev ← if lifetimeAt ts 0 then do
        lifetime
        if ← punct? ":" then lifetimeBounds n
        pure []
      else if isIdent ts[0]? then do
        discard ident
        let bounds ← if ← punct? ":" then paramBounds n else pure []
        let default ← if ← punct? "=" then pure (← type n true).1 else pure []
        pure (bounds ++ default)
      else if isKw "const" ts[0]? then do
        skip 1
        discard ident
        punct ":"
        let (ev, _) ← type n true
        let default ← if ← punct? "=" then constArg n else pure []
        pure (ev ++ default)
      else if isKw "_" ts[0]? then do
        skip 1
        pure []
      else expected ["lifetime", "identifier", "`const`"]
    if ← peekPunct ">" then return attrs ++ ev
    punct ","
    return attrs ++ ev ++ (← genericParams n)

/-- Bounds of a lifetime parameter, up to `,` or `>`. -/
def lifetimeBounds : Nat → Parse Unit
  | 0 => tooDeep
  | n + 1 => do
    if (← peekPunct ",") || (← peekPunct ">") then return
    lifetime
    if ← punct? "+" then lifetimeBounds n

/-- Bounds of a type parameter, up to `,`, `>` or `=`. -/
def paramBounds : Nat → Parse (List CallTree)
  | 0 => tooDeep
  | n + 1 => do
    if (← peekPunct ",") || (← peekPunct ">") || (← peekPunct "=") then return []
    let (ev, _) ← typeBound n false true
    if ← punct? "+" then return ev ++ (← paramBounds n) else return ev

/-- Generic parameters in angle brackets, if there are any; and whether there were. -/
def generics : Nat → Parse (List CallTree × Bool)
  | 0 => tooDeep
  | n + 1 => do
    if ← peekPunct "<" then
      punct "<"
      let ev ← genericParams n
      punct ">"
      return (ev, true)
    else return ([], false)

/-- A `where` clause, if there is one; and whether there was. -/
def whereClause : Nat → Parse (List CallTree × Bool)
  | 0 => tooDeep
  | n + 1 => do
    if ← keyword? "where" then return (← predicates n, true) else return ([], false)

/-- The predicates of a `where` clause. -/
def predicates : Nat → Parse (List CallTree)
  | 0 => tooDeep
  | n + 1 => do
    let ts ← get
    if whereStops ts false then return []
    let ev ← if lifetimeAt ts 0 && punctAt ts 2 ":" then do
        lifetime
        punct ":"
        predicateLifetimes n
        pure []
      else do
        let lifetimes ← if ← kwAt 0 "for" then boundLifetimes n else pure []
        let (ev, _) ← type n true
        punct ":"
        pure (lifetimes ++ ev ++ (← predicateBounds n))
    if ← punct? "," then return ev ++ (← predicates n) else return ev

/-- The lifetimes bounding a lifetime in a `where` clause. -/
def predicateLifetimes : Nat → Parse Unit
  | 0 => tooDeep
  | n + 1 => do
    if whereStops (← get) true then return
    lifetime
    if ← punct? "+" then predicateLifetimes n

/-- The bounds of a type in a `where` clause. -/
def predicateBounds : Nat → Parse (List CallTree)
  | 0 => tooDeep
  | n + 1 => do
    if whereStops (← get) false then return []
    let (ev, _) ← typeBound n false true
    if ← punct? "+" then return ev ++ (← predicateBounds n) else return ev

/-- A pattern without top-level alternatives. -/
def pattern : Nat → Parse (List CallTree)
  | 0 => tooDeep
  | n + 1 => do
    let ts ← get
    if (isIdent ts[0]? && (punctAt ts 1 "::" || punctAt ts 1 "!" || isGroup .brace ts[1]?
          || isGroup .paren ts[1]? || punctAt ts 1 ".."))
        || (isKw "self" ts[0]? && punctAt ts 1 "::") || punctAt ts 0 "::" || punctAt ts 0 "<"
        || isKw "Self" ts[0]? || isKw "super" ts[0]? || isKw "crate" ts[0]? then
      pathPattern n
    else if isKw "_" ts[0]? then
      skip 1
      return []
    else if isKw "box" ts[0]? then
      skip 1
      discard (pattern n)
      return []
    else if punctAt ts 0 "-" || litAt ts 0 || isKw "const" ts[0]? then
      let start ← rangeBound n
      if ← peekPunct ".." then
        let closed ← rangeLimits true
        let stop ← rangeBound n
        if closed && stop.isNone then fail "expected range upper bound"
        return start.getD [] ++ stop.getD []
      return start.getD []
    else if isKw "ref" ts[0]? || isKw "mut" ts[0]? || isKw "self" ts[0]? || isIdent ts[0]? then
      discard (keyword? "ref")
      discard (keyword? "mut")
      if ← kwAt 0 "self" then discard identAny else discard ident
      if ← punct? "@" then pattern n else return []
    else if punctAt ts 0 "&" then
      punct "&"
      discard (keyword? "mut")
      pattern n
    else if isGroup .paren ts[0]? then inGroup .paren (patternList n)
    else if isGroup .bracket ts[0]? then inGroup .bracket (patternList n)
    else if punctAt ts 0 ".." && !punctAt ts 0 "..." then
      let closed ← rangeLimits true
      let stop ← rangeBound n
      if closed && stop.isNone then fail "expected range upper bound"
      return stop.getD []
    else expected patternStarts

/-- Patterns separated by commas, up to the end of the group. -/
def patternList : Nat → Parse (List CallTree)
  | 0 => tooDeep
  | n + 1 => do
    if ← atEnd then return []
    let ev ← patternAlts n
    if ← atEnd then return ev
    punct ","
    return ev ++ (← patternList n)

/-- A pattern with alternatives `a | b`, after an optional leading `|`. -/
def patternAlts : Nat → Parse (List CallTree)
  | 0 => tooDeep
  | n + 1 => do
    discard (punct? "|")
    let ev ← pattern n
    return ev ++ (← moreAlts n)

/-- Further alternatives `| p`. -/
def moreAlts : Nat → Parse (List CallTree)
  | 0 => tooDeep
  | n + 1 => do
    let ts ← get
    if punctAt ts 0 "|" && !punctAt ts 0 "||" && !punctAt ts 0 "|=" then
      punct "|"
      let ev ← pattern n
      return ev ++ (← moreAlts n)
    else return []

/-- A pattern that starts with a path: a constant, a struct, a tuple struct, a range or a
macro. -/
def pathPattern : Nat → Parse (List CallTree)
  | 0 => tooDeep
  | n + 1 => do
    let (info, qualified) ← qpath n true
    let ts ← get
    if !qualified && punctAt ts 0 "!" && !punctAt ts 0 "!=" && info.modStyle then
      punct "!"
      discard delimited
      return info.calls
    if isGroup .brace ts[0]? then return info.calls ++ (← inGroup .brace (fieldPatterns n))
    if isGroup .paren ts[0]? then return info.calls ++ (← inGroup .paren (patternList n))
    if punctAt ts 0 ".." then
      let closed ← rangeLimits true
      let stop ← rangeBound n
      if closed && stop.isNone then fail "expected range upper bound"
      return info.calls ++ stop.getD []
    return info.calls

/-- The fields of a struct pattern, with an optional `..` that ends them. -/
def fieldPatterns : Nat → Parse (List CallTree)
  | 0 => tooDeep
  | n + 1 => do
    if ← atEnd then return []
    let attrs ← outerAttrs n
    if ← peekPunct ".." then
      skip 2
      return attrs
    let boxed ← keyword? "box"
    let byRef ← keyword? "ref"
    let mutable ← keyword? "mut"
    let ts ← get
    let named ← if boxed || byRef || mutable then do discard ident; pure true
      else if isIdent ts[0]? then do discard ident; pure true
      else match (ts[0]? : Option TokenTree) with
        | some (.literal .int text) => do discard (fieldIndex text); skip 1; pure false
        | _ => fail "expected identifier or integer"
    let ev ← if (!boxed && !byRef && !mutable && (← peekPunct ":")) || !named then do
        punct ":"
        patternAlts n
      else pure []
    if ← atEnd then return attrs ++ ev
    punct ","
    return attrs ++ ev ++ (← fieldPatterns n)

/-- An end of a range pattern, if one is there. -/
def rangeBound : Nat → Parse (Option (List CallTree))
  | 0 => tooDeep
  | n + 1 => do
    let ts ← get
    if ts.isEmpty || punctAt ts 0 "|" || punctAt ts 0 "=" || (punctAt ts 0 ":" && !punctAt ts 0 "::")
        || punctAt ts 0 "," || punctAt ts 0 ";" || isKw "if" ts[0]? then return none
    if litAt ts 0 then
      literal
      return some []
    if pathAhead ts then
      let (info, _) ← qpath n true
      return some info.calls
    if isKw "const" ts[0]? then
      skip 1
      let (inner, body) ← innerBlock n
      return some (inner ++ body)
    expected rangeBoundStarts

/-- Outer attributes of an expression. -/
def exprAttrs : Nat → Parse (List CallTree)
  | 0 => tooDeep
  | n + 1 => outerAttrs n

/-- An expression; `allowStruct` is false where a brace would open a block instead (the
condition of `if`, `while`, `match`, `for`). -/
def exprAny : Nat → Bool → Parse Expr
  | 0, _ => tooDeep
  | n + 1, allowStruct => do
    let lhs ← unary n allowStruct
    binary n lhs allowStruct 0

/-- Binary, assignment, range and cast operators binding at least as strongly as `base`. -/
def binary : Nat → Expr → Bool → Nat → Parse Expr
  | 0, _, _, _ => tooDeep
  | n + 1, lhs, allowStruct, base => do
    if lhs.form == .range then return lhs
    let ts ← get
    match binaryOperator ts with
    | some (width, strength) =>
      if strength < base then return lhs
      if strength == strengthCompare && lhs.form == .compare then
        fail "comparison operators cannot be chained"
      skip width
      let rhs ← operand n allowStruct strength
      let form := if strength == strengthCompare then Form.compare else .plain
      binary n ⟨form, rhs.brace, lhs.lead, lhs.calls ++ rhs.calls⟩ allowStruct base
    | none =>
      if strengthAssign ≥ base && punctAt ts 0 "=" && !punctAt ts 0 "=>" then
        punct "="
        let rhs ← operand n allowStruct strengthAssign
        binary n ⟨.plain, rhs.brace, lhs.lead, lhs.calls ++ rhs.calls⟩ allowStruct base
      else if strengthRange ≥ base && punctAt ts 0 ".." then
        let closed ← rangeLimits false
        let stop ← rangeEnd n closed allowStruct
        let (brace, ev) := match stop with
          | some e => (e.brace, e.calls)
          | none => (false, [])
        binary n ⟨.range, brace, .start, lhs.calls ++ ev⟩ allowStruct base
      else if strengthCast ≥ base && isKw "as" ts[0]? then
        skip 1
        let (ev, _) ← type n false
        let after ← get
        let kind :=
          if punctAt after 0 "." && !punctAt after 0 ".." then
            if isKw "await" after[1]? then some "`.await`"
            else if isIdent after[1]? && (isGroup .paren after[2]? || punctAt after 2 "::") then
              some "a method call"
            else some "a field access"
          else if punctAt after 0 "?" then some "`?`"
          else if isGroup .bracket after[0]? then some "indexing"
          else if isGroup .paren after[0]? then some "a function call"
          else none
        match kind with
        | some k => fail ("casts cannot be followed by " ++ k)
        | none => binary n ⟨.plain, false, lhs.lead, lhs.calls ++ ev⟩ allowStruct base
      else return lhs

/-- The right operand of an operator of the given strength, taking stronger operators. -/
def operand : Nat → Bool → Nat → Parse Expr
  | 0, _, _ => tooDeep
  | n + 1, allowStruct, strength => do
    let rhs ← unary n allowStruct
    operandTail n rhs allowStruct strength

/-- Extends a right operand by operators stronger than `strength` (or as strong, for
assignments, which group to the right). -/
def operandTail : Nat → Expr → Bool → Nat → Parse Expr
  | 0, _, _, _ => tooDeep
  | n + 1, rhs, allowStruct, strength => do
    let before ← get
    let next := nextStrength before
    if next > strength || (next == strength && strength == strengthAssign) then
      let rhs ← binary n rhs allowStruct next
      if (← get).length == before.length then return rhs
      operandTail n rhs allowStruct strength
    else return rhs

/-- The end of a range, if it has one: an open range ends before what cannot start one. -/
def rangeEnd : Nat → Bool → Bool → Parse (Option Expr)
  | 0, _, _ => tooDeep
  | n + 1, closed, allowStruct => do
    let ts ← get
    let stops := ts.isEmpty || punctAt ts 0 "," || punctAt ts 0 ";"
      || (punctAt ts 0 "." && !punctAt ts 0 "..") || punctAt ts 0 "?" || punctAt ts 0 "=>"
      || (!allowStruct && isGroup .brace ts[0]?) || punctAt ts 0 "=" || punctAt ts 0 "+"
      || punctAt ts 0 "/" || punctAt ts 0 "%" || punctAt ts 0 "^" || punctAt ts 0 ">"
      || punctAt ts 0 "<=" || punctAt ts 0 "!=" || punctAt ts 0 "-=" || punctAt ts 0 "*="
      || punctAt ts 0 "&=" || punctAt ts 0 "|=" || punctAt ts 0 "<<=" || isKw "as" ts[0]?
    if !closed && stops then return none
    return some (← operand n allowStruct strengthRange)

/-- A prefix expression: `&`, `&mut`, `&raw const`, `*`, `!`, `-`, or a postfix one. -/
def unary : Nat → Bool → Parse Expr
  | 0, _ => tooDeep
  | n + 1, allowStruct => do
    let before ← get
    let attrs ← exprAttrs n
    let ts ← get
    let hasAttrs := ts.length != before.length
    if punctAt ts 0 "&" then
      punct "&"
      let ts ← get
      let raw := isKw "raw" ts[0]? && (isKw "mut" ts[1]? || isKw "const" ts[1]?)
      if raw then skip 1
      let mutable ← keyword? "mut"
      if raw && !mutable then keyword "const"
      let e ← unary n allowStruct
      return ⟨.plain, e.brace, .start, attrs ++ e.calls⟩
    else if punctAt ts 0 "*" || punctAt ts 0 "!" || punctAt ts 0 "-" then
      skip 1
      let e ← unary n allowStruct
      return ⟨.plain, e.brace, .start, attrs ++ e.calls⟩
    else
      let e ← atom n allowStruct
      let e ← trailers n e
      if hasAttrs && e.form == .range then
        throw "attributes are not allowed on range expressions starting with \x60..\x60"
      return withAttrs attrs e

/-- Calls, method calls, fields, indexing, `?` and `.await` after an expression. -/
def trailers : Nat → Expr → Parse Expr
  | 0, _ => tooDeep
  | n + 1, e => do
    let ts ← get
    if isGroup .paren ts[0]? then
      let args ← inGroup .paren (exprList n)
      match e.form with
      | .path name => trailers n (callExpr name (e.calls ++ args))
      | _ => trailers n (plainExpr (e.calls ++ args))
    else if punctAt ts 0 "." && !punctAt ts 0 ".." && e.form != .range then
      punct "."
      let t : Option TokenTree := (← get)[0]?
      match t with
      | some (.literal .float text) =>
        skip 1
        match Literal.floatIndices text with
        | .error why => throw why
        | .ok (_, trailing) =>
          if trailing then member n (plainExpr e.calls) else trailers n (plainExpr e.calls)
      | _ => member n e
    else if isGroup .bracket ts[0]? then
      let index ← inGroup .bracket (exprAny n true)
      trailers n (plainExpr (e.calls ++ index.calls))
    else if punctAt ts 0 "?" && e.form != .range then
      punct "?"
      trailers n (plainExpr e.calls)
    else return e

/-- What follows the dot of a field access: `await`, a method call, a named field or a field
index; then the trailers after it. -/
def member : Nat → Expr → Parse Expr
  | 0, _ => tooDeep
  | n + 1, e => do
    if ← keyword? "await" then trailers n (plainExpr e.calls)
    else
      let ts ← get
      if isIdent ts[0]? then
        let name ← ident
        let turbofish ← if ← peekPunct "::" then some <$> angleArgs n else pure none
        if turbofish.isSome || (← groupAt 0 .paren) then
          let args ← inGroup .paren (exprList n)
          trailers n (callExpr name (e.calls ++ turbofish.getD [] ++ args))
        else trailers n (plainExpr e.calls)
      else
        match (ts[0]? : Option TokenTree) with
        | some (.literal .int text) =>
          discard (fieldIndex text)
          skip 1
          trailers n (plainExpr e.calls)
        | _ => fail "expected identifier or integer"

/-- Comma-separated expressions up to the end of the group. -/
def exprList : Nat → Parse (List CallTree)
  | 0 => tooDeep
  | n + 1 => do
    if ← atEnd then return []
    let e ← exprAny n true
    if ← atEnd then return e.calls
    punct ","
    return e.calls ++ (← exprList n)

/-- An expression that needs no operator around it. -/
def atom : Nat → Bool → Parse Expr
  | 0, _ => tooDeep
  | n + 1, allowStruct => do
    let ts ← get
    let kw (k : Nat) (w : String) := isKw w ts[k]?
    if litAt ts 0 then
      literal
      return plainExpr []
    else if kw 0 "async" && (isGroup .brace ts[1]? || (kw 1 "move" && isGroup .brace ts[2]?)) then
      skip 1
      discard (keyword? "move")
      return ⟨.plain, true, .start, ← plainBlock n⟩
    else if kw 0 "try" && isGroup .brace ts[1]? then
      skip 1
      return blockExpr (← plainBlock n)
    else if punctAt ts 0 "|" || kw 0 "move"
        || (kw 0 "for" && punctAt ts 1 "<" && (lifetimeAt ts 2 || punctAt ts 2 ">"))
        || (kw 0 "const" && !isGroup .brace ts[1]?) || kw 0 "static"
        || (kw 0 "async" && (punctAt ts 1 "|" || kw 1 "move")) then
      closure n allowStruct
    else if builtinAhead ts then
      builtinForm
      return textExpr
    else if pathAhead ts || (kw 0 "try" && (punctAt ts 1 "!" || punctAt ts 1 "::")) then
      pathExpr n allowStruct
    else if isGroup .paren ts[0]? then
      return plainExpr (← inGroup .paren (exprList n))
    else if kw 0 "break" then
      skip 1
      let ts ← get
      if lifetimeAt ts 0 && punctAt ts 2 ":" then
        discard (exprAny n true)
        throw "parentheses required"
      if lifetimeAt ts 0 then lifetime
      let ts ← get
      if canBeginExpr ts && (allowStruct || !isGroup .brace ts[0]?) then
        let e ← exprAny n true
        return ⟨.plain, e.brace, .start, e.calls⟩
      return plainExpr []
    else if kw 0 "continue" then
      skip 1
      if lifetimeAt (← get) 0 then lifetime
      return plainExpr []
    else if kw 0 "return" || kw 0 "yield" then
      skip 1
      if canBeginExpr (← get) then
        let e ← exprAny n true
        return ⟨.plain, e.brace, .start, e.calls⟩
      return plainExpr []
    else if kw 0 "become" then
      skip 1
      discard (exprAny n true)
      return textExpr
    else if isGroup .bracket ts[0]? then
      return plainExpr (← inGroup .bracket (arrayItems n))
    else if kw 0 "let" then
      skip 1
      let pat ← patternAlts n
      punct "="
      let e ← unary n allowStruct
      let e ← binary n e allowStruct strengthCompare
      return ⟨.plain, e.brace, .start, pat ++ e.calls⟩
    else if kw 0 "if" then ifExpr n
    else if kw 0 "while" || kw 0 "for" || kw 0 "loop" then loopExpr n
    else if kw 0 "match" then matchExpr n
    else if kw 0 "unsafe" || kw 0 "const" then
      skip 1
      let (inner, body) ← innerBlock n
      return blockExpr (inner ++ body)
    else if isGroup .brace ts[0]? then
      let (inner, body) ← innerBlock n
      return blockExpr (inner ++ body)
    else if punctAt ts 0 ".." then
      let closed ← rangeLimits false
      let stop ← rangeEnd n closed allowStruct
      match stop with
      | some e => return ⟨.range, e.brace, .start, e.calls⟩
      | none => return ⟨.range, false, .start, []⟩
    else if kw 0 "_" then
      skip 1
      return plainExpr []
    else if lifetimeAt ts 0 then labeled n
    else fail "expected an expression"

/-- A path expression, a macro call, or a struct literal. -/
def pathExpr : Nat → Bool → Parse Expr
  | 0, _ => tooDeep
  | n + 1, allowStruct => do
    let (info, qualified) ← qpath n true
    let ts ← get
    if !qualified && punctAt ts 0 "!" && !punctAt ts 0 "!=" && info.modStyle then
      punct "!"
      let braced ← delimited
      return ⟨.macroCall braced, braced, .start, info.calls⟩
    if allowStruct && isGroup .brace ts[0]? then
      return ⟨.plain, true, .start, info.calls ++ (← inGroup .brace (fieldValues n))⟩
    return ⟨.path info.last, false, .start, info.calls⟩

/-- The fields of a struct literal, with an optional `..base` that ends them. -/
def fieldValues : Nat → Parse (List CallTree)
  | 0 => tooDeep
  | n + 1 => do
    if ← atEnd then return []
    if ← peekPunct ".." then
      skip 2
      if ← atEnd then return []
      return (← exprAny n true).calls
    let attrs ← outerAttrs n
    let ts ← get
    let named := isIdent ts[0]?
    if named then discard ident
    else
      match (ts[0]? : Option TokenTree) with
      | some (.literal .int text) => do discard (fieldIndex text); skip 1
      | _ => fail "expected identifier or integer"
    let ev ← if (← peekPunct ":") || !named then do
        punct ":"
        pure (← exprAny n true).calls
      else pure []
    if ← atEnd then return attrs ++ ev
    punct ","
    return attrs ++ ev ++ (← fieldValues n)

/-- The inside of an array expression: items, or an item and a length. -/
def arrayItems : Nat → Parse (List CallTree)
  | 0 => tooDeep
  | n + 1 => do
    if ← atEnd then return []
    let first ← exprAny n true
    if ← atEnd then return first.calls
    if ← peekPunct "," then
      punct ","
      return first.calls ++ (← exprList n)
    else if ← punct? ";" then return first.calls ++ (← exprAny n true).calls
    else fail "expected `,` or `;`"

/-- A closure: `|args| body` with its qualifiers; with a return type the body is a block. -/
def closure : Nat → Bool → Parse Expr
  | 0, _ => tooDeep
  | n + 1, allowStruct => do
    let lifetimes ← if ← kwAt 0 "for" then boundLifetimes n else pure []
    discard (keyword? "const")
    discard (keyword? "static")
    discard (keyword? "async")
    discard (keyword? "move")
    punct "|"
    let args ← closureArgs n
    punct "|"
    if ← punct? "->" then
      let (ty, _) ← type n true
      let body ← plainBlock n
      return ⟨.plain, true, .start, lifetimes ++ args ++ ty ++ body⟩
    let body ← exprAny n allowStruct
    return ⟨.plain, body.brace, .start, lifetimes ++ args ++ body.calls⟩

/-- The arguments of a closure, up to the closing `|`. -/
def closureArgs : Nat → Parse (List CallTree)
  | 0 => tooDeep
  | n + 1 => do
    if ← peekPunct "|" then return []
    let attrs ← outerAttrs n
    let pat ← pattern n
    let ty ← if ← punct? ":" then pure (← type n true).1 else pure []
    if ← peekPunct "|" then return attrs ++ pat ++ ty
    punct ","
    return attrs ++ pat ++ ty ++ (← closureArgs n)

/-- `if` with its `else if` and `else` branches. -/
def ifExpr : Nat → Parse Expr
  | 0 => tooDeep
  | n + 1 => do
    keyword "if"
    let cond ← exprAny n false
    let body ← plainBlock n
    if ← keyword? "else" then
      let ts ← get
      if isKw "if" ts[0]? then
        let rest ← ifExpr n
        return blockExpr (cond.calls ++ body ++ rest.calls)
      else if isGroup .brace ts[0]? then
        return blockExpr (cond.calls ++ body ++ (← plainBlock n))
      else expected ["`if`", "curly braces"]
    return blockExpr (cond.calls ++ body)

/-- `while`, `for` and `loop`. The attributes inside the body come first. -/
def loopExpr : Nat → Parse Expr
  | 0 => tooDeep
  | n + 1 => do
    if ← keyword? "while" then
      let cond ← exprAny n false
      let (inner, body) ← innerBlock n
      return blockExpr (inner ++ cond.calls ++ body)
    else if ← keyword? "for" then
      let pat ← patternAlts n
      keyword "in"
      let source ← exprAny n false
      let (inner, body) ← innerBlock n
      return blockExpr (inner ++ pat ++ source.calls ++ body)
    else
      keyword "loop"
      let (inner, body) ← innerBlock n
      return blockExpr (inner ++ body)

/-- A labelled loop or block: `'label: loop { ... }`. -/
def labeled : Nat → Parse Expr
  | 0 => tooDeep
  | n + 1 => do
    lifetime
    punct ":"
    let ts ← get
    if isKw "while" ts[0]? || isKw "for" ts[0]? || isKw "loop" ts[0]? then loopExpr n
    else if isGroup .brace ts[0]? then
      let (inner, body) ← innerBlock n
      return blockExpr (inner ++ body)
    else fail "expected loop or block expression"

/-- `match` and its arms. The attributes inside the braces come first. -/
def matchExpr : Nat → Parse Expr
  | 0 => tooDeep
  | n + 1 => do
    keyword "match"
    let scrutinee ← exprAny n false
    let (inner, arms) ← inGroup .brace (do
      let inner ← innerAttrs n
      return (inner, ← matchArms n))
    return blockExpr (inner ++ scrutinee.calls ++ arms)

/-- The arms of a `match`. -/
def matchArms : Nat → Parse (List CallTree)
  | 0 => tooDeep
  | n + 1 => do
    if ← atEnd then return []
    let attrs ← outerAttrs n
    let pat ← patternAlts n
    let guard ← if ← keyword? "if" then pure (← exprAny n true).calls else pure []
    punct "=>"
    let body ← earlyExpr n
    if needsComma body && !(← atEnd) then punct ","
    else discard (punct? ",")
    return attrs ++ pat ++ guard ++ body.calls ++ (← matchArms n)

/-- A braced block without inner attributes: the calls of its statements. -/
def plainBlock : Nat → Parse (List CallTree)
  | 0 => tooDeep
  | n + 1 => inGroup .brace (statements n)

/-- A braced block that may start with inner attributes: their calls, and those of the
statements. -/
def innerBlock : Nat → Parse (List CallTree × List CallTree)
  | 0 => tooDeep
  | n + 1 => inGroup .brace (do
      let inner ← innerAttrs n
      return (inner, ← statements n))

/-- A block expression as a generic argument: an optional label, then a block. -/
def blockExpression : Nat → Parse Expr
  | 0 => tooDeep
  | n + 1 => do
    let attrs ← outerAttrs n
    if lifetimeAt (← get) 0 then
      lifetime
      punct ":"
    let (inner, body) ← innerBlock n
    return blockExpr (attrs ++ inner ++ body)

/-- An expression in statement or arm position: a block-like expression ends it unless a
method call, field, `.await` or `?` follows. -/
def earlyExpr : Nat → Parse Expr
  | 0 => tooDeep
  | n + 1 => do
    let attrs ← exprAttrs n
    let ts ← get
    let kw (k : Nat) (w : String) := isKw w ts[k]?
    let block? : Option Expr ←
      if kw 0 "if" then some <$> ifExpr n
      else if kw 0 "while" || (kw 0 "for" && !(punctAt ts 1 "<" && (lifetimeAt ts 2 || punctAt ts 2 ">")))
          || kw 0 "loop" then
        some <$> loopExpr n
      else if kw 0 "match" then some <$> matchExpr n
      else if kw 0 "try" && isGroup .brace ts[1]? then do
        skip 1
        pure (some (blockExpr (← plainBlock n)))
      else if kw 0 "unsafe" || (kw 0 "const" && isGroup .brace ts[1]?) then do
        skip 1
        let (inner, body) ← innerBlock n
        pure (some (blockExpr (inner ++ body)))
      else if isGroup .brace ts[0]? then do
        let (inner, body) ← innerBlock n
        pure (some (blockExpr (inner ++ body)))
      else if lifetimeAt ts 0 then some <$> labeled n
      else pure none
    match block? with
    | some e =>
      let ts ← get
      if (punctAt ts 0 "." && !punctAt ts 0 "..") || punctAt ts 0 "?" then
        let e ← trailers n e
        binary n (withAttrs attrs e) true 0
      else return withAttrs attrs e
    | none =>
      let e ← unary n true
      binary n (withAttrs attrs e) true 0

/-- The statements of a block, up to its end. -/
def statements : Nat → Parse (List CallTree)
  | 0 => tooDeep
  | n + 1 => do
    if ← punct? ";" then return (← statements n)
    if ← atEnd then return []
    let (ev, needsSemi) ← statement n
    if ← atEnd then return ev
    if needsSemi then fail "unexpected token, expected `;`"
    return ev ++ (← statements n)

/-- One statement: its calls, and whether it must be the last unless a `;` follows. -/
def statement : Nat → Parse (List CallTree × Bool)
  | 0 => tooDeep
  | n + 1 => do
    let attrs ← outerAttrs n
    let ts ← get
    let mut macroItem := false
    match modPathLength ts with
    | some k =>
      if punctAt ts k "!" then
        if isIdent ts[k + 1]? || isKw "try" ts[k + 1]? then macroItem := true
        else if isGroup .brace ts[k + 1]?
            && !((punctAt ts (k + 2) "." && !punctAt ts (k + 2) "..") || punctAt ts (k + 2) "?") then
          skip (k + 1)
          discard delimited
          discard (punct? ";")
          return (attrs, false)
    | none => pure ()
    let ts ← get
    if isKw "let" ts[0]? then
      return (attrs ++ (← letStatement n), false)
    else if itemAhead ts || macroItem then
      return (← item n attrs, false)
    else
      let e := withAttrs attrs (← earlyExpr n)
      let semi ← punct? ";"
      match e.form with
      | .macroCall braced =>
        if semi || braced then return (e.calls, false)
      | _ => pure ()
      if semi then return (e.calls, false)
      return (e.calls, needsSemicolon e)

/-- A `let` statement, with an optional type, value and `else` block. -/
def letStatement : Nat → Parse (List CallTree)
  | 0 => tooDeep
  | n + 1 => do
    keyword "let"
    let pat ← pattern n
    let ty ← if ← punct? ":" then pure (← type n true).1 else pure []
    let init ← if ← punct? "=" then do
        let e ← exprAny n true
        if !e.brace && (← kwAt 0 "else") then
          keyword "else"
          pure (e.calls ++ (← plainBlock n))
        else pure e.calls
      else pure []
    punct ";"
    return pat ++ ty ++ init

/-- A function's signature: its name and the calls of its generics, `where` clause,
arguments and return type, in that order. -/
def signature : Nat → Parse (Identifier × List CallTree)
  | 0 => tooDeep
  | n + 1 => do
    discard (keyword? "const")
    discard (keyword? "async")
    discard (keyword? "unsafe")
    abi?
    keyword "fn"
    let name ← ident
    let (gen, _) ← generics n
    let args ← inGroup .paren (fnArgs n false true)
    let out ← if ← punct? "->" then pure (← type n true).1 else pure []
    let (wh, _) ← whereClause n
    return (name, gen ++ wh ++ args ++ out)

/-- The arguments of a function; a receiver (`self`) may only come first. -/
def fnArgs : Nat → Bool → Bool → Parse (List CallTree)
  | 0, _, _ => tooDeep
  | n + 1, hasReceiver, first => do
    if ← atEnd then return []
    let attrs ← outerAttrs n
    if ← punct? "..." then
      if !(← atEnd) then punct ","
      return attrs
    match ← receiverArg n with
    | some ev =>
      if hasReceiver then throw "unexpected second method receiver"
      if !first then throw "unexpected method receiver"
      if ← atEnd then return attrs ++ ev
      punct ","
      return attrs ++ ev ++ (← fnArgs n true false)
    | none =>
      let ts ← get
      if isIdent ts[0]? && punctAt ts 1 "<" then
        let (ty, _) ← type n true
        if ← atEnd then return attrs ++ ty
        punct ","
        return attrs ++ ty ++ (← fnArgs n hasReceiver false)
      let pat ← pattern n
      punct ":"
      if ← punct? "..." then
        if !(← atEnd) then punct ","
        return attrs ++ pat
      let (ty, _) ← type n true
      if ← atEnd then return attrs ++ pat ++ ty
      punct ","
      return attrs ++ pat ++ ty ++ (← fnArgs n hasReceiver false)

/-- A method receiver (`self`, `&self`, `&'a mut self`, `self: Type`), if one is next and
reads as one. -/
def receiverArg : Nat → Parse (Option (List CallTree))
  | 0 => tooDeep
  | n + 1 => do
    let ts ← get
    let reference := punctAt ts 0 "&"
    let k := if reference then (if lifetimeAt ts 1 then 3 else 1) else 0
    let k := if isKw "mut" ts[k]? then k + 1 else k
    if !isKw "self" ts[k]? then return none
    try
      skip (k + 1)
      if !reference && (← punct? ":") then return some (← type n true).1
      return some []
    catch _ =>
      set ts
      return none

/-- A function's body: the calls of its inner attributes and of its statements. -/
def fnBody : Nat → Parse (List CallTree × List CallTree)
  | 0 => tooDeep
  | n + 1 => innerBlock n

/-- The items of a file or module up to the end. -/
def items : Nat → Parse (List CallTree)
  | 0 => tooDeep
  | n + 1 => do
    if ← atEnd then return []
    let attrs ← outerAttrs n
    let ev ← item n attrs
    return ev ++ (← items n)

/-- An item after its outer attributes. -/
def item : Nat → List CallTree → Parse (List CallTree)
  | 0, _ => tooDeep
  | n + 1, attrs => do
    let start ← get
    let inherited ← visibility
    let ahead ← get
    let kw (k : Nat) (w : String) := isKw w ahead[k]?
    if kw 0 "fn" || signatureAhead ahead then
      let (name, sig) ← signature n
      if ← punct? ";" then return []
      let (inner, body) ← fnBody n
      return functionTree name attrs inner sig body
    else if kw 0 "extern" then
      if kw 1 "crate" then
        skip 2
        if ← kwAt 0 "self" then discard identAny else discard ident
        if ← keyword? "as" then
          if ← kwAt 0 "_" then skip 1 else discard ident
        punct ";"
        return attrs
      else if isGroup .brace ahead[1]? || (strAt ahead 1 && isGroup .brace ahead[2]?) then
        if !inherited then
          set start
          fail "expected `extern`"
        return attrs ++ (← foreignBlock n)
      else if strAt ahead 1 then
        skip 2
        expected ["curly braces"]
      else
        skip 1
        expected ["`crate`", "curly braces", "string literal"]
    else if kw 0 "use" then
      skip 1
      let root ← punct? "::"
      let verbatim ← useTree n (!root)
      punct ";"
      return if verbatim then [] else attrs
    else if kw 0 "static" then
      skip 1
      discard (keyword? "mut")
      discard ident
      if ← punct? "=" then
        discard (exprAny n true)
        punct ";"
        return []
      punct ":"
      let (ty, _) ← type n true
      if ← punct? ";" then return []
      punct "="
      let e ← exprAny n true
      punct ";"
      return attrs ++ ty ++ e.calls
    else if kw 0 "const" then
      skip 1
      constItem n attrs
    else if kw 0 "unsafe" then
      if kw 1 "trait" || (kw 1 "auto" && kw 2 "trait") then traitItem n attrs false
      else if kw 1 "impl" then implBlock n attrs inherited
      else if kw 1 "extern" then
        if !inherited then
          set start
          fail "expected `extern`"
        return attrs ++ (← foreignBlock n)
      else if kw 1 "mod" then modItem n attrs
      else
        skip 1
        expected ["`trait`", "`auto`", "`impl`", "`extern`", "`mod`"]
    else if kw 0 "mod" then modItem n attrs
    else if kw 0 "type" then
      let (gen, wh, _, ty, bounded) ← flexibleType n true false
      match ty with
      | some ev => return if bounded then [] else attrs ++ gen ++ wh ++ ev
      | none => return []
    else if kw 0 "struct" then structItem n attrs false
    else if kw 0 "enum" then enumItem n attrs
    else if kw 0 "union" && isIdent ahead[1]? then structItem n attrs true
    else if kw 0 "trait" then traitItem n attrs true
    else if kw 0 "auto" && kw 1 "trait" then traitItem n attrs false
    else if kw 0 "impl" || (kw 0 "default" && !punctAt ahead 1 "!") then implBlock n attrs inherited
    else if kw 0 "macro" then
      skip 1
      macroItem
      return []
    else if inherited && macroAhead ahead then
      itemMacro
      return attrs
    else
      let names := ["`fn`", "`extern`", "`use`", "`static`", "`const`", "`unsafe`", "`mod`", "`type`",
        "`struct`", "`enum`"] ++ (if kw 0 "union" then [] else ["`union`"]) ++ ["`trait`"]
        ++ (if kw 0 "auto" then [] else ["`auto`"]) ++ ["`impl`"]
        ++ (if kw 0 "default" then [] else ["`default`"]) ++ ["`macro`"]
        ++ (if inherited then ["identifier", "`self`", "`super`", "`crate`", "`::`"] else [])
      expected names

/-- A `const` item after its keyword. With generics, a `where` clause or no value it is kept
as text. -/
def constItem : Nat → List CallTree → Parse (List CallTree)
  | 0, _ => tooDeep
  | n + 1, attrs => do
    let ts ← get
    if isIdent ts[0]? || isKw "_" ts[0]? then discard identAny
    else expected ["identifier", "`_`"]
    let (gen, hasGenerics) ← generics n
    punct ":"
    let (ty, _) ← type n true
    let value ← if ← punct? "=" then pure (some (← exprAny n true).calls) else pure none
    let (wh, hasWhere) ← whereClause n
    punct ";"
    match value with
    | some ev => return if hasGenerics || hasWhere then [] else attrs ++ gen ++ wh ++ ty ++ ev
    | none => return []

/-- A `use` tree: a path, a glob, a renaming, or a braced group of trees. Whether it is kept
as text, which a group with a tree starting at the crate root (`::`) is. -/
def useTree : Nat → Bool → Parse Bool
  | 0, _ => tooDeep
  | n + 1, allowRoot => do
    let ts ← get
    if isIdent ts[0]? || isKw "self" ts[0]? || isKw "super" ts[0]? || isKw "crate" ts[0]?
        || isKw "try" ts[0]? then
      discard identAny
      if ← peekPunct "::" then
        punct "::"
        useTree n false
      else
        if ← keyword? "as" then
          let ts ← get
          if isIdent ts[0]? then discard ident
          else if isKw "_" ts[0]? then skip 1
          else fail "expected identifier or underscore"
        return false
    else if punctAt ts 0 "*" then
      punct "*"
      return false
    else if isGroup .brace ts[0]? then inGroup .brace (useTrees n allowRoot false)
    else expected ["identifier", "`self`", "`super`", "`crate`", "`try`", "`*`", "curly braces"]

/-- The trees of a braced `use` group, and whether one of them makes it text. -/
def useTrees : Nat → Bool → Bool → Parse Bool
  | 0, _, _ => tooDeep
  | n + 1, allowRoot, anyRoot => do
    if ← atEnd then return anyRoot
    let root ← if allowRoot then punct? "::" else pure false
    let verbatim ← useTree n (allowRoot && !root)
    let anyRoot := anyRoot || root || verbatim
    if ← atEnd then return anyRoot
    punct ","
    useTrees n allowRoot anyRoot

/-- A module: `mod name;` or `mod name { items }`. -/
def modItem : Nat → List CallTree → Parse (List CallTree)
  | 0, _ => tooDeep
  | n + 1, attrs => do
    discard (keyword? "unsafe")
    keyword "mod"
    if ← kwAt 0 "try" then discard identAny else discard ident
    let ts ← get
    if punctAt ts 0 ";" then
      punct ";"
      return attrs
    else if isGroup .brace ts[0]? then
      let (inner, body) ← inGroup .brace (do
        let inner ← innerAttrs n
        return (inner, ← items n))
      return attrs ++ inner ++ body
    else expected ["`;`", "curly braces"]

/-- `type Name<..>: Bounds where .. = Type where ..;` from its keyword, the `where` clause
taken before the `=`, after it (when none came before), or both. Gives the calls of the
generics, the `where` clause, the bounds and the definition, and whether there were bounds. -/
def flexibleType : Nat → Bool → Bool →
    Parse (List CallTree × List CallTree × List CallTree × Option (List CallTree) × Bool)
  | 0, _, _ => tooDeep
  | n + 1, whereBefore, whereAfter => do
    keyword "type"
    discard ident
    let (gen, _) ← generics n
    let bounded ← punct? ":"
    let bounds ← if bounded then aliasBounds n true else pure []
    let (wh, hasWhere) ← if whereBefore then whereClause n else pure ([], false)
    let ty ← if ← punct? "=" then pure (some (← type n true).1) else pure none
    let (wh', _) ← if whereAfter && !hasWhere then whereClause n else pure ([], false)
    punct ";"
    return (gen, wh ++ wh', bounds, ty, bounded)

/-- Bounds joined by `+`, up to `where` or `;` (or `=`, when `stopAtEq`, where const bounds
are also allowed). -/
def aliasBounds : Nat → Bool → Parse (List CallTree)
  | 0, _ => tooDeep
  | n + 1, stopAtEq => do
    let stops : Parse Bool := do
      return (← kwAt 0 "where") || (← peekPunct ";") || (stopAtEq && (← peekPunct "="))
    if ← stops then return []
    let (ev, _) ← typeBound n false stopAtEq
    if ← stops then return ev
    punct "+"
    return ev ++ (← aliasBounds n stopAtEq)

/-- A struct or union and its fields. -/
def structItem : Nat → List CallTree → Bool → Parse (List CallTree)
  | 0, _, _ => tooDeep
  | n + 1, attrs, isUnion => do
    skip 1
    discard ident
    let (gen, _) ← generics n
    if isUnion then
      let (wh, _) ← whereClause n
      return attrs ++ gen ++ wh ++ (← inGroup .brace (namedFields n))
    if ← kwAt 0 "where" then
      let (wh, _) ← whereClause n
      let ts ← get
      if isGroup .brace ts[0]? then return attrs ++ gen ++ wh ++ (← inGroup .brace (namedFields n))
      else if punctAt ts 0 ";" then
        punct ";"
        return attrs ++ gen ++ wh
      else expected ["curly braces", "`;`"]
    let ts ← get
    if isGroup .paren ts[0]? then
      let fields ← inGroup .paren (tupleFields n)
      let (wh, hasWhere) ← whereClause n
      if ← punct? ";" then return attrs ++ gen ++ wh ++ fields
      else if hasWhere then expected ["`;`"]
      else expected ["`where`", "`;`"]
    else if isGroup .brace ts[0]? then
      return attrs ++ gen ++ (← inGroup .brace (namedFields n))
    else if punctAt ts 0 ";" then
      punct ";"
      return attrs ++ gen
    else expected ["`where`", "parentheses", "curly braces", "`;`"]

/-- Named fields `name: Type`, separated by commas. A field named `_` may hold an anonymous
struct or union, kept as text. -/
def namedFields : Nat → Parse (List CallTree)
  | 0 => tooDeep
  | n + 1 => do
    if ← atEnd then return []
    let attrs ← outerAttrs n
    discard visibility
    let unnamed ← kwAt 0 "_"
    if unnamed then skip 1 else discard ident
    punct ":"
    let ts ← get
    let ty ← if unnamed && (isKw "struct" ts[0]? || (isKw "union" ts[0]? && isGroup .brace ts[1]?)) then do
        skip 1
        discard (inGroup .brace (namedFields n))
        pure []
      else pure (← type n true).1
    if ← atEnd then return attrs ++ ty
    punct ","
    return attrs ++ ty ++ (← namedFields n)

/-- Unnamed fields `Type`, separated by commas. -/
def tupleFields : Nat → Parse (List CallTree)
  | 0 => tooDeep
  | n + 1 => do
    if ← atEnd then return []
    let attrs ← outerAttrs n
    discard visibility
    let (ty, _) ← type n true
    if ← atEnd then return attrs ++ ty
    punct ","
    return attrs ++ ty ++ (← tupleFields n)

/-- An enum and its variants. -/
def enumItem : Nat → List CallTree → Parse (List CallTree)
  | 0, _ => tooDeep
  | n + 1, attrs => do
    keyword "enum"
    discard ident
    let (gen, _) ← generics n
    let (wh, _) ← whereClause n
    return attrs ++ gen ++ wh ++ (← inGroup .brace (variants n))

/-- The variants of an enum. -/
def variants : Nat → Parse (List CallTree)
  | 0 => tooDeep
  | n + 1 => do
    if ← atEnd then return []
    let attrs ← outerAttrs n
    discard visibility
    discard ident
    let ts ← get
    let fields ← if isGroup .brace ts[0]? then inGroup .brace (namedFields n)
      else if isGroup .paren ts[0]? then inGroup .paren (tupleFields n)
      else pure []
    let disc ← if ← punct? "=" then pure (← exprAny n true).calls else pure []
    if ← atEnd then return attrs ++ fields ++ disc
    punct ","
    return attrs ++ fields ++ disc ++ (← variants n)

/-- A trait and its items, or (when `aliasAllowed`) a trait alias `trait A = B;`. -/
def traitItem : Nat → List CallTree → Bool → Parse (List CallTree)
  | 0, _, _ => tooDeep
  | n + 1, attrs, aliasAllowed => do
    discard (keyword? "unsafe")
    discard (keyword? "auto")
    keyword "trait"
    discard ident
    let (gen, _) ← generics n
    let ts ← get
    if aliasAllowed && !(isGroup .brace ts[0]? || punctAt ts 0 ":" || isKw "where" ts[0]?) then
      if punctAt ts 0 "=" then
        punct "="
        let bounds ← aliasBounds n false
        let (wh, _) ← whereClause n
        punct ";"
        return attrs ++ gen ++ wh ++ bounds
      else expected ["curly braces", "`:`", "`where`", "`=`"]
    let supers ← if ← punct? ":" then supertraits n else pure []
    let (wh, _) ← whereClause n
    let (inner, members) ← inGroup .brace (do
      let inner ← innerAttrs n
      return (inner, ← traitMembers n))
    return attrs ++ inner ++ gen ++ wh ++ supers ++ members

/-- The supertraits of a trait, up to `where` or its body. -/
def supertraits : Nat → Parse (List CallTree)
  | 0 => tooDeep
  | n + 1 => do
    let ts ← get
    if isKw "where" ts[0]? || isGroup .brace ts[0]? then return []
    let (ev, _) ← typeBound n false true
    let ts ← get
    if isKw "where" ts[0]? || isGroup .brace ts[0]? then return ev
    punct "+"
    return ev ++ (← supertraits n)

/-- The items of a trait body. -/
def traitMembers : Nat → Parse (List CallTree)
  | 0 => tooDeep
  | n + 1 => do
    if ← atEnd then return []
    let ev ← traitMember n
    return ev ++ (← traitMembers n)

/-- One trait item. A function counts only with a default body, and an item with a
visibility or `default` is kept as text. -/
def traitMember : Nat → Parse (List CallTree)
  | 0 => tooDeep
  | n + 1 => do
    let attrs ← outerAttrs n
    let inherited ← visibility
    let defaulted ← keyword? "default"
    let plain := inherited && !defaulted
    let ts ← get
    let kw (k : Nat) (w : String) := isKw w ts[k]?
    if kw 0 "fn" || signatureAhead ts
        || (kw 0 "const" && (kw 1 "async" || kw 1 "unsafe" || kw 1 "extern" || kw 1 "fn")) then
      let (name, sig) ← signature n
      let ts ← get
      if isGroup .brace ts[0]? then
        let (inner, body) ← fnBody n
        return if plain then functionTree name attrs inner sig body else []
      else if punctAt ts 0 ";" then
        punct ";"
        return []
      else expected ["curly braces", "`;`"]
    else if kw 0 "const" then
      skip 1
      let ts ← get
      if isIdent ts[0]? || isKw "_" ts[0]? then discard identAny
      else expected ["identifier", "`_`", "`async`", "`unsafe`", "`extern`", "`fn`"]
      let (gen, hasGenerics) ← generics n
      punct ":"
      let (ty, _) ← type n true
      let value ← if ← punct? "=" then pure (← exprAny n true).calls else pure []
      let (wh, hasWhere) ← whereClause n
      punct ";"
      return if plain && !hasGenerics && !hasWhere then attrs ++ gen ++ wh ++ ty ++ value else []
    else if kw 0 "type" then
      let (gen, wh, bounds, ty, _) ← flexibleType n false true
      return if plain then attrs ++ gen ++ wh ++ bounds ++ ty.getD [] else []
    else if plain && macroAhead ts then
      memberMacro
      return attrs
    else
      expected (["`fn`", "`const`", "`type`"] ++
        (if plain then ["identifier", "`self`", "`super`", "`crate`", "`::`"] else []))

/-- An `impl` block. A visible or `const` impl, or a trait impl of something that is not a
plain path, is kept as text. -/
def implBlock : Nat → List CallTree → Bool → Parse (List CallTree)
  | 0, _, _ => tooDeep
  | n + 1, attrs, inherited => do
    discard (keyword? "default")
    discard (keyword? "unsafe")
    keyword "impl"
    let (gen, _) ← if genericsAhead (← get) then generics n else pure ([], false)
    let ts ← get
    let constImpl := isKw "const" ts[0]? || (punctAt ts 0 "?" && isKw "const" ts[1]?)
    if constImpl then
      discard (punct? "?")
      keyword "const"
    let ts ← get
    let negative := punctAt ts 0 "!" && !isGroup .brace ts[1]?
    if negative then punct "!"
    let (first, shape) ← type n true
    let isPath := match shape with
      | .path _ => true
      | _ => false
    let (selfTy, textTrait) ← if ← keyword? "for" then do
        let (ev, _) ← type n true
        pure (ev, !isPath)
      else if negative then throw "inherent impls cannot be negative"
      else pure ([], false)
    let (wh, _) ← whereClause n
    let (inner, members) ← inGroup .brace (do
      let inner ← innerAttrs n
      return (inner, ← implMembers n))
    if !inherited || constImpl || textTrait then return []
    return attrs ++ inner ++ gen ++ wh ++ first ++ selfTy ++ members

/-- The items of an `impl` block. -/
def implMembers : Nat → Parse (List CallTree)
  | 0 => tooDeep
  | n + 1 => do
    if ← atEnd then return []
    let ev ← implMember n
    return ev ++ (← implMembers n)

/-- One item of an `impl` block. A function without a body, a `const` with generics, a
`where` clause or no value, and a type with bounds or no definition are kept as text. -/
def implMember : Nat → Parse (List CallTree)
  | 0 => tooDeep
  | n + 1 => do
    let attrs ← outerAttrs n
    let inherited ← visibility
    let ahead ← get
    let defaulted := isKw "default" ahead[0]? && !punctAt ahead 1 "!"
    if defaulted then skip 1
    let ahead ← get
    let kw (k : Nat) (w : String) := isKw w ahead[k]?
    if kw 0 "fn" || signatureAhead ahead then
      let (name, sig) ← signature n
      if ← punct? ";" then return []
      let (inner, body) ← fnBody n
      return functionTree name attrs inner sig body
    else if kw 0 "const" then
      skip 1
      constItem n attrs
    else if kw 0 "type" then
      let (gen, wh, _, ty, bounded) ← flexibleType n false true
      match ty with
      | some ev => return if bounded then [] else attrs ++ gen ++ wh ++ ev
      | none => return []
    else if inherited && !defaulted && macroAhead ahead then
      memberMacro
      return attrs
    else
      expected ((if defaulted then [] else ["`default`"]) ++ ["`fn`", "`const`", "`type`"] ++
        (if inherited && !defaulted then ["identifier", "`self`", "`super`", "`crate`", "`::`"] else []))

/-- An `extern` block: inner attributes and items. -/
def foreignBlock : Nat → Parse (List CallTree)
  | 0 => tooDeep
  | n + 1 => do
    discard (keyword? "unsafe")
    abi?
    let (inner, members) ← inGroup .brace (do
      let inner ← innerAttrs n
      return (inner, ← foreignItems n))
    return inner ++ members

/-- The items of an `extern` block: functions and statics are declarations, read for their
signatures and types; a function with a body, or a `safe` or `unsafe` one, is kept as text. -/
def foreignItems : Nat → Parse (List CallTree)
  | 0 => tooDeep
  | n + 1 => do
    if ← atEnd then return []
    let attrs ← outerAttrs n
    let inherited ← visibility
    let ts ← get
    let safeFn := isKw "safe" ts[0]? && signatureAhead (ts.drop 1)
    let ev ← if isKw "fn" ts[0]? || signatureAhead ts || safeFn then do
        if safeFn then skip 1
        let (_, sig) ← signature n
        if ← groupAt 0 .brace then
          discard (innerBlock n)
          pure []
        else
          punct ";"
          pure (if safeFn then [] else attrs ++ sig)
      else if isKw "static" ts[0]? || ((isKw "unsafe" ts[0]? || isKw "safe" ts[0]?) && isKw "static" ts[1]?) then do
        let qualified := !isKw "static" ts[0]?
        if qualified then skip 1
        skip 1
        discard (keyword? "mut")
        discard ident
        punct ":"
        let (ty, _) ← type n true
        let valued ← punct? "="
        if valued then discard (exprAny n true)
        punct ";"
        pure (if qualified || valued then [] else attrs ++ ty)
      else if isKw "type" ts[0]? then do
        let (gen, wh, _, ty, bounded) ← flexibleType n true true
        pure (if bounded || ty.isSome then [] else attrs ++ gen ++ wh)
      else if inherited && macroAhead ts then do
        memberMacro
        pure attrs
      else
        expected (["`fn`", "`static`", "`type`"] ++
          (if inherited then ["identifier", "`self`", "`super`", "`crate`", "`::`"] else []))
    return ev ++ (← foreignItems n)

end

/-- The call trees of a whole file, read from its token trees: inner attributes, then items. A
group left with unread trees fails the file once everything else has been read. -/
def callForest (trees : List TokenTree) : Except String (List CallTree) :=
  let fuel := 64 * (treeCount trees + 8)
  let body : Parse (List CallTree) := do
    let inner ← innerAttrs fuel
    return inner ++ (← items fuel)
  match (body.run' trees).run none with
  | .error e => .error e
  | .ok (calls, none) => .ok calls
  | .ok (_, some leftover) => .error leftover

end Grammar

end AdvisoryTrace.Source
