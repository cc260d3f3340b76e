import AnswerKey.Snippet.Tree
import AnswerKey.Decimal.Shortest
import AnswerKey.Text.Quoted

namespace AnswerKey
namespace Snippet

/-!
The text of a tree in constructor notation: the kind of each construct with its fields by name, and
nothing about where it stood.  Every field that is set is shown, so texts are what comparisons use.

`Form.slots` says for each form how its positions are called, in order; it also fixes how many trees
each position takes.
-/

open Text

/-- What can go wrong when a tree is written down. -/
inductive WritingFault where
  /-- An integer has more digits than a decimal text may have. -/
  | integerTooLong
  /-- The expression of a replacement field would need a backslash. -/
  | backslashInField
  deriving DecidableEq, Repr

/-- The text of a fault. -/
def WritingFault.message : WritingFault → String
  | integerTooLong =>
      "Exceeds the limit (" ++ Decimal.ofInt Decimal.integerDigitLimit ++
        " digits) for integer string conversion; use sys.set_int_max_str_digits() to increase " ++
        "the limit"
  | backslashInField => "Unable to avoid backslash in f-string expression part"

namespace Constant

/-- The text of the value of a literal. -/
def display : Constant → String
  | none => "None"
  | bool true => "True"
  | bool false => "False"
  | ellipsis => "Ellipsis"
  | int value => Decimal.ofInt value
  | float value => Decimal.Layout.plain.write value
  | imaginary value => Decimal.Layout.imaginary.write value ++ "j"
  | str codes _ => .ofList (Quoted.encodeCodes codes)
  | bytes values => .ofList (Quoted.encodeBytes values)

/-- Whether the value is an integer of more digits than a decimal text may have. -/
def isTooLong : Constant → Bool
  | int value => Nat.pow 10 Decimal.integerDigitLimit ≤ value
  | _ => false

end Constant

def Context.kind : Context → String
  | load => "Load"
  | store => "Store"
  | del => "Del"

def BoolOp.kind : BoolOp → String
  | and => "And"
  | or => "Or"

def BinaryOp.kind : BinaryOp → String
  | add => "Add"
  | sub => "Sub"
  | mult => "Mult"
  | matMult => "MatMult"
  | div => "Div"
  | mod => "Mod"
  | pow => "Pow"
  | leftShift => "LShift"
  | rightShift => "RShift"
  | bitOr => "BitOr"
  | bitXor => "BitXor"
  | bitAnd => "BitAnd"
  | floorDiv => "FloorDiv"

def UnaryOp.kind : UnaryOp → String
  | invert => "Invert"
  | not => "Not"
  | plus => "UAdd"
  | minus => "USub"

def CompareOp.kind : CompareOp → String
  | eq => "Eq"
  | notEq => "NotEq"
  | lt => "Lt"
  | ltE => "LtE"
  | gt => "Gt"
  | gtE => "GtE"
  | is => "Is"
  | isNot => "IsNot"
  | isIn => "In"
  | notIn => "NotIn"

/-- The code of a conversion: the letter it is written with, or minus one when there is none. -/
def conversionCode : Option Conversion → String
  | none => "-1"
  | some .str => "115"
  | some .repr => "114"
  | some .ascii => "97"

namespace Dump

/-! ### Notation -/

/-- A construct with its fields. -/
def construct (kind : String) (fields : List String) : String :=
  kind ++ "(" ++ ", ".intercalate fields ++ ")"

/-- A construct without fields. -/
def bare (kind : String) : String :=
  construct kind []

def field (id value : String) : String :=
  id ++ "=" ++ value

def list (items : List String) : String :=
  "[" ++ ", ".intercalate items ++ "]"

/-- A field that is left out when it has no value. -/
def optionalField (id : String) : List String → List String
  | [] => []
  | value :: _ => [field id value]

def listField (id : String) (items : List String) : String :=
  field id (list items)

/-- A field that holds a name. -/
def nameField (id value : String) : String :=
  field id (Quoted.encode value)

def optionalName (id : String) (value : Option String) : List String :=
  value.toList.map (nameField id)

/-- A field for each flag that is set takes the next text; the others are shown as absent. -/
def fill : List Bool → List String → List String
  | [], _ => []
  | true :: flags, item :: items => item :: fill flags items
  | _ :: flags, items => "None" :: fill flags items

/-! ### Fields of the forms -/

/-- What a construct shows at one place. -/
inductive Slot where
  /-- A position of exactly one tree. -/
  | one (id : String)
  /-- A position of at most one tree. -/
  | optional (id : String)
  /-- A position of any number of trees. -/
  | many (id : String)
  /-- A position of trees some of which are absent. -/
  | sparse (id : String) (flags : List Bool)
  /-- A field that holds no tree. -/
  | fixed (shown : String)

/-- Fields that hold a name or nothing. -/
def fixedName (id : String) (value : Option String) : List Slot :=
  (optionalName id value).map .fixed

def aliasText (names : Alias) : String :=
  construct "alias" (nameField "name" names.name :: optionalName "asname" names.boundAs)

/-- A field that holds an operator or a context. -/
def bareField (id kind : String) : Slot :=
  .fixed (field id (bare kind))

def namesField (id : String) (names : List String) : Slot :=
  .fixed (listField id (names.map Quoted.encode))

end Dump

namespace Form

open Dump

/-- The kind of a construct and what it shows. -/
def slots : Form → String × List Slot
  | boolean op => ("BoolOp", [bareField "op" op.kind, .many "values"])
  | named => ("NamedExpr", [.one "target", .one "value"])
  | binary op => ("BinOp", [.one "left", bareField "op" op.kind, .one "right"])
  | unary op => ("UnaryOp", [bareField "op" op.kind, .one "operand"])
  | conditional => ("IfExp", [.one "test", .one "body", .one "orelse"])
  | dict keyed => ("Dict", [.sparse "keys" keyed, .many "values"])
  | set => ("Set", [.many "elts"])
  | await => ("Await", [.one "value"])
  | yield => ("Yield", [.optional "value"])
  | yieldFrom => ("YieldFrom", [.one "value"])
  | compare ops =>
      ("Compare",
        [.one "left", .fixed (listField "ops" (ops.map fun op => bare op.kind)),
          .many "comparators"])
  | call => ("Call", [.one "func", .many "args", .many "keywords"])
  | keyword id => ("keyword", fixedName "arg" id ++ [.one "value"])
  | interpolation conversion =>
      ("FormattedValue",
        [.one "value", .fixed (field "conversion" (conversionCode conversion)),
          .optional "format_spec"])
  | joined => ("JoinedStr", [.many "values"])
  | .attribute id context =>
      ("Attribute", [.one "value", .fixed (nameField "attr" id), bareField "ctx" context.kind])
  | subscript context =>
      ("Subscript", [.one "value", .one "slice", bareField "ctx" context.kind])
  | starred context => ("Starred", [.one "value", bareField "ctx" context.kind])
  | list context => ("List", [.many "elts", bareField "ctx" context.kind])
  | tuple context => ("Tuple", [.many "elts", bareField "ctx" context.kind])
  | expr => ("Expr", [.one "value"])
  | returnStatement => ("Return", [.optional "value"])
  | deleteStatement => ("Delete", [.many "targets"])
  | assign => ("Assign", [.many "targets", .one "value"])
  | augmented op => ("AugAssign", [.one "target", bareField "op" op.kind, .one "value"])
  | annotated simple =>
      ("AnnAssign",
        [.one "target", .one "annotation", .optional "value",
          .fixed (field "simple" (if simple then "1" else "0"))])
  | whileStatement => ("While", [.one "test", .many "body", .many "orelse"])
  | ifStatement => ("If", [.one "test", .many "body", .many "orelse"])
  | withStatement isAsync =>
      (if isAsync then "AsyncWith" else "With", [.many "items", .many "body"])
  | withItem => ("withitem", [.one "context_expr", .optional "optional_vars"])
  | matchStatement => ("Match", [.one "subject", .many "cases"])
  | caseBlock => ("match_case", [.one "pattern", .optional "guard", .many "body"])
  | raiseStatement => ("Raise", [.optional "exc", .optional "cause"])
  | tryStatement isGroup =>
      (if isGroup then "TryStar" else "Try",
        [.many "body", .many "handlers", .many "orelse", .many "finalbody"])
  | handler id =>
      ("ExceptHandler", [.optional "type"] ++ fixedName "name" id ++ [.many "body"])
  | assertStatement => ("Assert", [.one "test", .optional "msg"])
  | importStatement names =>
      ("Import", [.fixed (listField "names" (names.map aliasText))])
  | importFrom source names level =>
      ("ImportFrom",
        fixedName "module" source ++
          [.fixed (listField "names" (names.map aliasText)),
            .fixed (field "level" (Decimal.ofInt level))])
  | globalStatement names => ("Global", [namesField "names" names])
  | nonlocalStatement names => ("Nonlocal", [namesField "names" names])
  | passStatement => ("Pass", [])
  | breakStatement => ("Break", [])
  | continueStatement => ("Continue", [])
  | matchValue => ("MatchValue", [.one "value"])
  | matchSingleton value => ("MatchSingleton", [.fixed (field "value" value.display)])
  | matchSequence => ("MatchSequence", [.many "patterns"])
  | matchMapping rest =>
      ("MatchMapping", [.many "keys", .many "patterns"] ++ fixedName "rest" rest)
  | matchClass attributes =>
      ("MatchClass",
        [.one "cls", .many "patterns", namesField "kwd_attrs" attributes, .many "kwd_patterns"])
  | matchStar id => ("MatchStar", fixedName "name" id)
  | matchAs id => ("MatchAs", .optional "pattern" :: fixedName "name" id)
  | matchOr => ("MatchOr", [.many "patterns"])
  | interactive => ("Interactive", [.many "body"])
  | functionType => ("FunctionType", [.many "argtypes", .one "returns"])

end Form

namespace Dump

/-- The fields of a construct from the texts of its positions. -/
def fieldsOf : List Slot → List (List String) → List String
  | [], _ => []
  | .fixed shown :: slots, parts => shown :: fieldsOf slots parts
  | .one id :: slots, part :: parts => field id (String.join part) :: fieldsOf slots parts
  | .optional id :: slots, part :: parts => optionalField id part ++ fieldsOf slots parts
  | .many id :: slots, part :: parts => listField id part :: fieldsOf slots parts
  | .sparse id flags :: slots, part :: parts =>
      listField id (fill flags part) :: fieldsOf slots parts
  | _ :: slots, [] => fieldsOf slots []

/-- The parameters of a function with their default values. -/
def argumentsText (layout : ParameterLayout)
    (parameters defaults keywordDefaults : List String) : String :=
  let positional := parameters.drop layout.positionalOnly
  let variadic := positional.drop layout.positional
  let only := variadic.drop (if layout.variadic then 1 else 0)
  let rest := only.drop layout.keywordOnly.length
  construct "arguments"
    ([listField "posonlyargs" (parameters.take layout.positionalOnly),
        listField "args" (positional.take layout.positional)] ++
      optionalField "vararg" (if layout.variadic then variadic else []) ++
      [listField "kwonlyargs" (only.take layout.keywordOnly.length),
        listField "kw_defaults" (fill layout.keywordOnly keywordDefaults)] ++
      optionalField "kwarg" (if layout.keywordRest then rest else []) ++
      [listField "defaults" defaults])

/-- The fields in which a comprehension shows its results. -/
def resultsText : ComprehensionKind → List String → List String
  | .dict, [key, value] => [field "key" key, field "value" value]
  | _, results => results.map (field "elt")

def comprehensionKind : ComprehensionKind → String
  | .list => "ListComp"
  | .set => "SetComp"
  | .dict => "DictComp"
  | .generator => "GeneratorExp"

end Dump

namespace Tree

open Dump

mutual

/-- The text of a tree. -/
def dump : Tree → String
  | name id context =>
      construct "Name" [nameField "id" id, field "ctx" (bare context.kind)]
  | constant value =>
      let mark :=
        match value with
        | .str _ true => [nameField "kind" "u"]
        | _ => []
      construct "Constant" (field "value" value.display :: mark)
  | slice lower upper step =>
      construct "Slice"
        (optionalField "lower" (dumpAll lower) ++ optionalField "upper" (dumpAll upper) ++
          optionalField "step" (dumpAll step))
  | parameter id hint =>
      construct "arg" (nameField "arg" id :: optionalField "annotation" (dumpAll hint))
  | lambda layout parameters defaults keywordDefaults body =>
      construct "Lambda"
        [field "args" (argumentsText layout (dumpAll parameters) (dumpAll defaults)
            (dumpAll keywordDefaults)),
          field "body" (dump body)]
  | function isAsync id layout decorators parameters defaults keywordDefaults returns body =>
      construct (if isAsync then "AsyncFunctionDef" else "FunctionDef")
        ([nameField "name" id,
            field "args" (argumentsText layout (dumpAll parameters) (dumpAll defaults)
              (dumpAll keywordDefaults)),
            listField "body" (dumpAll body), listField "decorator_list" (dumpAll decorators)] ++
          optionalField "returns" (dumpAll returns))
  | classDef id decorators bases keywords body =>
      construct "ClassDef"
        [nameField "name" id, listField "bases" (dumpAll bases),
          listField "keywords" (dumpAll keywords), listField "body" (dumpAll body),
          listField "decorator_list" (dumpAll decorators)]
  | comprehension kind results clauses =>
      construct (comprehensionKind kind)
        (resultsText kind (dumpAll results) ++ [listField "generators" (dumpAll clauses)])
  | clause isAsync target iterable conditions =>
      construct "comprehension"
        [field "target" (dump target), field "iter" (dump iterable),
          listField "ifs" (dumpAll conditions), field "is_async" (if isAsync then "1" else "0")]
  | loop isAsync target iterable body alternative =>
      construct (if isAsync then "AsyncFor" else "For")
        [field "target" (dump target), field "iter" (dump iterable),
          listField "body" (dumpAll body), listField "orelse" (dumpAll alternative)]
  | module body =>
      construct "Module" [listField "body" (dumpAll body), listField "type_ignores" []]
  | expression body => construct "Expression" [field "body" (dump body)]
  | node form parts => construct form.slots.1 (fieldsOf form.slots.2 (dumpParts parts))

/-- The texts of some trees. -/
def dumpAll : List Tree → List String
  | [] => []
  | tree :: rest => dump tree :: dumpAll rest

/-- The texts of the trees of some positions. -/
def dumpParts : List (List Tree) → List (List String)
  | [] => []
  | trees :: rest => dumpAll trees :: dumpParts rest

end

mutual

/-- The literals of a tree, in order. -/
def constants : Tree → List Constant
  | name _ _ => []
  | constant value => [value]
  | slice lower upper step => constantsOfAll lower ++ constantsOfAll upper ++ constantsOfAll step
  | parameter _ hint => constantsOfAll hint
  | lambda _ parameters defaults keywordDefaults body =>
      constantsOfAll parameters ++ constantsOfAll defaults ++ constantsOfAll keywordDefaults ++
        constants body
  | function _ _ _ decorators parameters defaults keywordDefaults returns body =>
      constantsOfAll decorators ++ constantsOfAll parameters ++ constantsOfAll defaults ++
        constantsOfAll keywordDefaults ++ constantsOfAll returns ++ constantsOfAll body
  | classDef _ decorators bases keywords body =>
      constantsOfAll decorators ++ constantsOfAll bases ++ constantsOfAll keywords ++
        constantsOfAll body
  | comprehension _ results clauses => constantsOfAll results ++ constantsOfAll clauses
  | clause _ target iterable conditions =>
      constants target ++ constants iterable ++ constantsOfAll conditions
  | loop _ target iterable body alternative =>
      constants target ++ constants iterable ++ constantsOfAll body ++ constantsOfAll alternative
  | module body => constantsOfAll body
  | expression body => constants body
  | node _ parts => constantsOfParts parts

/-- The literals of some trees. -/
def constantsOfAll : List Tree → List Constant
  | [] => []
  | tree :: rest => constants tree ++ constantsOfAll rest

/-- The literals of the trees of some positions. -/
def constantsOfParts : List (List Tree) → List Constant
  | [] => []
  | trees :: rest => constantsOfAll trees ++ constantsOfParts rest

end

/-- Whether a tree holds an integer that is too long to be written in decimal. -/
def hasLongInteger (tree : Tree) : Bool :=
  tree.constants.any Constant.isTooLong

/-- The text of a tree, unless it holds an integer that is too long to be written. -/
def dump? (tree : Tree) : Except WritingFault String :=
  if tree.hasLongInteger then .error .integerTooLong else .ok tree.dump

end Tree
end Snippet
end AnswerKey
