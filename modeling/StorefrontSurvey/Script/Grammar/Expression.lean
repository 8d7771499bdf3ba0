import StorefrontSurvey.Script.Grammar.Statement
import StorefrontSurvey.Script.Grammar.Markup
/-!
Rules for expressions, patterns, classes, functions and literals.
-/
namespace StorefrontSurvey.Script.Grammar

open Rule

private def plainExpressions : List Rule := [
  symbol "assignment_expression",
  symbol "augmented_assignment_expression",
  symbol "await_expression",
  symbol "unary_expression",
  symbol "binary_expression",
  symbol "ternary_expression",
  symbol "update_expression",
  symbol "new_expression",
  symbol "yield_expression"]

private def typedExpressions : List Rule := [
  symbol "as_expression",
  symbol "satisfies_expression",
  symbol "instantiation_expression",
  symbol "internal_module"]

/-- Type assertions and markup both start with an angle bracket, so a dialect has one of them. -/
def expressionChoices : Dialect → List Rule
  | .typescript => typedExpressions ++ [symbol "type_assertion", symbol "primary_expression"] ++
      plainExpressions
  | .tsx => typedExpressions ++ [symbol "primary_expression", symbol "_jsx_element"] ++
      plainExpressions

private def nameOrReserved : Rule := oneOf [symbol "identifier", symbol "_reserved_identifier"]

private def reservedAsName : Rule := asNode "identifier" (symbol "_reserved_identifier")

def operandRules (d : Dialect) : List (String × Rule) := [
  ("_expressions", oneOf [symbol "expression", symbol "sequence_expression"]),
  ("expression", oneOf (expressionChoices d)),
  ("primary_expression", oneOf [
    symbol "subscript_expression",
    symbol "member_expression",
    symbol "parenthesized_expression",
    symbol "_identifier",
    reservedAsName,
    symbol "this",
    symbol "super",
    symbol "number",
    symbol "string",
    symbol "template_string",
    symbol "regex",
    symbol "true",
    symbol "false",
    symbol "null",
    symbol "object",
    symbol "array",
    symbol "function_expression",
    symbol "arrow_function",
    symbol "generator_function",
    symbol "class",
    symbol "meta_property",
    symbol "call_expression",
    symbol "non_null_expression"]),
  ("yield_expression", rightward (all [
    lit "yield", oneOf [all [lit "*", symbol "expression"], opt (symbol "expression")]])),
  ("object", rank "object" (all [
    lit "\x7b",
    commas (opt (oneOf [
      symbol "pair",
      symbol "spread_element",
      symbol "method_definition",
      asNode "shorthand_property_identifier" nameOrReserved])),
    lit "\x7d"])),
  ("object_pattern", rank "object" (all [
    lit "\x7b",
    commas (opt (oneOf [
      symbol "pair_pattern",
      symbol "rest_pattern",
      symbol "object_assignment_pattern",
      asNode "shorthand_property_identifier_pattern" nameOrReserved])),
    lit "\x7d"])),
  ("assignment_pattern", all [
    field "left" (symbol "pattern"), lit "=", field "right" (symbol "expression")]),
  ("object_assignment_pattern", all [
    field "left" (oneOf [
      asNode "shorthand_property_identifier_pattern"
        (oneOf [symbol "_reserved_identifier", symbol "identifier"]),
      symbol "_destructuring_pattern"]),
    lit "=",
    field "right" (symbol "expression")]),
  ("array", all [
    lit "[", commas (opt (oneOf [symbol "expression", symbol "spread_element"])), lit "]"]),
  ("array_pattern", all [
    lit "[", commas (opt (oneOf [symbol "pattern", symbol "assignment_pattern"])), lit "]"])]

private def asyncFunction : List Rule := [opt (lit "async"), lit "function"]

private def functionTail : List Rule := [
  symbol "_call_signature", field "body" (symbol "statement_block")]

private def classTail : List Rule := [
  field "type_parameters" (opt (symbol "type_parameters")),
  opt (symbol "class_heritage"),
  field "body" (symbol "class_body")]

def definitionRules : List (String × Rule) := [
  ("class", rank "literal" (all ([
    many (field "decorator" (symbol "decorator")), lit "class",
    field "name" (opt (symbol "_type_identifier"))] ++ classTail))),
  ("class_declaration", rankLeft "declare" (all ([
    many (field "decorator" (symbol "decorator")), lit "class",
    field "name" (symbol "_type_identifier")] ++ classTail ++
    [opt (symbol "_automatic_semicolon")]))),
  ("class_heritage", oneOf [
    all [symbol "extends_clause", opt (symbol "implements_clause")],
    symbol "implements_clause"]),
  ("function_expression", rank "literal" (all (asyncFunction ++
    [field "name" (opt (symbol "identifier"))] ++ functionTail))),
  ("function_declaration", rankRight "declare" (all (asyncFunction ++
    [field "name" (symbol "identifier")] ++ functionTail ++
    [opt (symbol "_automatic_semicolon")]))),
  ("generator_function", rank "literal" (all (asyncFunction ++
    [lit "*", field "name" (opt (symbol "identifier"))] ++ functionTail))),
  ("generator_function_declaration", rankRight "declare" (all (asyncFunction ++
    [lit "*", field "name" (symbol "identifier")] ++ functionTail ++
    [opt (symbol "_automatic_semicolon")]))),
  ("arrow_function", all [
    opt (lit "async"),
    oneOf [
      field "parameter" (oneOf [reservedAsName, symbol "identifier"]),
      symbol "_call_signature"],
    lit "=>",
    field "body" (oneOf [symbol "expression", symbol "statement_block"])]),
  ("_call_signature", all [
    field "type_parameters" (opt (symbol "type_parameters")),
    field "parameters" (symbol "formal_parameters"),
    field "return_type" (opt (oneOf [
      symbol "type_annotation", symbol "asserts_annotation",
      symbol "type_predicate_annotation"]))]),
  ("_formal_parameter", oneOf [symbol "required_parameter", symbol "optional_parameter"])]

/-- Operators of two operands with the rank of each; the last entry says which way it associates. -/
private def binaryOperators : List (String × String × Bool) := [
  ("&&", "logical_and", false),
  ("||", "logical_or", false),
  (">>", "binary_shift", false),
  (">>>", "binary_shift", false),
  ("<<", "binary_shift", false),
  ("&", "bitwise_and", false),
  ("^", "bitwise_xor", false),
  ("|", "bitwise_or", false),
  ("+", "binary_plus", false),
  ("-", "binary_plus", false),
  ("*", "binary_times", false),
  ("/", "binary_times", false),
  ("%", "binary_times", false),
  ("**", "binary_exp", true),
  ("<", "binary_relation", false),
  ("<=", "binary_relation", false),
  ("==", "binary_equality", false),
  ("===", "binary_equality", false),
  ("!=", "binary_equality", false),
  ("!==", "binary_equality", false),
  (">=", "binary_relation", false),
  (">", "binary_relation", false),
  ("??", "ternary", false),
  ("instanceof", "binary_relation", false),
  ("in", "binary_relation", false)]

private def binaryRule (operator : String × String × Bool) : Rule :=
  let left := if operator.1 = "in" then
    oneOf [symbol "expression", symbol "private_property_identifier"] else symbol "expression"
  let body := all [
    field "left" left, field "operator" (lit operator.1), field "right" (symbol "expression")]
  if operator.2.2 then rankRight operator.2.1 body else rankLeft operator.2.1 body

private def steps : Rule := anyLit ["++", "--"]

def operationRules : List (String × Rule) := [
  ("optional_chain", lit "?."),
  ("call_expression", oneOf [
    rank "call" (all [
      field "function" (oneOf [symbol "expression", symbol "import"]),
      field "type_arguments" (opt (symbol "type_arguments")),
      field "arguments" (symbol "arguments")]),
    rank "template_call" (all [
      field "function" (oneOf [symbol "primary_expression", symbol "new_expression"]),
      field "arguments" (symbol "template_string")]),
    rank "member" (all [
      field "function" (symbol "primary_expression"),
      lit "?.",
      field "type_arguments" (opt (symbol "type_arguments")),
      field "arguments" (symbol "arguments")])]),
  ("new_expression", rankRight "new" (all [
    lit "new",
    field "constructor" (symbol "primary_expression"),
    field "type_arguments" (opt (symbol "type_arguments")),
    field "arguments" (opt (symbol "arguments"))])),
  ("await_expression", rank "unary_void" (all [lit "await", symbol "expression"])),
  ("member_expression", rank "member" (all [
    field "object" (oneOf [symbol "expression", symbol "primary_expression", symbol "import"]),
    oneOf [lit ".", field "optional_chain" (symbol "optional_chain")],
    field "property" (oneOf [
      symbol "private_property_identifier",
      asNode "property_identifier" (symbol "identifier")])])),
  ("subscript_expression", rankRight "member" (all [
    field "object" (oneOf [symbol "expression", symbol "primary_expression"]),
    opt (field "optional_chain" (symbol "optional_chain")),
    lit "[",
    field "index" (symbol "_expressions"),
    lit "]"])),
  ("_lhs_expression", oneOf [
    symbol "member_expression",
    symbol "subscript_expression",
    symbol "_identifier",
    reservedAsName,
    symbol "_destructuring_pattern",
    symbol "non_null_expression"]),
  ("assignment_expression", rankRight "assign" (all [
    opt (lit "using"),
    field "left" (oneOf [symbol "parenthesized_expression", symbol "_lhs_expression"]),
    lit "=",
    field "right" (symbol "expression")])),
  ("_augmented_assignment_lhs", oneOf [
    symbol "member_expression",
    symbol "subscript_expression",
    reservedAsName,
    symbol "identifier",
    symbol "parenthesized_expression",
    symbol "non_null_expression"]),
  ("augmented_assignment_expression", rankRight "assign" (all [
    field "left" (symbol "_augmented_assignment_lhs"),
    field "operator" (anyLit ["+=", "-=", "*=", "/=", "%=", "^=", "&=", "|=", ">>=", ">>>=",
      "<<=", "**=", "&&=", "||=", "??="]),
    field "right" (symbol "expression")])),
  ("_initializer", all [lit "=", field "value" (symbol "expression")]),
  ("_destructuring_pattern", oneOf [symbol "object_pattern", symbol "array_pattern"]),
  ("spread_element", all [lit "...", symbol "expression"]),
  ("ternary_expression", rankRight "ternary" (all [
    field "condition" (symbol "expression"),
    asToken "?" (symbol "_ternary_qmark"),
    field "consequence" (symbol "expression"),
    lit ":",
    field "alternative" (symbol "expression")])),
  ("binary_expression", oneOf (binaryOperators.map binaryRule)),
  ("unary_expression", rankLeft "unary_void" (all [
    field "operator" (anyLit ["!", "~", "-", "+", "typeof", "void", "delete"]),
    field "argument" (symbol "expression")])),
  ("update_expression", leftward (oneOf [
    all [field "argument" (symbol "expression"), field "operator" steps],
    all [field "operator" steps, field "argument" (symbol "expression")]])),
  ("sequence_expression", rightward (commas1 (symbol "expression")))]

private def quoted (quote run : String) : Rule :=
  all [lit quote,
    many (oneOf [asNode "string_fragment" (symbol run), symbol "escape_sequence"]),
    lit quote]

def literalRules : List (String × Rule) := [
  ("string", oneOf [
    quoted "\"" "unescaped_double_string_fragment",
    quoted "'" "unescaped_single_string_fragment"]),
  ("unescaped_double_string_fragment", .lexeme (.ofClass .doubleQuotedRun)),
  ("unescaped_single_string_fragment", .lexeme (.ofClass .singleQuotedRun)),
  ("escape_sequence", .lexeme (.ofClass .escape)),
  ("comment", .lexeme (.ofClass .comment)),
  ("template_string", all [
    lit "\x60",
    many (oneOf [
      asNode "string_fragment" (symbol "_template_chars"),
      symbol "escape_sequence",
      symbol "template_substitution"]),
    lit "\x60"]),
  ("template_substitution", all [lit "$\x7b", symbol "_expressions", lit "\x7d"]),
  ("regex", all [
    lit "/",
    field "pattern" (symbol "regex_pattern"),
    .lexeme (.ofClass .patternEnd),
    opt (field "flags" (symbol "regex_flags"))]),
  ("regex_pattern", .lexeme (.ofClass .patternBody)),
  ("regex_flags", .lexeme (.ofClass .patternFlags)),
  ("number", .lexeme (.ofClass .number)),
  ("_identifier", oneOf [symbol "undefined", symbol "identifier"]),
  ("identifier", .lexeme (.ofClass .identifier)),
  ("private_property_identifier", .lexeme (.ofClass .privateName)),
  ("meta_property", oneOf [
    all [lit "new", lit ".", lit "target"], all [lit "import", lit ".", lit "meta"]]),
  ("this", lit "this"),
  ("super", lit "super"),
  ("true", lit "true"),
  ("false", lit "false"),
  ("null", lit "null"),
  ("undefined", lit "undefined")]

def accessors : Rule := anyLit ["get", "set", "*"]

def memberRules : List (String × Rule) := [
  ("arguments", all [
    lit "(", commas (opt (oneOf [symbol "expression", symbol "spread_element"])), lit ")"]),
  ("decorator", all [
    lit "@",
    oneOf [
      symbol "identifier",
      asNode "member_expression" (symbol "decorator_member_expression"),
      asNode "call_expression" (symbol "decorator_call_expression"),
      asNode "parenthesized_expression" (symbol "decorator_parenthesized_expression")]]),
  ("decorator_member_expression", rank "member" (all [
    field "object" (oneOf [
      symbol "identifier", asNode "member_expression" (symbol "decorator_member_expression")]),
    lit ".",
    field "property" (asNode "property_identifier" (symbol "identifier"))])),
  ("decorator_call_expression", rank "call" (all [
    field "function" (oneOf [
      symbol "identifier", asNode "member_expression" (symbol "decorator_member_expression")]),
    opt (field "type_arguments" (symbol "type_arguments")),
    field "arguments" (symbol "arguments")])),
  ("class_body", all [
    lit "\x7b",
    many (oneOf [
      all [
        many (field "decorator" (symbol "decorator")), symbol "method_definition",
        opt (symbol "_semicolon")],
      all [symbol "method_signature",
        oneOf [symbol "_function_signature_automatic_semicolon", lit ","]],
      symbol "class_static_block",
      all [
        oneOf [
          symbol "abstract_method_signature",
          symbol "index_signature",
          symbol "method_signature",
          symbol "public_field_definition"],
        oneOf [symbol "_semicolon", lit ","]],
      lit ";"]),
    lit "\x7d"]),
  ("field_definition", all [
    many (field "decorator" (symbol "decorator")),
    opt (lit "static"),
    field "property" (symbol "_property_name"),
    opt (symbol "_initializer")]),
  ("formal_parameters", all [
    lit "(", opt (all [commas1 (symbol "_formal_parameter"), opt (lit ",")]), lit ")"]),
  ("class_static_block", all [lit "static", field "body" (symbol "statement_block")]),
  ("pattern", .weighted (-1) (oneOf [symbol "_lhs_expression", symbol "rest_pattern"])),
  ("rest_pattern", rightward (all [lit "...", symbol "_lhs_expression"])),
  ("method_definition", leftward (all [
    opt (symbol "accessibility_modifier"),
    opt (lit "static"),
    opt (symbol "override_modifier"),
    opt (lit "readonly"),
    opt (lit "async"),
    opt accessors,
    field "name" (symbol "_property_name"),
    opt (lit "?"),
    symbol "_call_signature",
    field "body" (symbol "statement_block")])),
  ("pair", all [
    field "key" (symbol "_property_name"), lit ":", field "value" (symbol "expression")]),
  ("pair_pattern", all [
    field "key" (symbol "_property_name"), lit ":",
    field "value" (oneOf [symbol "pattern", symbol "assignment_pattern"])]),
  ("_property_name", oneOf [
    asNode "property_identifier" nameOrReserved,
    symbol "private_property_identifier",
    symbol "string",
    symbol "number",
    symbol "computed_property_name"]),
  ("computed_property_name", all [lit "[", symbol "expression", lit "]"]),
  ("_reserved_identifier", anyLit [
    "declare", "namespace", "type", "public", "private", "protected", "override", "readonly",
    "module", "any", "number", "boolean", "string", "symbol", "export", "object", "new",
    "get", "set", "async", "static", "let"]),
  ("_semicolon", oneOf [symbol "_automatic_semicolon", lit ";"])]

end StorefrontSurvey.Script.Grammar
