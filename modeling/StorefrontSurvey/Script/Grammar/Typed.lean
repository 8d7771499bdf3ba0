import StorefrontSurvey.Script.Grammar.Expression
/-!
Rules for types, declarations of types and the typed forms of class members and parameters.
-/
namespace StorefrontSurvey.Script.Grammar

open Rule

private def typeName : Rule := symbol "_type_identifier"

private def typeParameters : Rule := field "type_parameters" (opt (symbol "type_parameters"))

private def annotated : Rule := field "type" (opt (symbol "type_annotation"))

private def modifiers : List Rule := [
  opt (symbol "accessibility_modifier"),
  opt (lit "static"),
  opt (symbol "override_modifier"),
  opt (lit "readonly")]

def fieldRules : List (String × Rule) := [
  ("public_field_definition", all [
    many (field "decorator" (symbol "decorator")),
    opt (oneOf [
      all [lit "declare", opt (symbol "accessibility_modifier")],
      all [symbol "accessibility_modifier", opt (lit "declare")]]),
    oneOf [
      all [opt (lit "static"), opt (symbol "override_modifier"), opt (lit "readonly")],
      all [opt (lit "abstract"), opt (lit "readonly")],
      all [opt (lit "readonly"), opt (lit "abstract")],
      opt (lit "accessor")],
    field "name" (symbol "_property_name"),
    opt (anyLit ["?", "!"]),
    annotated,
    opt (symbol "_initializer")])]

def signatureRules : List (String × Rule) := [
  ("_import_identifier", oneOf [symbol "identifier", asNode "identifier" (lit "type")]),
  ("non_null_expression", rankLeft "unary" (all [symbol "expression", lit "!"])),
  ("method_signature", all (modifiers ++ [
    opt (lit "async"),
    opt accessors,
    field "name" (symbol "_property_name"),
    opt (lit "?"),
    symbol "_call_signature"])),
  ("abstract_method_signature", all [
    opt (symbol "accessibility_modifier"),
    lit "abstract",
    opt (symbol "override_modifier"),
    opt accessors,
    field "name" (symbol "_property_name"),
    opt (lit "?"),
    symbol "_call_signature"]),
  ("function_signature", all [
    opt (lit "async"),
    lit "function",
    field "name" (symbol "identifier"),
    symbol "_call_signature",
    oneOf [symbol "_semicolon", symbol "_function_signature_automatic_semicolon"]]),
  ("decorator_parenthesized_expression", all [
    lit "(",
    oneOf [
      symbol "identifier",
      asNode "member_expression" (symbol "decorator_member_expression"),
      asNode "call_expression" (symbol "decorator_call_expression")],
    lit ")"]),
  ("type_assertion", rankLeft "unary" (all [symbol "type_arguments", symbol "expression"])),
  ("as_expression", rankLeft "binary" (all [
    symbol "expression", lit "as", oneOf [lit "const", symbol "type"]])),
  ("satisfies_expression", rankLeft "binary" (all [
    symbol "expression", lit "satisfies", symbol "type"])),
  ("instantiation_expression", rank "instantiation" (all [
    symbol "expression", field "type_arguments" (symbol "type_arguments")])),
  ("import_require_clause", all [
    symbol "identifier", lit "=", lit "require", lit "(", field "source" (symbol "string"),
    lit ")"]),
  ("extends_clause", all [lit "extends", commas1 (symbol "_extends_clause_single")]),
  ("_extends_clause_single", rank "extends" (all [
    field "value" (symbol "expression"),
    field "type_arguments" (opt (symbol "type_arguments"))])),
  ("implements_clause", all [lit "implements", commas1 (symbol "type")])]

def declarationRules : List (String × Rule) := [
  ("ambient_declaration", all [
    lit "declare",
    oneOf [
      symbol "declaration",
      all [lit "global", symbol "statement_block"],
      all [lit "module", lit ".", asNode "property_identifier" (symbol "identifier"), lit ":",
        symbol "type", symbol "_semicolon"]]]),
  ("abstract_class_declaration", rank "declare" (all [
    many (field "decorator" (symbol "decorator")),
    lit "abstract",
    lit "class",
    field "name" typeName,
    typeParameters,
    opt (symbol "class_heritage"),
    field "body" (symbol "class_body")])),
  ("module", all [lit "module", symbol "_module"]),
  ("internal_module", all [lit "namespace", symbol "_module"]),
  ("_module", rightward (all [
    field "name" (oneOf [symbol "string", symbol "identifier", symbol "nested_identifier"]),
    field "body" (opt (symbol "statement_block"))])),
  ("import_alias", all [
    lit "import", symbol "identifier", lit "=",
    oneOf [symbol "identifier", symbol "nested_identifier"], symbol "_semicolon"]),
  ("nested_type_identifier", rank "member" (all [
    field "module" (oneOf [symbol "identifier", symbol "nested_identifier"]),
    lit ".",
    field "name" typeName])),
  ("interface_declaration", all [
    lit "interface",
    field "name" typeName,
    typeParameters,
    opt (symbol "extends_type_clause"),
    field "body" (asNode "interface_body" (symbol "object_type"))]),
  ("extends_type_clause", all [
    lit "extends",
    commas1 (field "type" (oneOf [
      typeName, symbol "nested_type_identifier", symbol "generic_type"]))]),
  ("enum_declaration", all [
    opt (lit "const"), lit "enum", field "name" (symbol "identifier"),
    field "body" (symbol "enum_body")]),
  ("enum_body", all [
    lit "\x7b",
    opt (all [
      separated1 (lit ",")
        (oneOf [field "name" (symbol "_property_name"), symbol "enum_assignment"]),
      opt (lit ",")]),
    lit "\x7d"]),
  ("enum_assignment", all [field "name" (symbol "_property_name"), symbol "_initializer"]),
  ("type_alias_declaration", all [
    lit "type",
    field "name" typeName,
    typeParameters,
    lit "=",
    field "value" (symbol "type"),
    symbol "_semicolon"]),
  ("accessibility_modifier", anyLit ["public", "private", "protected"]),
  ("override_modifier", lit "override"),
  ("required_parameter", all [
    symbol "_parameter_name", annotated, opt (symbol "_initializer")]),
  ("optional_parameter", all [
    symbol "_parameter_name", lit "?", annotated, opt (symbol "_initializer")]),
  ("_parameter_name", all [
    many (field "decorator" (symbol "decorator")),
    opt (symbol "accessibility_modifier"),
    opt (symbol "override_modifier"),
    opt (lit "readonly"),
    field "pattern" (oneOf [symbol "pattern", symbol "this"])])]

private def annotationMember : Rule :=
  asNode "member_expression" (symbol "_type_query_member_expression_in_type_annotation")

private def annotationCall : Rule :=
  asNode "call_expression" (symbol "_type_query_call_expression_in_type_annotation")

private def property : Rule := field "property" (oneOf [
  symbol "private_property_identifier", asNode "property_identifier" (symbol "identifier")])

def annotationRules : List (String × Rule) := [
  ("omitting_type_annotation", all [lit "-?:", symbol "type"]),
  ("adding_type_annotation", all [lit "+?:", symbol "type"]),
  ("opting_type_annotation", all [lit "?:", symbol "type"]),
  ("type_annotation", all [
    lit ":", oneOf [symbol "type", annotationMember, annotationCall]]),
  ("_type_query_member_expression_in_type_annotation", all [
    field "object" (oneOf [symbol "import", annotationMember, annotationCall]),
    lit ".",
    property]),
  ("_type_query_call_expression_in_type_annotation", all [
    field "function" (oneOf [symbol "import", annotationMember]),
    field "arguments" (symbol "arguments")]),
  ("asserts", all [
    lit "asserts", oneOf [symbol "type_predicate", symbol "identifier", symbol "this"]]),
  ("asserts_annotation", all [lit ":", symbol "asserts"])]

private def queryMember : Rule :=
  asNode "member_expression" (symbol "_type_query_member_expression")

private def querySubscript : Rule :=
  asNode "subscript_expression" (symbol "_type_query_subscript_expression")

private def queryCall : Rule := asNode "call_expression" (symbol "_type_query_call_expression")

private def queryObject : Rule := field "object" (oneOf [
  symbol "identifier", symbol "this", querySubscript, queryMember, queryCall])

private def queryFunction : Rule := field "function" (oneOf [
  symbol "import", symbol "identifier", queryMember, querySubscript])

def queryRules : List (String × Rule) := [
  ("_type_query_member_expression", all [queryObject, anyLit [".", "?."], property]),
  ("_type_query_subscript_expression", all [
    queryObject,
    opt (lit "?."),
    lit "[",
    field "index" (oneOf [symbol "predefined_type", symbol "string", symbol "number"]),
    lit "]"]),
  ("_type_query_call_expression", all [queryFunction, field "arguments" (symbol "arguments")]),
  ("_type_query_instantiation_expression", all [
    queryFunction, field "type_arguments" (symbol "type_arguments")]),
  ("type_query", rightward (all [
    lit "typeof",
    oneOf [
      querySubscript,
      queryMember,
      queryCall,
      asNode "instantiation_expression" (symbol "_type_query_instantiation_expression"),
      symbol "identifier",
      symbol "this"]])),
  ("index_type_query", all [lit "keyof", symbol "primary_type"])]

def typeRules : List (String × Rule) := [
  ("type", oneOf [
    symbol "primary_type",
    symbol "function_type",
    symbol "readonly_type",
    symbol "constructor_type",
    symbol "infer_type",
    atLevel (-1) annotationMember,
    atLevel (-1) annotationCall]),
  ("tuple_parameter", all [
    field "name" (oneOf [symbol "identifier", symbol "rest_pattern"]),
    field "type" (symbol "type_annotation")]),
  ("optional_tuple_parameter", all [
    field "name" (symbol "identifier"), lit "?", field "type" (symbol "type_annotation")]),
  ("optional_type", all [symbol "type", lit "?"]),
  ("rest_type", all [lit "...", symbol "type"]),
  ("_tuple_type_member", oneOf [
    asNode "required_parameter" (symbol "tuple_parameter"),
    asNode "optional_parameter" (symbol "optional_tuple_parameter"),
    symbol "optional_type",
    symbol "rest_type",
    symbol "type"]),
  ("constructor_type", leftward (all [
    opt (lit "abstract"),
    lit "new",
    typeParameters,
    field "parameters" (symbol "formal_parameters"),
    lit "=>",
    field "type" (symbol "type")])),
  ("primary_type", oneOf [
    symbol "parenthesized_type",
    symbol "predefined_type",
    typeName,
    symbol "nested_type_identifier",
    symbol "generic_type",
    symbol "object_type",
    symbol "array_type",
    symbol "tuple_type",
    symbol "flow_maybe_type",
    symbol "type_query",
    symbol "index_type_query",
    asNode "this_type" (symbol "this"),
    symbol "existential_type",
    symbol "literal_type",
    symbol "lookup_type",
    symbol "conditional_type",
    symbol "template_literal_type",
    symbol "intersection_type",
    symbol "union_type",
    lit "const"]),
  ("template_type", all [
    lit "$\x7b", oneOf [symbol "primary_type", symbol "infer_type"], lit "\x7d"]),
  ("template_literal_type", all [
    lit "\x60",
    many (oneOf [asNode "string_fragment" (symbol "_template_chars"), symbol "template_type"]),
    lit "\x60"]),
  ("infer_type", rightward (all [
    lit "infer", typeName, opt (all [lit "extends", symbol "type"])])),
  ("conditional_type", rightward (all [
    field "left" (symbol "type"),
    lit "extends",
    field "right" (symbol "type"),
    lit "?",
    field "consequence" (symbol "type"),
    lit ":",
    field "alternative" (symbol "type")])),
  ("generic_type", rank "call" (all [
    field "name" (oneOf [typeName, symbol "nested_type_identifier"]),
    field "type_arguments" (symbol "type_arguments")])),
  ("type_predicate", all [
    field "name" (oneOf [
      symbol "identifier", symbol "this", asNode "identifier" (symbol "predefined_type")]),
    lit "is",
    field "type" (symbol "type")]),
  ("type_predicate_annotation", all [lit ":", symbol "type_predicate"])]

def compositeTypeRules : List (String × Rule) := [
  ("lookup_type", all [symbol "primary_type", lit "[", symbol "type", lit "]"]),
  ("mapped_type_clause", all [
    field "name" typeName,
    lit "in",
    field "type" (symbol "type"),
    opt (all [lit "as", field "alias" (symbol "type")])]),
  ("literal_type", oneOf [
    asNode "unary_expression" (symbol "_number"),
    symbol "number",
    symbol "string",
    symbol "true",
    symbol "false",
    symbol "null",
    symbol "undefined"]),
  ("_number", .ranked (.level 1) (some .left) (all [
    field "operator" (anyLit ["-", "+"]), field "argument" (symbol "number")])),
  ("existential_type", lit "*"),
  ("flow_maybe_type", rightward (all [lit "?", symbol "primary_type"])),
  ("parenthesized_type", all [lit "(", symbol "type", lit ")"]),
  ("predefined_type", oneOf [
    lit "any", lit "number", lit "boolean", lit "string", lit "symbol",
    asToken "unique symbol" (all [lit "unique", lit "symbol"]),
    lit "void", lit "unknown", lit "never", lit "object"]),
  ("type_arguments", all [lit "<", commas1 (symbol "type"), opt (lit ","), lit ">"]),
  ("object_type", all [
    anyLit ["\x7b", "\x7b|"],
    opt (all [
      opt (anyLit [",", ";"]),
      separated1 (oneOf [lit ",", symbol "_semicolon"])
        (oneOf [
          symbol "export_statement",
          symbol "property_signature",
          symbol "call_signature",
          symbol "construct_signature",
          symbol "index_signature",
          symbol "method_signature"]),
      opt (oneOf [lit ",", symbol "_semicolon"])]),
    anyLit ["\x7d", "|\x7d"]]),
  ("call_signature", symbol "_call_signature"),
  ("property_signature", all (modifiers ++ [
    field "name" (symbol "_property_name"), opt (lit "?"), annotated])),
  ("type_parameters", all [
    lit "<", commas1 (symbol "type_parameter"), opt (lit ","), lit ">"]),
  ("type_parameter", all [
    opt (lit "const"),
    field "name" typeName,
    field "constraint" (opt (symbol "constraint")),
    field "value" (opt (symbol "default_type"))]),
  ("default_type", all [lit "=", symbol "type"]),
  ("constraint", all [anyLit ["extends", ":"], symbol "type"]),
  ("construct_signature", all [
    opt (lit "abstract"),
    lit "new",
    typeParameters,
    field "parameters" (symbol "formal_parameters"),
    annotated]),
  ("index_signature", all [
    opt (all [field "sign" (opt (anyLit ["-", "+"])), lit "readonly"]),
    lit "[",
    oneOf [
      all [
        field "name" (oneOf [
          symbol "identifier", asNode "identifier" (symbol "_reserved_identifier")]),
        lit ":",
        field "index_type" (symbol "type")],
      symbol "mapped_type_clause"],
    lit "]",
    field "type" (oneOf [
      symbol "type_annotation",
      symbol "omitting_type_annotation",
      symbol "adding_type_annotation",
      symbol "opting_type_annotation"])]),
  ("array_type", all [symbol "primary_type", lit "[", lit "]"]),
  ("tuple_type", all [lit "[", commas (symbol "_tuple_type_member"), opt (lit ","), lit "]"]),
  ("readonly_type", all [lit "readonly", symbol "type"]),
  ("union_type", leftward (all [opt (symbol "type"), lit "|", symbol "type"])),
  ("intersection_type", leftward (all [opt (symbol "type"), lit "&", symbol "type"])),
  ("function_type", leftward (all [
    typeParameters,
    field "parameters" (symbol "formal_parameters"),
    lit "=>",
    field "return_type" (oneOf [symbol "type", symbol "asserts", symbol "type_predicate"])])),
  ("_type_identifier", asNode "type_identifier" (symbol "identifier"))]

end StorefrontSurvey.Script.Grammar
