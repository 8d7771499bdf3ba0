import StorefrontSurvey.Script.Grammar.Statement
import StorefrontSurvey.Script.Grammar.Markup
import StorefrontSurvey.Script.Grammar.Expression
import StorefrontSurvey.Script.Grammar.Typed
/-!
The whole grammar of a dialect: the rules in their order, and the rankings that settle which of two
readings is taken. The order of the rules numbers the lexemes, and lexemes of lower number are
tried first where one is missing.
-/
namespace StorefrontSurvey.Script.Grammar

private def n (rank : String) : RankEntry := .name rank

private def r (rule : String) : RankEntry := .rule rule

/-- Rankings of expressions: operators from the tightest, and what a name or a brace opens. -/
private def expressionRankings : List (List RankEntry) := [
  [n "member", n "template_call", n "call", r "update_expression", n "unary_void", n "binary_exp",
    n "binary_times", n "binary_plus", n "binary_shift", n "binary_compare", n "binary_relation",
    n "binary_equality", n "bitwise_and", n "bitwise_xor", n "bitwise_or", n "logical_and",
    n "logical_or", n "ternary", r "sequence_expression", r "arrow_function"],
  [n "assign", r "primary_expression"],
  [n "member", n "template_call", n "new", n "call", r "expression"],
  [n "declare", n "literal"],
  [r "primary_expression", r "statement_block", n "object"],
  [r "meta_property", r "import"],
  [r "import_statement", r "import"],
  [r "export_statement", r "primary_expression"],
  [r "lexical_declaration", r "primary_expression"]]

/-- Rankings between types and expressions, and among types. -/
private def typeRankings : List (List RankEntry) := [
  [n "call", n "instantiation", n "unary", n "binary", r "await_expression", r "arrow_function"],
  [n "extends", n "instantiation"],
  [r "intersection_type", r "union_type", r "conditional_type", r "function_type", n "binary",
    r "type_predicate", r "readonly_type"],
  [r "mapped_type_clause", r "primary_expression"],
  [r "accessibility_modifier", r "primary_expression"],
  [n "unary_void", r "expression"],
  [r "extends_clause", r "primary_expression"],
  [n "unary", n "assign"],
  [n "declare", r "expression"],
  [r "predefined_type", r "unary_expression"],
  [r "type", r "flow_maybe_type"],
  [r "tuple_type", r "array_type", r "pattern", r "type"],
  [r "readonly_type", r "pattern"],
  [r "readonly_type", r "primary_expression"],
  [r "type_query", r "subscript_expression", r "expression"],
  [r "type_query", r "_type_query_subscript_expression"],
  [r "nested_type_identifier", r "generic_type", r "primary_type", r "lookup_type",
    r "index_type_query", r "type"],
  [r "as_expression", r "satisfies_expression", r "primary_type"],
  [r "_type_query_member_expression", r "member_expression"],
  [r "member_expression", r "_type_query_member_expression_in_type_annotation"],
  [r "_type_query_member_expression", r "primary_expression"],
  [r "_type_query_subscript_expression", r "subscript_expression"],
  [r "_type_query_subscript_expression", r "primary_expression"],
  [r "_type_query_call_expression", r "primary_expression"],
  [r "_type_query_instantiation_expression", r "primary_expression"],
  [r "type_query", r "primary_expression"],
  [r "override_modifier", r "primary_expression"],
  [r "decorator_call_expression", r "decorator"],
  [r "literal_type", r "pattern"],
  [r "predefined_type", r "pattern"],
  [r "call_expression", r "_type_query_call_expression"],
  [r "call_expression", r "_type_query_call_expression_in_type_annotation"],
  [r "new_expression", r "primary_expression"],
  [r "meta_property", r "primary_expression"],
  [r "construct_signature", r "_property_name"]]

def rules (d : Dialect) : RuleSet where
  rules := exportRules ++ importRules ++ statementRules ++ operandRules d ++ markupRules ++
    definitionRules ++ operationRules ++ literalRules ++ memberRules ++ fieldRules ++ tagRules ++
    signatureRules ++ declarationRules ++ annotationRules ++ queryRules ++ typeRules ++
    compositeTypeRules
  word := "identifier"
  extras := ["comment", "html_comment"]
  groups := ["statement", "declaration", "expression", "primary_expression", "pattern", "type",
    "primary_type"]
  inlined := ["_expressions", "_semicolon", "_identifier", "_reserved_identifier",
    "_jsx_attribute", "_jsx_element_name", "_jsx_child", "_jsx_element", "_jsx_attribute_name",
    "_jsx_attribute_value", "_jsx_identifier", "_lhs_expression", "_type_identifier"]
  rankings := expressionRankings ++ typeRankings
  layout := [
    ("_automatic_semicolon", .semicolon),
    ("_template_chars", .templateRun),
    ("_ternary_qmark", .questionMark),
    ("html_comment", .markupComment),
    ("jsx_text", .markupText),
    ("_function_signature_automatic_semicolon", .signatureSemicolon),
    ("__error_recovery", .recovery)]

end StorefrontSurvey.Script.Grammar
