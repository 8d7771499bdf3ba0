import StorefrontSurvey.Script.Rule
/-!
Rules for the top of a script: exports, imports and statements.
-/
namespace StorefrontSurvey.Script.Grammar

open Rule

/-- The two dialects of a script: with type assertions, or with markup. -/
inductive Dialect where
  | typescript
  | tsx
  deriving DecidableEq, Repr

private def semi : Rule := symbol "_semicolon"

def exportRules : List (String × Rule) := [
  ("program", all [opt (symbol "hash_bang_line"), many (symbol "statement")]),
  ("hash_bang_line", .lexeme (.ofClass .scriptLine)),
  ("export_statement", oneOf [
    all [lit "export",
      oneOf [
        all [lit "*", symbol "_from_clause"],
        all [symbol "namespace_export", symbol "_from_clause"],
        all [symbol "export_clause", symbol "_from_clause"],
        symbol "export_clause"],
      semi],
    all [many (field "decorator" (symbol "decorator")), lit "export",
      oneOf [
        field "declaration" (symbol "declaration"),
        all [lit "default",
          oneOf [
            field "declaration" (symbol "declaration"),
            all [field "value" (symbol "expression"), semi]]]]],
    all [lit "export", lit "type", symbol "export_clause", opt (symbol "_from_clause"), semi],
    all [lit "export", lit "=", symbol "expression", semi],
    all [lit "export", lit "as", lit "namespace", symbol "identifier", semi]]),
  ("namespace_export", all [lit "*", lit "as", symbol "_module_export_name"]),
  ("export_clause", all [
    lit "\x7b", commas (symbol "export_specifier"), opt (lit ","), lit "\x7d"]),
  ("export_specifier", all [
    opt (anyLit ["type", "typeof"]),
    field "name" (symbol "_module_export_name"),
    opt (all [lit "as", field "alias" (symbol "_module_export_name")])]),
  ("_module_export_name", oneOf [symbol "identifier", symbol "string"]),
  ("declaration", oneOf [
    symbol "function_declaration",
    symbol "generator_function_declaration",
    symbol "class_declaration",
    symbol "lexical_declaration",
    symbol "variable_declaration",
    symbol "function_signature",
    symbol "abstract_class_declaration",
    symbol "module",
    rank "declare" (symbol "internal_module"),
    symbol "type_alias_declaration",
    symbol "enum_declaration",
    symbol "interface_declaration",
    symbol "import_alias",
    symbol "ambient_declaration"])]

def importRules : List (String × Rule) := [
  ("import", lit "import"),
  ("import_statement", all [
    lit "import",
    opt (anyLit ["type", "typeof"]),
    oneOf [
      all [symbol "import_clause", symbol "_from_clause"],
      symbol "import_require_clause",
      field "source" (symbol "string")],
    opt (symbol "import_attribute"),
    semi]),
  ("import_clause", oneOf [
    symbol "namespace_import",
    symbol "named_imports",
    all [symbol "_import_identifier",
      opt (all [lit ",", oneOf [symbol "namespace_import", symbol "named_imports"]])]]),
  ("_from_clause", all [lit "from", field "source" (symbol "string")]),
  ("namespace_import", all [lit "*", lit "as", symbol "identifier"]),
  ("named_imports", all [
    lit "\x7b", commas (symbol "import_specifier"), opt (lit ","), lit "\x7d"]),
  ("import_specifier", all [
    opt (anyLit ["type", "typeof"]),
    oneOf [
      field "name" (symbol "_import_identifier"),
      all [
        field "name" (oneOf [symbol "_module_export_name", asNode "identifier" (lit "type")]),
        lit "as",
        field "alias" (symbol "_import_identifier")]]]),
  ("import_attribute", all [anyLit ["with", "assert"], symbol "object"])]

def statementRules : List (String × Rule) := [
  ("statement", oneOf [
    symbol "export_statement",
    symbol "import_statement",
    symbol "debugger_statement",
    symbol "expression_statement",
    symbol "declaration",
    symbol "statement_block",
    symbol "if_statement",
    symbol "switch_statement",
    symbol "for_statement",
    symbol "for_in_statement",
    symbol "while_statement",
    symbol "do_statement",
    symbol "try_statement",
    symbol "with_statement",
    symbol "break_statement",
    symbol "continue_statement",
    symbol "return_statement",
    symbol "throw_statement",
    symbol "empty_statement",
    symbol "labeled_statement"]),
  ("expression_statement", all [symbol "_expressions", semi]),
  ("variable_declaration", all [lit "var", commas1 (symbol "variable_declarator"), semi]),
  ("lexical_declaration", all [
    field "kind" (anyLit ["let", "const"]), commas1 (symbol "variable_declarator"), semi]),
  ("variable_declarator", oneOf [
    all [
      field "name" (oneOf [symbol "identifier", symbol "_destructuring_pattern"]),
      field "type" (opt (symbol "type_annotation")),
      opt (symbol "_initializer")],
    rank "declare" (all [
      field "name" (symbol "identifier"), lit "!", field "type" (symbol "type_annotation")])]),
  ("statement_block", rightward (all [
    lit "\x7b", many (symbol "statement"), lit "\x7d", opt (symbol "_automatic_semicolon")])),
  ("else_clause", all [lit "else", symbol "statement"]),
  ("if_statement", rightward (all [
    lit "if",
    field "condition" (symbol "parenthesized_expression"),
    field "consequence" (symbol "statement"),
    opt (field "alternative" (symbol "else_clause"))])),
  ("switch_statement", all [
    lit "switch", field "value" (symbol "parenthesized_expression"),
    field "body" (symbol "switch_body")]),
  ("for_statement", all [
    lit "for", lit "(",
    oneOf [
      field "initializer" (oneOf [symbol "lexical_declaration", symbol "variable_declaration"]),
      all [field "initializer" (symbol "_expressions"), lit ";"],
      field "initializer" (symbol "empty_statement")],
    field "condition" (oneOf [all [symbol "_expressions", lit ";"], symbol "empty_statement"]),
    field "increment" (opt (symbol "_expressions")),
    lit ")",
    field "body" (symbol "statement")]),
  ("for_in_statement", all [
    lit "for", opt (lit "await"), symbol "_for_header", field "body" (symbol "statement")]),
  ("_for_header", all [
    lit "(",
    oneOf [
      field "left" (oneOf [symbol "_lhs_expression", symbol "parenthesized_expression"]),
      all [
        field "kind" (lit "var"),
        field "left" (oneOf [symbol "identifier", symbol "_destructuring_pattern"]),
        opt (symbol "_initializer")],
      all [
        field "kind" (anyLit ["let", "const"]),
        field "left" (oneOf [symbol "identifier", symbol "_destructuring_pattern"]),
        opt (symbol "_automatic_semicolon")]],
    field "operator" (anyLit ["in", "of"]),
    field "right" (symbol "_expressions"),
    lit ")"]),
  ("while_statement", all [
    lit "while", field "condition" (symbol "parenthesized_expression"),
    field "body" (symbol "statement")]),
  ("do_statement", rightward (all [
    lit "do",
    field "body" (symbol "statement"),
    lit "while",
    field "condition" (symbol "parenthesized_expression"),
    opt semi])),
  ("try_statement", all [
    lit "try",
    field "body" (symbol "statement_block"),
    opt (field "handler" (symbol "catch_clause")),
    opt (field "finalizer" (symbol "finally_clause"))]),
  ("with_statement", all [
    lit "with", field "object" (symbol "parenthesized_expression"),
    field "body" (symbol "statement")]),
  ("break_statement", all [
    lit "break", field "label" (opt (asNode "statement_identifier" (symbol "identifier"))), semi]),
  ("continue_statement", all [
    lit "continue",
    field "label" (opt (asNode "statement_identifier" (symbol "identifier"))),
    semi]),
  ("debugger_statement", all [lit "debugger", semi]),
  ("return_statement", all [lit "return", opt (symbol "_expressions"), semi]),
  ("throw_statement", all [lit "throw", symbol "_expressions", semi]),
  ("empty_statement", lit ";"),
  ("labeled_statement", .weighted (-1) (all [
    field "label" (asNode "statement_identifier"
      (oneOf [symbol "identifier", symbol "_reserved_identifier"])),
    lit ":",
    field "body" (symbol "statement")])),
  ("switch_body", all [
    lit "\x7b", many (oneOf [symbol "switch_case", symbol "switch_default"]), lit "\x7d"]),
  ("switch_case", all [
    lit "case", field "value" (symbol "_expressions"), lit ":",
    field "body" (many (symbol "statement"))]),
  ("switch_default", all [lit "default", lit ":", field "body" (many (symbol "statement"))]),
  ("catch_clause", all [
    lit "catch",
    opt (all [
      lit "(",
      field "parameter" (oneOf [symbol "identifier", symbol "_destructuring_pattern"]),
      opt (field "type" (symbol "type_annotation")),
      lit ")"]),
    field "body" (symbol "statement_block")]),
  ("finally_clause", all [lit "finally", field "body" (symbol "statement_block")]),
  ("parenthesized_expression", all [
    lit "(",
    oneOf [
      all [symbol "expression", field "type" (opt (symbol "type_annotation"))],
      symbol "sequence_expression"],
    lit ")"])]

end StorefrontSurvey.Script.Grammar
