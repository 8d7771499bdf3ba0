import StorefrontSurvey.Script.Rule
/-!
Rules for markup inside scripts: elements, attributes and the text between tags.
-/
namespace StorefrontSurvey.Script.Grammar

open Rule

private def markupString (quote : String) (run : String) : Rule :=
  all [lit quote,
    many (oneOf [asNode "string_fragment" (symbol run), symbol "html_character_reference"]),
    lit quote]

/-- What lies between the tags of an element. A character reference stands there only after
something else. -/
private def content : Rule :=
  opt (all [
    oneOf [symbol "jsx_text", symbol "_jsx_element", symbol "jsx_expression"],
    many (symbol "_jsx_child")])

def markupRules : List (String × Rule) := [
  ("jsx_element", all [
    field "open_tag" (symbol "jsx_opening_element"),
    content,
    field "close_tag" (symbol "jsx_closing_element")]),
  ("html_character_reference", .lexeme (.ofClass .characterReference)),
  ("jsx_expression", all [
    lit "\x7b",
    opt (oneOf [symbol "expression", symbol "sequence_expression", symbol "spread_element"]),
    lit "\x7d"]),
  ("_jsx_child", oneOf [
    symbol "jsx_text", symbol "html_character_reference", symbol "_jsx_element",
    symbol "jsx_expression"]),
  ("jsx_opening_element", all [symbol "_jsx_start_opening_element", lit ">"]),
  ("jsx_identifier", .lexeme (.ofClass .dashedName)),
  ("_jsx_identifier", oneOf [asNode "identifier" (symbol "jsx_identifier"), symbol "identifier"]),
  ("nested_identifier", rank "member" (all [
    field "object" (oneOf [
      symbol "identifier", asNode "member_expression" (symbol "nested_identifier")]),
    lit ".",
    field "property" (asNode "property_identifier" (symbol "identifier"))])),
  ("jsx_namespace_name", all [symbol "_jsx_identifier", lit ":", symbol "_jsx_identifier"]),
  ("_jsx_element_name", oneOf [
    symbol "_jsx_identifier",
    asNode "member_expression" (symbol "nested_identifier"),
    symbol "jsx_namespace_name"]),
  ("jsx_closing_element", all [
    lit "</", opt (field "name" (symbol "_jsx_element_name")), lit ">"]),
  ("jsx_self_closing_element", all [symbol "_jsx_start_opening_element", lit "/>"]),
  ("_jsx_attribute", oneOf [symbol "jsx_attribute", symbol "jsx_expression"]),
  ("_jsx_attribute_name", oneOf [
    asNode "property_identifier" (symbol "_jsx_identifier"), symbol "jsx_namespace_name"]),
  ("jsx_attribute", all [
    symbol "_jsx_attribute_name", opt (all [lit "=", symbol "_jsx_attribute_value"])]),
  ("_jsx_string", oneOf [
    markupString "\"" "unescaped_double_jsx_string_fragment",
    markupString "'" "unescaped_single_jsx_string_fragment"]),
  ("unescaped_double_jsx_string_fragment", .lexeme (.ofClass .doubleQuotedMarkup)),
  ("unescaped_single_jsx_string_fragment", .lexeme (.ofClass .singleQuotedMarkup)),
  ("_jsx_attribute_value", oneOf [
    asNode "string" (symbol "_jsx_string"), symbol "jsx_expression", symbol "_jsx_element"]),
  ("_jsx_element", oneOf [symbol "jsx_element", symbol "jsx_self_closing_element"])]

/-- A tag up to its end mark: a name with type arguments and attributes, or nothing. Type parameters
are preferred to it while both are possible. -/
def tagRules : List (String × Rule) := [
  ("_jsx_start_opening_element", .weighted (-1) (all [
    lit "<",
    opt (all [
      oneOf [
        field "name" (oneOf [symbol "_jsx_identifier", symbol "jsx_namespace_name"]),
        all [
          field "name" (oneOf [
            symbol "identifier", asNode "member_expression" (symbol "nested_identifier")]),
          field "type_arguments" (opt (symbol "type_arguments"))]],
      many (field "attribute" (symbol "_jsx_attribute"))])]))]

end StorefrontSurvey.Script.Grammar
