/-!
# Tree — Kinds of node

The kinds of syntax node that matter to name binding and diagnostics. A parser names its kinds by
strings; every name that is not listed is `other`.
-/

namespace ElmAssist

/-- What a syntax node is. -/
inductive Kind where
  | file
  | moduleDeclaration
  | exposingList
  | exposedValue
  | exposedType
  | exposedUnionConstructors
  | exposedOperator
  | doubleDot
  | importClause
  | asClause
  | upperCaseQid
  | valueQid
  | upperCaseIdentifier
  | lowerCaseIdentifier
  | valueDeclaration
  | functionDeclarationLeft
  | typeSignature
  | typeDeclaration
  | unionVariant
  | typeAliasDeclaration
  | portDeclaration
  | infixDeclaration
  | valueExpr
  | letInExpr
  | caseOfExpr
  | caseOfBranch
  | anonymousFunctionExpr
  | pattern
  | lowerPattern
  | unionPattern
  | recordPattern
  | typeRef
  | typeExpression
  | typeVariable
  | lowerTypeName
  | fieldAccessExpr
  | recordBaseIdentifier
  | blockComment
  | lineComment
  /-- Source that does not parse. -/
  | error
  /-- A token the parser put in to go on. -/
  | missing
  | other
  deriving DecidableEq, Repr, Inhabited

namespace Kind

/-- The name of a kind in answers. -/
def label : Kind → String
  | .file => "file"
  | .moduleDeclaration => "module_declaration"
  | .exposingList => "exposing_list"
  | .exposedValue => "exposed_value"
  | .exposedType => "exposed_type"
  | .exposedUnionConstructors => "exposed_union_constructors"
  | .exposedOperator => "exposed_operator"
  | .doubleDot => "double_dot"
  | .importClause => "import_clause"
  | .asClause => "as_clause"
  | .upperCaseQid => "upper_case_qid"
  | .valueQid => "value_qid"
  | .upperCaseIdentifier => "upper_case_identifier"
  | .lowerCaseIdentifier => "lower_case_identifier"
  | .valueDeclaration => "value_declaration"
  | .functionDeclarationLeft => "function_declaration_left"
  | .typeSignature => "type_annotation"
  | .typeDeclaration => "type_declaration"
  | .unionVariant => "union_variant"
  | .typeAliasDeclaration => "type_alias_declaration"
  | .portDeclaration => "port_annotation"
  | .infixDeclaration => "infix_declaration"
  | .valueExpr => "value_expr"
  | .letInExpr => "let_in_expr"
  | .caseOfExpr => "case_of_expr"
  | .caseOfBranch => "case_of_branch"
  | .anonymousFunctionExpr => "anonymous_function_expr"
  | .pattern => "pattern"
  | .lowerPattern => "lower_pattern"
  | .unionPattern => "union_pattern"
  | .recordPattern => "record_pattern"
  | .typeRef => "type_ref"
  | .typeExpression => "type_expression"
  | .typeVariable => "type_variable"
  | .lowerTypeName => "lower_type_name"
  | .fieldAccessExpr => "field_access_expr"
  | .recordBaseIdentifier => "record_base_identifier"
  | .blockComment => "block_comment"
  | .lineComment => "line_comment"
  | .error => "error"
  | .missing => "missing"
  | .other => "other"

/-- The kinds a parser names by their label. -/
def named : List Kind :=
  [.file, .moduleDeclaration, .exposingList, .exposedValue, .exposedType,
    .exposedUnionConstructors, .exposedOperator, .doubleDot, .importClause, .asClause,
    .upperCaseQid, .valueQid, .upperCaseIdentifier, .lowerCaseIdentifier, .valueDeclaration,
    .functionDeclarationLeft, .typeSignature, .typeDeclaration, .unionVariant,
    .typeAliasDeclaration, .portDeclaration, .infixDeclaration, .valueExpr, .letInExpr,
    .caseOfExpr, .caseOfBranch, .anonymousFunctionExpr, .pattern, .lowerPattern, .unionPattern,
    .recordPattern, .typeRef, .typeExpression, .typeVariable, .lowerTypeName, .fieldAccessExpr,
    .recordBaseIdentifier, .blockComment, .lineComment]

/-- The kind of a grammar name. -/
def ofGrammar (name : String) : Kind :=
  if name = "ERROR" then .error
  else (named.find? fun k => k.label == name).getD .other

/-- Comments may stand between any two nodes. -/
def isComment : Kind → Bool
  | .blockComment | .lineComment => true
  | _ => false

/-- Declarations that stand at the top of a module. -/
def isTopLevelDeclaration : Kind → Bool
  | .valueDeclaration | .typeDeclaration | .typeAliasDeclaration | .portDeclaration
  | .typeSignature | .infixDeclaration => true
  | _ => false

/-- The parser did not find here what the grammar asks for. -/
def isDefect : Kind → Bool
  | .error | .missing => true
  | _ => false

/-- A name as written, in either case. -/
def isIdentifier : Kind → Bool
  | .lowerCaseIdentifier | .upperCaseIdentifier => true
  | _ => false

end Kind

end ElmAssist
