import CSharpLayout.Layout.Declaration

/-! The plan of any node. -/

namespace CSharpLayout

namespace Layout

def plan (policy : Policy) (frames : Frames) : Node → List Piece
  | .syntaxTree tree => namespaceMembers policy tree.members
  | .namespaceDeclaration declaration => namespaceDeclaration policy declaration
  | .usingDeclaration declaration => usingDeclaration frames declaration
  | .usingAlias declaration => usingAlias policy frames declaration
  | .externAlias declaration => externAlias frames declaration
  | .typeDeclaration declaration => typeDeclaration policy frames declaration
  | .delegate declaration => delegate policy frames declaration
  | .attributeSection found => attributeSection policy frames found
  | .attributeUse use => attributeUse policy use
  | .field declaration => field policy frames declaration
  | .fixedField declaration => fixedField policy frames declaration
  | .fixedVariable buffer => fixedVariable policy frames buffer
  | .method declaration => method policy frames declaration
  | .constructor declaration => constructor policy frames declaration
  | .constructorInitializer initializer => constructorInitializer policy initializer
  | .destructor declaration => destructor policy frames declaration
  | .property declaration => property policy frames declaration
  | .indexer declaration => indexer policy declaration
  | .accessor found => accessor frames found
  | .event declaration => event policy frames declaration
  | .customEvent declaration => customEvent policy frames declaration
  | .operator declaration => operator policy frames declaration
  | .enumMember member => enumMember policy frames member
  | .parameter found => parameter policy frames found
  | .typeParameter found => typeParameter frames found
  | .constraint found => constraint policy frames found
  | .variableInitializer found => variableInitializer policy frames found
  | .documentationReference reference => documentationReference policy frames reference
  | .type found => type policy frames found
  | .arraySpecifier specifier => arraySpecifier specifier
  | .expression found => expression policy frames found
  | .arrayInitializer initializer => arrayInitializer policy frames initializer
  | .query found => query frames found
  | .queryClause clause => queryClause policy frames clause
  | .queryOrdering ordering => queryOrdering ordering
  | .statement found => statement policy frames found
  | .block found => block policy frames found
  | .variableDeclaration declaration => variableDeclaration policy frames declaration
  | .switchSection found => switchSection policy found
  | .caseLabel label => caseLabel label
  | .catchClause clause => catchClause policy frames clause
  | .comment found => comment found
  | .directive found => directive found
  | .pattern placeholder => pattern placeholder

end Layout

end CSharpLayout
