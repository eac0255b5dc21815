import QueryFederation.Json.Token

/-! The text of a tree, without blanks or laid out over lines. -/
namespace QueryFederation.Json

mutual
def Tree.tokens : Tree → List Token
  | .null => [.null]
  | .bool value => [.bool value]
  | .number value => [.number value]
  | .text value => [.text value]
  | .array items => .arrayStart :: itemTokens items ++ [.arrayEnd]
  | .object members => .objectStart :: memberTokens members ++ [.objectEnd]

def itemTokens : List Tree → List Token
  | [] => []
  | [item] => item.tokens
  | item :: rest => item.tokens ++ .comma :: itemTokens rest

def memberTokens : List (Option String × Tree) → List Token
  | [] => []
  | [(name, value)] => .text name :: .colon :: value.tokens
  | (name, value) :: rest => .text name :: .colon :: value.tokens ++ .comma :: memberTokens rest
end

def Tree.write (tree : Tree) : String := String.ofList (tree.tokens.flatMap Token.write)

def newLine (level : Nat) : List Char := '\n' :: List.replicate (2 * level) ' '

mutual
def Tree.layOut (level : Nat) : Tree → List Char
  | .array (item :: rest) =>
    '[' :: newLine (level + 1) ++ layOutItems (level + 1) (item :: rest) ++ newLine level ++ [']']
  | .object (member :: rest) =>
    '{' :: newLine (level + 1) ++ layOutMembers (level + 1) (member :: rest) ++ newLine level ++
      ['}']
  | tree => tree.tokens.flatMap Token.write

def layOutItems (level : Nat) : List Tree → List Char
  | [] => []
  | [item] => item.layOut level
  | item :: rest => item.layOut level ++ ',' :: newLine level ++ layOutItems level rest

def layOutMembers (level : Nat) : List (Option String × Tree) → List Char
  | [] => []
  | [(name, value)] => quote name ++ ':' :: ' ' :: value.layOut level
  | (name, value) :: rest =>
    quote name ++ ':' :: ' ' :: value.layOut level ++ ',' :: newLine level ++
      layOutMembers level rest
end

def Tree.writeLines (tree : Tree) : String := String.ofList (tree.layOut 0)

end QueryFederation.Json
