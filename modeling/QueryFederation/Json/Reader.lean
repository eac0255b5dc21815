import QueryFederation.Json.Token

/-! Reading a tree from its tokens. -/
namespace QueryFederation.Json

mutual
def scanTree? : Nat → List Token → Option (Tree × List Token)
  | 0, _ => none
  | steps + 1, tokens =>
    match tokens with
    | .null :: rest => some (.null, rest)
    | .bool value :: rest => some (.bool value, rest)
    | .number value :: rest => some (.number value, rest)
    | .text value :: rest => some (.text value, rest)
    | .arrayStart :: .arrayEnd :: rest => some (.array [], rest)
    | .arrayStart :: rest => (scanItems? steps rest).map fun (items, after) => (.array items, after)
    | .objectStart :: .objectEnd :: rest => some (.object [], rest)
    | .objectStart :: rest =>
      (scanMembers? steps rest).map fun (members, after) => (.object members, after)
    | _ => none

def scanItems? : Nat → List Token → Option (List Tree × List Token)
  | 0, _ => none
  | steps + 1, tokens => do
    let (item, rest) ← scanTree? steps tokens
    match rest with
    | .arrayEnd :: after => return ([item], after)
    | .comma :: after =>
      let (items, after) ← scanItems? steps after
      return (item :: items, after)
    | _ => none

def scanMembers? : Nat → List Token → Option (List (Option String × Tree) × List Token)
  | 0, _ => none
  | steps + 1, tokens =>
    match tokens with
    | .text name :: .colon :: rest => do
      let (value, rest) ← scanTree? steps rest
      match rest with
      | .objectEnd :: after => return ([(name, value)], after)
      | .comma :: after =>
        let (members, after) ← scanMembers? steps after
        return ((name, value) :: members, after)
      | _ => none
    | _ => none
end

def Tree.ofTokens? (tokens : List Token) : Option Tree :=
  match scanTree? (2 * tokens.length + 1) tokens with
  | some (tree, []) => some tree
  | _ => none

def Tree.read? (s : String) : Option Tree := do Tree.ofTokens? (← tokens? s.toList)

end QueryFederation.Json
