import CSharpLayout.Yaml.Text

/-! The reader of YAML documents: mappings and sequences in blocks, which are nested by columns, or
between brackets, and scalars. Keys are scalars. -/

namespace CSharpLayout

namespace Yaml

inductive Node where
  | plain (text : String)
  | quoted (text : String)
  | sequence (items : List Node)
  | mapping (entries : List (String × Node))

def Node.nothing : Node := .plain ""

def scalar? (inBrackets : Bool) (least : Nat) (source : Source) : Option (Node × Scalar) :=
  let fuel := source.length + 1
  match source with
  | ⟨_, '"'⟩ :: rest => (double? fuel rest).map fun found => (.quoted (String.ofList found.text), found)
  | ⟨_, '\x27'⟩ :: rest =>
      (single? fuel rest).map fun found => (.quoted (String.ofList found.text), found)
  | _ =>
      if startsPlain inBrackets source then
        (plain? inBrackets least fuel source).map fun found =>
          (.plain (String.ofList found.text), found)
      else none

/-- The text after a colon that makes the scalar before it a key. It stands on the line of the key, and
outside brackets it ends a word. -/
def afterKey? (inBrackets : Bool) (key : Scalar) : Option Source :=
  if key.folded || key.ended then none
  else match key.rest.dropWhile fun next => isBlank next.char with
    | ⟨_, ':'⟩ :: rest => if inBrackets || endsWord rest then some rest else none
    | _ => none

mutual

def flowNode? : Nat → Nat → Source → Option (Node × Source)
  | 0, _, _ => none
  | fuel + 1, least, source =>
      match source with
      | ⟨_, '['⟩ :: rest =>
          (flowItems? fuel least rest).map fun (items, after) => (.sequence items, after)
      | ⟨_, '\x7b'⟩ :: rest =>
          (flowEntries? fuel least rest).map fun (entries, after) => (.mapping entries, after)
      | _ => (scalar? true least source).map fun (node, found) => (node, found.rest)

def flowItems? : Nat → Nat → Source → Option (List Node × Source)
  | 0, _, _ => none
  | fuel + 1, least, source =>
      match (nextInBrackets source).2 with
      | ⟨_, ']'⟩ :: rest => some ([], rest)
      | source =>
          match flowNode? fuel least source with
          | none => none
          | some (item, rest) =>
              match (nextInBrackets rest).2 with
              | ⟨_, ']'⟩ :: rest => some ([item], rest)
              | ⟨_, ','⟩ :: rest =>
                  (flowItems? fuel least rest).map fun (items, after) => (item :: items, after)
              | _ => none

def flowEntries? : Nat → Nat → Source → Option (List (String × Node) × Source)
  | 0, _, _ => none
  | fuel + 1, least, source =>
      match (nextInBrackets source).2 with
      | ⟨_, '\x7d'⟩ :: rest => some ([], rest)
      | source =>
          match scalar? true least source with
          | none => none
          | some (_, key) =>
              match flowValue? fuel least (afterKey? true key) key.rest with
              | none => none
              | some (value, rest) =>
                  let entry := (String.ofList key.text, value)
                  match (nextInBrackets rest).2 with
                  | ⟨_, '\x7d'⟩ :: rest => some ([entry], rest)
                  | ⟨_, ','⟩ :: rest =>
                      (flowEntries? fuel least rest).map fun (entries, after) =>
                        (entry :: entries, after)
                  | _ => none

def flowValue? : Nat → Nat → Option Source → Source → Option (Node × Source)
  | 0, _, _, _ => none
  | _ + 1, _, none, rest => some (.nothing, rest)
  | fuel + 1, least, some source, _ =>
      match (nextInBrackets source).2 with
      | ⟨column, ','⟩ :: rest => some (.nothing, ⟨column, ','⟩ :: rest)
      | ⟨column, '\x7d'⟩ :: rest => some (.nothing, ⟨column, '\x7d'⟩ :: rest)
      | source => flowNode? fuel least source

end

def freshLine? (ended : Bool) (source : Source) : Option Source :=
  let (endedLater, rest) := gap false (!ended) false ended source
  if endedLater || rest.isEmpty then some rest else none

def inline? (least : Nat) (source : Source) : Option (Node × Source) :=
  match source with
  | ⟨_, '['⟩ :: _ =>
      (flowNode? (3 * source.length + 3) least source).bind fun (node, rest) =>
        (freshLine? false rest).map fun after => (node, after)
  | ⟨_, '\x7b'⟩ :: _ =>
      (flowNode? (3 * source.length + 3) least source).bind fun (node, rest) =>
        (freshLine? false rest).map fun after => (node, after)
  | _ =>
      (scalar? false least source).bind fun (node, found) =>
        (freshLine? found.ended found.rest).map fun after => (node, after)

def startsItem : Source → Bool
  | ⟨_, '-'⟩ :: rest => endsWord rest
  | _ => false

def atEnd (source : Source) : Bool := source.isEmpty || isDocumentMark source

def isAt (column : Nat) (source : Source) : Bool :=
  !atEnd source && source.head?.any fun next => next.column = column

def isFrom (least : Nat) (source : Source) : Bool :=
  !atEnd source && source.head?.any fun next => least ≤ next.column

mutual

def blockNode? : Nat → Nat → Source → Option (Node × Source)
  | 0, _, _ => none
  | fuel + 1, least, source =>
      match source with
      | [] => none
      | first :: _ =>
          if startsItem source then
            (blockItems? fuel first.column (first.column + 1) source).map fun (items, after) =>
              (.sequence items, after)
          else if ((scalar? false least source).bind fun (_, key) => afterKey? false key).isSome then
            (blockEntries? fuel first.column source).map fun (entries, after) =>
              (.mapping entries, after)
          else inline? least source

/-- The items that start in one column. What continues an item stands in the column `least` or right
of it. -/
def blockItems? : Nat → Nat → Nat → Source → Option (List Node × Source)
  | 0, _, _, _ => none
  | fuel + 1, column, least, source =>
      match source with
      | [] => some ([], [])
      | _ :: rest =>
          let (ended, next) := gap false false false false rest
          let found :=
            if !ended && !next.isEmpty then inline? least next
            else if isFrom least next then blockNode? fuel least next
            else some (.nothing, next)
          match found with
          | none => none
          | some (item, after) =>
              if isAt column after && startsItem after then
                (blockItems? fuel column least after).map fun (items, after) =>
                  (item :: items, after)
              else some ([item], after)

def blockEntries? : Nat → Nat → Source → Option (List (String × Node) × Source)
  | 0, _, _ => none
  | fuel + 1, column, source =>
      match scalar? false (column + 1) source with
      | none => none
      | some (_, key) =>
          match afterKey? false key with
          | none => none
          | some rest =>
              let (ended, next) := nextWord rest
              let found :=
                if !ended && !next.isEmpty then inline? (column + 1) next
                else if isFrom (column + 1) next then blockNode? fuel (column + 1) next
                else if isAt column next && startsItem next then
                  (blockItems? fuel column (column + 1) next).map fun (items, after) =>
                    (.sequence items, after)
                else some (.nothing, next)
              match found with
              | none => none
              | some (value, after) =>
                  let entry := (String.ofList key.text, value)
                  if isAt column after then
                    (blockEntries? fuel column after).map fun (entries, after) =>
                      (entry :: entries, after)
                  else if isFrom (column + 1) after then none
                  else some ([entry], after)

end

def firstNode? (source : Source) : Option (Node × Source) :=
  let fuel := 3 * source.length + 3
  let (_, next) := gap false false false true source
  if isMark '-' next then
    let (ended, next) := nextWord (next.drop 3)
    if atEnd next then some (.nothing, next)
    else if ended then blockNode? fuel 0 next
    else inline? 0 next
  else if atEnd next then some (.nothing, next)
  else blockNode? fuel 0 next

def isOver (source : Source) : Bool :=
  source.isEmpty || (isMark '.' source && (nextWord (source.drop 3)).2.isEmpty)

def parse? (text : String) : Option Node :=
  let chars := match text.toList with
    | '\ufeff' :: rest => rest
    | chars => chars
  if chars.all isAllowed then
    match firstNode? (place 0 chars) with
    | some (node, rest) => if isOver rest then some node else none
    | none => none
  else none

end Yaml

end CSharpLayout
