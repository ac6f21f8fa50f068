import CSharpLayout.Event.Basic
import CSharpLayout.Layout.Frame
import CSharpLayout.Node.Children
import CSharpLayout.Policy.Basic

/-! Pieces of a plan: what printing one node consists of, with its children left as pieces of their own.
Every list here is the plan of some part of a node. -/

namespace CSharpLayout

inductive Piece where
  /-- An event of this node itself. -/
  | event (event : Event)
  /-- A space, unless the output is at the start of a line. -/
  | gap
  /-- A line break, unless the output is at the start of a line. -/
  | freshLine
  /-- The next child, printed here. -/
  | child (node : Node)
  /-- The next child, which this node does not print. -/
  | hidden (node : Node)
  /-- The node cannot be printed any further. -/
  | problem (problem : Problem)

namespace Layout

def word (text : String) : List Piece := [.event (.keyword text)]

def symbol (role : TokenRole) (text : String) : List Piece := [.event (.token role text)]

def space : List Piece := [.event .space]

def spaceIf (wanted : Bool) : List Piece := if wanted then space else []

def newline : List Piece := [.event .newline]

def newlines (count : Nat) : List Piece := List.replicate count (.event .newline)

def indent : List Piece := [.event .indent]

def unindent : List Piece := [.event .unindent]

def fault (problem : Problem) : List Piece := [.problem problem]

def visit (node : Node) : List Piece := [.child node]

def visitAll (nodes : List Node) : List Piece := nodes.map .child

def hide (nodes : List Node) : List Piece := nodes.map .hidden

/-- A name, which must not be empty. The class of the name itself wins over the given one. -/
def identifier (frames : Frames) (name : Identifier) (tokenClass : TokenClass) : List Piece :=
  if name.name.isEmpty then fault .emptyName
  else [.event (.identifier (frames.escaped name) (name.tokenClass.getD tokenClass))]

def rawIdentifier (text : String) (tokenClass : TokenClass) : List Piece :=
  [.event (.identifier text tokenClass)]

def modifiers (listed : List Modifier) : List Piece :=
  listed.flatMap fun modifier => word modifier.keyword

def comma (policy : Policy) (tight : Bool) : List Piece :=
  spaceIf (policy.spacing .beforeComma) ++ symbol .comma "," ++
    spaceIf (!tight && policy.spacing .afterComma)

/-- Whether the current node stands in the header of its parent, where it has no semicolon: among the
initializers and iterators of a `for` statement, or as the declaration of a `using` statement. -/
def inHeader (frames : Frames) : Bool :=
  match frames.parent?, frames.slot? with
  | some (.statement (.forLoop initializers condition iterators _)), some slot =>
      let afterCondition := initializers.length + condition.toList.length
      slot < initializers.length ||
        (afterCondition ≤ slot && slot < afterCondition + iterators.length)
  | some (.statement (.usingResource (.declaration _) _)), some slot => slot = 0
  | _, _ => false

def semicolon (frames : Frames) : List Piece :=
  if inHeader frames then [] else symbol .semicolon ";" ++ newline

def commaSeparated (policy : Policy) : List Node → List Piece
  | [] => []
  | [node] => visit node
  | node :: rest => visit node ++ comma policy false ++ commaSeparated policy rest

def enclosed (opening closing : List Piece) (within : Bool) (body : List Piece) : List Piece :=
  opening ++ spaceIf within ++ body ++ spaceIf within ++ closing

def inParentheses (within : Bool) (body : List Piece) : List Piece :=
  enclosed (symbol .openParen "(") (symbol .closeParen ")") within body

def inBrackets (within : Bool) (body : List Piece) : List Piece :=
  enclosed (symbol .openBracket "[") (symbol .closeBracket "]") within body

def parenthesizedList (policy : Policy) (within : Bool) (nodes : List Node) : List Piece :=
  inParentheses (within && !nodes.isEmpty) (commaSeparated policy nodes)

def bracketedList (policy : Policy) (within : Bool) (nodes : List Node) : List Piece :=
  inBrackets (within && !nodes.isEmpty) (commaSeparated policy nodes)

def chevronList (policy : Policy) (nodes : List Node) : List Piece :=
  if nodes.isEmpty then []
  else symbol .openChevron "<" ++ commaSeparated policy nodes ++ symbol .closeChevron ">"

def openBrace : BraceStyle → List Piece
  | .doNotChange => .gap :: (symbol .openBrace "\x7b" ++ indent ++ newline)
  | .sameLine => .gap :: (symbol .openBrace "\x7b" ++ indent ++ newline)
  | .banner => .gap :: (symbol .openBrace "\x7b" ++ indent ++ newline)
  | .sameLineNoSpace => symbol .openBrace "\x7b" ++ indent ++ newline
  | .nextLine => .freshLine :: (symbol .openBrace "\x7b" ++ indent ++ newline)
  | .nextLineIndented => .freshLine :: (indent ++ symbol .openBrace "\x7b" ++ newline)
  | .nextLineIndentedTwice =>
      .freshLine :: (indent ++ symbol .openBrace "\x7b" ++ indent ++ newline)

def closeBrace : BraceStyle → List Piece
  | .doNotChange => unindent ++ symbol .closeBrace "\x7d"
  | .sameLine => unindent ++ symbol .closeBrace "\x7d"
  | .sameLineNoSpace => unindent ++ symbol .closeBrace "\x7d"
  | .nextLine => unindent ++ symbol .closeBrace "\x7d"
  | .banner => symbol .closeBrace "\x7d" ++ unindent
  | .nextLineIndented => symbol .closeBrace "\x7d" ++ unindent
  | .nextLineIndentedTwice => unindent ++ symbol .closeBrace "\x7d" ++ unindent

def braced (style : BraceStyle) (body : List Piece) : List Piece :=
  openBrace style ++ body ++ closeBrace style

end Layout

end CSharpLayout
