/-! What a command shows: text, with the time it took left open, and the summary of a run over files. -/

namespace CSharpLayout

namespace Command

inductive Chunk where
  | text (text : String)
  | elapsed
  deriving DecidableEq, Repr

def Chunk.render (elapsed : String) (chunks : List Chunk) : String :=
  String.join (chunks.map fun
    | .text found => found
    | .elapsed => elapsed)

def tenths (numerator denominator : Nat) : String :=
  let twice := 2 * (10 * numerator % denominator)
  let floor := 10 * numerator / denominator
  let rounded :=
    if twice < denominator || (twice = denominator && floor % 2 = 0) then floor else floor + 1
  toString (rounded / 10) ++ "." ++ toString (rounded % 10)

def durationText (milliseconds : Nat) : String :=
  if milliseconds < 1000 then toString milliseconds ++ "ms"
  else if milliseconds < 60000 then tenths milliseconds 1000 ++ "s"
  else
    toString (milliseconds / 60000) ++ "m " ++ tenths (milliseconds % 60000) 1000 ++ "s"

inductive Emphasis where
  | bold
  | red
  | green
  | yellow
  deriving DecidableEq, Repr

def Emphasis.code : Emphasis → String
  | .bold => "1"
  | .red => "31"
  | .green => "32"
  | .yellow => "33"

def Emphasis.apply (colored : Bool) (emphasis : Emphasis) (text : String) : String :=
  if colored then "\x1b[" ++ emphasis.code ++ "m" ++ text ++ "\x1b[0m" else text

structure Summary where
  checked : Nat
  written : Nat := 0
  unchanged : Nat := 0
  mismatched : Nat := 0
  failed : Nat := 0
  deriving DecidableEq, Repr

namespace Summary

def checkLines (summary : Summary) (colored : Bool) : String :=
  if 0 < summary.mismatched then
    "  Would reformat: " ++ Emphasis.yellow.apply colored (toString summary.mismatched) ++ "\n"
  else if summary.failed = 0 then
    "  " ++ Emphasis.green.apply colored "✓" ++ " All files match\n"
  else ""

def writeLines (summary : Summary) (colored : Bool) : String :=
  if 0 < summary.written then
    "  Written: " ++ Emphasis.green.apply colored (toString summary.written) ++ " file" ++
      (if summary.written = 1 then "" else "s") ++ "\n"
  else ""

def failureLines (summary : Summary) (colored : Bool) : String :=
  if 0 < summary.failed then
    "  Failed: " ++ Emphasis.red.apply colored (toString summary.failed) ++ "\n"
  else ""

def text (summary : Summary) (colored comparing : Bool) : String :=
  "\n" ++ Emphasis.bold.apply colored "Summary:" ++ "\n" ++
    "  Files checked: " ++ toString summary.checked ++ "\n" ++
    (if comparing then summary.checkLines colored else summary.writeLines colored) ++
    summary.failureLines colored

end Summary

end Command

end CSharpLayout
